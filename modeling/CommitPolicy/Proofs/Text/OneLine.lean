import CommitPolicy.Text.Line
import Mathlib.Data.List.Basic

namespace CommitPolicy.Text

def Lacks (c : Char) (s : String) : Prop := c ∉ s.toList

instance (c : Char) (s : String) : Decidable (Lacks c s) :=
  inferInstanceAs (Decidable (c ∉ s.toList))

def lineFeeds (s : String) : Nat := s.toList.count '\n'

variable {c : Char}

@[simp] theorem lacks_append {s t : String} : Lacks c (s ++ t) ↔ Lacks c s ∧ Lacks c t := by
  simp [Lacks]

theorem lacks_ofList {cs : List Char} : Lacks c (String.ofList cs) ↔ c ∉ cs := by
  simp [Lacks]

theorem lacks_repr (hc : ¬ c.isDigit) (n : Nat) : Lacks c n.repr := by
  rw [Nat.repr_eq_ofList_toDigits, lacks_ofList]
  exact fun h => hc (Nat.isDigit_of_mem_toDigits (by decide) (by decide) h)

theorem lacks_intercalate {sep : String} (hsep : Lacks c sep) {ss : List String}
    (h : ∀ s ∈ ss, Lacks c s) : Lacks c (sep.intercalate ss) := by
  induction ss with
  | nil => exact List.not_mem_nil
  | cons s ss ih =>
    obtain ⟨hs, hss⟩ := List.forall_mem_cons.1 h
    cases ss with
    | nil => simpa using hs
    | cons t ss =>
      rw [String.intercalate_cons_cons, lacks_append, lacks_append]
      exact ⟨⟨hs, hsep⟩, ih hss⟩

theorem lineFeeds_unlines {lines : List String} (h : ∀ line ∈ lines, Lacks '\n' line) :
    lineFeeds (unlines lines) = lines.length := by
  rw [lineFeeds, unlines, String.toList_ofList]
  induction lines with
  | nil => rfl
  | cons line lines ih =>
    obtain ⟨hline, hlines⟩ := List.forall_mem_cons.1 h
    rw [List.flatMap_cons, List.count_append, ih hlines, List.count_append,
      List.count_eq_zero_of_not_mem hline, List.length_cons, Nat.add_comm]
    rfl

end CommitPolicy.Text
