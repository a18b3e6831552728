import CommitPolicy.Issue
import Mathlib.Data.List.TakeWhile

namespace CommitPolicy

theorem Text.takeWhile_append {p : Char → Bool} {xs ys : List Char} (hxs : ∀ x ∈ xs, p x)
    (hys : ∀ y ∈ ys.head?, ¬ p y) : (xs ++ ys).takeWhile p = xs := by
  rw [List.takeWhile_append_of_pos hxs]
  cases ys with
  | nil => simp
  | cons y ys => rw [List.takeWhile_cons_of_neg (hys y rfl), List.append_nil]

theorem Text.dropWhile_append {p : Char → Bool} {xs ys : List Char} (hxs : ∀ x ∈ xs, p x)
    (hys : ∀ y ∈ ys.head?, ¬ p y) : (xs ++ ys).dropWhile p = ys := by
  rw [List.dropWhile_append_of_pos hxs]
  cases ys with
  | nil => simp
  | cons y ys => rw [List.dropWhile_cons_of_neg (hys y rfl)]

theorem Text.append_inj_span {p : Char → Bool} {xs xs' ys ys' : List Char} (hxs : ∀ x ∈ xs, p x)
    (hxs' : ∀ x ∈ xs', p x) (hys : ∀ y ∈ ys.head?, ¬ p y) (hys' : ∀ y ∈ ys'.head?, ¬ p y)
    (h : xs ++ ys = xs' ++ ys') : xs = xs' ∧ ys = ys' := by
  have ht := congrArg (List.takeWhile p) h
  have hd := congrArg (List.dropWhile p) h
  rw [Text.takeWhile_append hxs hys, Text.takeWhile_append hxs' hys'] at ht
  rw [Text.dropWhile_append hxs hys, Text.dropWhile_append hxs' hys'] at hd
  exact ⟨ht, hd⟩

theorem Text.bne_of_not_mem {c : Char} {cs : List Char} (h : c ∉ cs) : ∀ d ∈ cs, d != c := by
  intro d hd
  exact bne_iff_ne.2 (ne_of_mem_of_not_mem hd h)

theorem Text.eq_nil_of_prefix_cons {c : Char} {xs ys : List Char} (hc : c ∉ xs)
    (h : xs <+: c :: ys) : xs = [] := by
  rcases List.prefix_cons_iff.1 h with rfl | ⟨t, rfl, -⟩
  · rfl
  · exact absurd List.mem_cons_self hc

namespace Issue

/-- One or more capital letters, a hyphen and one or more digits. -/
def IsIdentifier (cs : List Char) : Prop :=
  ∃ key number, key ≠ [] ∧ number ≠ [] ∧ (∀ c ∈ key, c.isUpper) ∧ (∀ c ∈ number, c.isDigit) ∧
    cs = key ++ '-' :: number

def Occurs (cs : List Char) : Prop := ∃ id, IsIdentifier id ∧ id <:+: cs

theorem IsIdentifier.mem {id : List Char} (h : IsIdentifier id) {c : Char} (hc : c ∈ id) :
    c.isUpper ∨ c = '-' ∨ c.isDigit := by
  obtain ⟨key, number, -, -, hkey, hnumber, rfl⟩ := h
  rcases List.mem_append.1 hc with hc | hc
  · exact .inl (hkey c hc)
  · rcases List.mem_cons.1 hc with hc | hc
    · exact .inr (.inl hc)
    · exact .inr (.inr (hnumber c hc))

theorem IsIdentifier.not_mem {id : List Char} (h : IsIdentifier id) {c : Char}
    (hc : ¬ (c.isUpper ∨ c = '-' ∨ c.isDigit)) : c ∉ id := fun hm => hc (h.mem hm)

theorem IsIdentifier.ne_nil {id : List Char} (h : IsIdentifier id) : id ≠ [] := by
  obtain ⟨key, number, -, -, -, -, rfl⟩ := h
  simp

theorem leading?_key {key rest : List Char} (hkey : key ≠ []) (hupper : ∀ c ∈ key, c.isUpper) :
    leading? (key ++ '-' :: rest) =
      if rest.takeWhile Char.isDigit = [] then none
      else some (key ++ '-' :: rest.takeWhile Char.isDigit, rest.dropWhile Char.isDigit) := by
  have hhead : ∀ c ∈ ('-' :: rest).head?, ¬ c.isUpper := by simp +decide
  have ht := Text.takeWhile_append hupper hhead
  have hd := Text.dropWhile_append hupper hhead
  simp only [leading?, ht, hd, List.isEmpty_iff, Bool.or_eq_true, hkey, false_or]

theorem leading?_append {id rest : List Char} (h : IsIdentifier id)
    (hrest : ∀ c ∈ rest.head?, ¬ c.isDigit) : leading? (id ++ rest) = some (id, rest) := by
  obtain ⟨key, number, hkey, hnumber, hupper, hdigit, rfl⟩ := h
  rw [List.append_assoc, List.cons_append, leading?_key hkey hupper,
    Text.takeWhile_append hdigit hrest, Text.dropWhile_append hdigit hrest, if_neg hnumber]

/-- Whatever follows an identifier, the reader finds one: it may only find a longer number. -/
theorem isSome_leading?_append {id : List Char} (h : IsIdentifier id) (rest : List Char) :
    (leading? (id ++ rest)).isSome := by
  obtain ⟨key, number, hkey, hnumber, hupper, hdigit, rfl⟩ := h
  have ht : (number ++ rest).takeWhile Char.isDigit ≠ [] := by
    rw [List.takeWhile_append_of_pos hdigit]
    exact List.append_ne_nil_of_left_ne_nil hnumber _
  rw [List.append_assoc, List.cons_append, leading?_key hkey hupper, if_neg ht]
  rfl

theorem isIdentifier_of_leading? {cs id rest : List Char} (h : leading? cs = some (id, rest)) :
    IsIdentifier id := by
  rw [leading?] at h
  split at h
  · rename_i tail heq
    dsimp only at h
    split at h
    · simp at h
    · rename_i hne
      simp only [Option.some.injEq, Prod.mk.injEq] at h
      obtain ⟨rfl, -⟩ := h
      simp only [Bool.or_eq_true, List.isEmpty_iff, not_or] at hne
      exact ⟨_, _, hne.1, hne.2, fun c hc => List.mem_takeWhile_imp hc,
        fun c hc => List.mem_takeWhile_imp hc, rfl⟩
  · simp at h

theorem isId_iff {cs : List Char} : isId cs ↔ IsIdentifier cs := by
  constructor
  · intro h
    rw [isId] at h
    split at h
    · rename_i id rest hid
      obtain rfl : rest = [] := List.isEmpty_iff.1 h
      have hcs := append_of_leading? hid
      rw [List.append_nil] at hcs
      exact hcs ▸ isIdentifier_of_leading? hid
    · simp at h
  · intro h
    have hl : leading? (cs ++ []) = some (cs, []) := leading?_append h (by simp)
    rw [List.append_nil] at hl
    rw [isId, hl]
    rfl

theorem occursIn_iff {cs : List Char} : occursIn cs ↔ Occurs cs := by
  constructor
  · intro h
    induction cs with
    | nil => simp [occursIn] at h
    | cons c cs ih =>
      rw [occursIn, Bool.or_eq_true] at h
      rcases h with h | h
      · obtain ⟨⟨id, rest⟩, hid⟩ := Option.isSome_iff_exists.1 h
        exact ⟨id, isIdentifier_of_leading? hid, [], rest, append_of_leading? hid⟩
      · obtain ⟨id, hid, hin⟩ := ih h
        exact ⟨id, hid, hin.trans (List.suffix_cons c cs).isInfix⟩
  · rintro ⟨id, hid, before, after, rfl⟩
    induction before with
    | nil =>
      have hs := isSome_leading?_append hid after
      rw [List.nil_append]
      cases hc : id ++ after with
      | nil => exact absurd (List.append_eq_nil_iff.1 hc).1 hid.ne_nil
      | cons c cs => rw [occursIn, ← hc, hs, Bool.true_or]
    | cons c before ih => simp only [List.cons_append, occursIn, ih, Bool.or_true]

theorem IsIdentifier.occurs {id : List Char} (h : IsIdentifier id) : Occurs id :=
  ⟨id, h, List.infix_rfl⟩

theorem occurs_append_cons_iff {c : Char} {xs ys : List Char}
    (hc : ¬ (c.isUpper ∨ c = '-' ∨ c.isDigit)) :
    Occurs (xs ++ c :: ys) ↔ Occurs xs ∨ Occurs ys := by
  constructor
  · rintro ⟨id, hid, hin⟩
    have hmem : c ∉ id := hid.not_mem hc
    rcases List.infix_append_iff.1 hin with hx | hy | ⟨start, rest, rfl, hstart, hrest⟩
    · exact .inl ⟨id, hid, hx⟩
    · rcases List.infix_cons_iff.1 hy with hp | hy
      · exact absurd (Text.eq_nil_of_prefix_cons hmem hp) hid.ne_nil
      · exact .inr ⟨id, hid, hy⟩
    · rw [List.mem_append, not_or] at hmem
      obtain rfl := Text.eq_nil_of_prefix_cons hmem.2 hrest
      rw [List.append_nil] at hid
      exact .inl ⟨start, hid, hstart.isInfix⟩
  · rintro (⟨id, hid, hin⟩ | ⟨id, hid, hin⟩)
    · exact ⟨id, hid, hin.trans (List.prefix_append xs _).isInfix⟩
    · exact ⟨id, hid, hin.trans ((List.suffix_cons c ys).trans (List.suffix_append xs _)).isInfix⟩

theorem occurs_cons_iff {c : Char} {cs : List Char} (hc : ¬ (c.isUpper ∨ c = '-' ∨ c.isDigit)) :
    Occurs (c :: cs) ↔ Occurs cs := by
  have hnil : ¬ Occurs [] := mt occursIn_iff.2 Bool.false_ne_true
  rw [← List.nil_append (c :: cs), occurs_append_cons_iff hc, or_iff_right hnil]

instance (cs : List Char) : Decidable (IsIdentifier cs) := decidable_of_iff _ isId_iff

instance (cs : List Char) : Decidable (Occurs cs) := decidable_of_iff _ occursIn_iff

end Issue

end CommitPolicy
