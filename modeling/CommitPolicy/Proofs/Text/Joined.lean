import CommitPolicy.Proofs.Text.Line
import Mathlib.Data.List.Basic

namespace CommitPolicy.Text

theorem trim_append_of_blank {ys : List Char} (h : ∀ c ∈ ys, isBlank c) (xs : List Char) :
    trim (xs ++ ys) = trim xs := by
  by_cases hx : trimLeft xs = []
  · have hxs := trimLeft_eq_nil_iff.1 hx
    rw [trim_eq_nil_iff.2 (List.forall_mem_append.2 ⟨hxs, h⟩), trim_eq_nil_iff.2 hxs]
  · rw [trim, trimLeft_append hx, trimRight_append_of_blank h, trim]

theorem trim_blank_append {xs : List Char} (h : ∀ c ∈ xs, isBlank c) (ys : List Char) :
    trim (xs ++ ys) = trim ys := by
  rw [trim, trimLeft_append_of_blank h, trim]

variable {sep : Char} {ps qs : List (List Char)}

theorem join_append (hp : ps ≠ []) (hq : qs ≠ []) :
    join sep (ps ++ qs) = join sep ps ++ sep :: join sep qs := by
  induction ps with
  | nil => exact absurd rfl hp
  | cons p ps ih =>
    cases ps with
    | nil => exact join_cons p hq
    | cons r ps =>
      rw [List.cons_append, join_cons p (by simp), ih (List.cons_ne_nil r ps),
        join_cons p (List.cons_ne_nil r ps), List.append_assoc, List.cons_append]

theorem join_concat_append (sep : Char) (ps : List (List Char)) (p tail : List Char) :
    join sep (ps ++ [p ++ tail]) = join sep (ps ++ [p]) ++ tail := by
  by_cases hp : ps = []
  · subst hp
    rfl
  · rw [join_append hp (List.cons_ne_nil _ []), join_append hp (List.cons_ne_nil _ []), join, join,
      List.append_assoc, List.cons_append]

theorem trim_join_append_of_blank (ps : List (List Char)) (h : ∀ q ∈ qs, ∀ c ∈ q, isBlank c) :
    trim (join '\n' (ps ++ qs)) = trim (join '\n' ps) := by
  have hblank := forall_mem_join_isBlank_iff.2 h
  by_cases hp : ps = []
  · rw [hp, List.nil_append, trim_eq_nil_iff.2 hblank]
    rfl
  by_cases hq : qs = []
  · rw [hq, List.append_nil]
  rw [join_append hp hq]
  exact trim_append_of_blank (List.forall_mem_cons.2 ⟨by decide, hblank⟩) _

theorem trim_join_blank_append (h : ∀ p ∈ ps, ∀ c ∈ p, isBlank c) (qs : List (List Char)) :
    trim (join '\n' (ps ++ qs)) = trim (join '\n' qs) := by
  have hblank := forall_mem_join_isBlank_iff.2 h
  by_cases hq : qs = []
  · rw [hq, List.append_nil, trim_eq_nil_iff.2 hblank]
    rfl
  by_cases hp : ps = []
  · rw [hp, List.nil_append]
  rw [join_append hp hq, List.append_cons]
  exact trim_blank_append
    (List.forall_mem_append.2 ⟨hblank, List.forall_mem_singleton.2 (by decide)⟩) _

theorem join_eq_intercalate (sep : Char) (ps : List (List Char)) :
    join sep ps = [sep].intercalate ps := by
  induction ps with
  | nil => rfl
  | cons p ps ih =>
    cases ps with
    | nil => simp [join]
    | cons q ps => rw [join_cons p (List.cons_ne_nil q ps), ih, List.intercalate_cons_cons]; simp

theorem toList_intercalate (sep : Char) {s : String} (h : s.toList = [sep]) (ss : List String) :
    (s.intercalate ss).toList = join sep (ss.map String.toList) := by
  rw [String.toList_intercalate, h, join_eq_intercalate]

theorem linesOfPieces_concat (ps : List (List Char)) (last : List Char) :
    linesOfPieces (ps ++ [last]) = ps.map dropReturn ++ if last.isEmpty then [] else [last] := by
  induction ps with
  | nil => rfl
  | cons p ps ih =>
    obtain ⟨q, qs, hq⟩ := List.exists_cons_of_ne_nil (List.concat_ne_nil last ps)
    rw [List.cons_append, hq, linesOfPieces_cons_cons, ← hq, ih, List.map_cons, List.cons_append]

@[simp] theorem unlines_nil : unlines [] = "" := rfl

theorem unlines_cons (line : String) (ls : List String) :
    unlines (line :: ls) = line ++ "\n" ++ unlines ls := by
  rw [← String.toList_inj]
  simp [unlines]

theorem unlines_append (ls ls' : List String) : unlines (ls ++ ls') = unlines ls ++ unlines ls' := by
  rw [unlines, List.flatMap_append, String.ofList_append]
  rfl

/-- An empty line between any two lists of lines is a line feed between any two of their texts. -/
theorem unlines_intercalate (parts : List (List String)) :
    unlines ([""].intercalate parts) = "\n".intercalate (parts.map unlines) := by
  induction parts with
  | nil => rfl
  | cons part parts ih =>
    cases parts with
    | nil => simp
    | cons next parts =>
      rw [List.intercalate_cons_cons, unlines_append, unlines_append, ih, List.map_cons,
        List.map_cons, List.map_cons, String.intercalate_cons_cons]
      rfl

end CommitPolicy.Text
