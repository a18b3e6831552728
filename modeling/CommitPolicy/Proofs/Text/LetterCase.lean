import CommitPolicy.Text.Letter
import Mathlib

namespace CommitPolicy.Text

theorem image_ne_nil_of_ofItem? {item : List Char} {r : CodePointRun}
    (h : CodePointRun.ofItem? item = some r) : r.image ≠ [] := by
  rw [CodePointRun.ofItem?] at h
  split at h
  · rename_i source target _
    obtain ⟨image, himage, h⟩ := Option.bind_eq_some_iff.1 h
    have hr : r.image = image := by
      split at h <;>
        simp only [Option.bind_eq_bind, Option.bind_eq_some_iff, Option.some.injEq] at h
      · obtain ⟨_, -, _, -, rfl⟩ := h
        rfl
      · obtain ⟨_, -, _, -, rfl⟩ := h
        rfl
      · obtain ⟨_, -, rfl⟩ := h
        rfl
    rw [hr]
    rintro rfl
    cases hp : pieces ',' target with
    | nil => exact pieces_ne_nil _ _ hp
    | cons p ps => simp [hp, List.mapM_cons, Option.bind_eq_some_iff] at himage
  · cases h

theorem apply_ofText_ne_nil (s : String) (c : Char) : (CodePointMap.ofText s).apply c ≠ [] := by
  rw [CodePointMap.apply]
  split
  · rename_i r hr
    have hm : r ∈ (CodePointMap.ofText s).runs := List.mem_of_find?_eq_some hr
    obtain ⟨item, -, hitem⟩ := List.mem_filterMap.1 hm
    simpa [CodePointRun.apply] using image_ne_nil_of_ofItem? hitem
  · simp

theorem upper_ne_nil (c : Char) : upper c ≠ [] := by
  rw [upper]
  split
  · simp
  · exact apply_ofText_ne_nil _ c

theorem length_le_flatMap {f : Char → List Char} (hf : ∀ c, f c ≠ []) (cs : List Char) :
    cs.length ≤ (cs.flatMap f).length := by
  induction cs with
  | nil => simp
  | cons c cs ih =>
    have hc := List.length_pos_iff.2 (hf c)
    simp only [List.flatMap_cons, List.length_append, List.length_cons]
    omega

theorem flatMap_eq_self_iff {f : Char → List Char} (hf : ∀ c, f c ≠ []) {cs : List Char} :
    cs.flatMap f = cs ↔ ∀ c ∈ cs, f c = [c] := by
  induction cs with
  | nil => simp
  | cons c cs ih =>
    rw [List.flatMap_cons, List.forall_mem_cons, ← ih]
    constructor
    · intro h
      have hlen := congrArg List.length h
      have hpos := List.length_pos_iff.2 (hf c)
      have hle := length_le_flatMap hf cs
      rw [List.length_append, List.length_cons] at hlen
      have hone : (f c).length = [c].length := by rw [List.length_singleton]; omega
      exact List.append_inj h hone
    · rintro ⟨hc, hcs⟩
      rw [hc, hcs, List.singleton_append]

theorem upperCase_eq_self_iff {cs : List Char} :
    upperCase cs = cs ↔ ∀ c ∈ cs, upper c = [c] := flatMap_eq_self_iff upper_ne_nil

theorem upperCase_append_eq_self_iff {xs ys : List Char} :
    upperCase (xs ++ ys) = xs ++ ys ↔ upperCase xs = xs ∧ upperCase ys = ys := by
  simp only [upperCase_eq_self_iff, List.forall_mem_append]

theorem upperCase_cons_eq_self_iff {c : Char} {cs : List Char} :
    upperCase (c :: cs) = c :: cs ↔ upper c = [c] ∧ upperCase cs = cs := by
  simp only [upperCase_eq_self_iff, List.forall_mem_cons]

theorem upperCase_eq_self_of_prefix {xs ys : List Char} (h : xs <+: ys)
    (hys : upperCase ys = ys) : upperCase xs = xs := by
  obtain ⟨tail, rfl⟩ := h
  exact (upperCase_append_eq_self_iff.1 hys).1

theorem isAlpha_iff {c : Char} : c.isAlpha ↔ c.isUpper ∨ c.isLower := by
  rw [Char.isAlpha, Bool.or_eq_true]

theorem isUpper_iff {c : Char} : c.isUpper ↔ 65 ≤ c.toNat ∧ c.toNat ≤ 90 := by
  simp only [Char.isUpper, decide_eq_true_eq, UInt32.le_iff_toNat_le, ge_iff_le]
  exact Iff.rfl

theorem isLower_iff {c : Char} : c.isLower ↔ 97 ≤ c.toNat ∧ c.toNat ≤ 122 := by
  simp only [Char.isLower, Bool.and_eq_true, decide_eq_true_eq, UInt32.le_iff_toNat_le, ge_iff_le]
  exact Iff.rfl

theorem isDigit_iff {c : Char} : c.isDigit ↔ 48 ≤ c.toNat ∧ c.toNat ≤ 57 :=
  Char.isDigit_iff_toNat

theorem isAscii_of_isLower {c : Char} (h : c.isLower) : isAscii c := by
  rw [isLower_iff] at h
  rw [isAscii, decide_eq_true_eq]
  omega

theorem isAscii_of_isUpper {c : Char} (h : c.isUpper) : isAscii c := by
  rw [isUpper_iff] at h
  rw [isAscii, decide_eq_true_eq]
  omega

theorem toUpper_ne_self {c : Char} (h : c.isLower) : c.toUpper ≠ c := by
  intro he
  have hfalse := Char.isLower_toUpper_eq_false c
  rw [he, h] at hfalse
  cases hfalse

theorem upper_eq_singleton {c : Char} (ha : isAscii c) (hc : ¬ c.isLower) : upper c = [c] := by
  rw [upper, if_pos ha, Char.toUpper_eq_of_not_isLower hc]

theorem upper_ne_singleton {c : Char} (hc : c.isLower) : upper c ≠ [c] := by
  rw [upper, if_pos (isAscii_of_isLower hc)]
  intro h
  exact toUpper_ne_self hc (List.singleton_inj.1 h)

theorem upperCase_ne_self {cs : List Char} {c : Char} (hm : c ∈ cs) (hc : c.isLower) :
    upperCase cs ≠ cs := fun h => upper_ne_singleton hc (upperCase_eq_self_iff.1 h c hm)

theorem lower_eq_singleton {c : Char} (ha : isAscii c) (hc : ¬ c.isUpper) : lower c = [c] := by
  rw [lower, if_pos ha, Char.toLower_eq_of_not_isUpper hc]

theorem lowerCaseAfter_cons {c : Char} (ha : isAscii c) (hc : ¬ c.isUpper)
    (before cs : List Char) :
    lowerCaseAfter before (c :: cs) = c :: lowerCaseAfter (c :: before) cs := by
  have hsigma : c ≠ 'Σ' := by
    rintro rfl
    exact absurd ha (by decide)
  rw [lowerCaseAfter, if_neg hsigma, lower_eq_singleton ha hc, List.singleton_append]

theorem lowerCase_eq_self {cs : List Char} (h : ∀ c ∈ cs, isAscii c ∧ ¬ c.isUpper) :
    lowerCase cs = cs := by
  have hafter : ∀ before, lowerCaseAfter before cs = cs := by
    induction cs with
    | nil => exact fun _ => rfl
    | cons c cs ih =>
      obtain ⟨hc, hcs⟩ := List.forall_mem_cons.1 h
      intro before
      rw [lowerCaseAfter_cons hc.1 hc.2, ih hcs]
  exact hafter []

end CommitPolicy.Text
