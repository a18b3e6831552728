import CommitPolicy.Severity
import Mathlib

namespace CommitPolicy

namespace Verdict

theorem rank_injective : Function.Injective rank := by
  intro v w
  cases v <;> cases w <;> simp [rank]

instance : LinearOrder Verdict where
  le_refl v := Nat.le_refl v.rank
  le_trans _ _ _ := Nat.le_trans
  le_antisymm _ _ h h' := rank_injective (Nat.le_antisymm h h')
  le_total v w := Nat.le_total v.rank w.rank
  toDecidableLE := inferInstance

instance : OrderBot Verdict where
  bot := .skip
  bot_le v := Nat.zero_le v.rank

theorem le_skip_iff {v : Verdict} : v ≤ .skip ↔ v = .skip := le_bot_iff

theorem le_fail (v : Verdict) : v ≤ .fail := by cases v <;> decide

theorem exitCode_eq_two_iff {v : Verdict} : v.exitCode = 2 ↔ v = .fail := by cases v <;> decide

def worst (verdicts : List Verdict) : Verdict := verdicts.foldr max .skip

section Worst

variable {verdicts : List Verdict} {v : Verdict}

theorem worst_le_iff : worst verdicts ≤ v ↔ ∀ w ∈ verdicts, w ≤ v := by
  induction verdicts with
  | nil => exact iff_of_true bot_le (by simp)
  | cons w verdicts ih =>
    rw [List.forall_mem_cons, ← ih]
    exact max_le_iff

theorem le_worst (h : v ∈ verdicts) : v ≤ worst verdicts := worst_le_iff.1 le_rfl v h

theorem worst_mem (h : worst verdicts ≠ .skip) : worst verdicts ∈ verdicts := by
  induction verdicts with
  | nil => exact absurd rfl h
  | cons w verdicts ih =>
    have hcons : worst (w :: verdicts) = max w (worst verdicts) := rfl
    rw [hcons] at h ⊢
    rcases max_choice w (worst verdicts) with hmax | hmax
    · rw [hmax]
      exact List.mem_cons_self
    · rw [hmax] at h ⊢
      exact List.mem_cons_of_mem w (ih h)

theorem worst_eq_skip_iff : worst verdicts = .skip ↔ ∀ w ∈ verdicts, w = .skip := by
  simp only [← le_skip_iff, worst_le_iff]

theorem worst_eq_fail_iff : worst verdicts = .fail ↔ .fail ∈ verdicts := by
  constructor
  · intro h
    rw [← h]
    exact worst_mem (by rw [h]; decide)
  · exact fun h => le_antisymm (le_fail _) (le_worst h)

theorem worst_singleton : worst [v] = v := max_eq_left bot_le

theorem worst_append (verdicts verdicts' : List Verdict) :
    worst (verdicts ++ verdicts') = max (worst verdicts) (worst verdicts') := by
  apply eq_of_forall_ge_iff
  intro v
  simp only [max_le_iff, worst_le_iff, List.forall_mem_append]

theorem worst_perm {verdicts' : List Verdict} (h : verdicts.Perm verdicts') :
    worst verdicts = worst verdicts' := by
  apply eq_of_forall_ge_iff
  intro v
  simp only [worst_le_iff, h.mem_iff]

end Worst

section OfSeverities

variable {failOn : FailOn} {severities : List Severity}

theorem ofSeverities_of_error_mem (h : .error ∈ severities) :
    ofSeverities failOn severities = .fail := if_pos h

theorem ofSeverities_of_warning_mem (herror : .error ∉ severities) (h : .warning ∈ severities) :
    ofSeverities failOn severities = ofSeverities failOn [.warning] := by
  rw [ofSeverities.eq_def, if_neg herror, if_pos h]
  rfl

theorem ofSeverities_of_not_mem (herror : .error ∉ severities) (hwarning : .warning ∉ severities) :
    ofSeverities failOn severities = .pass := by
  rw [ofSeverities.eq_def, if_neg herror, if_neg hwarning]

theorem pass_le_ofSeverities : .pass ≤ ofSeverities failOn severities := by
  rw [ofSeverities.eq_def]
  split
  · decide
  · split
    · cases failOn <;> decide
    · decide

/-- The verdict on severities is the least upper bound of the verdicts on each. -/
theorem ofSeverities_le_iff {v : Verdict} : ofSeverities failOn severities ≤ v ↔
    .pass ≤ v ∧ ∀ x ∈ severities, ofSeverities failOn [x] ≤ v := by
  by_cases herror : .error ∈ severities
  · rw [ofSeverities_of_error_mem herror]
    constructor
    · intro h
      exact ⟨le_trans (by decide) h, fun x _ => le_trans (le_fail _) h⟩
    · exact fun h => h.2 .error herror
  · by_cases hwarning : .warning ∈ severities
    · rw [ofSeverities_of_warning_mem herror hwarning]
      constructor
      · intro h
        refine ⟨le_trans pass_le_ofSeverities h, fun x hx => ?_⟩
        cases x with
        | info => exact le_trans pass_le_ofSeverities h
        | warning => exact h
        | error => exact absurd hx herror
      · exact fun h => h.2 .warning hwarning
    · rw [ofSeverities_of_not_mem herror hwarning]
      refine ⟨fun h => ⟨h, fun x hx => ?_⟩, And.left⟩
      cases x with
      | info => exact h
      | warning => exact absurd hx hwarning
      | error => exact absurd hx herror

theorem ofSeverities_singleton_mono {failOn failOn' : FailOn} {x y : Severity}
    (hfail : failOn = .warning → failOn' = .warning) (h : x ≤ y) :
    ofSeverities failOn [x] ≤ ofSeverities failOn' [y] := by
  revert hfail h
  cases failOn <;> cases failOn' <;> cases x <;> cases y <;> decide

/-- Severities that are matched by others, at a threshold that is no higher, get no worse a
verdict. -/
theorem ofSeverities_mono {failOn failOn' : FailOn} {xs ys : List Severity}
    (hfail : failOn = .warning → failOn' = .warning) (h : ∀ x ∈ xs, ∃ y ∈ ys, x ≤ y) :
    ofSeverities failOn xs ≤ ofSeverities failOn' ys := by
  rw [ofSeverities_le_iff]
  refine ⟨pass_le_ofSeverities, fun x hx => ?_⟩
  obtain ⟨y, hy, hxy⟩ := h x hx
  calc ofSeverities failOn [x]
      ≤ ofSeverities failOn' [y] := ofSeverities_singleton_mono hfail hxy
    _ ≤ ofSeverities failOn' ys := (ofSeverities_le_iff.1 le_rfl).2 y hy

end OfSeverities

end Verdict

theorem Severity.count_add_count_add_count (severities : List Severity) :
    severities.count .info + severities.count .warning + severities.count .error =
      severities.length := by
  induction severities with
  | nil => rfl
  | cons x severities ih => cases x <;> simp <;> omega

namespace SeverityCounts

theorem toNat_ofNat_count {severities : List Severity} (h : severities.length < 2 ^ 32)
    (x : Severity) : (UInt32.ofNat (severities.count x)).toNat = severities.count x :=
  UInt32.toNat_ofNat_of_lt' (lt_of_le_of_lt List.count_le_length h)

theorem sum_ofSeverities {severities : List Severity} (h : severities.length < 2 ^ 32) :
    (ofSeverities severities).info.toNat + (ofSeverities severities).warning.toNat +
      (ofSeverities severities).error.toNat = severities.length := by
  rw [← Severity.count_add_count_add_count severities]
  simp only [ofSeverities, toNat_ofNat_count h]

theorem ofSeverities_perm {xs ys : List Severity} (h : xs.Perm ys) :
    ofSeverities xs = ofSeverities ys := by
  simp only [ofSeverities, h.count_eq]

end SeverityCounts

end CommitPolicy
