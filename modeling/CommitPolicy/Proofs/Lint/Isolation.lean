import CommitPolicy.Proofs.Lint.Findings
import Mathlib.Data.List.Basic

namespace CommitPolicy

namespace LintResult

def findingsOf (r : LintResult) (c : CheckId) : List Finding :=
  r.findings.filter (·.checkId = c.name)

def findingsBeside (r : LintResult) (c : CheckId) : List Finding :=
  r.findings.filter (·.checkId ≠ c.name)

end LintResult

def Settings.withPolicy (s : Settings) (c : CheckId) (p : Option CheckPolicy) : Settings :=
  { s with checks := Function.update s.checks c p }

variable {s : Settings} {m : Message} {c d : CheckId} {p : Option CheckPolicy}

theorem Settings.checks_withPolicy :
    (s.withPolicy c p).checks = Function.update s.checks c p := rfl

theorem Settings.skips_withPolicy (header : String) :
    (s.withPolicy c p).skips header = s.skips header := rfl

theorem CheckId.inspect_withPolicy (d : CheckId) :
    d.inspect (s.withPolicy c p) m = d.inspect s m := by
  cases d <;> rfl

theorem CheckId.finding?_withPolicy_self :
    c.finding? (s.withPolicy c p) m = (p.filter (·.enabled)).bind fun policy =>
      (c.inspect s m).map fun o => o.toFinding c policy.severity m := by
  have hpolicy : (s.withPolicy c p).activePolicy? c = p.filter (·.enabled) := by
    rw [Settings.activePolicy?, Settings.checks_withPolicy, Function.update_self]
  rw [finding?, hpolicy, inspect_withPolicy]

theorem CheckId.finding?_withPolicy_of_ne (h : d ≠ c) :
    d.finding? (s.withPolicy c p) m = d.finding? s m := by
  have hpolicy : (s.withPolicy c p).activePolicy? d = s.activePolicy? d := by
    rw [Settings.activePolicy?, Settings.checks_withPolicy, Function.update_of_ne h,
      Settings.activePolicy?]
  rw [finding?, hpolicy, inspect_withPolicy, finding?]

namespace Settings

theorem findingsOf_evaluate :
    (s.evaluate m).findingsOf c =
      if s.skips m.header.raw then [] else (c.finding? s m).toList := by
  have hself : CheckId.all.filter (·.name = c.name) = [c] := by
    simp only [CheckId.name_injective.eq_iff]
    cases c <;> rfl
  rw [evaluate, apply_ite (LintResult.findingsOf · c)]
  congr 1
  rw [LintResult.findingsOf, LintResult.ofFindings, filter_findings (· = c.name), hself]
  cases hf : c.finding? s m <;> simp [hf]

theorem findingsBeside_evaluate :
    (s.evaluate m).findingsBeside c = if s.skips m.header.raw then [] else
      (CheckId.all.filter (· ≠ c)).filterMap (·.finding? s m) := by
  rw [evaluate, apply_ite (LintResult.findingsBeside · c)]
  congr 1
  rw [LintResult.findingsBeside, LintResult.ofFindings, filter_findings (· ≠ c.name)]
  simp only [ne_eq, CheckId.name_injective.eq_iff]

theorem findingsBeside_withPolicy :
    ((s.withPolicy c p).evaluate m).findingsBeside c = (s.evaluate m).findingsBeside c := by
  have hothers : ∀ d ∈ CheckId.all.filter (· ≠ c),
      d.finding? (s.withPolicy c p) m = d.finding? s m := by
    intro d hd
    exact CheckId.finding?_withPolicy_of_ne (by simpa using (List.mem_filter.1 hd).2)
  rw [findingsBeside_evaluate, findingsBeside_evaluate, skips_withPolicy,
    List.filterMap_congr hothers]

theorem findingsOf_withPolicy_of_inactive (h : ∀ policy ∈ p, ¬ policy.enabled) :
    ((s.withPolicy c p).evaluate m).findingsOf c = [] := by
  have hnone : p.filter (·.enabled) = none := by
    rw [Option.filter_eq_none_iff]
    exact h
  rw [findingsOf_evaluate, CheckId.finding?_withPolicy_self, hnone]
  simp

theorem findings_eq_findingsBeside {r : LintResult} (h : r.findingsOf c = []) :
    r.findings = r.findingsBeside c := by
  rw [LintResult.findingsOf, List.filter_eq_nil_iff] at h
  rw [LintResult.findingsBeside, eq_comm, List.filter_eq_self]
  simpa using h

/-- Replacing the policy of a check, or dropping it, touches the findings of that check alone. They
go if the policy is absent or off; between policies that are on they differ in their severity. -/
theorem evaluate_withPolicy (s : Settings) (m : Message) (c : CheckId)
    (p q : Option CheckPolicy) :
    ((s.withPolicy c p).evaluate m).findingsBeside c =
        ((s.withPolicy c q).evaluate m).findingsBeside c ∧
      ((s.withPolicy c p).evaluate m).findingsBeside c = (s.evaluate m).findingsBeside c ∧
      ((∀ policy ∈ p, ¬ policy.enabled) →
        ((s.withPolicy c p).evaluate m).findingsOf c = [] ∧
        ((s.withPolicy c p).evaluate m).findings = (s.evaluate m).findingsBeside c) ∧
      (∀ x ∈ p, ∀ y ∈ q, x.enabled → y.enabled →
        ((s.withPolicy c p).evaluate m).findingsOf c =
          (((s.withPolicy c q).evaluate m).findingsOf c).map
            fun f => { f with severity := x.severity }) := by
  refine ⟨?_, findingsBeside_withPolicy, fun h => ⟨?_, ?_⟩, ?_⟩
  · rw [findingsBeside_withPolicy, findingsBeside_withPolicy]
  · exact findingsOf_withPolicy_of_inactive h
  · rw [findings_eq_findingsBeside (findingsOf_withPolicy_of_inactive h),
      findingsBeside_withPolicy]
  · rintro x hx y hy henabled henabled'
    obtain rfl : p = some x := hx
    obtain rfl : q = some y := hy
    simp only [findingsOf_evaluate, skips_withPolicy, CheckId.finding?_withPolicy_self,
      Option.filter_some, henabled, henabled', if_true, Option.bind_some]
    split
    · rfl
    · cases c.inspect s m <;> rfl

end Settings

end CommitPolicy
