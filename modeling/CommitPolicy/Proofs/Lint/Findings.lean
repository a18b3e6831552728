import CommitPolicy.Lint
import CommitPolicy.Proofs.Check.Name
import CommitPolicy.Settings.Preset

namespace CommitPolicy

theorem CheckId.finding?_eq_none_iff {c : CheckId} {s : Settings} {m : Message} :
    c.finding? s m = none ↔ ((s.activePolicy? c).isSome → c.inspect s m = none) := by
  rw [finding?]
  cases s.activePolicy? c <;> simp

theorem CheckId.finding?_eq_some_iff {c : CheckId} {s : Settings} {m : Message} {f : Finding} :
    c.finding? s m = some f ↔ ∃ policy o, s.activePolicy? c = some policy ∧
      c.inspect s m = some o ∧ f = o.toFinding c policy.severity m := by
  simp only [finding?, Option.bind_eq_some_iff, Option.map_eq_some_iff, eq_comm (a := f)]
  simp

theorem CheckId.checkId_of_finding? {c : CheckId} {s : Settings} {m : Message} {f : Finding}
    (h : c.finding? s m = some f) : f.checkId = c.name := by
  obtain ⟨policy, o, -, -, rfl⟩ := finding?_eq_some_iff.1 h
  rfl

theorem Verdict.ofSeverities_eq_pass_iff {failOn : FailOn} {severities : List Severity} :
    ofSeverities failOn severities = .pass ↔ .error ∉ severities ∧ .warning ∉ severities := by
  rw [ofSeverities.eq_def]
  split
  · simp [*]
  · split
    · cases failOn <;> simp [*]
    · simp [*]

namespace Settings

variable {s : Settings} {m : Message}

theorem findings_eq_nil_iff :
    s.findings m = [] ↔ ∀ c, (s.activePolicy? c).isSome → c.inspect s m = none := by
  simp [findings, List.filterMap_eq_nil_iff, CheckId.mem_all, CheckId.finding?_eq_none_iff]

theorem mem_findings_iff {f : Finding} :
    f ∈ s.findings m ↔ ∃ c : CheckId, c.finding? s m = some f := by
  simp [findings, CheckId.mem_all]

theorem exists_objection_of_mem_findings {f : Finding} (h : f ∈ s.findings m) :
    ∃ c policy o, s.activePolicy? c = some policy ∧ c.inspect s m = some o ∧
      f = o.toFinding c policy.severity m := by
  obtain ⟨c, hc⟩ := mem_findings_iff.1 h
  exact ⟨c, CheckId.finding?_eq_some_iff.1 hc⟩

theorem mem_findings_of_mem_evaluate {f : Finding} (h : f ∈ (s.evaluate m).findings) :
    f ∈ s.findings m := by
  rw [evaluate] at h
  split at h
  · cases h
  · exact h

theorem mem_findings_of_check_iff {c : CheckId} {f : Finding} :
    f ∈ s.findings m ∧ f.checkId = c.name ↔ c.finding? s m = some f := by
  constructor
  · rintro ⟨hf, hname⟩
    obtain ⟨d, hd⟩ := mem_findings_iff.1 hf
    rw [CheckId.checkId_of_finding? hd] at hname
    rwa [← CheckId.name_injective hname]
  · intro h
    exact ⟨mem_findings_iff.2 ⟨c, h⟩, CheckId.checkId_of_finding? h⟩

theorem filter_findings (P : String → Bool) :
    (s.findings m).filter (P ·.checkId) =
      (CheckId.all.filter (P ·.name)).filterMap (·.finding? s m) := by
  rw [findings, List.filter_filterMap, List.filterMap_filter]
  congr 1
  funext c
  cases hf : c.finding? s m with
  | none => simp
  | some f => rw [Option.filter_some, CheckId.checkId_of_finding? hf]

theorem exists_policy_of_mem_findings {f : Finding} (h : f ∈ s.findings m) :
    ∃ c policy, s.activePolicy? c = some policy ∧ f.severity = policy.severity := by
  obtain ⟨c, policy, o, hpolicy, -, rfl⟩ := exists_objection_of_mem_findings h
  exact ⟨c, policy, hpolicy, rfl⟩

theorem evaluate_of_findings_eq_nil (hskip : ¬ s.skips m.header.raw) (h : s.findings m = []) :
    s.evaluate m = ⟨.pass, [], .zero, false⟩ := by
  rw [evaluate, if_neg hskip, h]
  rfl

theorem evaluate_of_ignored (h : (s.evaluate m).ignored = true) : s.evaluate m = .skipped := by
  rw [evaluate] at h ⊢
  split at h
  · rename_i hskip
    rw [if_pos hskip]
  · cases h

theorem evaluate_of_not_ignored (h : (s.evaluate m).ignored = false) :
    s.evaluate m = .ofFindings s.failOn (s.findings m) := by
  rw [evaluate] at h ⊢
  split at h
  · cases h
  · rename_i hskip
    rw [if_neg hskip]

/-- If every active check is a warning or an error, then a pass leaves nothing to report. -/
theorem findings_eq_nil_of_pass (hinfo : ∀ c policy, s.activePolicy? c = some policy →
    policy.severity ≠ .info) (h : (s.evaluate m).ignored = false)
    (hpass : (s.evaluate m).verdict = .pass) : s.findings m = [] := by
  rw [evaluate_of_not_ignored h, LintResult.ofFindings, Verdict.ofSeverities_eq_pass_iff] at hpass
  rw [List.eq_nil_iff_forall_not_mem]
  intro f hf
  obtain ⟨c, policy, hpolicy, hseverity⟩ := exists_policy_of_mem_findings hf
  have hmem : f.severity ∈ (s.findings m).map (·.severity) := List.mem_map_of_mem hf
  rw [hseverity] at hmem
  cases hs : policy.severity with
  | info => exact hinfo c policy hpolicy hs
  | warning => exact hpass.2 (hs ▸ hmem)
  | error => exact hpass.1 (hs ▸ hmem)

theorem Profile.severity_ne_info (p : Profile) (c : CheckId) : p.severity c ≠ .info := by
  cases p <;> cases c <;> decide

end Settings

end CommitPolicy
