import CommitPolicy.Proofs.Lint.Findings
import CommitPolicy.Proofs.Message.Layout
import CommitPolicy.Proofs.Severity

namespace CommitPolicy

open Message

structure Objection.Fits (o : Objection) (c : CheckId) (m : Message) : Prop where
  code : o.code ∈ c.codes
  line_pos : 1 ≤ o.line
  line_le : o.line ≤ max 1 m.lines.length

/-- It points to the header, to the line behind it where there is a body, or to the first footer
line. -/
def Objection.PointsInto (o : Objection) (m : Message) : Prop :=
  o.line = 1 ∨ m.body.isSome ∧ o.line = 2 ∨ ∃ start ∈ m.footerStart, o.line = start + 1

structure Message.SplitsLines (m : Message) : Prop where
  body : m.body.isSome → 1 < m.lines.length
  footer : ∀ start ∈ m.footerStart, start < m.lines.length

theorem Message.splitsLines_ofClean (g : Grammar) (raw : String) : (ofClean g raw).SplitsLines :=
  ⟨one_lt_length_of_isSome_body, fun _ h => (lt_length_of_footerStart_ofClean h).2⟩

theorem Message.SplitsLines.withCommit {m : Message} (h : m.SplitsLines)
    (commit : Option String) : (m.withCommit commit).SplitsLines :=
  ⟨h.body, h.footer⟩

namespace CheckId

variable {c : CheckId} {s : Settings} {m : Message} {o : Objection}

theorem mem_codes_iff {code : Code} : code ∈ c.codes ↔ code.check = c := by
  simp [codes, Code.mem_all]

theorem exists_reason_of_scopeIssueId (h : Check.scopeIssueId s m = some o) :
    ∃ reason, ScopePolicy.rule s.variant m.header = .fail reason ∧ o.message = reason.message ∧
      o.code = .scope reason ∧ o.line = 1 := by
  rw [Check.scopeIssueId] at h
  split at h
  · cases h
  · rename_i reason hreason
    obtain ⟨⟩ := h
    exact ⟨reason, hreason, rfl, rfl, rfl⟩

theorem placed_bodyLeadingBlank (h : Check.bodyLeadingBlank m = some o) :
    o.code.check = .bodyLeadingBlank ∧ o.PointsInto m := by
  obtain ⟨hbody, ⟨⟩⟩ := Option.ite_none_right_eq_some.1 h
  exact ⟨rfl, .inr (.inl ⟨(Bool.and_eq_true_iff.1 hbody).1, rfl⟩)⟩

theorem placed_footerLeadingBlank (h : Check.footerLeadingBlank m = some o) :
    o.code.check = .footerLeadingBlank ∧ o.PointsInto m := by
  rw [Check.footerLeadingBlank] at h
  split at h
  · rename_i start footer hstart hfooter
    obtain ⟨-, ⟨⟩⟩ := Option.ite_none_right_eq_some.1 h
    exact ⟨rfl, .inr (.inr ⟨start, hstart, rfl⟩)⟩
  · cases h

theorem placed_of_inspect (h : c.inspect s m = some o) : o.code.check = c ∧ o.PointsInto m := by
  cases c with
  | bodyLeadingBlank => exact placed_bodyLeadingBlank h
  | footerLeadingBlank => exact placed_footerLeadingBlank h
  | headerMaxLength =>
    obtain ⟨-, ⟨⟩⟩ := Option.ite_none_right_eq_some.1 h
    exact ⟨rfl, .inl rfl⟩
  | subjectCase =>
    obtain ⟨subject, -, h⟩ := Option.bind_eq_some_iff.1 h
    split at h
    · cases h
    · obtain ⟨⟩ := h
      exact ⟨rfl, .inl rfl⟩
  | subjectFullStop =>
    obtain ⟨subject, -, h⟩ := Option.bind_eq_some_iff.1 h
    obtain ⟨-, ⟨⟩⟩ := Option.ite_none_right_eq_some.1 h
    exact ⟨rfl, .inl rfl⟩
  | typeCase =>
    obtain ⟨type, -, h⟩ := Option.bind_eq_some_iff.1 h
    obtain ⟨-, ⟨⟩⟩ := Option.ite_none_right_eq_some.1 h
    exact ⟨rfl, .inl rfl⟩
  | typeEnum =>
    obtain ⟨type, -, h⟩ := Option.bind_eq_some_iff.1 h
    obtain ⟨-, ⟨⟩⟩ := Option.ite_none_left_eq_some.1 h
    exact ⟨rfl, .inl rfl⟩
  | scopeIssueId =>
    obtain ⟨reason, -, -, hcode, hline⟩ := exists_reason_of_scopeIssueId h
    exact ⟨by rw [hcode]; rfl, .inl hline⟩

theorem fits_of_inspect (hm : m.SplitsLines) (h : c.inspect s m = some o) : o.Fits c m := by
  obtain ⟨hcode, hline | ⟨hbody, hline⟩ | ⟨start, hstart, hline⟩⟩ := placed_of_inspect h
  · exact ⟨mem_codes_iff.2 hcode, by omega, by omega⟩
  · have hlength := hm.body hbody
    exact ⟨mem_codes_iff.2 hcode, by omega, by omega⟩
  · have hlength := hm.footer start hstart
    exact ⟨mem_codes_iff.2 hcode, by omega, by omega⟩

end CheckId

structure Finding.Registered (f : Finding) (s : Settings) (m : Message) : Prop where
  check : ∃ c : CheckId, f.checkId = c.name ∧
    (∃ policy, s.checks c = some policy ∧ policy.enabled ∧ f.severity = policy.severity) ∧
    ∃ code ∈ c.codes, f.code = code.name
  /-- It points to a line of the message, whose number is written in 32 bits. -/
  location : ∃ line : Nat, 1 ≤ line ∧ line ≤ max 1 m.lines.length ∧
    f.location = some ⟨m.commit, some (.ofNat line), none⟩ ∧
    (m.lines.length < 2 ^ 32 → (UInt32.ofNat line).toNat = line)

namespace Settings

variable {s : Settings} {m : Message}

theorem registered_of_mem_findings (hm : m.SplitsLines) {f : Finding} (h : f ∈ s.findings m) :
    f.Registered s m := by
  obtain ⟨c, policy, o, hpolicy, ho, rfl⟩ := exists_objection_of_mem_findings h
  have hfits := CheckId.fits_of_inspect hm ho
  obtain ⟨hpresent, henabled⟩ := Option.filter_eq_some_iff.1 hpolicy
  refine ⟨⟨c, rfl, ⟨policy, hpresent, henabled, rfl⟩, o.code, hfits.code, rfl⟩,
    o.line, hfits.line_pos, hfits.line_le, rfl, fun hlength => ?_⟩
  have hline := hfits.line_le
  exact UInt32.toNat_ofNat_of_lt' (by rw [UInt32.size]; omega)

theorem map_checkId_findings :
    (s.findings m).map (·.checkId) =
      (CheckId.all.filter fun c => (c.finding? s m).isSome).map (·.name) := by
  rw [findings, List.map_filterMap, ← List.filterMap_eq_map, List.filterMap_filter]
  congr 1
  funext c
  cases hf : c.finding? s m with
  | none => rfl
  | some f => simp [CheckId.checkId_of_finding? hf]

theorem map_checkId_findings_sublist :
    ((s.findings m).map (·.checkId)).Sublist (CheckId.all.map (·.name)) := by
  rw [map_checkId_findings]
  exact List.filter_sublist.map _

theorem length_findings_le : (s.findings m).length ≤ 8 := List.length_filterMap_le _ CheckId.all

theorem isValid_evaluate_iff : (s.evaluate m).isValid ↔ (s.evaluate m).errors = [] := by
  rw [LintResult.isValid, LintResult.errors, beq_iff_eq, List.filter_eq_nil_iff, evaluate]
  split
  · simp [LintResult.skipped, SeverityCounts.zero]
  · have hlength : ((s.findings m).map (·.severity)).length < 2 ^ 32 := by
      rw [List.length_map]
      exact lt_of_le_of_lt length_findings_le (by decide)
    rw [← UInt32.toNat_inj, LintResult.ofFindings, SeverityCounts.ofSeverities,
      SeverityCounts.toNat_ofNat_count hlength]
    simp [List.count_eq_zero]

theorem isValid_evaluate_iff_verdict (hfail : s.failOn = .error) :
    (s.evaluate m).isValid ↔ (s.evaluate m).verdict ≠ .fail := by
  rw [isValid_evaluate_iff, LintResult.errors, List.filter_eq_nil_iff, evaluate]
  split
  · simp [LintResult.skipped]
  · have hmem : .error ∈ (s.findings m).map (·.severity) ↔
        ∃ f ∈ s.findings m, f.severity = .error := List.mem_map
    rw [LintResult.ofFindings, hfail, Verdict.ofSeverities]
    by_cases herror : .error ∈ (s.findings m).map (·.severity)
    · simpa [herror] using hmem.1 herror
    · have hnone : ∀ f ∈ s.findings m, f.severity ≠ .error := fun f hf he =>
        herror (hmem.2 ⟨f, hf, he⟩)
      by_cases hwarning : .warning ∈ (s.findings m).map (·.severity)
      · simpa [herror, hwarning] using hnone
      · simpa [herror, hwarning] using hnone

/-- The registry's promise, for every text, commit and settings. -/
theorem findings_registered (s : Settings) (cleanup : Cleanup) (g : Grammar) (text : String)
    (commit : Option String) :
    let m := (Message.ofText cleanup g text).withCommit commit
    let r := s.evaluate m
    (r.ignored = true → r.findings = [] ∧ r.counts = .zero ∧ r.verdict = .skip) ∧
    (r.ignored = false →
      (r.findings.map (·.checkId)).Sublist (CheckId.all.map (·.name)) ∧
      (r.findings.map (·.checkId)).Nodup ∧
      (∀ f ∈ r.findings, f.Registered s m) ∧
      r.counts.info.toNat + r.counts.warning.toNat + r.counts.error.toNat = r.findings.length) := by
  intro m r
  constructor
  · intro h
    have hr : r = .skipped := evaluate_of_ignored h
    rw [hr]
    exact ⟨rfl, rfl, rfl⟩
  · intro h
    have hr : r = .ofFindings s.failOn (s.findings m) := evaluate_of_not_ignored h
    have hnames : (CheckId.all.map (·.name)).Nodup := by decide
    have hlength : ((s.findings m).map (·.severity)).length < 2 ^ 32 := by
      rw [List.length_map]
      exact lt_of_le_of_lt length_findings_le (by decide)
    have hsum := SeverityCounts.sum_ofSeverities hlength
    have hm : m.SplitsLines := (splitsLines_ofClean g (cleanup.normalize text)).withCommit commit
    rw [List.length_map] at hsum
    rw [hr]
    exact ⟨map_checkId_findings_sublist, hnames.sublist map_checkId_findings_sublist,
      fun f hf => registered_of_mem_findings hm hf, hsum⟩

end Settings

end CommitPolicy
