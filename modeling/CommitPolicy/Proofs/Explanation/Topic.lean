import CommitPolicy.Explanation.Topic
import CommitPolicy.Proofs.Lint.Registry
import CommitPolicy.Proofs.Scope.Reason
import Mathlib.Tactic.TFAE

namespace CommitPolicy

namespace Topic

theorem ofName?_codeName (k : Code) : ofName? k.name = some (code k) := by
  rw [ofName?, Code.ofName?_eq_some_iff.2 rfl]

theorem ofName?_checkName (c : CheckId) : ofName? c.name = some (check c) := by
  rw [ofName?, Code.ofName?_checkName, CheckId.ofName?_eq_some_iff.2 rfl]
  rfl

theorem reasons_scope (r : ScopeReason) : (code (.scope r)).reasons = [r] := by
  rw [reasons, codes, List.filterMap_cons, ScopeReason.ofCodeName?_eq_some_iff.2 rfl]
  rfl

structure AnswersCode (t : Topic) (f : Finding) (v : Variant) : Prop where
  checkId : t.checkId.name = f.checkId
  codes : t.codes.map Code.name = [f.code]
  reasons : f.checkId = CheckId.scopeIssueId.name → ∃ r, t.reasons = [r] ∧
    (Code.scope r).name = f.code ∧ r.message = f.message ∧ v ∈ r.variants

structure AnswersCheck (t : Topic) (f : Finding) : Prop where
  checkId : t.checkId.name = f.checkId
  codes : f.code ∈ t.codes.map Code.name

end Topic

variable {c : CheckId} {s : Settings} {m : Message} {o : Objection}

theorem Topic.answersCheck (h : c.inspect s m = some o) (severity : Severity) :
    (check c).AnswersCheck (o.toFinding c severity m) where
  checkId := rfl
  codes := List.mem_map_of_mem (CheckId.mem_codes_iff.2 (CheckId.placed_of_inspect h).1)

theorem Topic.answersCode (h : c.inspect s m = some o) (severity : Severity) :
    (code o.code).AnswersCode (o.toFinding c severity m) s.variant where
  checkId := congrArg CheckId.name (CheckId.placed_of_inspect h).1
  codes := rfl
  reasons hcheck := by
    obtain rfl : c = .scopeIssueId := CheckId.name_injective hcheck
    obtain ⟨r, hrule, hmessage, hcode, -⟩ := CheckId.exists_reason_of_scopeIssueId h
    refine ⟨r, ?_, congrArg Code.name hcode.symm, hmessage.symm,
      ScopeReason.mem_variants_of_rule hrule⟩
    rw [hcode, reasons_scope]

namespace ScopeReason

variable {r : ScopeReason} {v : Variant}

theorem exists_finding_of_rule (hactive : (s.activePolicy? .scopeIssueId).isSome)
    (hskip : ¬ s.skips m.header.raw) (h : ScopePolicy.rule s.variant m.header = .fail r) :
    ∃ f ∈ (s.evaluate m).findings, f.code = (Code.scope r).name := by
  obtain ⟨policy, hpolicy⟩ := Option.isSome_iff_exists.1 hactive
  obtain ⟨o, ho, hcode⟩ : ∃ o, CheckId.scopeIssueId.inspect s m = some o ∧ o.code = .scope r :=
    ⟨_, by rw [CheckId.inspect, Check.scopeIssueId, h], rfl⟩
  refine ⟨o.toFinding .scopeIssueId policy.severity m, ?_, congrArg Code.name hcode⟩
  rw [Settings.evaluate, if_neg hskip]
  exact Settings.mem_findings_iff.2
    ⟨_, CheckId.finding?_eq_some_iff.2 ⟨policy, o, hpolicy, ho, rfl⟩⟩

theorem linesOf_normalize_before (r : ScopeReason) :
    Text.linesOf (Cleanup.strip.normalize r.explanation.before) = [r.explanation.before] := by
  cases r <;> decide +kernel

/-- Linting what a reason is explained by reports that reason, under every variant listed. -/
theorem reported_before (h : v ∈ r.variants) :
    let s : Settings := { Settings.preset .flexible with variant := v, defaultIgnores := false }
    ∃ f ∈ (s.lint r.explanation.before).findings, f.code = (Code.scope r).name := by
  intro s
  apply exists_finding_of_rule rfl
  · exact Bool.false_ne_true
  · rw [Message.ofText, Message.ofClean, linesOf_normalize_before]
    exact r.rule_before v h

theorem mem_variants_of_reported {f : Finding} (hf : f ∈ (s.evaluate m).findings)
    (hcode : f.code = (Code.scope r).name) : s.variant ∈ r.variants := by
  obtain ⟨c, policy, o, -, ho, rfl⟩ :=
    Settings.exists_objection_of_mem_findings (Settings.mem_findings_of_mem_evaluate hf)
  have hreason : o.code = .scope r := Code.name_injective hcode
  obtain rfl : c = .scopeIssueId := by
    rw [← (CheckId.placed_of_inspect ho).1, hreason]
    rfl
  obtain ⟨r', hrule, -, hcode', -⟩ := CheckId.exists_reason_of_scopeIssueId ho
  obtain rfl : r' = r := Code.scope.inj (hcode'.symm.trans hreason)
  exact mem_variants_of_rule hrule

theorem mem_variants_iff_reported : v ∈ r.variants ↔ ∃ s : Settings, s.variant = v ∧
    ∃ text, ∃ f ∈ (s.lint text).findings, f.code = (Code.scope r).name := by
  constructor
  · intro h
    exact ⟨_, rfl, r.explanation.before, reported_before h⟩
  · rintro ⟨s, rfl, text, f, hf, hcode⟩
    exact mem_variants_of_reported hf hcode

end ScopeReason

/-- Every finding can be asked about by its code and by its check. The answers tell of each other
and, for the scope check, of the one reason that the finding gives, which is listed for the variant
in force. A variant is listed for a reason exactly if it gives that reason for some header line, and
exactly if it reports it for some text. -/
theorem Settings.findings_explained (s : Settings) (m : Message) :
    (∀ f ∈ (s.evaluate m).findings,
      (∃ t, Topic.ofName? f.code = some t ∧ t.AnswersCode f s.variant) ∧
      ∃ t, Topic.ofName? f.checkId = some t ∧ t.AnswersCheck f) ∧
    ∀ (r : ScopeReason) (v : Variant), [v ∈ r.variants,
      ∃ line, ScopePolicy.rule v (.ofLine v.grammar line) = .fail r,
      ∃ s : Settings, s.variant = v ∧
        ∃ text, ∃ f ∈ (s.lint text).findings, f.code = (Code.scope r).name].TFAE := by
  refine ⟨fun f hf => ?_, fun r v => ?_⟩
  · obtain ⟨c, policy, o, -, ho, rfl⟩ :=
      exists_objection_of_mem_findings (mem_findings_of_mem_evaluate hf)
    exact ⟨⟨_, Topic.ofName?_codeName o.code, Topic.answersCode ho policy.severity⟩,
      _, Topic.ofName?_checkName c, Topic.answersCheck ho policy.severity⟩
  · tfae_have 1 ↔ 2 := ScopeReason.mem_variants_iff
    tfae_have 1 ↔ 3 := ScopeReason.mem_variants_iff_reported
    tfae_finish

end CommitPolicy
