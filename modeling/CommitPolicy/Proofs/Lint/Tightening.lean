import CommitPolicy.Proofs.Check.Inspection
import CommitPolicy.Proofs.Lint.Findings
import CommitPolicy.Proofs.Severity
import CommitPolicy.Settings.Preset

namespace CommitPolicy

namespace Settings

structure Tightens (t s : Settings) : Prop where
  variant : t.variant = s.variant
  failOn : s.failOn = .warning → t.failOn = .warning
  checks : ∀ c, ∀ p ∈ s.activePolicy? c, ∃ q ∈ t.activePolicy? c, p.severity ≤ q.severity
  headerMaxLength : t.headerMaxLength ≤ s.headerMaxLength
  types : t.types ⊆ s.types
  defaultIgnores : s.defaultIgnores = false → t.defaultIgnores = false
  ignores : t.ignores ⊆ s.ignores

variable {s t : Settings} {m : Message}

theorem Tightens.skips (h : t.Tightens s) {header : String} (hskip : t.skips header) :
    s.skips header := by
  rw [Settings.skips, Bool.or_eq_true, Bool.and_eq_true, List.any_eq_true] at hskip ⊢
  rcases hskip with ⟨hdefault, hgenerated⟩ | ⟨p, hp, hoccurs⟩
  · refine .inl ⟨?_, hgenerated⟩
    by_contra hoff
    rw [h.defaultIgnores (Bool.eq_false_iff.2 hoff)] at hdefault
    cases hdefault
  · exact .inr ⟨p, h.ignores hp, hoccurs⟩

/-- Of the checks, three look at the settings: at the length, the types and the variant. -/
theorem Tightens.isSome_inspect (h : t.Tightens s) {c : CheckId} (ho : (c.inspect s m).isSome) :
    (c.inspect t m).isSome := by
  cases c with
  | bodyLeadingBlank | footerLeadingBlank | subjectCase | subjectFullStop | typeCase => exact ho
  | headerMaxLength =>
    rw [CheckId.inspect, Option.isSome_iff_ne_none, Ne, Check.headerMaxLength_eq_none_iff] at ho ⊢
    have hlength := h.headerMaxLength
    omega
  | typeEnum =>
    rw [CheckId.inspect, Option.isSome_iff_ne_none, Ne, Check.typeEnum_eq_none_iff] at ho ⊢
    exact fun hall => ho fun type htype => h.types (hall type htype)
  | scopeIssueId =>
    rw [CheckId.inspect, Option.isSome_iff_ne_none, Ne, Check.scopeIssueId_eq_none_iff] at ho ⊢
    rwa [h.variant]

theorem Tightens.exists_finding? (h : t.Tightens s) {c : CheckId} {f : Finding}
    (hf : c.finding? s m = some f) :
    ∃ g, c.finding? t m = some g ∧ f.severity ≤ g.severity := by
  obtain ⟨p, o, hp, ho, rfl⟩ := CheckId.finding?_eq_some_iff.1 hf
  obtain ⟨q, hq, hseverity⟩ := h.checks c p hp
  obtain ⟨o', ho'⟩ := Option.isSome_iff_exists.1
    (h.isSome_inspect (Option.isSome_iff_exists.2 ⟨o, ho⟩))
  exact ⟨_, CheckId.finding?_eq_some_iff.2 ⟨q, o', hq, ho', rfl⟩, hseverity⟩

theorem Tightens.exists_mem_findings (h : t.Tightens s) {f : Finding} (hf : f ∈ s.findings m) :
    ∃ g ∈ t.findings m, g.checkId = f.checkId ∧ f.severity ≤ g.severity := by
  obtain ⟨c, hc⟩ := mem_findings_iff.1 hf
  obtain ⟨g, hg, hseverity⟩ := h.exists_finding? hc
  refine ⟨g, mem_findings_iff.2 ⟨c, hg⟩, ?_, hseverity⟩
  rw [CheckId.checkId_of_finding? hg, CheckId.checkId_of_finding? hc]

/-- Under tighter settings a message gets no milder verdict, and a check that reports something
about a linted message reports something at least as severe. -/
theorem evaluate_of_tightens (h : t.Tightens s) (m : Message) :
    (s.evaluate m).verdict ≤ (t.evaluate m).verdict ∧
      ((s.evaluate m).ignored = false → ∀ f ∈ (s.evaluate m).findings,
        ∃ g ∈ (t.evaluate m).findings, g.checkId = f.checkId ∧ f.severity ≤ g.severity) := by
  by_cases hskip : s.skips m.header.raw
  · rw [evaluate, if_pos hskip]
    refine ⟨bot_le, fun hlinted => ?_⟩
    cases hlinted
  · have hskip' : ¬ t.skips m.header.raw := fun hskip' => hskip (h.skips hskip')
    rw [evaluate, evaluate, if_neg hskip, if_neg hskip']
    refine ⟨Verdict.ofSeverities_mono h.failOn ?_, fun _ f hf => h.exists_mem_findings hf⟩
    simp only [List.mem_map]
    rintro _ ⟨f, hf, rfl⟩
    obtain ⟨g, hg, -, hseverity⟩ := h.exists_mem_findings hf
    exact ⟨g.severity, ⟨g, hg, rfl⟩, hseverity⟩

/-- From the strict preset, which only warns of the missing blank line, every setting tightened at
once: then the blank line is an error and the type is none that is allowed. -/
theorem evaluate_of_tightened_strict :
    let s := preset .strict
    let t : Settings := { s with
      failOn := .warning
      headerMaxLength := 50
      types := ["feat", "fix"]
      defaultIgnores := false
      checks := fun _ => some ⟨true, .error⟩ }
    let m := Message.ofText .strip .issueScope "docs(RCD-1): explain the retries\nThey add up."
    t.Tightens s ∧ (s.evaluate m).ignored = false ∧
      (s.evaluate m).verdict ≤ (t.evaluate m).verdict ∧
      ∀ f ∈ (s.evaluate m).findings,
        ∃ g ∈ (t.evaluate m).findings, g.checkId = f.checkId ∧ f.severity ≤ g.severity := by
  intro s t m
  have htightens : t.Tightens s := by
    refine ⟨rfl, fun _ => rfl, ?_, by decide, by decide, fun _ => rfl, List.Subset.refl []⟩
    rintro c p hp
    exact ⟨⟨true, .error⟩, rfl, by cases p.severity <;> decide⟩
  have hlinted : (s.evaluate m).ignored = false := by decide +kernel
  have h := evaluate_of_tightens htightens m
  exact ⟨htightens, hlinted, h.1, h.2 hlinted⟩

end Settings

end CommitPolicy
