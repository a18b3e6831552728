import CommitPolicy.Proofs.Lint.Conformance
import CommitPolicy.Proofs.Scope.Acceptance

namespace CommitPolicy

open Header Message

namespace Settings

structure Vouched (s : Settings) (p : Parts) (rest : List (List Char)) : Prop where
  read : Parts.ofLine? s.variant.grammar p.format = some p
  type : p.type ≠ [] → String.ofList p.type ∈ s.types
  scope : ∃ scope ∈ p.scope, Issue.Occurs scope
  /-- Only in front of more lines a subject can be empty. -/
  subject : p.subject = [] → rest ≠ []
  subjectStart : ∀ c ∈ p.subject.head?, ¬ c.isUpper
  subjectStop : '.' ∉ p.subject.getLast?
  length : p.format.length ≤ s.headerMaxLength
  body : BodySetOff rest
  footer : FooterSetOff p.format rest

theorem getLast?_normalize (c : Cleanup) (text : String) :
    ∀ d ∈ (c.normalize text).toList.getLast?, ¬ Text.isBlank d := by
  rw [Cleanup.normalize, String.toList_ofList, Text.trim]
  exact Text.not_isBlank_of_getLast?_trimRight

theorem exists_vouched {s : Settings} {raw : String}
    (hraw : ∀ c ∈ raw.toList.getLast?, ¬ Text.isBlank c)
    (h : ∀ c : CheckId, c.inspect s (ofClean s.variant.grammar raw) = none) :
    ∃ p rest, Text.lines raw.toList = p.format :: rest ∧ s.Vouched p rest := by
  have hrule := Check.scopeIssueId_eq_none_iff.1 (h .scopeIssueId)
  cases hlines : Text.lines raw.toList with
  | nil =>
    have hheader : (ofClean s.variant.grammar raw).header = ofLine s.variant.grammar "" := by
      rw [ofClean, Text.linesOf, hlines]
      rfl
    rw [hheader] at hrule
    obtain ⟨type, scope, b, subject, -, hp⟩ := ScopePolicy.exists_scope_of_rule_eq_pass hrule
    have hformat := Parts.format_of_ofLine? hp
    simp [Parts.format] at hformat
  | cons header rest =>
    rw [header_ofClean hlines] at hrule
    obtain ⟨type, scope, b, subject, hocc, hp⟩ := ScopePolicy.exists_scope_of_rule_eq_pass hrule
    rw [String.toList_ofList] at hp
    obtain ⟨rfl, -⟩ := Parts.ofLine?_eq_some_iff.1 hp
    have hc := (forall_inspect_eq_none_iff hlines hp).1 h
    refine ⟨_, rest, rfl, ⟨hp, hc.typeEnum, ⟨scope, rfl, hocc⟩, ?_, hc.subjectStart, hc.subjectStop,
      hc.length, hc.body, hc.footer⟩⟩
    -- A line with an empty subject ends in the blank of the separator, which alone would be cut.
    rintro rfl rfl
    have hend : '\n' ∉ raw.toList.getLast? := fun hl => hraw '\n' hl (by decide)
    have hsingle := Text.eq_of_lines_eq_singleton hlines hend
    refine hraw ' ' ?_ (by decide)
    obtain ⟨start, hformat⟩ := Parts.exists_format_eq_append ⟨type, some scope, b, []⟩
    rw [hsingle, hformat]
    exact List.getLast?_concat

/-- If a text passes under a preset, then its header is one that the grammar reads, with an allowed
type if it has a type, a scope that holds an issue identifier, and a subject that is regular. -/
theorem vouched_of_pass (profile : Profile) (text : String)
    (hlinted : ((preset profile).lint text).ignored = false)
    (hpass : ((preset profile).lint text).verdict = .pass) :
    ∃ p rest, Text.lines (Cleanup.strip.normalize text).toList = p.format :: rest ∧
      (preset profile).Vouched p rest := by
  have hinfo : ∀ c policy, (preset profile).activePolicy? c = some policy →
      policy.severity ≠ .info := by
    rintro c _ ⟨⟩
    exact profile.severity_ne_info c
  have hnone := findings_eq_nil_iff.1 (findings_eq_nil_of_pass hinfo hlinted hpass)
  exact exists_vouched (getLast?_normalize .strip text) fun c => hnone c rfl

theorem vouched_of_revert_pass :
    ((preset .flexible).lint "revert(RCD-2): feat(RCD-1): add x\n\nWhy.\n\nCloses #4").ignored =
      false ∧
    ((preset .flexible).lint "revert(RCD-2): feat(RCD-1): add x\n\nWhy.\n\nCloses #4").verdict =
      .pass ∧
    ∃ p rest, Text.lines (Cleanup.strip.normalize
        "revert(RCD-2): feat(RCD-1): add x\n\nWhy.\n\nCloses #4").toList = p.format :: rest ∧
      (preset .flexible).Vouched p rest := by
  have hlinted : ((preset .flexible).lint
      "revert(RCD-2): feat(RCD-1): add x\n\nWhy.\n\nCloses #4").ignored = false := by decide +kernel
  have hpass : ((preset .flexible).lint
      "revert(RCD-2): feat(RCD-1): add x\n\nWhy.\n\nCloses #4").verdict = .pass := by decide +kernel
  exact ⟨hlinted, hpass, vouched_of_pass .flexible _ hlinted hpass⟩

theorem eq_of_ofLine? {g : Grammar} {p q : Parts} {header : List Char}
    {rest rest' : List (List Char)} (hlines : p.format :: rest = header :: rest')
    (hp : Parts.ofLine? g p.format = some p) (hq : Parts.ofLine? g header = some q) : p = q := by
  rw [(List.cons_eq_cons.1 hlines).1, hq] at hp
  exact (Option.some.inj hp).symm

/-- A pass does not say that the header has a type, nor that it has a subject: `(RCD-1): x` has no
type, and the empty subject of `feat(RCD-1): ` survives in front of a body. -/
theorem pass_without_type_and_pass_without_subject :
    (¬ ∀ (profile : Profile) (text : String), ((preset profile).lint text).ignored = false →
      ((preset profile).lint text).verdict = .pass →
      ∃ p rest, Text.lines (Cleanup.strip.normalize text).toList = p.format :: rest ∧
        Parts.ofLine? profile.variant.grammar p.format = some p ∧ p.type ≠ []) ∧
    (¬ ∀ (profile : Profile) (text : String), ((preset profile).lint text).ignored = false →
      ((preset profile).lint text).verdict = .pass →
      ∃ p rest, Text.lines (Cleanup.strip.normalize text).toList = p.format :: rest ∧
        Parts.ofLine? profile.variant.grammar p.format = some p ∧ p.subject ≠ []) := by
  constructor
  · intro h
    obtain ⟨p, rest, hlines, hp, hne⟩ := h .flexible "(RCD-1): x" (by decide +kernel)
      (by decide +kernel)
    have hl : Text.lines (Cleanup.strip.normalize "(RCD-1): x").toList = ["(RCD-1): x".toList] := by
      decide +kernel
    have hread : Parts.ofLine? .anyScope "(RCD-1): x".toList =
        some ⟨[], some "RCD-1".toList, false, "x".toList⟩ := by decide +kernel
    exact hne (congrArg Parts.type (eq_of_ofLine? (hlines.symm.trans hl) hp hread))
  · intro h
    obtain ⟨p, rest, hlines, hp, hne⟩ := h .flexible "feat(RCD-1): \n\nbody" (by decide +kernel)
      (by decide +kernel)
    have hl : Text.lines (Cleanup.strip.normalize "feat(RCD-1): \n\nbody").toList =
        ["feat(RCD-1): ".toList, [], "body".toList] := by decide +kernel
    have hread : Parts.ofLine? .anyScope "feat(RCD-1): ".toList =
        some ⟨"feat".toList, some "RCD-1".toList, false, []⟩ := by decide +kernel
    exact hne (congrArg Parts.subject (eq_of_ofLine? (hlines.symm.trans hl) hp hread))

end Settings

end CommitPolicy
