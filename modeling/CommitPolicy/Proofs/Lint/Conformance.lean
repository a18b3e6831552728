import CommitPolicy.Proofs.Check.Inspection
import CommitPolicy.Proofs.Lint.Findings

namespace CommitPolicy

open Header Message

theorem Header.forall_mem_nonEmpty?_iff {P : List Char → Prop} {cs : List Char} (hnil : P []) :
    (∀ text ∈ nonEmpty? cs, P text.toList) ↔ P cs := by
  cases cs with
  | nil => simpa [nonEmpty?] using hnil
  | cons c cs => simp [nonEmpty?]

namespace Settings

/-- A header with the pieces `p` and the lines `rest` after it satisfy every check. -/
structure Conforms (s : Settings) (p : Parts) (rest : List (List Char)) : Prop where
  body : BodySetOff rest
  footer : FooterSetOff p.format rest
  length : p.format.length ≤ s.headerMaxLength
  subjectStart : ∀ c ∈ p.subject.head?, ¬ c.isUpper
  subjectStop : '.' ∉ p.subject.getLast?
  typeCase : Text.lowerCase p.type = p.type
  typeEnum : p.type ≠ [] → String.ofList p.type ∈ s.types
  scope : ScopePolicy.rule s.variant (ofLine s.variant.grammar (String.ofList p.format)) = .pass

theorem forall_inspect_eq_none_iff {s : Settings} {raw : String} {p : Parts}
    {rest : List (List Char)} (hlines : Text.lines raw.toList = p.format :: rest)
    (hp : Parts.ofLine? s.variant.grammar p.format = some p) :
    (∀ c : CheckId, c.inspect s (ofClean s.variant.grammar raw) = none) ↔ s.Conforms p rest := by
  have hheader : (ofClean s.variant.grammar raw).header = ofParts (String.ofList p.format) p := by
    rw [header_ofClean hlines, ofLine_of_some (by rwa [String.toList_ofList])]
  have hsubject {P : List Char → Prop} (hnil : P []) :
      (∀ text ∈ (ofClean s.variant.grammar raw).header.subject, P text.toList) ↔ P p.subject := by
    rw [hheader]
    exact forall_mem_nonEmpty?_iff hnil
  have htypeCase : (∀ text ∈ (ofClean s.variant.grammar raw).header.type,
      Text.lowerCase text.toList = text.toList) ↔ Text.lowerCase p.type = p.type := by
    rw [hheader]
    exact forall_mem_nonEmpty?_iff (P := fun cs => Text.lowerCase cs = cs) rfl
  have htypeEnum : (∀ text ∈ (ofClean s.variant.grammar raw).header.type, text ∈ s.types) ↔
      (p.type ≠ [] → String.ofList p.type ∈ s.types) := by
    rw [hheader]
    simp [ofParts, nonEmpty?_eq_some_iff]
  have hlength : (ofClean s.variant.grammar raw).header.raw.toList.length ≤ s.headerMaxLength ↔
      p.format.length ≤ s.headerMaxLength := by
    rw [hheader, ofParts, String.toList_ofList]
  have hscope := congrArg (ScopePolicy.rule s.variant)
    (header_ofClean (g := s.variant.grammar) hlines)
  have hstart := hsubject (P := fun cs => ∀ c ∈ cs.head?, ¬ c.isUpper) (by simp)
  have hstop := hsubject (P := fun cs => '.' ∉ cs.getLast?) (by simp)
  constructor
  · intro h
    exact {
      body := (Check.bodyLeadingBlank_eq_none_iff hlines).1 (h .bodyLeadingBlank)
      footer := (Check.footerLeadingBlank_eq_none_iff hlines).1 (h .footerLeadingBlank)
      length := hlength.1 (Check.headerMaxLength_eq_none_iff.1 (h .headerMaxLength))
      subjectStart := hstart.1 (Check.subjectCase_eq_none_iff.1 (h .subjectCase))
      subjectStop := hstop.1 (Check.subjectFullStop_eq_none_iff.1 (h .subjectFullStop))
      typeCase := htypeCase.1 (Check.typeCase_eq_none_iff.1 (h .typeCase))
      typeEnum := htypeEnum.1 (Check.typeEnum_eq_none_iff.1 (h .typeEnum))
      scope := hscope.symm.trans (Check.scopeIssueId_eq_none_iff.1 (h .scopeIssueId)) }
  · intro h c
    cases c with
    | bodyLeadingBlank => exact (Check.bodyLeadingBlank_eq_none_iff hlines).2 h.body
    | footerLeadingBlank => exact (Check.footerLeadingBlank_eq_none_iff hlines).2 h.footer
    | headerMaxLength =>
      rw [CheckId.inspect, Check.headerMaxLength_eq_none_iff, hlength]
      exact h.length
    | subjectCase =>
      rw [CheckId.inspect, Check.subjectCase_eq_none_iff, hstart]
      exact h.subjectStart
    | subjectFullStop =>
      rw [CheckId.inspect, Check.subjectFullStop_eq_none_iff, hstop]
      exact h.subjectStop
    | typeCase =>
      rw [CheckId.inspect, Check.typeCase_eq_none_iff, htypeCase]
      exact h.typeCase
    | typeEnum =>
      rw [CheckId.inspect, Check.typeEnum_eq_none_iff, htypeEnum]
      exact h.typeEnum
    | scopeIssueId =>
      rw [CheckId.inspect, Check.scopeIssueId_eq_none_iff, hscope]
      exact h.scope

end Settings

end CommitPolicy
