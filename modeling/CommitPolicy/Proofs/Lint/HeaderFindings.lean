import CommitPolicy.Proofs.Lint.Findings
import CommitPolicy.Proofs.Message.Cleanup
import Mathlib.Data.List.Basic

namespace CommitPolicy

open Header Message

def CheckId.headerChecks : List CheckId :=
  [.headerMaxLength, .subjectCase, .subjectFullStop, .typeCase, .typeEnum, .scopeIssueId]

namespace LintResult

def headerFindings (r : LintResult) : List Finding :=
  r.findings.filter fun f => f.checkId ∈ CheckId.headerChecks.map (·.name)

def AgreeOnHeader (r r' : LintResult) : Prop :=
  r.ignored = r'.ignored ∧ r.headerFindings = r'.headerFindings

end LintResult

variable {s : Settings} {m m' : Message}

theorem CheckId.inspect_congr {c : CheckId} (hc : c ∈ headerChecks) (h : m.header = m'.header) :
    c.inspect s m = c.inspect s m' := by
  cases c with
  | bodyLeadingBlank | footerLeadingBlank => exact absurd hc (by decide)
  | headerMaxLength => rw [inspect, inspect, Check.headerMaxLength, Check.headerMaxLength, h]
  | subjectCase => rw [inspect, inspect, Check.subjectCase, Check.subjectCase, h]
  | subjectFullStop => rw [inspect, inspect, Check.subjectFullStop, Check.subjectFullStop, h]
  | typeCase => rw [inspect, inspect, Check.typeCase, Check.typeCase, h]
  | typeEnum => rw [inspect, inspect, Check.typeEnum, Check.typeEnum, h]
  | scopeIssueId => rw [inspect, inspect, Check.scopeIssueId, Check.scopeIssueId, h]

theorem CheckId.finding?_congr {c : CheckId} (hc : c ∈ headerChecks) (h : m.header = m'.header)
    (hcommit : m.commit = m'.commit) : c.finding? s m = c.finding? s m' := by
  simp only [finding?, inspect_congr hc h, Objection.toFinding, h, hcommit]

theorem Message.commit_ofText (c : Cleanup) (g : Grammar) (text : String) :
    (ofText c g text).commit = none := rfl

namespace Settings

theorem headerFindings_ofFindings (failOn : FailOn) :
    (LintResult.ofFindings failOn (s.findings m)).headerFindings =
      CheckId.headerChecks.filterMap (·.finding? s m) := by
  have hchecks : CheckId.headerChecks =
      CheckId.all.filter (·.name ∈ CheckId.headerChecks.map (·.name)) := by
    simp only [List.mem_map_of_injective CheckId.name_injective]
    rfl
  rw [LintResult.headerFindings, LintResult.ofFindings,
    filter_findings (· ∈ CheckId.headerChecks.map (·.name)), ← hchecks]

theorem evaluate_agreeOnHeader (h : m.header = m'.header) (hcommit : m.commit = m'.commit) :
    (s.evaluate m).AgreeOnHeader (s.evaluate m') := by
  rw [evaluate, evaluate, h]
  split
  · exact ⟨rfl, rfl⟩
  · refine ⟨rfl, ?_⟩
    rw [headerFindings_ofFindings, headerFindings_ofFindings]
    exact List.filterMap_congr fun c hc => CheckId.finding?_congr hc h hcommit

theorem lint_agreeOnHeader_of_lines {text text' : String} {header : List Char}
    {rest rest' : List (List Char)}
    (h : Text.lines (Cleanup.strip.normalize text).toList = header :: rest)
    (h' : Text.lines (Cleanup.strip.normalize text').toList = header :: rest') :
    (s.lint text).AgreeOnHeader (s.lint text') := by
  have hheader : (ofText .strip s.variant.grammar text).header =
      (ofText .strip s.variant.grammar text').header := by
    rw [ofText, ofText, header_ofClean h, header_ofClean h']
  have hcommit : (ofText .strip s.variant.grammar text).commit =
      (ofText .strip s.variant.grammar text').commit := by
    rw [commit_ofText, commit_ofText]
  rw [lint, lint]
  exact evaluate_agreeOnHeader hheader hcommit

/-- What is found about a header does not depend on the text under it, unless the header ends in a
blank. Such a header keeps its end in front of more text, and then it does not matter which. -/
theorem lint_agreeOnHeader (s : Settings) (header body : String)
    (h : OpensMessage header.toList) :
    ((∀ c ∈ header.toList.getLast?, ¬ Text.isBlank c) ∨
        ¬ Cleanup.strip.LeavesText body.toList →
      (s.lint (header ++ "\n\n" ++ body)).AgreeOnHeader (s.lint header)) ∧
    (∀ body' : String, Cleanup.strip.LeavesText body.toList →
      Cleanup.strip.LeavesText body'.toList →
      (s.lint (header ++ "\n\n" ++ body)).AgreeOnHeader
        (s.lint (header ++ "\n\n" ++ body'))) := by
  simp only [Text.append_emptyLine_append]
  constructor
  · intro hend
    have halone := Cleanup.lines_normalize_line h
    rw [String.ofList_toList] at halone
    by_cases hleaves : Cleanup.strip.LeavesText body.toList
    · have hstop := hend.resolve_right (not_not.2 hleaves)
      have hlines := Cleanup.lines_normalize_append_of_leavesText h hleaves
      rw [Text.dropReturn_eq_self_of_getLast? hstop,
        Text.dropReturn_eq_self_of_getLast? hstop] at hlines
      rw [Text.trimRight_eq_self hstop] at halone
      exact lint_agreeOnHeader_of_lines hlines halone
    · exact lint_agreeOnHeader_of_lines
        (Cleanup.lines_normalize_append_of_not_leavesText h hleaves) halone
  · intro body' hleaves hleaves'
    exact lint_agreeOnHeader_of_lines (Cleanup.lines_normalize_append_of_leavesText h hleaves)
      (Cleanup.lines_normalize_append_of_leavesText h hleaves')

/-- A header with a full stop, in front of a comment, of text, and of other text; then one that
ends in a blank. -/
theorem lint_agreeOnHeader_of_fullStop :
    ((preset .flexible).lint ("feat(RCD-1): Add x." ++ "\n\n" ++ "Why.")).AgreeOnHeader
        ((preset .flexible).lint "feat(RCD-1): Add x.") ∧
      ((preset .flexible).lint ("feat(RCD-1): Add x. " ++ "\n\n" ++ "# Why.")).AgreeOnHeader
        ((preset .flexible).lint "feat(RCD-1): Add x. ") ∧
      ((preset .flexible).lint ("feat(RCD-1): Add x. " ++ "\n\n" ++ "Why.")).AgreeOnHeader
        ((preset .flexible).lint ("feat(RCD-1): Add x. " ++ "\n\n" ++ "Closes #4\n")) := by
  have hplain : OpensMessage "feat(RCD-1): Add x.".toList :=
    ⟨⟨'f', by decide, by decide, by decide⟩, by decide⟩
  have hblank : OpensMessage "feat(RCD-1): Add x. ".toList :=
    ⟨⟨'f', by decide, by decide, by decide⟩, by decide⟩
  have hstop : ∀ c ∈ "feat(RCD-1): Add x.".toList.getLast?, ¬ Text.isBlank c := by
    intro c hc
    obtain rfl : '.' = c := Option.some.inj hc
    decide
  exact ⟨(lint_agreeOnHeader _ _ "Why." hplain).1 (.inl hstop),
    (lint_agreeOnHeader _ _ "# Why." hblank).1 (.inr (by decide)),
    (lint_agreeOnHeader _ _ "Why." hblank).2 "Closes #4\n" (by decide) (by decide)⟩

/-- Alone, `feat(RCD-1): add x. ` is trimmed and ends in a full stop; in front of a body it keeps
its blank and does not. -/
theorem not_agreeOnHeader_of_blank_end :
    ¬ ∀ (s : Settings) (header body : String), OpensMessage header.toList →
      (s.lint (header ++ "\n\n" ++ body)).AgreeOnHeader (s.lint header) := by
  intro h
  have hagree := h (preset .flexible) "feat(RCD-1): add x. " "Why."
    ⟨⟨'f', by decide, by decide, by decide⟩, by decide⟩
  have hlength := congrArg List.length hagree.2
  have hbody : ((preset .flexible).lint
      ("feat(RCD-1): add x. " ++ "\n\n" ++ "Why.")).headerFindings.length = 0 := by decide +kernel
  have halone : ((preset .flexible).lint "feat(RCD-1): add x. ").headerFindings.length = 1 := by
    decide +kernel
  rw [hbody, halone] at hlength
  cases hlength

end Settings

end CommitPolicy
