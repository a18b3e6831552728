import CommitPolicy.Scope.Policy
import CommitPolicy.Proofs.Header.Shape

namespace CommitPolicy

open Header

theorem ScopeClass.ofScope_some (scope : List Char) :
    ofScope (some (String.ofList scope)) =
      if Text.upperCase scope ≠ scope then .notUppercase
      else if Issue.Occurs scope then .issueId else .other := by
  simp only [ofScope, String.toList_ofList, Issue.occursIn_iff]

namespace ScopePolicy

/-- The ruling of the flexible variant on a line, by what the any-scope grammar reads. -/
def tabulated (line : String) : ScopeRuling :=
  match Parts.ofLine? .anyScope line.toList with
  | none => .fail .subjectRequired
  | some ⟨type, none, _, _⟩ =>
    .fail (if type = Revert.keyword.toList then .revertMissingId else .required)
  | some ⟨type, some scope, _, subject⟩ =>
    if Text.upperCase scope ≠ scope then
      if Revert.WrapsScoped line.toList then .pass else .fail .notUppercase
    else if Issue.Occurs scope then
      if type = Revert.keyword.toList then .fail .revertMissingFullHeader else .pass
    else .fail (if subject = [] then .subjectRequired else .notIssueId)

theorem ruleWrapped_eq (line : String) :
    ruleWrapped line =
      if Revert.WrapsScoped line.toList then .pass else .fail .notUppercase := by
  by_cases h : Revert.WrapsScoped line.toList
  · obtain ⟨r, hr, hw⟩ := Revert.exists_wrapsFullHeader_iff.2 h
    rw [if_pos h, ruleWrapped, if_pos h.keyword_isPrefixOf, hr]
    exact if_pos hw
  · rw [if_neg h, ruleWrapped]
    split
    · split
      · rename_i r hr
        exact if_neg fun hw => h (Revert.exists_wrapsFullHeader_iff.1 ⟨r, hr, hw⟩)
      · rfl
    · rfl

theorem ruleUnidentified_of_unscoped {line : String} {type subject : List Char} {breaking : Bool}
    (h : Parts.ofLine? .anyScope line.toList = some ⟨type, none, breaking, subject⟩) :
    ruleUnidentified (ofLine .anyScope line) =
      .fail (if type = Revert.keyword.toList then .revertMissingId else .required) := by
  have hi := Parts.ofLine?_unscoped .issueScope h
  rw [ruleUnidentified, raw_ofLine, Shape.ofLine_of_unscoped hi, ofLine_of_some h]
  simp only [isRevert_ofParts_iff]

theorem ruleUnidentified_of_unstructured {h : Header}
    (hi : Parts.ofLine? .issueScope h.raw.toList = none) :
    ruleUnidentified h = .fail (if h.subject = none then .subjectRequired else .notIssueId) := by
  rw [ruleUnidentified, Shape.ofLine_of_none hi]
  simp only [Option.isNone_iff_eq_none]

/-- A line with an issue scope has an identifier in its longest scope, which then may not be
upper-case but is neither absent nor without an identifier. -/
theorem ofScope_of_issueScoped {line : String} (h : Shape.ofLine line = .issueScoped) :
    ScopeClass.ofScope (ofLine .anyScope line).scope = .notUppercase ∨
      ScopeClass.ofScope (ofLine .anyScope line).scope = .issueId := by
  obtain ⟨type, id, b, subject, hi⟩ := Shape.ofLine_eq_issueScoped_iff.1 h
  obtain ⟨scope, b', subject', hpre, ha⟩ := Parts.ofLine?_anyScope_of_scoped hi
  have hid : Issue.IsIdentifier id := (Parts.legal_of_ofLine? hi).scope id rfl
  have hocc : Issue.Occurs scope := ⟨id, hid, hpre.isInfix⟩
  simp only [ofLine_of_some ha, ofParts, Option.map_some, ScopeClass.ofScope_some, if_pos hocc]
  split
  · exact .inl rfl
  · exact .inr rfl

theorem flexible_ofLine (line : String) : flexible (ofLine .anyScope line) = tabulated line := by
  rw [flexible, tabulated]
  cases h : Parts.ofLine? .anyScope line.toList with
  | none =>
    have hi := Parts.ofLine?_issueScope_of_anyScope_none h
    rw [ofLine_of_none h]
    exact ruleUnidentified_of_unstructured hi
  | some p =>
    obtain ⟨type, scope, b, subject⟩ := p
    cases scope with
    | none =>
      have hr := ruleUnidentified_of_unscoped h
      rw [ofLine_of_some h] at hr ⊢
      exact hr
    | some scope =>
      have hs : (ofLine .anyScope line).scope = some (String.ofList scope) := by
        rw [ofLine_of_some h]
        rfl
      rw [hs, ScopeClass.ofScope_some]
      by_cases hu : Text.upperCase scope ≠ scope
      · simp only [if_pos hu, raw_ofLine, ruleWrapped_eq]
      · by_cases ho : Issue.Occurs scope
        · simp only [if_neg hu, if_pos ho, ofLine_of_some h, isRevert_ofParts_iff]
        · have hi := Parts.ofLine?_issueScope_of_not_occurs h ho
          rw [← raw_ofLine .anyScope line] at hi
          simp only [if_neg hu, if_neg ho, ruleUnidentified_of_unstructured hi]
          simp only [ofLine_of_some h, ofParts, nonEmpty?_eq_none_iff]

/-- The flexible variant decides by the table, and its case for a line that has an issue scope while
its longest scope is absent or without an identifier applies to no line. -/
theorem flexible_eq_tabulated_and_case_unreachable (line : String) :
    flexible (ofLine .anyScope line) = tabulated line ∧
      ¬ (Shape.ofLine line = .issueScoped ∧
        (ScopeClass.ofScope (ofLine .anyScope line).scope = .absent ∨
          ScopeClass.ofScope (ofLine .anyScope line).scope = .other)) := by
  refine ⟨flexible_ofLine line, ?_⟩
  rintro ⟨hshape, hclass⟩
  rcases ofScope_of_issueScoped hshape with h | h <;> rw [h] at hclass <;> simp at hclass

end ScopePolicy

end CommitPolicy
