import CommitPolicy.Proofs.Header.Pattern
import CommitPolicy.Proofs.Scope.Acceptance
import Mathlib.Tactic.TFAE

namespace CommitPolicy

open Header

namespace ScopePolicy

theorem occursIn_scope_iff_issueScoped {line : String} :
    (ofLine .issueScope line).scope.any (Issue.occursIn ·.toList) ↔
      Shape.ofLine line = .issueScoped := by
  rw [Shape.ofLine_eq_issueScoped_iff]
  cases h : Parts.ofLine? .issueScope line.toList with
  | none => simp [ofLine_of_none h, unstructured]
  | some p =>
    obtain ⟨type, scope, breaking, subject⟩ := p
    cases scope with
    | none => simp [ofLine_of_some h, ofParts]
    | some id =>
      have hid : Issue.IsIdentifier id := (Parts.legal_of_ofLine? h).scope id rfl
      simpa [ofLine_of_some h, ofParts] using Issue.occursIn_iff.2 hid.occurs

theorem strict_of_not_issueScoped {line : String} (h : Shape.ofLine line ≠ .issueScoped) :
    strict (ofLine .issueScope line) =
      .fail (if Shape.ofLine line = .conventional then .required else .notIssueId) := by
  rw [strict, if_neg (mt occursIn_scope_iff_issueScoped.1 h), raw_ofLine]
  cases hshape : Shape.ofLine line with
  | issueScoped => exact absurd hshape h
  | conventional => rfl
  | unstructured => rfl

theorem strict_eq_pass_iff_shape {line : String} :
    strict (ofLine .issueScope line) = .pass ↔ Shape.ofLine line = .issueScoped := by
  rw [strict_eq_pass_iff, Shape.ofLine_eq_issueScoped_iff]

theorem strict_eq_required_iff_shape {line : String} :
    strict (ofLine .issueScope line) = .fail .required ↔ Shape.ofLine line = .conventional := by
  by_cases h : Shape.ofLine line = .issueScoped
  · simp [strict_eq_pass_iff_shape.2 h, h]
  · simp [strict_of_not_issueScoped h]

theorem strict_eq_notIssueId_iff_shape {line : String} :
    strict (ofLine .issueScope line) = .fail .notIssueId ↔
      Shape.ofLine line = .unstructured := by
  cases h : Shape.ofLine line with
  | issueScoped => simp [strict_eq_pass_iff_shape.2 h]
  | conventional => simp [strict_eq_required_iff_shape.2 h]
  | unstructured => simp [strict_of_not_issueScoped (h.trans_ne (by decide)), h]

/-- The strict variant accepts the lines with an issue scope, misses a scope in the lines without
one, and refuses all others; each class is the same by the ruling, by the shape, by what the grammar
reads, by form and by pattern, and the patterns are what their sources are read as. -/
theorem strict_language (line : String) :
    let h := ofLine .issueScope line
    [strict h = .pass, Shape.ofLine line = .issueScoped, h.scope.isSome,
      IsIssueScoped line.toList, issueScopedPattern.occursIn line].TFAE ∧
    [strict h = .fail .required, Shape.ofLine line = .conventional,
      IsUnscoped line.toList].TFAE ∧
    [strict h = .fail .notIssueId, Shape.ofLine line = .unstructured,
      Parts.ofLine? .issueScope line.toList = none,
      ¬ issueScopePattern.occursIn line].TFAE ∧
    (h.scope.any (Issue.occursIn ·.toList) ↔ Shape.ofLine line = .issueScoped) ∧
    Pattern.ofSource? issueScopedPattern.source = some issueScopedPattern ∧
    Pattern.ofSource? issueScopePattern.source = some issueScopePattern := by
  intro h
  refine ⟨?_, ?_, ?_, occursIn_scope_iff_issueScoped, ofSource?_issueScopedPattern,
    ofSource?_issueScopePattern⟩
  · tfae_have 1 ↔ 2 := strict_eq_pass_iff_shape
    tfae_have 2 ↔ 4 := Shape.ofLine_eq_issueScoped_iff.trans isIssueScoped_iff.symm
    tfae_have 3 ↔ 4 := isSome_scope_ofLine_iff.trans isIssueScoped_iff.symm
    tfae_have 5 ↔ 4 := occursIn_issueScopedPattern
    tfae_finish
  · tfae_have 1 ↔ 2 := strict_eq_required_iff_shape
    tfae_have 2 ↔ 3 := Shape.ofLine_eq_conventional_iff.trans isUnscoped_iff.symm
    tfae_finish
  · tfae_have 1 ↔ 2 := strict_eq_notIssueId_iff_shape
    tfae_have 2 ↔ 3 := Shape.ofLine_eq_unstructured_iff
    tfae_have 4 ↔ 3 := by
      rw [occursIn_issueScopePattern, ← isSome_ofLine?_iff, Bool.not_eq_true,
        Option.isSome_eq_false_iff, Option.isNone_iff_eq_none]
    tfae_finish

end ScopePolicy

end CommitPolicy
