import CommitPolicy.Header.Shape
import CommitPolicy.Scope.Reason
import CommitPolicy.Text.Letter

namespace CommitPolicy

inductive ScopeClass where
  | absent
  | notUppercase
  /-- Upper-case, with an identifier in it. -/
  | issueId
  /-- Upper-case, without an identifier. -/
  | other
deriving DecidableEq, Repr

namespace ScopeClass

def ofScope : Option String → ScopeClass
  | none => .absent
  | some s =>
    if Text.upperCase s.toList ≠ s.toList then .notUppercase
    else if Issue.occursIn s.toList then .issueId
    else .other

end ScopeClass

namespace ScopePolicy

/-- A scope that is not upper-case is accepted only where the longest scope ran into the header
that a revert wraps. -/
def ruleWrapped (raw : String) : ScopeRuling :=
  if Header.Revert.keyword.toList.isPrefixOf raw.toList then
    match Header.Revert.ofLine? raw with
    | some revert => if revert.wrapsFullHeader then .pass else .fail .notUppercase
    | none => .fail .notUppercase
  else .fail .notUppercase

def ruleUnidentified (h : Header) : ScopeRuling :=
  match Header.Shape.ofLine h.raw with
  | .issueScoped => .pass
  | .conventional => .fail (if h.isRevert then .revertMissingId else .required)
  | .unstructured => .fail (if h.subject.isNone then .subjectRequired else .notIssueId)

def flexible (h : Header) : ScopeRuling :=
  match ScopeClass.ofScope h.scope with
  | .notUppercase => ruleWrapped h.raw
  | .issueId => if h.isRevert then .fail .revertMissingFullHeader else .pass
  | .absent | .other => ruleUnidentified h

def strict (h : Header) : ScopeRuling :=
  if h.scope.any (Issue.occursIn ·.toList) then .pass
  else match Header.Shape.ofLine h.raw with
    | .issueScoped => .pass
    | .conventional => .fail .required
    | .unstructured => .fail .notIssueId

def rule : Variant → Header → ScopeRuling
  | .flexible => flexible
  | .strict => strict

end ScopePolicy

end CommitPolicy
