import CommitPolicy.Header.Basic

namespace CommitPolicy

inductive Variant where
  | flexible
  | strict
deriving DecidableEq, Repr, Inhabited

namespace Variant

def name : Variant → String
  | .flexible => "flexible"
  | .strict => "strict"

def ofName? : String → Option Variant
  | "flexible" => some .flexible
  | "strict" => some .strict
  | _ => none

def grammar : Variant → Grammar
  | .flexible => .anyScope
  | .strict => .issueScope

end Variant

inductive ScopeReason where
  | notUppercase
  | revertMissingFullHeader
  | required
  | revertMissingId
  | subjectRequired
  | notIssueId
deriving DecidableEq, Repr, Inhabited

namespace ScopeReason

def all : List ScopeReason :=
  [.notUppercase, .revertMissingFullHeader, .required, .revertMissingId, .subjectRequired,
    .notIssueId]

/-- The variants that can give this reason. -/
def variants : ScopeReason → List Variant
  | .required | .notIssueId => [.flexible, .strict]
  | _ => [.flexible]

def message : ScopeReason → String
  | .notUppercase => "scope must be upper-case"
  | .revertMissingFullHeader =>
    "revert commits should have the full commit name that is being reverted"
  | .required => "a scope must be set"
  | .revertMissingId =>
    "revert commits should have the associated JIRA ID includes in the revert scope"
  | .subjectRequired => "a subject must be set"
  | .notIssueId => "scope must be a JIRA issue ID"

end ScopeReason

inductive ScopeRuling where
  | pass
  | fail (reason : ScopeReason)
deriving DecidableEq, Repr, Inhabited

end CommitPolicy
