import CommitPolicy.Scope.Reason

namespace CommitPolicy

/-- The checks, in the order in which they run and report. -/
inductive CheckId where
  | bodyLeadingBlank
  | footerLeadingBlank
  | headerMaxLength
  | subjectCase
  | subjectFullStop
  | typeCase
  | typeEnum
  | scopeIssueId
deriving DecidableEq, Repr, Inhabited

namespace CheckId

def all : List CheckId :=
  [.bodyLeadingBlank, .footerLeadingBlank, .headerMaxLength, .subjectCase, .subjectFullStop,
    .typeCase, .typeEnum, .scopeIssueId]

def name : CheckId → String
  | .bodyLeadingBlank => "body.leading_blank"
  | .footerLeadingBlank => "footer.leading_blank"
  | .headerMaxLength => "header.max_length"
  | .subjectCase => "subject.case"
  | .subjectFullStop => "subject.full_stop"
  | .typeCase => "type.case"
  | .typeEnum => "type.enum"
  | .scopeIssueId => "scope.issue_id"

def ofName? (name : String) : Option CheckId := all.find? (·.name == name)

end CheckId

inductive Code where
  | bodyMissingLeadingBlank
  | footerMissingLeadingBlank
  | headerTooLong
  | subjectForbiddenCase
  | subjectFullStop
  | typeNotLowerCase
  | typeNotAllowed
  | scope (reason : ScopeReason)
deriving DecidableEq, Repr, Inhabited

namespace Code

def all : List Code :=
  [.bodyMissingLeadingBlank, .footerMissingLeadingBlank, .headerTooLong, .subjectForbiddenCase,
    .subjectFullStop, .typeNotLowerCase, .typeNotAllowed] ++ ScopeReason.all.map .scope

def check : Code → CheckId
  | .bodyMissingLeadingBlank => .bodyLeadingBlank
  | .footerMissingLeadingBlank => .footerLeadingBlank
  | .headerTooLong => .headerMaxLength
  | .subjectForbiddenCase => .subjectCase
  | .subjectFullStop => .subjectFullStop
  | .typeNotLowerCase => .typeCase
  | .typeNotAllowed => .typeEnum
  | .scope _ => .scopeIssueId

def name : Code → String
  | .bodyMissingLeadingBlank => "body_missing_leading_blank"
  | .footerMissingLeadingBlank => "footer_missing_leading_blank"
  | .headerTooLong => "header_too_long"
  | .subjectForbiddenCase => "subject_forbidden_case"
  | .subjectFullStop => "subject_full_stop"
  | .typeNotLowerCase => "type_not_lower_case"
  | .typeNotAllowed => "type_not_allowed"
  | .scope .notUppercase => "scope_not_uppercase"
  | .scope .revertMissingFullHeader => "revert_missing_full_header"
  | .scope .required => "scope_required"
  | .scope .revertMissingId => "revert_missing_id"
  | .scope .subjectRequired => "subject_required"
  | .scope .notIssueId => "scope_not_issue_id"

def ofName? (name : String) : Option Code := all.find? (·.name == name)

end Code

def CheckId.codes (c : CheckId) : List Code := Code.all.filter (·.check = c)

def ScopeReason.ofCodeName? (name : String) : Option ScopeReason :=
  ScopeReason.all.find? fun r => (Code.scope r).name == name

theorem CheckId.mem_all (c : CheckId) : c ∈ CheckId.all := by cases c <;> decide

theorem Code.mem_all (c : Code) : c ∈ Code.all := by
  cases c with
  | scope r => cases r <;> decide
  | _ => decide

end CommitPolicy
