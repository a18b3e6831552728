import CommitPolicy.Header.Basic

namespace CommitPolicy.Header

inductive Shape where
  /-- `type(ID)!?: subject` -/
  | issueScoped
  /-- `type!?: subject`, without a scope -/
  | conventional
  | unstructured
deriving DecidableEq, Repr

def Shape.ofLine (line : String) : Shape :=
  match Parts.ofLine? .issueScope line.toList with
  | some p => if p.scope.isSome then .issueScoped else .conventional
  | none => .unstructured

/-- A line `revert(ID)!?: header` and the header it wraps, read with the issue-scope grammar. -/
structure Revert where
  issue : String
  breaking : Bool
  reverted : Header
deriving DecidableEq, Repr

namespace Revert

def keyword : String := "revert"

def ofLine? (line : String) : Option Revert :=
  match Parts.ofLine? .issueScope line.toList with
  | some ⟨type, some issue, breaking, inner⟩ =>
    if type = keyword.toList then
      some ⟨String.ofList issue, breaking, Header.ofLine .issueScope (String.ofList inner)⟩
    else none
  | _ => none

def wrapsFullHeader (r : Revert) : Bool := r.reverted.scope.isSome

end Revert

end CommitPolicy.Header
