import CommitPolicy.Check.SubjectCase
import CommitPolicy.Json.Basic
import CommitPolicy.Message.Basic
import CommitPolicy.Scope.Policy
import CommitPolicy.Settings.Basic

namespace CommitPolicy

structure Objection where
  code : Code
  message : String
  /-- The line it points to, from one. -/
  line : Nat
  help : String
  data : Json
deriving Inhabited

namespace Check

/-- What most checks report about the header. Fields are sorted by name. -/
def headerFields (h : Header) : List (String × Json) :=
  [("header", .string h.raw), ("scope", .ofText? h.scope), ("subject", .ofText? h.subject),
    ("type", .ofText? h.type)]

def headerData (h : Header) : Json := .object (headerFields h)

def bodyLeadingBlank (m : Message) : Option Objection :=
  if m.body.isSome && m.lineAfterHeader? != some "" then
    some ⟨.bodyMissingLeadingBlank, "body must have leading blank line", 2,
      "Insert an empty line between the header and the body.", headerData m.header⟩
  else none

def footerLeadingBlank (m : Message) : Option Objection :=
  match m.footerStart, m.footer with
  | some start, some _ =>
    if m.lines[start - 1]? != some "" then
      some ⟨.footerMissingLeadingBlank, "footer must have leading blank line", start + 1,
        "Insert an empty line before the first footer line.", headerData m.header⟩
    else none
  | _, _ => none

def headerMaxLength (s : Settings) (m : Message) : Option Objection :=
  let length := m.header.raw.toList.length
  if s.headerMaxLength < length then
    some ⟨.headerTooLong,
      "header must not be longer than " ++ toString s.headerMaxLength
        ++ " characters, current length is " ++ toString length,
      1, "Shorten the subject and move details into the body.",
      .object [("header", .string m.header.raw), ("length", .nat length),
        ("max_length", .nat s.headerMaxLength)]⟩
  else none

def subjectCase (m : Message) : Option Objection := do
  let subject ← m.header.subject
  match SubjectCase.casesOf subject.toList with
  | [] => none
  | cases =>
    some ⟨.subjectForbiddenCase,
      "subject must not be " ++ ", ".intercalate (SubjectCase.all.map (·.name)), 1,
      "Start the subject with a lower-case word.",
      .object [("header", .string m.header.raw),
        ("matched_cases", .strings (cases.map (·.name))),
        ("scope", .ofText? m.header.scope), ("subject", .ofText? m.header.subject),
        ("type", .ofText? m.header.type)]⟩

def subjectFullStop (m : Message) : Option Objection := do
  let subject ← m.header.subject
  if subject.toList.getLast? = some '.' then
    some ⟨.subjectFullStop, "subject may not end with full stop", 1,
      "Remove the trailing \x60.\x60 from the subject.", headerData m.header⟩
  else none

def typeCase (m : Message) : Option Objection := do
  let type ← m.header.type
  if Text.lowerCase type.toList ≠ type.toList then
    some ⟨.typeNotLowerCase, "type must be lower-case", 1,
      "Write the commit type in lower-case letters.", headerData m.header⟩
  else none

def typeEnum (s : Settings) (m : Message) : Option Objection := do
  let type ← m.header.type
  if type ∈ s.types then none
  else
    some ⟨.typeNotAllowed, "type must be one of [" ++ ", ".intercalate s.types ++ "]", 1,
      "Use one of the configured commit types, or extend \x60types\x60 in commitguard.toml.",
      headerData m.header⟩

def scopeIssueId (s : Settings) (m : Message) : Option Objection :=
  match ScopePolicy.rule s.variant m.header with
  | .pass => none
  | .fail reason =>
    some ⟨.scope reason, reason.message, 1,
      "Use \x60type(ISSUE-123): subject\x60; reverts wrap the full reverted header, e.g. "
        ++ "\x60revert(ISSUE-124): feat(ISSUE-123): subject\x60.",
      .object (headerFields m.header ++ [("variant", .string s.variant.name)])⟩

end Check

def CheckId.inspect (c : CheckId) (s : Settings) (m : Message) : Option Objection :=
  match c with
  | .bodyLeadingBlank => Check.bodyLeadingBlank m
  | .footerLeadingBlank => Check.footerLeadingBlank m
  | .headerMaxLength => Check.headerMaxLength s m
  | .subjectCase => Check.subjectCase m
  | .subjectFullStop => Check.subjectFullStop m
  | .typeCase => Check.typeCase m
  | .typeEnum => Check.typeEnum s m
  | .scopeIssueId => Check.scopeIssueId s m

end CommitPolicy
