import CommitPolicy.Check.Code

namespace CommitPolicy

structure Explanation where
  title : String
  description : String
  remediation : String
  before : String
  after : String
deriving DecidableEq, Repr, Inhabited

namespace Explanation

def lines (ls : List String) : String := "\n".intercalate ls

def bodyLeadingBlank : Explanation where
  title := "Body Leading Blank Line"
  description := lines [
      "Requires an empty line between the header and the body of a commit message.",
      "",
      "Git and most tooling treat the first paragraph of a message as its summary.",
      "Without the blank line the body is folded into the header by \x60git log --oneline\x60,",
      "\x60git shortlog\x60 and patch-based workflows."]
  remediation := "Insert an empty line after the header before writing the body."
  before := lines [
      "feat(RCD-1): add export endpoint",
      "The endpoint streams CSV rows."]
  after := lines [
      "feat(RCD-1): add export endpoint",
      "",
      "The endpoint streams CSV rows."]

def footerLeadingBlank : Explanation where
  title := "Footer Leading Blank Line"
  description := lines [
      "Requires an empty line before the footer of a commit message.",
      "",
      "The footer starts at the first \x60BREAKING CHANGE:\x60 note or issue reference",
      "(\x60Closes #12\x60, \x60Fixes RCD-4\x60). Changelog generators only recognize the footer",
      "when it is its own paragraph."]
  remediation := "Insert an empty line before the first footer line."
  before := lines [
      "feat(RCD-1): drop v1 routes",
      "",
      "Routes were deprecated.",
      "BREAKING CHANGE: v1 is gone"]
  after := lines [
      "feat(RCD-1): drop v1 routes",
      "",
      "Routes were deprecated.",
      "",
      "BREAKING CHANGE: v1 is gone"]

def headerMaxLength : Explanation where
  title := "Header Maximum Length"
  description := lines [
      "Limits the header line to 72 characters (configurable with \x60header_max_length\x60).",
      "",
      "Long headers are truncated in \x60git log\x60, pull request titles and terminal UIs."]
  remediation := "Shorten the subject and move details into the body."
  before := "test(RCD-1): that its an error when there is ia realllllllllllllllllllllly long header"
  after := lines [
      "test(RCD-1): reject overlong headers",
      "",
      "The lint now reports headers over 72 characters."]

def subjectCase : Explanation where
  title := "Subject Case"
  description := lines [
      "Forbids sentence-case, start-case, pascal-case and upper-case subjects.",
      "",
      "Subjects read as a continuation of the type (\x60feat: add ...\x60), so they start",
      "lower-case. Quoted and back-ticked segments are ignored, and subjects that do not",
      "start with a letter are not checked."]
  remediation := "Start the subject with a lower-case word."
  before := "fix(RCD-3): Handle empty payloads"
  after := "fix(RCD-3): handle empty payloads"

def subjectFullStop : Explanation where
  title := "Subject Full Stop"
  description := lines [
      "Forbids a trailing \x60.\x60 at the end of the subject.",
      "",
      "The header is a title, not a sentence."]
  remediation := "Remove the trailing full stop."
  before := "docs(RCD-5): explain retry settings."
  after := "docs(RCD-5): explain retry settings"

def typeCase : Explanation where
  title := "Type Case"
  description := "Requires the commit type to be lower-case."
  remediation := "Write the type in lower-case letters."
  before := "FEAT(RCD-1): add export endpoint"
  after := "feat(RCD-1): add export endpoint"

def typeEnum : Explanation where
  title := "Type Enumeration"
  description := lines [
      "Requires the commit type to be one of the configured types.",
      "",
      "Default types: build, chore, ci, docs, feat, fix, perf, refactor, revert, style,",
      "test. Release tooling derives version bumps and changelog sections from the type."]
  remediation := lines [
      "Pick the type that best describes the change, or extend \x60types\x60 in",
      "\x60commitguard.toml\x60 if your team agreed on a new one."]
  before := "no: no is not not an invalid commit type"
  after := "chore(RCD-9): bump toolchain"

def scopeIssueId : Explanation where
  title := "Scope Is An Issue ID"
  description := lines [
      "Requires every header to carry an issue tracker identifier as its scope, such as",
      "\x60feat(RCD-1): ...\x60. An identifier is one or more upper-case letters, a hyphen and",
      "one or more digits.",
      "",
      "Revert commits must name the issue in their own scope and wrap the complete header",
      "of the reverted commit: \x60revert(RCD-2): feat(RCD-1): add export endpoint\x60. Breaking",
      "markers (\x60!\x60) are allowed on both the revert and the wrapped header.",
      "",
      "Two variants exist. \x60flexible\x60 accepts any parenthesized scope at parse time and",
      "reports precise diagnostics (upper-case, missing scope, revert shape). \x60strict\x60",
      "only recognizes identifier-shaped scopes and reports fewer, coarser diagnostics."]
  remediation := lines [
      "Put the issue identifier in parentheses after the type. For reverts, keep the",
      "original header intact after \x60revert(<ID>): \x60."]
  before := "feat: add export endpoint"
  after := "feat(RCD-1): add export endpoint"

end Explanation

def CheckId.explanation : CheckId → Explanation
  | .bodyLeadingBlank => .bodyLeadingBlank
  | .footerLeadingBlank => .footerLeadingBlank
  | .headerMaxLength => .headerMaxLength
  | .subjectCase => .subjectCase
  | .subjectFullStop => .subjectFullStop
  | .typeCase => .typeCase
  | .typeEnum => .typeEnum
  | .scopeIssueId => .scopeIssueId

def ScopeReason.explanation : ScopeReason → Explanation
  | .notUppercase => { Explanation.scopeIssueId with
      title := "Scope Must Be Upper-Case"
      before := "test(rcd-1): a valid commit message"
      after := "test(RCD-1): a valid commit message" }
  | .revertMissingFullHeader => { Explanation.scopeIssueId with
      title := "Revert Must Wrap The Full Header"
      before := "revert(RCD-1): a valid commit message"
      after := "revert(RCD-2): feat(RCD-1): a valid commit message" }
  | .required => { Explanation.scopeIssueId with
      title := "Scope Required" }
  | .revertMissingId => { Explanation.scopeIssueId with
      title := "Revert Scope Must Be An Issue ID"
      before := "revert: test(RCD-1): a valid commit message"
      after := "revert(RCD-2): test(RCD-1): a valid commit message" }
  | .subjectRequired => { Explanation.scopeIssueId with
      title := "Subject Required"
      before := "test(RCD-1):"
      after := "test(RCD-1): cover the empty payload case" }
  | .notIssueId => { Explanation.scopeIssueId with
      title := "Scope Is Not An Issue ID"
      before := "feat(HEYA): add export endpoint"
      after := "feat(HEYA-12): add export endpoint" }

/-- A code is explained as its check is, but each scope reason has its own title. -/
def Code.explanation : Code → Explanation
  | .scope reason => reason.explanation
  | code => code.check.explanation

end CommitPolicy
