import CommitPolicy.Lint
import CommitPolicy.Report.Basic
import CommitPolicy.Settings.Resolve

namespace CommitPolicy

structure Submission where
  commit : Option String
  text : String
  cleanup : Cleanup
deriving DecidableEq, Repr, Inhabited

namespace Submission

def message (s : Submission) (g : Grammar) : Message :=
  (Message.ofText s.cleanup g s.text).withCommit s.commit

def lint (s : Submission) (settings : Settings) : LintResult :=
  settings.evaluate (s.message settings.variant.grammar)

end Submission

namespace Settings

/-- What a run of results came to; nothing counts as checked that was ignored. -/
def summary (s : Settings) (results : List LintResult) : Report.Summary :=
  let ignored : UInt32 := .ofNat (results.countP (·.ignored))
  let counts : SeverityCounts := .ofSeverities ((results.flatMap (·.findings)).map (·.severity))
  { profile := s.profile
    variant := s.variant.name
    messagesChecked := .ofNat results.length - ignored
    messagesIgnored := ignored
    errors := counts.error
    warnings := counts.warning }

def report (s : Settings) (results : List LintResult) (startedAt finishedAt : Timestamp) :
    Report :=
  let findings := results.flatMap (·.findings)
  let summary := s.summary results
  { tool := .current
    startedAt := startedAt
    finishedAt := finishedAt
    verdict :=
      if summary.messagesChecked = 0 then .skip
      else .ofSeverities s.failOn (findings.map (·.severity))
    findings := findings
    summary := summary }

def check (s : Settings) (submissions : List Submission) (startedAt finishedAt : Timestamp) :
    Report :=
  s.report (submissions.map (·.lint s)) startedAt finishedAt

end Settings

inductive CheckError where
  | unreadableConfig
  | unresolved (e : Settings.ResolveError)
deriving DecidableEq, Repr

def CheckError.message : CheckError → String
  | unreadableConfig => "parse config"
  | unresolved e => "resolve config: " ++ e.message

def Settings.ofFile [Pattern.Compiler] (config : String) (o : Settings.Overrides) :
    Except CheckError Settings :=
  match Settings.Document.ofFile? config with
  | none => .error .unreadableConfig
  | some d => (Settings.resolve d o).mapError .unresolved

def checkMessages [Pattern.Compiler] (config : String) (o : Settings.Overrides)
    (submissions : List Submission) (startedAt finishedAt : Timestamp) : Except CheckError Report :=
  (Settings.ofFile config o).map fun s => s.check submissions startedAt finishedAt

end CommitPolicy
