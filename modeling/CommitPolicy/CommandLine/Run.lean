import CommitPolicy.CommandLine.Invocation
import CommitPolicy.CommandLine.RunError
import CommitPolicy.Explanation.Topic
import CommitPolicy.Files.Path
import CommitPolicy.History
import CommitPolicy.Host.Basic
import CommitPolicy.Pattern.Parser
import CommitPolicy.Rendering.Annotation
import CommitPolicy.Rendering.Markdown
import CommitPolicy.Text.Utf8

namespace CommitPolicy.CommandLine

variable {m : Type → Type} [Monad m]

def textOf (bytes : Except Files.Failure ByteArray) : Except Files.Failure String := do
  match Text.Utf8.decode? (← bytes) with
  | some text => .ok text
  | none => .error .notText

def writeFile (host : Host m) (path text : String) : m (Except WriteError Unit) := do
  let parent := Files.Path.parent path
  let made ← if parent.isEmpty then pure (.ok ()) else host.createDirectories parent
  match made with
  | .error cause => pure (.error (.directory parent cause))
  | .ok _ => do pure ((← host.writeFile path text).mapError (.file path))

/-- A configuration file that is not there, or that cannot be there, counts as an empty one. -/
def configOf (path : String) (bytes : Except Files.Failure ByteArray) : Except RunError String :=
  match bytes with
  | .error .notFound | .error .notDirectory | .error .nameTooLong => .ok ""
  | bytes => (textOf bytes).mapError (.config path)

def edited (text : String) : List Submission := [⟨none, text, .strip⟩]

def submissionsOfLog (answer : Except Files.Failure GitOutput) :
    Except RunError (List Submission) := do
  let answer ← answer.mapError .git
  if answer.succeeded then
    .ok (History.submissions (Text.Utf8.decodeLossy answer.output))
  else
    let errors := Text.trim (Text.Utf8.decodeLossy answer.errors).toList
    .error (.gitStatus (String.ofList errors))

def submissions (host : Host m) : Source → m (Except RunError (List Submission))
  | .text message => pure (.ok (edited message))
  | .file path => do
    pure (((textOf (← host.readFile path)).mapError (.messageFile path)).map edited)
  | .range start stop => do
    pure (submissionsOfLog (← host.runGit (History.logArguments start stop)))
  | .standardInput => do pure (((textOf (← host.readInput)).mapError .input).map edited)

def writeReport (host : Host m) (r : Report) : Option String → m (Except RunError Unit)
  | none => pure (.ok ())
  | some path => do pure ((← writeFile host path r.serialize).mapError .reportOut)

def writeMarkdown (host : Host m) (r : Report) : Option String → m (Except RunError Unit)
  | none => pure (.ok ())
  | some path => do
    let text := Rendering.markdown r.view
    pure ((← writeFile host path text).mapError (.markdownOut path))

def reportText (r : Report) : OutputFormat → String
  | .text => Rendering.terminal r.view
  | .json => r.serialize ++ "\n"

def checkedReport (host : Host m) (i : Invocation) (source : Source)
    (reportOut markdownOut : Option String) : ExceptT RunError m Report := do
  let config ← ExceptT.mk (do pure (configOf i.config (← host.readFile i.config)))
  let messages ← ExceptT.mk (submissions host source)
  let startedAt ← ExceptT.lift host.now
  let settings ← ExceptT.mk (pure ((Settings.ofFile config i.overrides).mapError .check))
  let finishedAt ← ExceptT.lift host.now
  let r := settings.check messages startedAt finishedAt
  ExceptT.mk (writeReport host r reportOut)
  ExceptT.mk (writeMarkdown host r markdownOut)
  pure r

/-- A check that could not be carried out still leaves a report, if one was asked for. -/
def reportFailure (host : Host m) (i : Invocation) (e : RunError) : Option String → m Unit
  | none => pure ()
  | some path => do
    let now ← host.now
    let r := Report.ofRuntimeError (i.overrides.profile.getD "unknown") e.message now
    let _ ← writeFile host path r.serialize

def runCheck (host : Host m) (i : Invocation) (source : Source) (format : OutputFormat)
    (reportOut markdownOut : Option String) : m UInt32 := do
  match ← (checkedReport host i source reportOut markdownOut).run with
  | .ok r => do
    host.print (reportText r format)
    pure r.verdict.exitCode
  | .error e => do
    reportFailure host i e reportOut
    host.printError ("commitguard error: " ++ e.message ++ "\n")
    pure 1

def savedReport (host : Host m) (path : String) : m (Except RunError Report) := do
  match textOf (← host.readFile path) with
  | .error cause => pure (.error (.reportFile path cause))
  | .ok text => pure ((Report.parse text).mapError .report)

def finish (host : Host m) : Except RunError String → m UInt32
  | .ok text => do
    host.print text
    pure 0
  | .error e => do
    host.printError (errorText e.chain)
    pure 1

def runMarkdown (host : Host m) (report : String) (output : Option String) : m UInt32 := do
  match ← savedReport host report with
  | .error e => finish host (.error e)
  | .ok r =>
    let text := Rendering.markdown r.view
    match output with
    | none => finish host (.ok text)
    | some path => do
      let written ← writeFile host path text
      finish host ((written.mapError (.output path)).map fun _ => "")

def runAnnotations (host : Host m) (report : String) (limit : Nat) : m UInt32 := do
  let r ← savedReport host report
  finish host (r.map fun r => Text.unlines (Rendering.annotations r.view limit))

def runExplain (host : Host m) (name : String) : m UInt32 := do
  match Topic.ofName? name with
  | some t => do
    host.print t.page
    pure 0
  | none => do
    host.printError (Topic.unknownPage name)
    pure 1

def usage : String := Text.unlines [
  "Commit message policy guard: conventional commits with issue-id scopes",
  "",
  "Usage: commitguard [--config FILE] [--profile NAME] [--variant NAME] [--fail-on LEVEL] COMMAND",
  "",
  "Commands:",
  "  check [--message TEXT | --file FILE | --edit [FILE] | --from REV [--to REV]]",
  "        [--format text|json] [--report-out FILE] [--markdown-out FILE]",
  "  md [--report FILE] [-o FILE]",
  "  annotations [--report FILE] [--max NUMBER]",
  "  explain NAME"]

def version : String := Report.Tool.current.name ++ " " ++ Report.Tool.current.version ++ "\n"

def execute (host : Host m) (i : Invocation) : m UInt32 :=
  match i.command with
  | .check source format reportOut markdownOut =>
    runCheck host i source format reportOut markdownOut
  | .markdown report output => runMarkdown host report output
  | .annotations report limit => runAnnotations host report limit
  | .explain name => runExplain host name

/-- Runs the program with these arguments. The exit code is 0 for success, 1 where a command could
not be carried out, and 2 for a failed check or a command line that is not understood. -/
def run (host : Host m) (args : List String) : m UInt32 :=
  match Invocation.parse args with
  | .ok i => execute host i
  | .error .usage => do
    host.printError usage
    pure 2
  | .error .help => do
    host.print usage
    pure 0
  | .error .version => do
    host.print version
    pure 0

end CommitPolicy.CommandLine
