import CommitPolicy.CommandLine.Options
import CommitPolicy.Decimal.Digits
import CommitPolicy.Settings.Resolve

namespace CommitPolicy.CommandLine

inductive Source where
  | text (message : String)
  | file (path : String)
  /-- The commits after `start` up to `stop`. -/
  | range (start stop : String)
  | standardInput
deriving DecidableEq, Repr

inductive OutputFormat where
  | text
  | json
deriving DecidableEq, Repr

inductive Command where
  | check (source : Source) (format : OutputFormat) (reportOut markdownOut : Option String)
  | markdown (report : String) (output : Option String)
  | annotations (report : String) (limit : Nat)
  | explain (name : String)
deriving DecidableEq, Repr

structure Invocation where
  config : String
  overrides : Settings.Overrides
  command : Command
deriving DecidableEq, Repr

namespace Invocation

def option (name : String) : OptionSpec := ⟨name, none, none, fun _ => true⟩

def limit? (s : String) : Option Nat :=
  let digits := match s.toList with
    | '+' :: rest => rest
    | cs => cs
  let n := Decimal.digitsValue digits
  if digits.isEmpty ∨ ¬ digits.all Char.isDigit ∨ UInt64.size ≤ n then none else some n

def format? : String → Option OutputFormat
  | "text" => some .text
  | "json" => some .json
  | _ => none

def defaultConfig : String := "commitguard.toml"
def defaultReport : String := "artifacts/commitguard/report.json"
def defaultEdit : String := ".git/COMMIT_EDITMSG"
def defaultLimit : Nat := 10

def mainLevel : Level where
  options := [option "config", option "profile", option "variant", option "fail-on"]
  hasVersion := true
  operandLimit := none

/-- The options that say where messages come from; only one of them may be given. -/
def sourceOptions : List String := ["message", "file", "edit", "from"]

def checkLevel : Level where
  options := [option "message", option "file", ⟨"edit", none, some defaultEdit, fun _ => true⟩,
    option "from", option "to", ⟨"format", none, none, fun s => (format? s).isSome⟩,
    option "report-out", option "markdown-out"]
  hasVersion := false
  operandLimit := some 0

def markdownLevel : Level where
  options := [option "report", ⟨"output", some 'o', none, fun _ => true⟩]
  hasVersion := false
  operandLimit := some 0

def annotationsLevel : Level where
  options := [option "report", ⟨"max", none, none, fun s => (limit? s).isSome⟩]
  hasVersion := false
  operandLimit := some 0

def explainLevel : Level where
  options := []
  hasVersion := false
  operandLimit := some 1

def sourceOf (r : Reading) : Source :=
  match r.value? "message", (r.value? "file").or (r.value? "edit"), r.value? "from" with
  | some text, _, _ => .text text
  | none, some path, _ => .file path
  | none, none, some start => .range start ((r.value? "to").getD "HEAD")
  | none, none, none => .standardInput

def checkCommand (args : List String) : Except Stop Command := do
  let r ← checkLevel.read args
  if 1 < sourceOptions.countP r.has ∨ (r.has "to" ∧ ¬ r.has "from") then .error .usage
  else
    .ok (.check (sourceOf r) (((r.value? "format").bind format?).getD .text)
      (r.value? "report-out") (r.value? "markdown-out"))

def markdownCommand (args : List String) : Except Stop Command := do
  let r ← markdownLevel.read args
  .ok (.markdown ((r.value? "report").getD defaultReport) (r.value? "output"))

def annotationsCommand (args : List String) : Except Stop Command := do
  let r ← annotationsLevel.read args
  .ok (.annotations ((r.value? "report").getD defaultReport)
    (((r.value? "max").bind limit?).getD defaultLimit))

def explainCommand (args : List String) : Except Stop Command := do
  match (← explainLevel.read args).operands with
  | [name] => .ok (.explain name)
  | _ => .error .usage

def commandNames : List String := ["check", "md", "annotations", "explain", "help"]

def commandOf (name : String) (args : List String) : Except Stop Command :=
  match name with
  | "check" => checkCommand args
  | "md" => markdownCommand args
  | "annotations" => annotationsCommand args
  | "explain" => explainCommand args
  | "help" =>
    match args with
    | [] => .error .help
    | [topic] => .error (if topic ∈ commandNames then .help else .usage)
    | _ => .error .usage
  | _ => .error .usage

def parse (args : List String) : Except Stop Invocation := do
  let r ← mainLevel.read args
  match r.operands with
  | [] => .error .usage
  | name :: rest =>
    .ok {
      config := (r.value? "config").getD defaultConfig
      overrides := ⟨r.value? "profile", r.value? "variant", r.value? "fail-on"⟩
      command := ← commandOf name rest }

end Invocation

end CommitPolicy.CommandLine
