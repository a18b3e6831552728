import CommitPolicy.Batch
import CommitPolicy.Files.Failure
import CommitPolicy.Report.Json

namespace CommitPolicy.CommandLine

inductive WriteError where
  | directory (path : String) (cause : Files.Failure)
  | file (path : String) (cause : Files.Failure)
deriving DecidableEq, Repr

def WriteError.chain : WriteError → List String
  | directory path cause => ["create directory: " ++ path, cause.message]
  | file path cause => ["write report: " ++ path, cause.message]

inductive RunError where
  | config (path : String) (cause : Files.Failure)
  | messageFile (path : String) (cause : Files.Failure)
  | input (cause : Files.Failure)
  | git (cause : Files.Failure)
  | gitStatus (errors : String)
  | check (cause : CheckError)
  | reportOut (cause : WriteError)
  | markdownOut (path : String) (cause : WriteError)
  | reportFile (path : String) (cause : Files.Failure)
  | report (cause : Report.ReadError)
  | output (path : String) (cause : WriteError)
deriving DecidableEq, Repr

namespace RunError

/-- The steps that failed, the outermost first and the cause last. -/
def chain : RunError → List String
  | config path cause => ["read config: " ++ path, cause.message]
  | messageFile path cause => ["read commit message: " ++ path, cause.message]
  | input cause => ["read commit message from stdin", cause.message]
  | git cause => ["spawn git", cause.message]
  | gitStatus errors => ["git log returned non-zero exit status: " ++ errors]
  | check cause => [cause.message]
  | reportOut cause => "write report json" :: cause.chain
  | markdownOut path cause => "write markdown" :: ("write text: " ++ path) :: cause.chain
  | reportFile path cause => ["read report: " ++ path, cause.message]
  | report cause => [cause.message]
  | output path cause => "write markdown output" :: ("write text: " ++ path) :: cause.chain

def message (e : RunError) : String := ": ".intercalate e.chain

end RunError

def indentRest (indent : String) (text : String) : String :=
  ("\n" ++ indent).intercalate ((Text.pieces '\n' text.toList).map String.ofList)

def causeLine (n : Nat) (cause : String) : String :=
  let number := toString n
  String.ofList (List.replicate (5 - number.length) ' ') ++ number ++ ": "
    ++ indentRest "       " cause

/-- A chain of steps as it is printed when a program ends: causes are numbered if there are
several. -/
def errorText : List String → String
  | [] => ""
  | [step] => Text.unlines ["Error: " ++ step]
  | [step, cause] =>
    Text.unlines ["Error: " ++ step, "", "Caused by:", "    " ++ indentRest "    " cause]
  | step :: causes =>
    Text.unlines (["Error: " ++ step, "", "Caused by:"]
      ++ causes.mapIdx fun n cause => causeLine n cause)

end CommitPolicy.CommandLine
