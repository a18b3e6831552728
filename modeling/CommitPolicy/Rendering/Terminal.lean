import CommitPolicy.Report.View
import CommitPolicy.Text.Line

namespace CommitPolicy.Rendering

structure Group where
  commit : Option String
  header : Option String
deriving DecidableEq, Repr

def groupOf (i : View.Item) : Group := ⟨i.commit, i.header⟩

def Group.inputLine? : Group → Option String
  | ⟨some commit, some header⟩ => some ("⧗   " ++ commit ++ ": " ++ header)
  | ⟨none, some header⟩ => some ("⧗   input: " ++ header)
  | ⟨some commit, none⟩ => some ("⧗   " ++ commit)
  | ⟨none, none⟩ => none

def errorSymbol : String := "✖"
def warningSymbol : String := "⚠"
def infoSymbol : String := "ⓘ"
def okSymbol : String := "✔"

def severitySymbol : Severity → String
  | .error => errorSymbol
  | .warning => warningSymbol
  | .info => infoSymbol

def verdictSymbol : Verdict → String
  | .fail => errorSymbol
  | .warn => warningSymbol
  | .pass | .skip => okSymbol

def itemLine (i : View.Item) : String :=
  severitySymbol i.severity ++ "   " ++ i.message ++
    match i.checkId with
    | some checkId => " [" ++ checkId ++ "]"
    | none => ""

/-- What stands before the line of an item of group `g`, after an item of group `previous`. -/
def opening (previous : Option Group) (g : Group) : List String :=
  if previous = some g then []
  else (if previous.isSome then [""] else []) ++ g.inputLine?.toList

def itemLines : Option Group → List View.Item → List String
  | _, [] => []
  | previous, i :: rest =>
    opening previous (groupOf i) ++ itemLine i :: itemLines (some (groupOf i)) rest

def number (n : UInt32) : String := toString n.toNat

def problemLine (v : View) : String :=
  verdictSymbol v.verdict ++ "   found " ++ number v.summary.errors ++ " problems, "
    ++ number v.summary.warnings ++ " warnings"

def runLine (s : Report.Summary) : String :=
  infoSymbol ++ "   checked " ++ number s.messagesChecked ++ " message(s), ignored "
    ++ number s.messagesIgnored ++ " (profile " ++ s.profile ++ ", variant " ++ s.variant ++ ")"

def terminalLines (v : View) : List String :=
  itemLines none v.items ++ (if v.items.isEmpty then [] else [""])
    ++ [problemLine v, runLine v.summary]

def terminal (v : View) : String := Text.unlines (terminalLines v)

end CommitPolicy.Rendering
