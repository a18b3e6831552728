import CommitPolicy.Rendering.Terminal

namespace CommitPolicy.Rendering.Markdown

def verdictWord : Verdict → String
  | .pass => "PASS"
  | .warn => "WARN"
  | .fail => "FAIL"
  | .skip => "SKIP"

def severityWord : Severity → String
  | .info => "INFO"
  | .warning => "WARN"
  | .error => "ERROR"

def quoted (s : String) : String := "\x60" ++ s ++ "\x60"

def place (i : View.Item) : List String :=
  (i.commit.map fun c => "commit " ++ quoted c).toList
    ++ (i.line.map fun n => "line " ++ number n).toList

def placeNote (i : View.Item) : String :=
  if (place i).isEmpty then "" else " (" ++ ", ".intercalate (place i) ++ ")"

def titleLine (i : View.Item) : String :=
  "- [" ++ severityWord i.severity ++ "] " ++ quoted (i.checkId.getD "") ++ " / " ++ quoted i.code
    ++ ": " ++ i.message ++ placeNote i

def itemLines (i : View.Item) : List String :=
  titleLine i ::
    ((i.header.map fun h => "  - header: " ++ quoted h).toList
      ++ (i.help.map fun h => "  - help: " ++ h).toList
      ++ (i.url.map fun u => "  - url: " ++ u).toList)

def summaryLines (v : View) : List String :=
  let s := v.summary
  ["# Commitguard report",
    "",
    "- Verdict: **" ++ verdictWord v.verdict ++ "**",
    "- Profile: " ++ quoted s.profile ++ " (variant " ++ quoted s.variant ++ ")",
    "- Messages: " ++ number s.messagesChecked ++ " checked / " ++ number s.messagesIgnored
      ++ " ignored",
    "- Findings: " ++ number s.errors ++ " error(s), " ++ number s.warnings ++ " warning(s)",
    ""]

def findingLines (v : View) : List String :=
  if v.items.isEmpty then ["No findings."]
  else "## Findings" :: "" :: v.items.flatMap itemLines

end Markdown

def markdown (v : View) : String :=
  Text.unlines (Markdown.summaryLines v ++ Markdown.findingLines v)

end CommitPolicy.Rendering
