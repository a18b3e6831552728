import CommitPolicy.Rendering.Terminal

namespace CommitPolicy.Rendering

namespace Annotation

def escapeDataChar (c : Char) : List Char :=
  match c with
  | '%' => ['%', '2', '5']
  | '\r' => ['%', '0', 'D']
  | '\n' => ['%', '0', 'A']
  | c => [c]

/-- In a property a colon and a comma are escaped too. -/
def escapePropertyChar (c : Char) : List Char :=
  match c with
  | ':' => ['%', '3', 'A']
  | ',' => ['%', '2', 'C']
  | c => escapeDataChar c

def escapeData (s : String) : String := String.ofList (s.toList.flatMap escapeDataChar)

def escapeProperty (s : String) : String := String.ofList (s.toList.flatMap escapePropertyChar)

def level : Severity → String
  | .error => "error"
  | .warning => "warning"
  | .info => "notice"

def properties (i : View.Item) : List String :=
  (i.line.map fun n => "line=" ++ number n).toList
    ++ (i.commit.map fun c => "title=" ++ escapeProperty ("commit " ++ c)).toList

/-- What an annotation says; an item without a check is one of the program as a whole. -/
def text (i : View.Item) : String :=
  "[" ++ i.checkId.getD Report.Tool.current.name ++ ":" ++ i.code ++ "] " ++ i.message

def command (i : View.Item) : String :=
  "::" ++ level i.severity
    ++ (if (properties i).isEmpty then "" else " " ++ ",".intercalate (properties i))
    ++ "::" ++ escapeData (text i)

end Annotation

def annotations (v : View) (limit : Nat) : List String :=
  (v.items.map Annotation.command).take limit

end CommitPolicy.Rendering
