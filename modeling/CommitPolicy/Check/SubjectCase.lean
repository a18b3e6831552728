import CommitPolicy.Text.Blank
import CommitPolicy.Text.Quoted
import CommitPolicy.Text.Word

namespace CommitPolicy

inductive SubjectCase where
  | sentence
  | start
  | pascal
  | upper
deriving DecidableEq, Repr

namespace SubjectCase

def all : List SubjectCase := [.sentence, .start, .pascal, .upper]

def name : SubjectCase → String
  | .sentence => "sentence-case"
  | .start => "start-case"
  | .pascal => "pascal-case"
  | .upper => "upper-case"

def transform : SubjectCase → List Char → List Char
  | .sentence, cs => Text.capitalize cs
  | .start, cs => Text.join ' ' ((Text.words cs).map Text.capitalize)
  | .pascal, cs => (Text.words cs).flatMap fun w => Text.capitalize (Text.lowerCase w)
  | .upper, cs => Text.upperCase cs

/-- The text already is in this case, and does not start with a digit. -/
def holds (k : SubjectCase) (cs : List Char) : Bool :=
  match k.transform cs with
  | [] => false
  | c :: rest => !c.isDigit && (c :: rest) == cs

def unquoted (subject : List Char) : List Char := Text.trim (Text.dropQuoted subject)

/-- The cases in which a subject is written. A subject that does not start with an ASCII letter is
in none. -/
def casesOf (subject : List Char) : List SubjectCase :=
  match subject with
  | [] => []
  | c :: _ => if c.isAlpha then all.filter (·.holds (unquoted subject)) else []

end SubjectCase

end CommitPolicy
