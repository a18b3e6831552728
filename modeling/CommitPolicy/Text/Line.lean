import CommitPolicy.Text.Pieces

namespace CommitPolicy.Text

def dropReturn (line : List Char) : List Char :=
  if line.getLast? = some '\r' then line.dropLast else line

/-- All pieces but the last were ended by a line feed; an empty last piece is no line. -/
def linesOfPieces : List (List Char) → List (List Char)
  | [] => []
  | [last] => if last.isEmpty then [] else [last]
  | piece :: rest => dropReturn piece :: linesOfPieces rest

/-- A line ends at a line feed, or at the end of a text that does not end in one; a carriage return
right before the line feed belongs to the line ending. -/
def lines (cs : List Char) : List (List Char) := linesOfPieces (pieces '\n' cs)

def linesOf (s : String) : List String := (lines s.toList).map String.ofList

def unlines (ls : List String) : String :=
  String.ofList (ls.flatMap fun line => line.toList ++ ['\n'])

end CommitPolicy.Text
