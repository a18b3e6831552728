import CommitPolicy.Text.Pieces

namespace CommitPolicy.Files.Path

def dropIdle : List (List Char) → List (List Char)
  | [] => []
  | name :: rest =>
    if name.isEmpty ∨ (name = ['.'] ∧ ¬ rest.isEmpty) then dropIdle rest else name :: rest

/-- The path of the directory that holds the end of a path. It is empty where the path has a
single name. -/
def parent (path : String) : String :=
  let names := (Text.pieces '/' path.toList).reverse
  String.ofList (Text.join '/' (dropIdle ((dropIdle names).drop 1)).reverse)

def child (directory name : String) : String :=
  match directory.toList.getLast? with
  | none | some '/' => directory ++ name
  | some _ => directory ++ "/" ++ name

def names (path : String) : List String :=
  ((Text.pieces '/' path.toList).filter fun n => !n.isEmpty && n != ['.']).map String.ofList

/-- The path can only name a directory. -/
def namesDirectory (path : String) : Bool :=
  match (Text.pieces '/' path.toList).getLast? with
  | some last => last.isEmpty || last == ['.'] || last == ['.', '.']
  | none => false

def maxNameBytes : Nat := 255

def maxBytes : Nat := 4095

def isAbsolute (path : String) : Bool := path.toList.head? == some '/'

end CommitPolicy.Files.Path
