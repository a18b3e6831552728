import CommitPolicy.Toml.Scalar
import CommitPolicy.Toml.Text
import CommitPolicy.Toml.Tree

namespace CommitPolicy.Toml

def isAllowed (c : Char) : Bool := c == '\t' || c == '\n' || (0x20 ≤ c.toNat && c != '\x7f')

def unifyLineEnds : List Char → List Char
  | '\r' :: '\n' :: rest => '\n' :: unifyLineEnds rest
  | c :: rest => c :: unifyLineEnds rest
  | [] => []

def dropByteOrderMark : List Char → List Char
  | '\uFEFF' :: rest => rest
  | cs => cs

def characters? (text : String) : Option (List Char) :=
  let cs := unifyLineEnds (dropByteOrderMark text.toList)
  if cs.all isAllowed then some cs else none

def skipSpaces (cs : List Char) : List Char := cs.dropWhile isSpace

def skipComment : List Char → List Char
  | '#' :: rest => rest.dropWhile (· != '\n')
  | cs => cs

def skipLines (inComment : Bool) : List Char → List Char
  | [] => []
  | c :: cs =>
    if inComment then skipLines (c != '\n') cs
    else if isSpaceOrLine c then skipLines false cs
    else if c = '#' then skipLines true cs
    else c :: cs

def isBareKey (c : Char) : Bool := c.isAlphanum || c == '_' || c == '-'

def simpleKey? (cs : List Char) : Option (String × List Char) :=
  let bare := cs.takeWhile isBareKey
  if bare.isEmpty then shortString? cs
  else some (String.ofList bare, cs.dropWhile isBareKey)

def maxKeyParts : Nat := 80

def keyWithin? : Nat → List Char → Option (List String × List Char)
  | 0, _ => none
  | limit + 1, cs => do
    let (part, rest) ← simpleKey? (skipSpaces cs)
    match skipSpaces rest with
    | '.' :: rest => do
      let (parts, rest) ← keyWithin? limit rest
      some (part :: parts, rest)
    | rest => some ([part], rest)

def key? (cs : List Char) : Option (List String × List Char) := keyWithin? maxKeyParts cs

def maxDepth : Nat := 80

def isScalarChar (c : Char) : Bool := c.isAlphanum || c == '_' || c == '+' || c == '-' ||
  c == '.' || c == ':'

/-- The text of a value without quotes, and what follows it. One blank may separate a date from a
time of day. -/
def scalarText (cs : List Char) : List Char × List Char :=
  let first := cs.takeWhile isScalarChar
  match cs.dropWhile isScalarChar with
  | ' ' :: d :: rest =>
    if d.isDigit && (Calendar.date? first).any (·.2.isEmpty) then
      (first ++ ' ' :: (d :: rest).takeWhile isScalarChar, (d :: rest).dropWhile isScalarChar)
    else (first, ' ' :: d :: rest)
  | rest => (first, rest)

mutual

def value? (fuel depth : Nat) (cs : List Char) : Option (Value × List Char) :=
  match fuel with
  | 0 => none
  | fuel + 1 =>
    match cs with
    | [] => none
    | c :: rest =>
      if c = '\x22' ∨ c = '\'' then
        (string? (c :: rest)).map fun (s, after) => (.string s, after)
      else if c = '[' then
        match depth with
        | 0 => none
        | depth + 1 => do
          let (items, after) ← items? fuel depth (skipLines false rest)
          some (.array items, after)
      else if c = '{' then
        match depth with
        | 0 => none
        | depth + 1 => do
          let (assignments, after) ← entries? fuel depth (skipLines false rest)
          let fields ← Fields.assignAll? assignments []
          some (.table (fieldValues fields), after)
      else do
        let (scalar, after) := scalarText (c :: rest)
        some (← scalar? scalar, after)

def items? (fuel depth : Nat) (cs : List Char) : Option (List Value × List Char) :=
  match fuel with
  | 0 => none
  | fuel + 1 =>
    match cs with
    | ']' :: after => some ([], after)
    | cs => do
      let (item, rest) ← value? fuel depth cs
      match skipLines false rest with
      | ',' :: rest => do
        let (items, after) ← items? fuel depth (skipLines false rest)
        some (item :: items, after)
      | ']' :: after => some ([item], after)
      | _ => none

/-- The assignments of an inline table up to its closing brace. Lines may end anywhere but within a
key. -/
def entries? (fuel depth : Nat) (cs : List Char) :
    Option (List (List String × Value) × List Char) :=
  match fuel with
  | 0 => none
  | fuel + 1 =>
    match cs with
    | '}' :: after => some ([], after)
    | cs => do
      let (path, rest) ← key? cs
      match skipLines false rest with
      | '=' :: rest => do
        let (v, rest) ← value? fuel depth (skipLines false rest)
        match skipLines false rest with
        | ',' :: rest => do
          let (entries, after) ← entries? fuel depth (skipLines false rest)
          some ((path, v) :: entries, after)
        | '}' :: after => some ([(path, v)], after)
        | _ => none
      | _ => none

end

inductive Statement where
  | heading (h : Heading)
  | assignment (path : List String) (v : Value)

def statement? (cs : List Char) : Option (Statement × List Char) :=
  match cs with
  | '[' :: '[' :: rest => do
    match ← key? rest with
    | (path, ']' :: ']' :: after) => some (.heading (.element path), after)
    | _ => none
  | '[' :: rest => do
    match ← key? rest with
    | (path, ']' :: after) => some (.heading (.table path), after)
    | _ => none
  | cs => do
    match ← key? cs with
    | (path, '=' :: rest) => do
      let (v, after) ← value? (2 * rest.length + 2) maxDepth (skipSpaces rest)
      some (.assignment path v, after)
    | _ => none

/-- The statements of a text, at most `fuel` of them; a text has no more statements than
characters. After a statement its line may hold a comment. -/
def statementsWithin? : Nat → List Char → Option (List Statement)
  | fuel, cs =>
    match skipLines false cs with
    | [] => some []
    | c :: rest =>
      match fuel with
      | 0 => none
      | fuel + 1 => do
        let (s, after) ← statement? (c :: rest)
        match skipComment (skipSpaces after) with
        | [] => some [s]
        | '\n' :: rest => (statementsWithin? fuel rest).map (s :: ·)
        | _ => none

def sections : List Statement → Section × List Section
  | [] => (⟨.root, []⟩, [])
  | .assignment path v :: rest =>
    let (first, others) := sections rest
    ({ first with assignments := (path, v) :: first.assignments }, others)
  | .heading h :: rest =>
    let (first, others) := sections rest
    (⟨.root, []⟩, { first with heading := h } :: others)

def parse? (text : String) : Option (List (String × Value)) := do
  let cs ← characters? text
  let statements ← statementsWithin? cs.length cs
  let (root, others) := sections statements
  Section.build? (root :: others)

end CommitPolicy.Toml
