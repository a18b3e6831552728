import CommitPolicy.Text.CodePointSet

namespace CommitPolicy.Toml

open Text (hexNat?)

def isSpace (c : Char) : Bool := c == ' ' || c == '\t'

def isSpaceOrLine (c : Char) : Bool := isSpace c || c == '\n'

namespace Quoted

def shortBody? (escapes : Bool) (mark : Char) : List Char → Option (List Char × List Char)
  | [] => none
  | c :: cs =>
    if c = mark then some ([], cs)
    else if c = '\n' then none
    else if escapes ∧ c = '\\' then
      match cs with
      | [] => none
      | d :: rest =>
        if d = '\n' then none
        else (shortBody? escapes mark rest).map fun (body, after) => (c :: d :: body, after)
    else (shortBody? escapes mark cs).map fun (body, after) => (c :: body, after)

/-- A string over several lines up to its three closing marks. Up to two marks right before these
belong to the string. -/
def longBody? (escapes : Bool) (mark : Char) : List Char → Option (List Char × List Char)
  | [] => none
  | c :: cs =>
    let marks := min 5 ((c :: cs).takeWhile (· == mark)).length
    if 3 ≤ marks then some (List.replicate (marks - 3) mark, (c :: cs).drop marks)
    else if escapes ∧ c = '\\' then
      match cs with
      | [] => none
      | d :: rest => (longBody? escapes mark rest).map fun (body, after) => (c :: d :: body, after)
    else (longBody? escapes mark cs).map fun (body, after) => (c :: body, after)

/-- Removes each line feed that a backslash escapes, with all blanks and line feeds around it.
`skipping` tells that such a line feed was just removed. -/
def joinLines (skipping : Bool) : List Char → List Char
  | [] => []
  | c :: cs =>
    if skipping && isSpaceOrLine c then joinLines true cs
    else if c = '\\' then
      match cs with
      | [] => [c]
      | d :: rest =>
        if isSpaceOrLine d && (cs.dropWhile isSpace).head? == some '\n' then joinLines true rest
        else c :: d :: joinLines false rest
    else c :: joinLines false cs

def escaped? : Char → Option Char
  | 'b' => some '\x08'
  | 't' => some '\t'
  | 'n' => some '\n'
  | 'f' => some '\x0c'
  | 'r' => some '\r'
  | 'e' => some '\x1b'
  | '\x22' => some '\x22'
  | '\\' => some '\\'
  | _ => none

def codePoint? (digits : List Char) : Option Char := do
  let n ← hexNat? digits
  if n.isValidChar then some (Char.ofNat n) else none

def unescape? : List Char → Option (List Char)
  | [] => some []
  | '\\' :: 'x' :: a :: b :: rest => do
    let c ← codePoint? [a, b]
    (unescape? rest).map (c :: ·)
  | '\\' :: 'u' :: a :: b :: c :: d :: rest => do
    let c ← codePoint? [a, b, c, d]
    (unescape? rest).map (c :: ·)
  | '\\' :: 'U' :: a :: b :: c :: d :: e :: f :: g :: h :: rest => do
    let c ← codePoint? [a, b, c, d, e, f, g, h]
    (unescape? rest).map (c :: ·)
  | '\\' :: c :: rest => do
    let c ← escaped? c
    (unescape? rest).map (c :: ·)
  | c :: rest => if c = '\\' then none else (unescape? rest).map (c :: ·)

/-- A line feed right after the opening marks is not part of the string. -/
def dropFirstLine : List Char → List Char
  | '\n' :: rest => rest
  | cs => cs

end Quoted

def shortString? : List Char → Option (String × List Char)
  | '\x22' :: rest => do
    let (body, after) ← Quoted.shortBody? true '\x22' rest
    some (String.ofList (← Quoted.unescape? body), after)
  | '\'' :: rest => do
    let (body, after) ← Quoted.shortBody? false '\'' rest
    some (String.ofList body, after)
  | _ => none

def string? : List Char → Option (String × List Char)
  | '\x22' :: '\x22' :: '\x22' :: rest => do
    let (body, after) ← Quoted.longBody? true '\x22' (Quoted.dropFirstLine rest)
    some (String.ofList (← Quoted.unescape? (Quoted.joinLines false body)), after)
  | '\'' :: '\'' :: '\'' :: rest => do
    let (body, after) ← Quoted.longBody? false '\'' (Quoted.dropFirstLine rest)
    some (String.ofList body, after)
  | cs => shortString? cs

end CommitPolicy.Toml
