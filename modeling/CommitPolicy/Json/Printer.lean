import CommitPolicy.Json.Basic
import CommitPolicy.Decimal.Shortest
import CommitPolicy.Digest.Sha256
import CommitPolicy.Text.Pieces

namespace CommitPolicy.Json

open Decimal (NumberFormat)
open Digest.Sha256 (hexDigit)

/-- Doubles are written positionally from 10⁻⁵ to below 10¹⁶, always with a point there, and the
exponent carries its sign. -/
def numberFormat : NumberFormat := ⟨-5, 15, true⟩

def Number.print : Number → List Char
  | .int n => (toString n).toList
  | .float x => numberFormat.render x

/-- Quotes, backslashes and control characters are escaped; everything else stands for itself. -/
def escapeChar (c : Char) : List Char :=
  match c with
  | '\x22' => ['\\', '\x22']
  | '\\' => ['\\', '\\']
  | '\x08' => ['\\', 'b']
  | '\t' => ['\\', 't']
  | '\n' => ['\\', 'n']
  | '\x0c' => ['\\', 'f']
  | '\r' => ['\\', 'r']
  | c =>
    if c.toNat < 0x20 then
      ['\\', 'u', '0', '0', hexDigit (c.toNat / 16), hexDigit (c.toNat % 16)]
    else [c]

def printString (s : String) : List Char :=
  '\x22' :: (s.toList.flatMap escapeChar ++ ['\x22'])

def newLine (indent : Nat) : List Char := '\n' :: List.replicate indent ' '

def enclose (first last : Char) (indent : Nat) (items : List (List Char)) : List Char :=
  if items.isEmpty then [first, last]
  else first :: (Text.join ',' items ++ newLine indent ++ [last])

mutual

def print (indent : Nat) : Json → List Char
  | .null => ['n', 'u', 'l', 'l']
  | .bool true => ['t', 'r', 'u', 'e']
  | .bool false => ['f', 'a', 'l', 's', 'e']
  | .number n => n.print
  | .string s => printString s
  | .array items => enclose '[' ']' indent (printItems (indent + 2) items)
  | .object fields => enclose '{' '}' indent (printFields (indent + 2) fields)

def printItems (indent : Nat) : List Json → List (List Char)
  | [] => []
  | v :: rest => (newLine indent ++ print indent v) :: printItems indent rest

def printFields (indent : Nat) : List (String × Json) → List (List Char)
  | [] => []
  | (k, v) :: rest =>
    (newLine indent ++ printString k ++ ':' :: ' ' :: print indent v) :: printFields indent rest

end

def pretty (v : Json) : String := String.ofList (print 0 v)

end CommitPolicy.Json
