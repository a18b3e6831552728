import CommitPolicy.Decimal.Digits
import CommitPolicy.Json.Basic
import CommitPolicy.Text.CodePointSet

namespace CommitPolicy.Json

open Decimal (Binary64 digitsValue)
open Text (hexNat?)

inductive Token where
  | openBrace
  | closeBrace
  | openBracket
  | closeBracket
  | comma
  | colon
  | null
  | bool (b : Bool)
  | number (n : Number)
  | string (s : String)
deriving DecidableEq, Repr

def isSpace (c : Char) : Bool := c == ' ' || c == '\n' || c == '\t' || c == '\r'

def stringBody? : List Char → Option (List Char × List Char)
  | [] => none
  | '\x22' :: rest => some ([], rest)
  | '\\' :: c :: rest => (stringBody? rest).map fun (body, after) => ('\\' :: c :: body, after)
  | c :: rest =>
    if c.toNat < 0x20 then none
    else (stringBody? rest).map fun (body, after) => (c :: body, after)

inductive StringUnit where
  | char (c : Char)
  | unit (n : Nat)

def escape? : Char → Option Char
  | '\x22' => some '\x22'
  | '\\' => some '\\'
  | '/' => some '/'
  | 'b' => some '\x08'
  | 'f' => some '\x0c'
  | 'n' => some '\n'
  | 'r' => some '\r'
  | 't' => some '\t'
  | _ => none

def stringUnits? : List Char → Option (List StringUnit)
  | [] => some []
  | '\\' :: 'u' :: a :: b :: c :: d :: rest => do
    let n ← hexNat? [a, b, c, d]
    (stringUnits? rest).map (.unit n :: ·)
  | '\\' :: c :: rest => do
    let e ← escape? c
    (stringUnits? rest).map (.char e :: ·)
  | c :: rest => (stringUnits? rest).map (.char c :: ·)

def isHighSurrogate (n : Nat) : Bool := 0xD800 ≤ n && n < 0xDC00
def isLowSurrogate (n : Nat) : Bool := 0xDC00 ≤ n && n < 0xE000

/-- Joins surrogate pairs; a surrogate without its partner is refused. -/
def joinUnits? : List StringUnit → Option (List Char)
  | [] => some []
  | .char c :: rest => (joinUnits? rest).map (c :: ·)
  | .unit hi :: .unit lo :: rest =>
    if isHighSurrogate hi then
      if isLowSurrogate lo then
        (joinUnits? rest).map
          (Char.ofNat (0x10000 + (hi - 0xD800) * 0x400 + (lo - 0xDC00)) :: ·)
      else none
    else if isLowSurrogate hi then none
    else (joinUnits? (.unit lo :: rest)).map (Char.ofNat hi :: ·)
  | .unit n :: rest =>
    if isHighSurrogate n || isLowSurrogate n then none
    else (joinUnits? rest).map (Char.ofNat n :: ·)

def decodeString? (body : List Char) : Option String :=
  ((stringUnits? body).bind joinUnits?).map String.ofList

structure Literal where
  negative : Bool
  whole : List Char
  fraction : Option (List Char)
  exponent : Option Int

def whole? : List Char → Option (List Char × List Char)
  | '0' :: rest => some (['0'], rest)
  | cs =>
    let digits := cs.takeWhile Char.isDigit
    if digits.isEmpty then none else some (digits, cs.dropWhile Char.isDigit)

def fraction? : List Char → Option (Option (List Char) × List Char)
  | '.' :: cs =>
    let digits := cs.takeWhile Char.isDigit
    if digits.isEmpty then none else some (some digits, cs.dropWhile Char.isDigit)
  | cs => some (none, cs)

def exponentDigits? (sign : Int) (cs : List Char) : Option (Option Int × List Char) :=
  let digits := cs.takeWhile Char.isDigit
  if digits.isEmpty then none
  else some (some (sign * digitsValue digits), cs.dropWhile Char.isDigit)

def exponent? : List Char → Option (Option Int × List Char)
  | c :: cs =>
    if c = 'e' ∨ c = 'E' then
      match cs with
      | '+' :: rest => exponentDigits? 1 rest
      | '-' :: rest => exponentDigits? (-1) rest
      | rest => exponentDigits? 1 rest
    else some (none, c :: cs)
  | [] => some (none, [])

def literal? (cs : List Char) : Option (Literal × List Char) := do
  let (negative, cs) := match cs with
    | '-' :: rest => (true, rest)
    | cs => (false, cs)
  let (whole, cs) ← whole? cs
  let (fraction, cs) ← fraction? cs
  let (exponent, cs) ← exponent? cs
  some (⟨negative, whole, fraction, exponent⟩, cs)

def maxWhole : Nat := .pow 2 64 - 1

/-- Reads digits after a significand for as long as it stays within `maxWhole`; also counts the
digits that no longer fit. -/
def significand (start : Nat) : List Char → Nat × Nat
  | [] => (start, 0)
  | d :: ds =>
    let next := 10 * start + (d.toNat - '0'.toNat)
    if next ≤ maxWhole then significand next ds else (start, (d :: ds).length)

def signed (negative : Bool) (x : Binary64) : Number :=
  .float (if negative then x.neg else x)

/-- A whole number stays exact while it fits into 64 bits; any other number is a double, and one
beyond the largest double is refused. Minus zero is a double. -/
def Literal.value? (l : Literal) : Option Number :=
  let (whole, dropped) := significand 0 l.whole
  match l.fraction, l.exponent with
  | none, none =>
    if dropped = 0 ∧ ¬ l.negative then some (.int whole)
    else if dropped = 0 ∧ 0 < whole ∧ whole ≤ .pow 2 63 then some (.int (-whole))
    else (Binary64.ofScaled? whole dropped).map (signed l.negative)
  | fraction, exponent =>
    let digits := fraction.getD []
    let (all, unread) := significand whole digits
    let scale : Int := dropped - (digits.length - unread : Nat) + exponent.getD 0
    (Binary64.ofScaled? all scale).map (signed l.negative)

def token? (c : Char) (rest : List Char) : Option (Token × List Char) :=
  match c, rest with
  | '{', rest => some (.openBrace, rest)
  | '}', rest => some (.closeBrace, rest)
  | '[', rest => some (.openBracket, rest)
  | ']', rest => some (.closeBracket, rest)
  | ',', rest => some (.comma, rest)
  | ':', rest => some (.colon, rest)
  | 'n', 'u' :: 'l' :: 'l' :: rest => some (.null, rest)
  | 't', 'r' :: 'u' :: 'e' :: rest => some (.bool true, rest)
  | 'f', 'a' :: 'l' :: 's' :: 'e' :: rest => some (.bool false, rest)
  | '\x22', rest => do
    let (body, after) ← stringBody? rest
    some (.string (← decodeString? body), after)
  | c, rest => do
    let (literal, after) ← literal? (c :: rest)
    some (.number (← literal.value?), after)

def tokensWithin? : Nat → List Char → Option (List Token)
  | 0, cs => if cs.all isSpace then some [] else none
  | fuel + 1, cs =>
    match cs.dropWhile isSpace with
    | [] => some []
    | c :: rest => do
      let (token, after) ← token? c rest
      (tokensWithin? fuel after).map (token :: ·)

def tokens? (cs : List Char) : Option (List Token) := tokensWithin? cs.length cs

end CommitPolicy.Json
