import CommitPolicy.Calendar
import CommitPolicy.Text.CodePointSet
import CommitPolicy.Text.Pieces
import CommitPolicy.Toml.Value

namespace CommitPolicy.Toml

open Decimal (digits? digitsValue)

namespace Scalar

def digitRun? (isDigit : Char → Bool) (cs : List Char) : Option (List Char) :=
  let groups := Text.pieces '_' cs
  if groups.all fun g => !g.isEmpty && g.all isDigit then some groups.flatten else none

/-- A decimal number does not start with a zero, unless it is zero. -/
def decimalRun? (cs : List Char) : Option (List Char) :=
  (digitRun? Char.isDigit cs).filter fun ds => ds.head? != some '0' || ds.length == 1

def inBase (base : Nat) (digits : List Char) : Option Nat :=
  (digits.mapM Text.hexDigit?).map (·.foldl (fun n d => base * n + d) 0)

def isDigitOf (base : Nat) (c : Char) : Bool := (Text.hexDigit? c).any (· < base)

def based? (base : Nat) (cs : List Char) : Option Nat :=
  (digitRun? (isDigitOf base) cs).bind (inBase base)

def sign : List Char → Bool × List Char
  | '-' :: rest => (true, rest)
  | '+' :: rest => (false, rest)
  | cs => (false, cs)

def inRange (n : Int) : Bool := -Int.ofNat (.pow 2 127) ≤ n && n < Int.ofNat (.pow 2 128)

def integer? : List Char → Option Int
  | '0' :: 'x' :: rest => (based? 16 rest).map Int.ofNat
  | '0' :: 'o' :: rest => (based? 8 rest).map Int.ofNat
  | '0' :: 'b' :: rest => (based? 2 rest).map Int.ofNat
  | cs =>
    let (negative, rest) := sign cs
    (decimalRun? rest).map fun ds =>
      if negative then -(digitsValue ds : Int) else digitsValue ds

/-- The least magnitude that no double comes near: half a unit above the largest one. -/
def floatLimit : Nat := .pow 2 1024 - .pow 2 970

def overflows (digits : List Char) (exponent : Int) : Bool :=
  let digits := digits.dropWhile (· == '0')
  let n := digitsValue digits
  match exponent with
  | .ofNat k => !digits.isEmpty && (308 < k || floatLimit ≤ n * .pow 10 k)
  | .negSucc k => k < digits.length && floatLimit * .pow 10 (k + 1) ≤ n

def isExponentMark (c : Char) : Bool := c == 'e' || c == 'E'

def exponent? : List Char → Option Int
  | [] => some 0
  | _ :: cs =>
    let (negative, rest) := sign cs
    (digitRun? Char.isDigit rest).map fun ds =>
      if negative then -(digitsValue ds : Int) else digitsValue ds

def fraction? : List Char → Option (List Char)
  | [] => some []
  | _ :: cs => digitRun? Char.isDigit cs

def isFloat (cs : List Char) : Bool :=
  let (_, rest) := sign cs
  let mantissa := rest.takeWhile (!isExponentMark ·)
  let scale := rest.dropWhile (!isExponentMark ·)
  let parts? : Option Bool := do
    let whole ← decimalRun? (mantissa.takeWhile (· != '.'))
    let fraction ← fraction? (mantissa.dropWhile (· != '.'))
    let exponent ← exponent? scale
    some (overflows (whole ++ fraction) (exponent - fraction.length))
  rest == ['i', 'n', 'f'] || rest == ['n', 'a', 'n'] || parts? == some false

/-- Seconds and their fraction may be left out; a leap second is allowed. -/
def seconds? : List Char → Option (List Char)
  | ':' :: cs => do
    let (second, rest) ← digits? 2 cs
    if 60 < second then none
    else match rest with
      | '.' :: cs =>
        if (cs.takeWhile Char.isDigit).isEmpty then none else some (cs.dropWhile Char.isDigit)
      | rest => some rest
  | cs => some cs

def timeOfDay? (cs : List Char) : Option (List Char) := do
  let (_, rest) ← Calendar.hourMinute? cs
  seconds? rest

def isMoment (cs : List Char) : Bool :=
  match Calendar.date? cs with
  | none => timeOfDay? cs == some []
  | some (_, []) => true
  | some (_, c :: rest) =>
    (c == 'T' || c == 't' || c == ' ') &&
      match timeOfDay? rest with
      | none => false
      | some [] => true
      | some after => (Calendar.offset? after).any (·.2.isEmpty)

end Scalar

def scalar? (cs : List Char) : Option Value :=
  if cs = ['t', 'r', 'u', 'e'] then some (.bool true)
  else if cs = ['f', 'a', 'l', 's', 'e'] then some (.bool false)
  else if Scalar.isMoment cs then some .moment
  else match Scalar.integer? cs with
    | some n => if Scalar.inRange n then some (.integer n) else none
    | none => if Scalar.isFloat cs then some .float else none

end CommitPolicy.Toml
