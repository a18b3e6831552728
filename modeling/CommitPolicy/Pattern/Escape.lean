import CommitPolicy.Pattern.Expr
import CommitPolicy.Pattern.Property

namespace CommitPolicy.Pattern

open Text (hexDigit? isBlank)

structure Flags where
  ignoreCase : Bool
  multiLine : Bool
  dotAll : Bool
  unicode : Bool
  returnLines : Bool
  extended : Bool
deriving DecidableEq, Repr

def Flags.initial : Flags := ⟨false, false, false, true, false, false⟩

def skipFrom (inComment : Bool) : List Char → List Char
  | [] => []
  | c :: cs =>
    if inComment then skipFrom (c != '\n') cs
    else if isBlank c then skipFrom false cs
    else if c = '#' then skipFrom true cs
    else c :: cs

def skip (f : Flags) (cs : List Char) : List Char := if f.extended then skipFrom false cs else cs

def advance (f : Flags) (cs : List Char) : List Char := skip f (cs.drop 1)

/-- One item of a pattern. A character written as a two-digit hexadecimal escape stands for a
byte where Unicode is switched off. -/
inductive Item where
  | char (c : Char) (isByte : Bool)
  | set (s : CharSet)
  | assert (a : Assertion)

def isMetaChar (c : Char) : Bool := "\\.+*?()|[]\x7b\x7d^$#&-~".toList.contains c

def isEscapable (c : Char) : Bool :=
  isMetaChar c || (Text.isAscii c && !c.isAlphanum && c != '<' && c != '>')

def charOfNat? (n : Nat) : Option Char :=
  if n < 0xD800 ∨ (0xDFFF < n ∧ n < 0x110000) then some (Char.ofNat n) else none

def hexDigits? (f : Flags) : Nat → Nat → List Char → Option (Nat × List Char)
  | 0, value, cs => some (value, cs)
  | n + 1, value, c :: cs => do
    let d ← hexDigit? c
    hexDigits? f n (16 * value + d) (skip f cs)
  | _ + 1, _, [] => none

def bracedHex? (f : Flags) (fuel : Nat) (any : Bool) (value : Nat) :
    List Char → Option (Nat × List Char)
  | [] => none
  | c :: cs =>
    if c = '}' then if any then some (value, skip f cs) else none
    else match fuel, hexDigit? c with
      | fuel + 1, some d => bracedHex? f fuel true (16 * value + d) (skip f cs)
      | _, _ => none
termination_by fuel

def hexEscape? (f : Flags) (digits : Nat) (cs : List Char) : Option (Item × List Char) := do
  match skip f cs with
  | '{' :: rest =>
    let (n, rest) ← bracedHex? f rest.length false 0 (skip f rest)
    some (.char (← charOfNat? n) false, rest)
  | rest =>
    let (n, rest) ← hexDigits? f digits 0 rest
    some (.char (← charOfNat? n) (digits == 2), rest)

/-- Closes a set under letter case if the flags say so, and complements it if it is negated.
Without Unicode a complement would reach beyond ASCII and is refused. -/
def foldAndNegate? (f : Flags) (negated : Bool) (s : CharSet) : Option CharSet :=
  let s := if f.ignoreCase then .anyCase f.unicode s else s
  if negated then if f.unicode then some (.compl s) else none else some s

def cutAt? (separator : List Char) : List Char → Option (List Char × List Char)
  | [] => none
  | c :: cs =>
    if separator.isPrefixOf (c :: cs) then some ([], (c :: cs).drop separator.length)
    else (cutAt? separator cs).map fun (a, b) => (c :: a, b)

def namedProperty? (name : List Char) : Option (CharSet × Bool) :=
  match cutAt? ['!', '='] name with
  | some (k, v) => (propertyValue? k v).map (·, true)
  | none =>
    match (cutAt? [':'] name).or (cutAt? ['='] name) with
    | some (k, v) => (propertyValue? k v).map (·, false)
    | none => (property? name).map (·, false)

def bracedName? (f : Flags) (fuel : Nat) : List Char → Option (List Char × List Char)
  | [] => none
  | c :: cs =>
    if c = '}' then some ([], cs)
    else match fuel with
      | fuel + 1 => (bracedName? f fuel (skip f cs)).map fun (n, rest) => (c :: n, rest)
      | 0 => none
termination_by fuel

def propertyEscape? (f : Flags) (negated : Bool) (cs : List Char) :
    Option (Item × List Char) := do
  let ((s, other), rest) ← match skip f cs with
    | [] => none
    | '{' :: rest => do
      let (name, rest) ← bracedName? f rest.length (skip f rest)
      some (← namedProperty? name, rest)
    | c :: rest => if c = '\\' then none else do some ((← property? [c], false), skip f rest)
  if f.unicode then some (.set (← foldAndNegate? f (negated != other) s), rest) else none

def letterSet? (f : Flags) (c : Char) : Option CharSet :=
  let positive : Option CharSet := match c.toLower with
    | 'd' => some (if f.unicode then .digit else .asciiDigit)
    | 's' => some (if f.unicode then .blank else .asciiBlank)
    | 'w' => some (if f.unicode then .word else .asciiWord)
    | _ => none
  if c.isUpper then if f.unicode then positive.map .compl else none else positive

def isBoundaryNameChar (c : Char) : Bool := c.isAlpha || c == '-'

def boundaryName? (f : Flags) (fuel : Nat) : List Char → Option (List Char × List Char)
  | [] => none
  | c :: cs =>
    if c = '}' then some ([], cs)
    else if isBoundaryNameChar c then
      match fuel with
      | fuel + 1 => (boundaryName? f fuel (skip f cs)).map fun (n, rest) => (c :: n, rest)
      | 0 => none
    else none
termination_by fuel

def boundaryOfName? (unicode : Bool) : String → Option Assertion
  | "start" => some (.wordStart unicode)
  | "end" => some (.wordEnd unicode)
  | "start-half" => some (.wordStartHalf unicode)
  | "end-half" => some (.wordEndHalf unicode)
  | _ => none

/-- A word boundary, `cs` being what follows its letter: a special one if a brace and a name
follow. A brace before anything else belongs to a repetition. -/
def boundary? (f : Flags) (cs : List Char) : Option (Item × List Char) :=
  match cs with
  | '{' :: rest =>
    match skip f rest with
    | [] => none
    | c :: inner =>
      if isBoundaryNameChar c then do
        let (name, after) ← boundaryName? f rest.length (c :: inner)
        some (.assert (← boundaryOfName? f.unicode (String.ofList name)), after)
      else some (.assert (.wordBoundary f.unicode), cs)
  | _ => some (.assert (.wordBoundary f.unicode), cs)

def escape? (f : Flags) (cs : List Char) : Option (Item × List Char) :=
  match cs with
  | [] => none
  | c :: rest =>
    if c.isDigit then none
    else if isEscapable c then some (.char c false, rest)
    else match c with
      | 'x' => hexEscape? f 2 rest
      | 'u' => hexEscape? f 4 rest
      | 'U' => hexEscape? f 8 rest
      | 'p' => propertyEscape? f false rest
      | 'P' => propertyEscape? f true rest
      | 'a' => some (.char '\x07' false, rest)
      | 'f' => some (.char '\x0c' false, rest)
      | 't' => some (.char '\t' false, rest)
      | 'n' => some (.char '\n' false, rest)
      | 'r' => some (.char '\r' false, rest)
      | 'v' => some (.char '\x0b' false, rest)
      | 'A' => some (.assert .textStart, rest)
      | 'z' => some (.assert .textEnd, rest)
      | 'b' => boundary? f rest
      | 'B' => some (.assert (.notWordBoundary f.unicode), rest)
      | '<' => some (.assert (.wordStart f.unicode), rest)
      | '>' => some (.assert (.wordEnd f.unicode), rest)
      | c => (letterSet? f c).map fun s => (.set s, rest)

def charExpr? (f : Flags) (c : Char) (isByte : Bool) : Option Expr :=
  if !f.unicode && isByte && !Text.isAscii c then none
  else if f.ignoreCase then
    if !f.unicode && !Text.isAscii c then none else some (.set (.anyCase f.unicode (.char c)))
  else some (.set (.char c))

def Item.expr? (f : Flags) : Item → Option Expr
  | .char c isByte => charExpr? f c isByte
  | .set s => some (.set s)
  | .assert a => some (.assert a)

def memberChar? (f : Flags) (c : Char) : Option Char :=
  if f.unicode || Text.isAscii c then some c else none

def dotExpr? (f : Flags) : Option Expr :=
  if !f.unicode then none
  else if f.dotAll then some (.set .all)
  else if f.returnLines then some (.set (.compl (.union (.char '\n') (.char '\r'))))
  else some (.set (.compl (.char '\n')))

def caretAssertion (f : Flags) : Assertion :=
  if f.multiLine then if f.returnLines then .returnLineStart else .lineStart else .textStart

def dollarAssertion (f : Flags) : Assertion :=
  if f.multiLine then if f.returnLines then .returnLineEnd else .lineEnd else .textEnd

end CommitPolicy.Pattern
