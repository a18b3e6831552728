import CommitPolicy.Pattern.CharSet

namespace CommitPolicy.Pattern

inductive Assertion where
  | textStart
  | textEnd
  | lineStart
  | lineEnd
  | returnLineStart
  | returnLineEnd
  | wordBoundary (unicode : Bool)
  | notWordBoundary (unicode : Bool)
  | wordStart (unicode : Bool)
  | wordEnd (unicode : Bool)
  | wordStartHalf (unicode : Bool)
  | wordEndHalf (unicode : Bool)
deriving DecidableEq, Repr

inductive Expr where
  | empty
  | set (s : CharSet)
  | assert (a : Assertion)
  | seq (a b : Expr)
  | alt (a b : Expr)
  | repeated (a : Expr) (least : Nat) (most : Option Nat)
deriving Inhabited

def isWordAt (unicode : Bool) (c? : Option Char) : Bool :=
  c?.any fun c => if unicode then isWordChar c else CharSet.asciiWord.contains c

/-- `before` and `after` are the characters next to the position. -/
def Assertion.holds (a : Assertion) (before after : Option Char) : Bool :=
  match a with
  | .textStart => before.isNone
  | .textEnd => after.isNone
  | .lineStart => before.isNone || before == some '\n'
  | .lineEnd => after.isNone || after == some '\n'
  | .returnLineStart =>
    before.isNone || before == some '\n' || (before == some '\r' && after != some '\n')
  | .returnLineEnd =>
    after.isNone || after == some '\r' || (after == some '\n' && before != some '\r')
  | .wordBoundary u => isWordAt u before != isWordAt u after
  | .notWordBoundary u => isWordAt u before == isWordAt u after
  | .wordStart u => !isWordAt u before && isWordAt u after
  | .wordEnd u => isWordAt u before && !isWordAt u after
  | .wordStartHalf u => !isWordAt u before
  | .wordEndHalf u => !isWordAt u after

def before? (text : Array Char) : Nat → Option Char
  | 0 => none
  | i + 1 => text[i]?

def mergePositions : List Nat → List Nat → List Nat
  | [], ys => ys
  | xs, [] => xs
  | x :: xs, y :: ys =>
    if x < y then x :: mergePositions xs (y :: ys)
    else if y < x then y :: mergePositions (x :: xs) ys
    else x :: mergePositions xs ys
termination_by xs ys => xs.length + ys.length

def iterate (step : List Nat → List Nat) : Nat → List Nat → List Nat
  | 0, here => here
  | n + 1, here =>
    let next := step here
    if next == here then here else iterate step n next

def reach (step : List Nat → List Nat) : Nat → List Nat → List Nat
  | 0, here => here
  | n + 1, here =>
    let next := mergePositions here (step here)
    if next == here then here else reach step n next

/-- The positions at which a match ends that starts at one of the given positions. Positions are
sorted lists. Without a limit on repetitions, as many steps as there are positions reach all. -/
def Expr.ends (text : Array Char) : Expr → List Nat → List Nat
  | .empty, here => here
  | .set s, here => here.filterMap fun i =>
    match text[i]? with
    | some c => if s.contains c then some (i + 1) else none
    | none => none
  | .assert a, here => here.filter fun i => a.holds (before? text i) text[i]?
  | .seq a b, here => b.ends text (a.ends text here)
  | .alt a b, here => mergePositions (a.ends text here) (b.ends text here)
  | .repeated a least most, here =>
    let base := iterate (a.ends text) least here
    match most with
    | some m => reach (a.ends text) (m - least) base
    | none => reach (a.ends text) (text.size + 1) base

def Expr.occursIn (e : Expr) (text : List Char) : Bool :=
  !(e.ends text.toArray (List.range (text.length + 1))).isEmpty

/-- An estimate of the memory, in bytes, that a compiled form of the expression takes. -/
def Expr.weight : Expr → Nat
  | .empty => 32
  | .set s => 64 * s.size
  | .assert _ => 32
  | .seq a b => a.weight + b.weight
  | .alt a b => a.weight + b.weight + 32
  | .repeated a least most => (a.weight + 32) * max 1 (max least (most.getD 0))

end CommitPolicy.Pattern
