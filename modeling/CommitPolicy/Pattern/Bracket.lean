import CommitPolicy.Pattern.Escape

namespace CommitPolicy.Pattern

inductive SetOp where
  | inter
  | diff
  | symmDiff
deriving DecidableEq, Repr

def SetOp.apply : SetOp → CharSet → CharSet → CharSet
  | .inter => .inter
  | .diff => .diff
  | .symmDiff => .symmDiff

structure DeepSet where
  set : CharSet
  depth : Nat

structure OpenBracket where
  members : List DeepSet
  pending : Option (SetOp × DeepSet)

namespace OpenBracket

def start : OpenBracket := ⟨[], none⟩

def add (b : OpenBracket) (s : CharSet) (depth : Nat) : OpenBracket :=
  { b with members := b.members ++ [⟨s, depth⟩] }

def union (b : OpenBracket) : DeepSet :=
  let depth := b.members.foldl (fun n m => max n m.depth) 0
  ⟨.unionOf (b.members.map (·.set)), if b.members.length < 2 then depth else depth + 1⟩

def value (f : Flags) (b : OpenBracket) : DeepSet :=
  let last := b.union
  match b.pending with
  | none => last
  | some (op, first) =>
    let fold (s : CharSet) : CharSet := if f.ignoreCase then .anyCase f.unicode s else s
    ⟨op.apply (fold first.set) (fold last.set), max first.depth last.depth + 1⟩

def operate (f : Flags) (op : SetOp) (b : OpenBracket) : OpenBracket := ⟨[], some (op, b.value f)⟩

end OpenBracket

def asciiClass? (f : Flags) (cs : List Char) : Option (Option CharSet × List Char) :=
  match cs with
  | ':' :: cs =>
    let (negated, cs) := match cs with
      | '^' :: rest => (true, rest)
      | cs => (false, cs)
    match cs.dropWhile (· != ':') with
    | ':' :: ']' :: rest =>
      (CharSet.ofAsciiName? (String.ofList (cs.takeWhile (· != ':')))).map fun s =>
        (foldAndNegate? f negated s, rest)
    | _ => none
  | _ => none

/-- Leading hyphens stand for themselves, and so does a closing bracket that comes first. -/
def leadingMembers (f : Flags) (fuel : Nat) (b : OpenBracket) (cs : List Char) :
    OpenBracket × List Char :=
  match fuel, cs with
  | fuel + 1, '-' :: _ => leadingMembers f fuel (b.add (.char '-') 0) (advance f cs)
  | _, ']' :: _ => if b.members.isEmpty then (b.add (.char ']') 0, advance f cs) else (b, cs)
  | _, _ => (b, cs)

def openBracket (f : Flags) (cs : List Char) : Bool × OpenBracket × List Char :=
  match skip f cs with
  | '^' :: rest => (true, leadingMembers f rest.length .start (skip f rest))
  | cs => (false, leadingMembers f cs.length .start cs)

def memberItem? (f : Flags) : List Char → Option (Item × List Char)
  | [] => none
  | '\\' :: cs => escape? f cs
  | c :: cs => some (.char c false, cs)

def itemChar? (f : Flags) : Item → Option Char
  | .char c isByte => if isByte && !f.unicode && !Text.isAscii c then none else memberChar? f c
  | _ => none

def itemSet? (f : Flags) : Item → Option CharSet
  | .set s => some s
  | .assert _ => none
  | item => (itemChar? f item).map .char

/-- One member or a range; a hyphen before a closing bracket or another hyphen opens no range. -/
def memberOrRange? (f : Flags) (cs : List Char) : Option (CharSet × List Char) := do
  let (first, cs) ← memberItem? f cs
  let single : Option (CharSet × List Char) := do some (← itemSet? f first, skip f cs)
  match skip f cs with
  | '-' :: rest =>
    match skip f rest with
    | ']' :: _ => single
    | '-' :: _ => single
    | [] => none
    | rest => do
      let (last, rest) ← memberItem? f rest
      let lo ← itemChar? f first
      let hi ← itemChar? f last
      if lo ≤ hi then some (.range lo hi, rest) else none
  | _ => single

def bracketBody? (f : Flags) : Nat → Bool → OpenBracket → List Char →
    Option (DeepSet × List Char)
  | 0, _, _, _ => none
  | fuel + 1, negated, b, cs =>
    match skip f cs with
    | [] => none
    | ']' :: rest => do
      let value := b.value f
      some (⟨← foldAndNegate? f negated value.set, value.depth + 1⟩, rest)
    | '&' :: '&' :: rest => bracketBody? f fuel negated (b.operate f .inter) rest
    | '-' :: '-' :: rest => bracketBody? f fuel negated (b.operate f .diff) rest
    | '~' :: '~' :: rest => bracketBody? f fuel negated (b.operate f .symmDiff) rest
    | '[' :: rest =>
      match asciiClass? f rest with
      | some (s?, rest) => do bracketBody? f fuel negated (b.add (← s?) 0) rest
      | none => do
        let (innerNegated, inner, rest) := openBracket f rest
        let (s, rest) ← bracketBody? f fuel innerNegated inner rest
        bracketBody? f fuel negated (b.add s.set s.depth) rest
    | cs => do
      let (s, rest) ← memberOrRange? f cs
      bracketBody? f fuel negated (b.add s 0) rest

def bracket? (f : Flags) (cs : List Char) : Option (DeepSet × List Char) :=
  let (negated, start, rest) := openBracket f cs
  bracketBody? f (cs.length + 1) negated start rest

end CommitPolicy.Pattern
