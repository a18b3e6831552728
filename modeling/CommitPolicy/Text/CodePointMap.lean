import CommitPolicy.Text.CodePointSet

namespace CommitPolicy.Text

/-- The code points `first`, `first + step`, … up to `last`; the first goes to `image`, and the
others keep their distance from it. -/
structure CodePointRun where
  first : Nat
  last : Nat
  step : Nat
  image : List Nat
deriving Inhabited

namespace CodePointRun

def covers (r : CodePointRun) (n : Nat) : Bool :=
  r.first ≤ n && n ≤ r.last && (n - r.first) % r.step == 0

def apply (r : CodePointRun) (n : Nat) : List Nat := r.image.map (· + (n - r.first))

def preimage? (r : CodePointRun) (target : Nat) : Option Nat :=
  match r.image with
  | [t] =>
    let n := r.first + (target - t)
    if t ≤ target && r.covers n then some n else none
  | _ => none

def ofItem? (item : List Char) : Option CodePointRun := do
  match pieces ':' item with
  | [source, target] =>
    let image ← (pieces ',' target).mapM hexNat?
    match pieces '-' source, pieces '+' source with
    | [lo, hi], _ => some ⟨← hexNat? lo, ← hexNat? hi, 1, image⟩
    | _, [lo, hi] => some ⟨← hexNat? lo, ← hexNat? hi, 2, image⟩
    | _, _ => do let n ← hexNat? source; some ⟨n, n, 1, image⟩
  | _ => none

end CodePointRun

structure CodePointMap where
  runs : List CodePointRun
deriving Inhabited

namespace CodePointMap

/-- Reads a table: `61-7A:41` sends 61 to 41, 62 to 42 and so on, `100+12E:101` sends every second
code point, and `DF:53,53` sends one code point to two. -/
def ofText (s : String) : CodePointMap :=
  ⟨(fields s.toList).filterMap CodePointRun.ofItem?⟩

def apply (m : CodePointMap) (c : Char) : List Char :=
  match m.runs.find? (·.covers c.toNat) with
  | some r => (r.apply c.toNat).map Char.ofNat
  | none => [c]

def preimages (m : CodePointMap) (c : Char) : List Char :=
  m.runs.filterMap fun r => (r.preimage? c.toNat).map Char.ofNat

end CodePointMap

end CommitPolicy.Text
