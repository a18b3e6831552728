import CommitPolicy.Text.Pieces

namespace CommitPolicy.Text

structure CodePointSet where
  ranges : List (Nat × Nat)
deriving Inhabited

def hexDigit? (c : Char) : Option Nat :=
  if '0' ≤ c ∧ c ≤ '9' then some (c.toNat - '0'.toNat)
  else if 'a' ≤ c ∧ c ≤ 'f' then some (c.toNat - 'a'.toNat + 10)
  else if 'A' ≤ c ∧ c ≤ 'F' then some (c.toNat - 'A'.toNat + 10)
  else none

def hexNat? : List Char → Option Nat
  | [] => none
  | cs => cs.foldlM (fun n c => (hexDigit? c).map (16 * n + ·)) 0

namespace CodePointSet

def range? (item : List Char) : Option (Nat × Nat) :=
  match pieces '-' item with
  | [one] => (hexNat? one).map fun n => (n, n)
  | [lo, hi] => do some (← hexNat? lo, ← hexNat? hi)
  | _ => none

/-- Reads a table of ranges in hexadecimal, separated by blanks: `41-5A 61-7A AA`. -/
def ofText (s : String) : CodePointSet :=
  ⟨(fields s.toList).filterMap range?⟩

def contains (s : CodePointSet) (c : Char) : Bool :=
  s.ranges.any fun r => r.1 ≤ c.toNat && c.toNat ≤ r.2

end CodePointSet

end CommitPolicy.Text
