namespace CommitPolicy.Decimal

def digitsValue (digits : List Char) : Nat :=
  digits.foldl (fun n c => 10 * n + (c.toNat - '0'.toNat)) 0

def digits? (n : Nat) (cs : List Char) : Option (Nat × List Char) :=
  let front := cs.take n
  if front.length = n ∧ front.all Char.isDigit then some (digitsValue front, cs.drop n) else none

/-- The last `n` digits of a number, with zeros in front where it is shorter. -/
def padded : Nat → Nat → List Char
  | 0, _ => []
  | n + 1, k => padded n (k / 10) ++ [Nat.digitChar (k % 10)]

theorem length_padded (n k : Nat) : (padded n k).length = n := by
  induction n generalizing k with
  | zero => rfl
  | succ n ih => simp [padded, ih]

end CommitPolicy.Decimal
