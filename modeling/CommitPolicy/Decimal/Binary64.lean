namespace CommitPolicy.Decimal

/-- The finite double ± `mantissa` · 2 ^ `exponent`. -/
structure Binary64 where
  negative : Bool
  mantissa : Nat
  exponent : Int
deriving DecidableEq, Repr, Inhabited

def scaleByTwo (num den : Nat) (e : Int) : Nat × Nat :=
  match e with
  | .ofNat k => (num * .pow 2 k, den)
  | .negSucc k => (num, den * .pow 2 (k + 1))

def divNearestEven (num den : Nat) : Nat :=
  let q := num / den
  let r := num % den
  if 2 * r > den || (2 * r == den && q % 2 == 1) then q + 1 else q

namespace Binary64

def minExponent : Int := -1074
def maxExponent : Int := 971

def zero : Binary64 := ⟨false, 0, minExponent⟩

def isZero (x : Binary64) : Bool := x.mantissa == 0

def neg (x : Binary64) : Binary64 := { x with negative := !x.negative }

/-- The double nearest to `num / den`, or none if that is beyond the largest double. -/
def roundRatio? (num den : Nat) : Option Binary64 :=
  if num == 0 then some zero
  else
    let size : Int := (num.log2 : Int) - (den.log2 : Int)
    let (n, d) := scaleByTwo num den (-size)
    let e := max minExponent (if n < d then size - 53 else size - 52)
    let (n, d) := scaleByTwo num den (-e)
    let m := divNearestEven n d
    let (m, e) := if m == .pow 2 53 then (.pow 2 52, e + 1) else (m, e)
    if e > maxExponent then none else some ⟨false, m, e⟩

def toRatio (x : Binary64) : Nat × Nat := scaleByTwo x.mantissa 1 x.exponent

def mul? (x y : Binary64) : Option Binary64 :=
  let (a, b) := x.toRatio
  let (c, d) := y.toRatio
  (roundRatio? (a * c) (b * d)).map fun z => { z with negative := x.negative != y.negative }

def div? (x y : Binary64) : Option Binary64 :=
  let (a, b) := x.toRatio
  let (c, d) := y.toRatio
  (roundRatio? (a * d) (b * c)).map fun z => { z with negative := x.negative != y.negative }

def powerOfTen? (k : Nat) : Option Binary64 := roundRatio? (.pow 10 k) 1

def maxPowerOfTen : Nat := 308

def divLargestPower? : Nat → Binary64 → Option Binary64
  | 0, x => some x
  | n + 1, x =>
    if x.isZero then some x
    else ((powerOfTen? maxPowerOfTen).bind x.div?).bind (divLargestPower? n)

def divPowerOfTen? (x : Binary64) (k : Nat) : Option Binary64 :=
  let steps := (k - 1) / maxPowerOfTen
  (divLargestPower? steps x).bind fun y =>
    (powerOfTen? (k - steps * maxPowerOfTen)).bind y.div?

/-- The whole number `digits` scaled by 10 ^ `exponent`: the digits are rounded to a double
first, and every multiplication or division by a power of ten rounds again. None if the result
is beyond the largest double. -/
def ofScaled? (digits : Nat) (exponent : Int) : Option Binary64 := do
  let x ← roundRatio? digits 1
  match exponent with
  | .ofNat k =>
    if k ≤ maxPowerOfTen then x.mul? (← powerOfTen? k)
    else if x.isZero then some x else none
  | .negSucc k => x.divPowerOfTen? (k + 1)

end Binary64

end CommitPolicy.Decimal
