import CommitPolicy.Decimal.Binary64

namespace CommitPolicy.Decimal

/-- The reals that round to a positive double, as a fraction of a common denominator: `low` and
`high` are its ends, which belong to it exactly when the mantissa is even. -/
structure RoundingInterval where
  value : Nat
  low : Nat
  high : Nat
  den : Nat
  closed : Bool

namespace RoundingInterval

def of (x : Binary64) : RoundingInterval :=
  let m := x.mantissa
  let below := if m == .pow 2 52 && x.exponent > Binary64.minExponent then 1 else 2
  let (_, den) := scaleByTwo 1 1 (x.exponent - 2)
  let scale := (scaleByTwo 1 1 (x.exponent - 2)).1
  ⟨4 * m * scale, (4 * m - below) * scale, (4 * m + 2) * scale, den, m % 2 == 0⟩

def inUnits (i : RoundingInterval) (k : Int) : RoundingInterval :=
  match k with
  | .ofNat j => { i with den := i.den * .pow 10 j }
  | .negSucc j =>
    let t := Nat.pow 10 (j + 1)
    { i with value := i.value * t, low := i.low * t, high := i.high * t }

def contains (i : RoundingInterval) (n : Nat) : Bool :=
  if i.closed then i.low ≤ n * i.den && n * i.den ≤ i.high
  else i.low < n * i.den && n * i.den < i.high

def nearest? (i : RoundingInterval) : Option Nat :=
  let down := i.value / i.den
  let r := i.value % i.den
  match i.contains down, i.contains (down + 1) with
  | true, true =>
    some (if 2 * r < i.den || (2 * r == i.den && down % 2 == 0) then down else down + 1)
  | true, false => some down
  | false, true => some (down + 1)
  | false, false => none

end RoundingInterval

def powerAbove (x : Binary64) : Int :=
  ((x.mantissa.log2 : Int) + 1 + x.exponent) * 30103 / 100000 + 1

/-- Decimal digits and the power of ten of the last one: the coarsest decimal grid that has a
point in the rounding interval of `x`, and the nearest such point. -/
def shortest (x : Binary64) : Nat × Int :=
  let interval := RoundingInterval.of x
  let top := powerAbove x
  let grids := (List.range 24).map fun (i : Nat) => top - (i : Int)
  (grids.findSome? fun k => ((interval.inUnits k).nearest?).map fun n => (n, k)).getD (0, 0)

def significantDigits (n : Nat) : List Char :=
  ((Nat.toDigits 10 n).reverse.dropWhile (· == '0')).reverse

structure Scientific where
  digits : List Char
  exponent : Int

def Scientific.of (x : Binary64) : Scientific :=
  let (n, k) := shortest x
  ⟨significantDigits n, k + ((Nat.toDigits 10 n).length : Int) - 1⟩

/-- How a number is laid out: positionally while the first digit stands for a power of ten
between these two, and in scientific notation otherwise. -/
structure NumberFormat where
  leastPositional : Int
  greatestPositional : Int
  plusInExponent : Bool

namespace NumberFormat

def positional (s : Scientific) : List Char :=
  match s.exponent with
  | .ofNat e =>
    let whole := s.digits.take (e + 1)
    let rest := s.digits.drop (e + 1)
    whole ++ List.replicate (e + 1 - whole.length) '0' ++ '.' :: (if rest.isEmpty then ['0'] else rest)
  | .negSucc e => '0' :: '.' :: (List.replicate e '0' ++ s.digits)

def scientific (f : NumberFormat) (s : Scientific) : List Char :=
  let mantissa := match s.digits with
    | [] => []
    | [d] => [d]
    | d :: ds => d :: '.' :: ds
  let exponent := match s.exponent with
    | .ofNat e => (if f.plusInExponent then ['+'] else []) ++ Nat.toDigits 10 e
    | .negSucc e => '-' :: Nat.toDigits 10 (e + 1)
  mantissa ++ 'e' :: exponent

def render (f : NumberFormat) (x : Binary64) : List Char :=
  let magnitude :=
    if x.isZero then ['0', '.', '0']
    else
      let s := Scientific.of x
      if f.leastPositional ≤ s.exponent && s.exponent ≤ f.greatestPositional then positional s
      else f.scientific s
  if x.negative then '-' :: magnitude else magnitude

end NumberFormat

end CommitPolicy.Decimal
