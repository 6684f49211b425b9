import PatternMachine.Number.Binary64

/-!
# Shortest decimals

The shortest decimal that reads back as a given float is a point of the
coarsest decimal grid that meets the float's rounding interval. If two
neighbouring points of that grid lie in the interval, the one nearer to the
float is taken.
-/

namespace PatternMachine
namespace Number

/-- The decimal `coefficient * 10 ^ exponent`. -/
structure Decimal where
  coefficient : Nat
  exponent : Int
  deriving DecidableEq, Repr, Inhabited

/-- The numbers that round to a float, in quarters of its last binary place:
from `low` to `high` around `center`, the ends included when `closed`. One
quarter is `numerator / denominator`. -/
structure RoundingInterval where
  low : Nat
  center : Nat
  high : Nat
  closed : Bool
  numerator : Nat
  denominator : Nat

namespace RoundingInterval

/-- The rounding interval of a positive magnitude. Below a power of two the
neighbouring float is only half as far away. -/
def ofMagnitude (magnitude : Magnitude) : RoundingInterval :=
  let quarter := magnitude.exponent - 2
  let narrow := magnitude.significand == Nat.pow 2 52 && magnitude.exponent != leastExponent
  { low := 4 * magnitude.significand - (if narrow then 1 else 2)
    center := 4 * magnitude.significand
    high := 4 * magnitude.significand + 2
    closed := magnitude.significand % 2 == 0
    numerator := if quarter < 0 then 1 else Nat.pow 2 quarter.natAbs
    denominator := if quarter < 0 then Nat.pow 2 quarter.natAbs else 1 }

/-- The interval measured in steps of `10 ^ exponent`: the number of steps to a
point `x` is `x * scaleUp / scaleDown`. -/
def scaleUp (interval : RoundingInterval) (exponent : Int) : Nat :=
  interval.numerator * (if exponent < 0 then Nat.pow 10 exponent.natAbs else 1)

@[inherit_doc scaleUp]
def scaleDown (interval : RoundingInterval) (exponent : Int) : Nat :=
  interval.denominator * (if exponent < 0 then 1 else Nat.pow 10 exponent.natAbs)

/-- Whether the grid point `steps * 10 ^ exponent` rounds to the float. -/
def meets (interval : RoundingInterval) (exponent : Int) (steps : Nat) : Bool :=
  let point := steps * interval.scaleDown exponent
  let low := interval.low * interval.scaleUp exponent
  let high := interval.high * interval.scaleUp exponent
  if interval.closed then low <= point && point <= high else low < point && point < high

/-- The point of one grid that rounds to the float and is nearest to it. -/
def nearest? (interval : RoundingInterval) (exponent : Int) : Option Nat :=
  let center := interval.center * interval.scaleUp exponent
  let unit := interval.scaleDown exponent
  let below := center / unit
  let above := below + 1
  let nearerAbove := unit < 2 * (center % unit)
  match interval.meets exponent below && below != 0, interval.meets exponent above with
  | true, true => some (if nearerAbove then above else below)
  | true, false => some below
  | false, true => some above
  | false, false => none

/-- Search ever finer grids. -/
def search (interval : RoundingInterval) : Nat -> Int -> Decimal
  | 0, exponent => ⟨0, exponent⟩
  | steps + 1, exponent =>
      match interval.nearest? exponent with
      | some coefficient => ⟨coefficient, exponent⟩
      | none => interval.search steps (exponent - 1)

end RoundingInterval

/-- A power of ten above a magnitude; `30103 / 100000` exceeds the decimal
logarithm of two. -/
def decimalBound (magnitude : Magnitude) : Int :=
  (magnitude.significand.log2 + 1 + magnitude.exponent) * 30103 / 100000 + 1

/-- The shortest decimal that rounds to a positive magnitude. -/
def shortest (magnitude : Magnitude) : Decimal :=
  (RoundingInterval.ofMagnitude magnitude).search 400 (decimalBound magnitude)

end Number
end PatternMachine
