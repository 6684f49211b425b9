/-!
# Binary floating-point numbers

A finite double-precision number is a significand below `2 ^ 53` times a power
of two. This module takes a float apart into that form, and rounds an exact
quotient of natural numbers to the nearest float, ties to the even significand.
Integers of 64 bits become floats by that rounding, and floats become integers
by cutting their magnitude to a whole number.
-/

namespace PatternMachine
namespace Number

/-- The magnitude `significand * 2 ^ exponent` of a finite float. -/
structure Magnitude where
  significand : Nat
  exponent : Int
  deriving DecidableEq, Repr

/-- What a float stands for. -/
inductive Decoded
  | notANumber
  | infinite (negative : Bool)
  | finite (negative : Bool) (magnitude : Magnitude)

/-- The exponent of the smallest subnormal number. -/
def leastExponent : Int := -1074

/-- Take a float apart. -/
def decode (value : Float) : Decoded :=
  let bits := value.toBits.toNat
  let negative := bits / Nat.pow 2 63 % 2 == 1
  let biased : Nat := bits / Nat.pow 2 52 % Nat.pow 2 11
  let fraction : Nat := bits % Nat.pow 2 52
  if biased == 2047 then
    if fraction == 0 then .infinite negative else .notANumber
  else if biased == 0 then .finite negative ⟨fraction, leastExponent⟩
  else .finite negative ⟨Nat.pow 2 52 + fraction, (biased : Int) - 1075⟩

/-- Build a float from its sign, biased exponent and fraction. -/
def ofFields (negative : Bool) (biased fraction : Nat) : Float :=
  Float.ofBits
    (UInt64.ofNat ((if negative then Nat.pow 2 63 else 0) + biased * Nat.pow 2 52 + fraction))

/-- A quotient rounded to the nearest natural number, ties to even. -/
def roundedQuotient (numerator denominator : Nat) : Nat :=
  let quotient := numerator / denominator
  let remainder := numerator % denominator
  if 2 * remainder < denominator then quotient
  else if denominator < 2 * remainder then quotient + 1
  else if quotient % 2 == 0 then quotient else quotient + 1

/-- The quotient divided by `2 ^ exponent` and rounded. -/
def scaledQuotient (numerator denominator : Nat) (exponent : Int) : Nat :=
  if exponent < 0 then roundedQuotient (numerator * Nat.pow 2 exponent.natAbs) denominator
  else roundedQuotient numerator (denominator * Nat.pow 2 exponent.natAbs)

/-- Whether a quotient is at least `2 ^ exponent`. -/
def reachesPower (numerator denominator : Nat) (exponent : Int) : Bool :=
  if exponent < 0 then denominator <= numerator * Nat.pow 2 exponent.natAbs
  else denominator * Nat.pow 2 exponent.natAbs <= numerator

/-- The exponent at which a positive quotient has a significand of 53 bits, or
the least exponent when the quotient is below every normal number. -/
def quotientExponent (numerator denominator : Nat) : Int :=
  let size : Int := (numerator.log2 : Int) - (denominator.log2 : Int)
  max leastExponent (if reachesPower numerator denominator size then size - 52 else size - 53)

/-- The float nearest to a quotient of natural numbers, or nothing when the
quotient is too large for any finite float. -/
def ofQuotient? (negative : Bool) (numerator denominator : Nat) : Option Float :=
  if numerator == 0 || denominator == 0 then some (ofFields negative 0 0)
  else
    let exponent := quotientExponent numerator denominator
    let significand := scaledQuotient numerator denominator exponent
    if significand < Nat.pow 2 52 then some (ofFields negative 0 significand)
    else
      let biased := (exponent + 1075).toNat + (if significand == Nat.pow 2 53 then 1 else 0)
      if biased >= 2047 then none
      else some (ofFields negative biased (significand % Nat.pow 2 52))

/-- The float nearest to an integer. No integer of 64 bits is too large for one. -/
def ofInteger (value : Int64) : Float :=
  let negative : Bool := value < 0
  (ofQuotient? negative value.toInt.natAbs 1).getD (ofFields negative 2047 0)

namespace Magnitude

/-- The largest whole number that is not above a magnitude. -/
def floor (magnitude : Magnitude) : Nat :=
  if magnitude.exponent < 0 then magnitude.significand / Nat.pow 2 magnitude.exponent.natAbs
  else magnitude.significand * Nat.pow 2 magnitude.exponent.natAbs

/-- The smallest whole number that is not below a magnitude. -/
def ceiling (magnitude : Magnitude) : Nat :=
  if magnitude.exponent < 0 then
    let unit := Nat.pow 2 magnitude.exponent.natAbs
    (magnitude.significand + (unit - 1)) / unit
  else magnitude.significand * Nat.pow 2 magnitude.exponent.natAbs

end Magnitude

/-- An integer of 64 bits; what lies outside becomes the nearest one. -/
def clamped (value : Int) : Int64 :=
  if value < Int64.minValue.toInt then Int64.minValue
  else if Int64.maxValue.toInt < value then Int64.maxValue
  else Int64.ofInt value

/-- A float as an integer of 64 bits, with a rule for the magnitudes above zero and
one for those below. What is not a number becomes zero. -/
def wholePart (above below : Magnitude -> Nat) (value : Float) : Int64 :=
  match decode value with
  | .notANumber => 0
  | .infinite negative => if negative then Int64.minValue else Int64.maxValue
  | .finite negative magnitude =>
      clamped (if negative then -(below magnitude : Int) else above magnitude)

/-- A float without its fraction. -/
def truncate : Float -> Int64 :=
  wholePart Magnitude.floor Magnitude.floor

/-- A float rounded down. -/
def roundDown : Float -> Int64 :=
  wholePart Magnitude.floor Magnitude.ceiling

/-- A float rounded up. -/
def roundUp : Float -> Int64 :=
  wholePart Magnitude.ceiling Magnitude.floor

end Number
end PatternMachine
