import PatternMachine.Number.Shortest

/-!
# How reals are written

A real is written with the fewest digits that read back. Small and large
magnitudes use an exponent with a sign and at least two digits.
-/

namespace PatternMachine
namespace Number

/-- The choices left open by the digits of a number. Magnitudes from
`10 ^ leastPower` up to, but not including, `10 ^ powerLimit` are written
positionally. -/
structure RealFormat where
  leastPower : Int
  powerLimit : Int
  wholeSuffix : String

/-- Reals in displayed terms: positional from `10 ^ -4` to `10 ^ 6`, and a whole
number keeps a point. -/
def displayed : RealFormat := ⟨-4, 6, ".0"⟩

/-- Reals inside foreign values: as displayed, but a whole number has no point. -/
def bare : RealFormat := ⟨-4, 6, ""⟩

/-- The exponent part: a sign and at least two digits. -/
def exponentText (exponent : Int) : String :=
  let size := toString exponent.natAbs
  "e" ++ (if exponent < 0 then "-" else "+") ++ (if size.length < 2 then "0" ++ size else size)

/-- The digits with a point after the first `whole` of them, which may lie
before or behind all of them. -/
def positional (digits : List Char) (whole : Int) (suffix : String) : String :=
  if whole <= 0 then
    String.ofList ('0' :: '.' :: (List.replicate whole.natAbs '0' ++ digits))
  else if digits.length <= whole.natAbs then
    String.ofList (digits ++ List.replicate (whole.natAbs - digits.length) '0') ++ suffix
  else
    String.ofList (digits.take whole.natAbs ++ '.' :: digits.drop whole.natAbs)

/-- One digit, a point with the other digits if there are any, and the exponent. -/
def scientific (digits : List Char) (exponent : Int) : String :=
  match digits with
  | first :: [] => String.ofList [first] ++ exponentText exponent
  | first :: rest => String.ofList (first :: '.' :: rest) ++ exponentText exponent
  | [] => ""

/-- Write a decimal. -/
def RealFormat.decimal (form : RealFormat) (decimal : Decimal) : String :=
  let digits := (toString decimal.coefficient).toList
  let power := decimal.exponent + digits.length - 1
  if power < form.leastPower || form.powerLimit <= power then scientific digits power
  else positional digits (power + 1) form.wholeSuffix

/-- Write a float. -/
def RealFormat.write (form : RealFormat) (value : Float) : String :=
  match decode value with
  | .notANumber => "NaN"
  | .infinite negative => if negative then "-Inf" else "+Inf"
  | .finite negative magnitude =>
      let size :=
        if magnitude.significand == 0 then "0" ++ form.wholeSuffix
        else form.decimal (shortest magnitude)
      if negative then "-" ++ size else size

end Number
end PatternMachine
