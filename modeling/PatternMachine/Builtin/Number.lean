import PatternMachine.Builtin.Formal
import PatternMachine.Number.Literal

/-!
# Built-in functions on numbers, and conversions
-/

namespace PatternMachine
namespace Builtin

/-- The absolute value of a number. -/
def absolute : Action Term := do
  match ← formal "x" with
  | .integer value => if value < 0 then Action.newInteger (-value) else return .integer value
  | .real value => Action.newReal value.abs
  | other => Action.raise .valueError ("abs expects a number, got " ++ other.typeName)

/-- The best of the elements read so far and the rest; elements compare as
reals and the first of equal ones stays. -/
def bestOf (function : String) (better : Float -> Float -> Bool) :
    Term -> Float -> List Term -> Action Term
  | best, _, [] => return best
  | best, bestValue, element :: rest =>
      match element.number? with
      | none =>
          Action.raise .valueError (function ++ " expects numbers, got " ++ element.typeName)
      | some number =>
          if better number.toReal bestValue then
            bestOf function better element number.toReal rest
          else bestOf function better best bestValue rest

/-- The best element of a list that is not empty. -/
def extremum (function : String) (better : Float -> Float -> Bool) : Action Term := do
  let xs ← formal "xs"
  match (← Action.store).sequenceElements? xs with
  | some (first :: rest) =>
      match first.number? with
      | none => Action.raise .valueError (function ++ " expects numbers, got " ++ first.typeName)
      | some number => bestOf function better first number.toReal rest
  | _ =>
      Action.raise .valueError
        (function ++ " expects a non-empty list, got " ++ (← Action.display xs))

/-- The smallest element. -/
def smallest : Action Term :=
  extremum "min" fun left right => left < right

/-- The largest element. -/
def largest : Action Term :=
  extremum "max" fun left right => left > right

/-- The square root of a number that is not negative. -/
def squareRoot : Action Term := do
  let value ← realFormal "sqrt"
  if value < 0.0 then
    let shown ← Action.display (← Action.newReal value)
    Action.raise .arithmeticError ("square root of negative number " ++ shown)
  else Action.newReal value.sqrt

/-- Round down to an integer. -/
def roundDown : Action Term := do
  Action.newInteger (Number.roundDown (← realFormal "floor"))

/-- Round up to an integer. -/
def roundUp : Action Term := do
  Action.newInteger (Number.roundUp (← realFormal "ceil"))

/-- Convert a number or a numeral to an integer. Reals lose their fraction, and
so do numerals, which are read as reals. -/
def toInteger : Action Term := do
  match ← formal "x" with
  | .integer value => Action.newInteger value
  | .boolean value => Action.newInteger (if value then 1 else 0)
  | .real value => Action.newInteger (Number.truncate value)
  | .text text =>
      match Number.real? text with
      | some value => Action.newInteger (Number.truncate value)
      | none =>
          Action.raise .valueError ("cannot convert " ++ Text.quoted text ++ " to integer")
  | other => Action.raise .valueError ("cannot convert " ++ other.typeName ++ " to integer")

/-- Convert a number or a numeral to a real. -/
def toReal : Action Term := do
  match ← formal "x" with
  | .text text =>
      match Number.real? text with
      | some value => Action.newReal value
      | none => Action.raise .valueError ("cannot convert " ++ text ++ " to real")
  | other =>
      match other.number? with
      | some number => Action.newReal number.toReal
      | none => Action.raise .valueError ("cannot convert " ++ other.typeName ++ " to real")

end Builtin
end PatternMachine
