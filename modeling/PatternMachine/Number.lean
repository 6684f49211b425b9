import PatternMachine.Number.Binary64
import PatternMachine.Term

/-!
# Numbers of the language

Integers, booleans and reals count as numbers. Two exact numbers compare as
integers; as soon as a real takes part, both compare as reals.
-/

namespace PatternMachine

/-- A number: an integer of 64 bits, or a real. -/
inductive Number
  | exact (value : Int64)
  | approximate (value : Float)

namespace Number

/-- A number as a real. -/
def toReal : Number -> Float
  | exact value => ofInteger value
  | approximate value => value

/-- Equality under promotion. -/
def equal : Number -> Number -> Bool
  | exact left, exact right => left == right
  | left, right => left.toReal == right.toReal

/-- Order under promotion. A real that is not a number is neither below nor
above anything, so it counts as equal. -/
def order : Number -> Number -> Ordering
  | exact left, exact right =>
      if left < right then .lt else if right < left then .gt else .eq
  | left, right =>
      if left.toReal < right.toReal then .lt
      else if right.toReal < left.toReal then .gt
      else .eq

end Number

namespace Term

/-- The number a term stands for. Booleans count as zero and one. -/
def number? : Term -> Option Number
  | integer value => some (.exact value)
  | boolean value => some (.exact (if value then 1 else 0))
  | real value => some (.approximate value)
  | _ => Option.none

/-- Equality of two numeric terms under promotion; nothing when either is not a
number. -/
def numericEqual? (left right : Term) : Option Bool :=
  match left.number?, right.number? with
  | some leftNumber, some rightNumber => some (leftNumber.equal rightNumber)
  | _, _ => Option.none

end Term

end PatternMachine
