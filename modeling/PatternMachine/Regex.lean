import PatternMachine.Regex.Reader

/-!
# Matching texts against regular expressions

An expression maps the places from which a match may start to the places at
which it may end. Sets of places are increasing lists. A text is accepted when
the expression leads from some place in it to another: only an expression that
says so itself starts at the start and ends at the end.
-/

namespace PatternMachine
namespace Regex

/-- The union of two increasing lists. -/
def union : List Nat -> List Nat -> List Nat
  | [], right => right
  | left, [] => left
  | a :: left, b :: right =>
      if a < b then a :: union left (b :: right)
      else if b < a then b :: union (a :: left) right
      else a :: union left right
termination_by left right => left.length + right.length

/-- Whether a character belongs to a word. -/
def isWordChar (c : Char) : Bool :=
  c.isAlphanum || c == '_'

/-- Whether a word character stands directly before a place. -/
def wordBefore (input : Array Char) (place : Nat) : Bool :=
  place != 0 && (input[place - 1]?.any isWordChar)

/-- Whether a word character stands directly behind a place. -/
def wordBehind (input : Array Char) (place : Nat) : Bool :=
  input[place]?.any isWordChar

/-- Whether a condition holds at a place. -/
def Boundary.holds (input : Array Char) (place : Nat) : Boundary -> Bool
  | .textStart => place == 0
  | .textEnd => place == input.size
  | .lineStart => place == 0 || input[place - 1]? == some '\n'
  | .lineEnd => place == input.size || input[place]? == some '\n'
  | .wordEdge => wordBefore input place != wordBehind input place
  | .noWordEdge => wordBefore input place == wordBehind input place

/-- The places reached from `frontier` by any number of moves, with those in
`reached` already known. At most `steps` rounds are made. -/
def closure (move : List Nat -> List Nat) : Nat -> List Nat -> List Nat -> List Nat
  | 0, reached, _ => reached
  | steps + 1, reached, frontier =>
      let fresh := (move frontier).filter fun place => !reached.contains place
      if fresh.isEmpty then reached
      else closure move steps (union reached fresh) fresh

/-- The places reached by a fixed number of moves. -/
def iterate (move : List Nat -> List Nat) : Nat -> List Nat -> List Nat
  | 0, places => places
  | count + 1, places => iterate move count (move places)

/-- The places reached by at most a number of moves. -/
def iterateUpTo (move : List Nat -> List Nat) : Nat -> List Nat -> List Nat
  | 0, places => places
  | count + 1, places => union places (iterateUpTo move count (move places))

/-- The places at which a match can end that starts at one of the given places. -/
def Expression.advance (input : Array Char) : Expression -> List Nat -> List Nat
  | .empty, places => places
  | .never, _ => []
  | .one class_, places =>
      places.filterMap fun place =>
        match input[place]? with
        | some c => if class_.contains c then some (place + 1) else none
        | none => none
  | .place boundary, places => places.filter fun place => boundary.holds input place
  | .followedBy first second, places => second.advance input (first.advance input places)
  | .either first second, places =>
      union (first.advance input places) (second.advance input places)
  | .repeated inner least none, places =>
      let start := iterate (inner.advance input) least places
      closure (inner.advance input) (input.size + 1) start start
  | .repeated inner least (some most), places =>
      iterateUpTo (inner.advance input) (most - least) (iterate (inner.advance input) least places)

/-- Whether an expression leads from some place in a text to another. -/
def Expression.accepts (expression : Expression) (text : String) : Bool :=
  let input := text.toList.toArray
  !(expression.advance input (List.range (input.size + 1))).isEmpty

/-- Read a pattern between anchors. The anchors are written around its text, so that they
stand around the whole expression only if the pattern closes no group that it does not open. -/
def compile? (pattern : String) : Except Problem Expression :=
  parse ("^(?:" ++ pattern ++ ")$").toList

end Regex
end PatternMachine
