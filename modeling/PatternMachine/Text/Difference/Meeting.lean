/-!
# Where two searches meet

A shortest list of edits is a path through the grid of two texts. Two searches
for it, one from either end, go as far as they can on every diagonal with a
growing number of edits; the place where they meet divides the problem in two.
Diagonal `k` holds the places `(x, y)` with `x - y = k`.
-/

namespace PatternMachine
namespace Text
namespace Meeting

variable {α : Type} [BEq α]

/-- How far a search has come: for every diagonal, counted from the lowest one,
the furthest place; and how many diagonals it has left at either end. -/
structure Frontier where
  furthest : Array Int
  leftLow : Int := 0
  leftHigh : Int := 0

namespace Frontier

/-- The frontier before the first step. -/
def start (limit : Nat) : Frontier :=
  { furthest := (Array.replicate (2 * limit) (-1)).setIfInBounds (limit + 1) 0 }

/-- The furthest place on a diagonal; -1 if it has not been reached. -/
def get (frontier : Frontier) (limit : Nat) (diagonal : Int) : Int :=
  let place := diagonal + limit
  if place < 0 then -1 else frontier.furthest[place.toNat]?.getD (-1)

/-- The place from which a diagonal is entered: from the neighbour that has come
further. -/
def entry (frontier : Frontier) (limit : Nat) (edits diagonal : Int) : Int :=
  let below := frontier.get limit (diagonal - 1)
  let above := frontier.get limit (diagonal + 1)
  if diagonal == -edits || (diagonal != edits && below < above) then above else below + 1

/-- Note how far a diagonal has been followed, and leave the diagonals beyond it
once it leads out of the grid. -/
def note (frontier : Frontier) (limit : Nat) (diagonal x : Int) (width height : Nat) :
    Frontier :=
  let furthest := frontier.furthest.setIfInBounds (diagonal + limit).toNat x
  if width < x then { frontier with furthest, leftHigh := frontier.leftHigh + 2 }
  else if height < x - diagonal then { frontier with furthest, leftLow := frontier.leftLow + 2 }
  else { frontier with furthest }

end Frontier

/-- Follow a diagonal as long as the items on it agree, at most `steps` times. -/
def follow (left right : Array α) (diagonal : Int) : Nat -> Int -> Int
  | 0, x => x
  | steps + 1, x =>
      match left[x.toNat]?, right[(x - diagonal).toNat]? with
      | some one, some other => if one == other then follow left right diagonal steps (x + 1) else x
      | _, _ => x

/-- Two searches: what both know, and how far each has come. -/
structure Searches (α : Type) where
  left : Array α
  right : Array α
  leftBackwards : Array α
  rightBackwards : Array α
  limit : Nat
  forwards : Frontier
  backwards : Frontier

namespace Searches

/-- The diagonal of the end. -/
def delta (searches : Searches α) : Int :=
  searches.left.size - searches.right.size

/-- The outcome of part of a search: the place where it met the other one, or the
searches so far. -/
abbrev Outcome (α : Type) := Except (Nat × Nat) (Searches α)

/-- Whether a place lies in the grid. -/
def inGrid (searches : Searches α) (diagonal x : Int) : Bool :=
  x <= searches.left.size && x - diagonal <= searches.right.size

/-- Follow one diagonal forwards. If the number of items is odd together, this is
the search that can meet the other. -/
def forwardsOn (searches : Searches α) (edits diagonal : Int) : Outcome α :=
  let entry := searches.forwards.entry searches.limit edits diagonal
  let x := follow searches.left searches.right diagonal searches.left.size entry
  let forwards :=
    searches.forwards.note searches.limit diagonal x searches.left.size searches.right.size
  let mirrored := searches.delta - diagonal
  let other := searches.backwards.get searches.limit mirrored
  if searches.delta % 2 != 0 && searches.inGrid diagonal x &&
      other != -1 && searches.left.size - other <= x then
    .error (x.toNat, (x - diagonal).toNat)
  else .ok { searches with forwards }

/-- Follow one diagonal backwards. If the number of items is even together, this
is the search that can meet the other. -/
def backwardsOn (searches : Searches α) (edits diagonal : Int) : Outcome α :=
  let entry := searches.backwards.entry searches.limit edits diagonal
  let x :=
    follow searches.leftBackwards searches.rightBackwards diagonal searches.left.size entry
  let backwards :=
    searches.backwards.note searches.limit diagonal x searches.left.size searches.right.size
  let mirrored := searches.delta - diagonal
  let other := searches.forwards.get searches.limit mirrored
  if searches.delta % 2 == 0 && searches.inGrid diagonal x &&
      other != -1 && searches.left.size - x <= other then
    .error (other.toNat, (other - mirrored).toNat)
  else .ok { searches with backwards }

/-- Follow every second diagonal from the given one on, at most `count`. -/
def forwardsFrom (edits : Int) : Nat -> Int -> Searches α -> Outcome α
  | 0, _, searches => .ok searches
  | count + 1, diagonal, searches =>
      if edits - searches.forwards.leftHigh < diagonal then .ok searches
      else (searches.forwardsOn edits diagonal).bind (forwardsFrom edits count (diagonal + 2))

/-- Follow every second diagonal backwards from the given one on, at most
`count`. -/
def backwardsFrom (edits : Int) : Nat -> Int -> Searches α -> Outcome α
  | 0, _, searches => .ok searches
  | count + 1, diagonal, searches =>
      if edits - searches.backwards.leftHigh < diagonal then .ok searches
      else (searches.backwardsOn edits diagonal).bind (backwardsFrom edits count (diagonal + 2))

/-- Let both searches make one more edit. -/
def round (edits : Nat) (searches : Searches α) : Outcome α :=
  (forwardsFrom edits (edits + 1) (-edits + searches.forwards.leftLow) searches).bind
    fun searches =>
      backwardsFrom edits (edits + 1) (-edits + searches.backwards.leftLow) searches

/-- Search with more and more edits, at most `rounds` times. -/
def run : Nat -> Nat -> Searches α -> Option (Nat × Nat)
  | 0, _, _ => none
  | rounds + 1, edits, searches =>
      match searches.round edits with
      | .error place => some place
      | .ok searches => run rounds (edits + 1) searches

end Searches

/-- The place at which the searches from both ends meet: the number of items of
either text before it. If the texts have nothing in common there is none. -/
def find? (left right : List α) : Option (Nat × Nat) :=
  let limit := (left.length + right.length + 1) / 2
  Searches.run limit 0
    { left := left.toArray
      right := right.toArray
      leftBackwards := left.reverse.toArray
      rightBackwards := right.reverse.toArray
      limit
      forwards := Frontier.start limit
      backwards := Frontier.start limit }

end Meeting
end Text
end PatternMachine
