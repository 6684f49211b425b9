import PatternMachine.Text.Difference.Edit
import PatternMachine.Text.Difference.Meeting

/-!
# Finding the edits between two texts

What two texts share at their ends is kept. If one of the rests lies within the
other, or if they share a stretch of at least half the longer one, the problem
divides there; otherwise it divides where the searches from both ends meet.
-/

namespace PatternMachine
namespace Text
namespace Script

variable {α : Type} [BEq α]

/-- The places at which a part occurs in some items. -/
def occurrences (part : List α) : Nat -> List α -> List Nat
  | place, items =>
      let here := if part.isPrefixOf items then [place] else []
      match items with
      | [] => here
      | _ :: rest => here ++ occurrences part (place + 1) rest

/-- A stretch two texts share: what stands before it and behind it in either. -/
structure Stretch (α : Type) where
  leftBefore : List α
  leftBehind : List α
  rightBefore : List α
  rightBehind : List α
  shared : List α

/-- The stretch with the sides exchanged. -/
def Stretch.swap (stretch : Stretch α) : Stretch α :=
  { stretch with
    leftBefore := stretch.rightBefore
    leftBehind := stretch.rightBehind
    rightBefore := stretch.leftBefore
    rightBehind := stretch.leftBehind }

/-- The stretch around one place of either text. -/
def stretchAt (long short : List α) (longPlace shortPlace : Nat) : Stretch α :=
  let behind := sharedStart (long.drop longPlace) (short.drop shortPlace)
  let before := sharedEnd (long.take longPlace) (short.take shortPlace)
  { leftBefore := long.take (longPlace - before)
    leftBehind := long.drop (longPlace + behind)
    rightBefore := short.take (shortPlace - before)
    rightBehind := short.drop (shortPlace + behind)
    shared := (short.drop (shortPlace - before)).take (before + behind) }

/-- The longest shared stretch that contains a quarter of the longer text from
the given place on, if it makes up half of that text. The first one wins. -/
def stretchFrom? (long short : List α) (place : Nat) : Option (Stretch α) :=
  let seed := (long.drop place).take (long.length / 4)
  let found := (occurrences seed 0 short).map (stretchAt long short place)
  let best := found.foldl (fun (best : Option (Stretch α)) stretch =>
    match best with
    | some known => if known.shared.length < stretch.shared.length then some stretch else best
    | none => some stretch) none
  best.filter fun stretch => long.length <= 2 * stretch.shared.length

/-- The longer one of the shared stretches around the second and the third
quarter of the longer text. -/
def halfStretch? (long short : List α) : Option (Stretch α) :=
  if long.length < 4 || 2 * short.length < long.length then none
  else
    let second := stretchFrom? long short ((long.length + 3) / 4)
    let third := stretchFrom? long short ((long.length + 1) / 2)
    match second, third with
    | some early, some late =>
        if late.shared.length < early.shared.length then some early else some late
    | some early, none => some early
    | none, late => late

/-- A shared stretch of at least half the longer text. -/
def stretch? (left right : List α) : Option (Stretch α) :=
  if right.length < left.length then halfStretch? left right
  else (halfStretch? right left).map Stretch.swap

/-- The edits between two texts one of which contains the other. -/
def contained? (left right : List α) : Option (List (Edit α)) :=
  let removing := right.length < left.length
  let (long, short) := if removing then (left, right) else (right, left)
  let change : Change := if removing then .removed else .added
  (occurrences short 0 long).head?.map fun place =>
    [⟨change, long.take place⟩, ⟨.kept, short⟩, ⟨change, long.drop (place + short.length)⟩]

/-- The edits between two texts with nothing in common. -/
def replace (left right : List α) : List (Edit α) :=
  [⟨.removed, left⟩, ⟨.added, right⟩]

/-- The edits between two texts that differ at both ends, given how the parts of
a divided problem are solved. -/
def between (solve : List α -> List α -> List (Edit α)) (left right : List α) :
    List (Edit α) :=
  if left.isEmpty then [⟨.added, right⟩]
  else if right.isEmpty then [⟨.removed, left⟩]
  else
    match contained? left right with
    | some edits => edits
    | none =>
        if left.length == 1 || right.length == 1 then replace left right
        else
          match stretch? left right with
          | some stretch =>
              solve stretch.leftBefore stretch.rightBefore ++
                ⟨.kept, stretch.shared⟩ :: solve stretch.leftBehind stretch.rightBehind
          | none =>
              match Meeting.find? left right with
              | some (x, y) =>
                  solve (left.take x) (right.take y) ++ solve (left.drop x) (right.drop y)
              | none => replace left right

/-- The edits between two texts, dividing at most `depth` times. -/
def within : Nat -> List α -> List α -> List (Edit α)
  | 0, left, right => replace left right
  | depth + 1, left, right =>
      if left == right then if left.isEmpty then [] else [⟨.kept, left⟩]
      else
        let start := sharedStart left right
        let leftRest := left.drop start
        let rightRest := right.drop start
        let finish := sharedEnd leftRest rightRest
        let middle :=
          between (within depth) (dropEnd finish leftRest) (dropEnd finish rightRest)
        Edit.tidy
          ((if start == 0 then [] else [⟨.kept, left.take start⟩]) ++ middle ++
            (if finish == 0 then [] else [⟨.kept, takeEnd finish leftRest⟩]))

/-- The edits that turn one text into another. Dividing makes the texts shorter,
so that they are never divided more often than they are long. -/
def find (left right : List α) : List (Edit α) :=
  within (left.length + right.length + 1) left right

end Script
end Text
end PatternMachine
