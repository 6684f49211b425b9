import PatternMachine.Text.Grapheme.Table

/-!
# Grapheme clusters

A text is cut into extended grapheme clusters, the units a reader takes for one
character. The rules say between which neighbours no cut is made.
-/

namespace PatternMachine
namespace Text

namespace Grapheme

/-- The classes of characters the rules speak of. -/
inductive Class
  | carriageReturn
  | lineFeed
  | control
  | extend
  | joiner
  | regional
  | prepend
  | spacing
  | leading
  | vowel
  | trailing
  | vowelSyllable
  | closedSyllable
  | pictographic
  | other
  deriving DecidableEq, Repr, Inhabited

/-- The class of a character. -/
def classOf (c : Char) : Class :=
  let code := c.toNat
  if code == 0x0D then .carriageReturn
  else if code == 0x0A then .lineFeed
  else if 0x20 <= code && code < 0x7F then .other
  else if code == 0x200D then .joiner
  else if 0x1F1E6 <= code && code <= 0x1F1FF then .regional
  else if 0xAC00 <= code && code <= 0xD7A3 then
    if (code - 0xAC00) % 28 == 0 then .vowelSyllable else .closedSyllable
  else if controlTable.contains code then .control
  else if extendTable.contains code then .extend
  else if prependTable.contains code then .prepend
  else if spacingTable.contains code then .spacing
  else if leadingTable.contains code then .leading
  else if vowelTable.contains code then .vowel
  else if trailingTable.contains code then .trailing
  else if pictographicTable.contains code then .pictographic
  else .other

/-- What the rules need to know of the cluster read so far: the class of its
last character, whether it ends in a pictograph with marks and a joiner behind
it, and whether an odd number of regional indicators ends it. -/
structure State where
  last : Class
  afterPictograph : Bool
  pictographJoined : Bool
  oddRegional : Bool

/-- The state after the first character of a text. -/
def State.start (first : Class) : State :=
  { last := first
    afterPictograph := first == .pictographic
    pictographJoined := false
    oddRegional := first == .regional }

/-- The state after one more character. -/
def State.next (state : State) (class_ : Class) : State :=
  { last := class_
    afterPictograph :=
      class_ == .pictographic || (state.afterPictograph && class_ == .extend)
    pictographJoined := state.afterPictograph && class_ == .joiner
    oddRegional := class_ == .regional && !state.oddRegional }

/-- Whether a class ends every cluster. -/
def Class.isBreaking : Class -> Bool
  | .carriageReturn => true
  | .lineFeed => true
  | .control => true
  | _ => false

/-- Whether a character of the given class stays in the cluster before it. -/
def State.joins (state : State) (class_ : Class) : Bool :=
  if state.last == .carriageReturn && class_ == .lineFeed then true
  else if state.last.isBreaking || class_.isBreaking then false
  else if state.last == .leading &&
      (class_ == .leading || class_ == .vowel || class_ == .vowelSyllable ||
        class_ == .closedSyllable) then true
  else if (state.last == .vowelSyllable || state.last == .vowel) &&
      (class_ == .vowel || class_ == .trailing) then true
  else if (state.last == .closedSyllable || state.last == .trailing) && class_ == .trailing then
    true
  else if class_ == .extend || class_ == .joiner || class_ == .spacing then true
  else if state.last == .prepend then true
  else if state.pictographJoined && class_ == .pictographic then true
  else state.oddRegional && class_ == .regional

/-- Cut the rest of a text; `current` is the cluster being read, reversed. -/
def split : State -> List Char -> List Char -> List (List Char)
  | _, current, [] => [current.reverse]
  | state, current, c :: rest =>
      let class_ := classOf c
      if state.joins class_ then split (state.next class_) (c :: current) rest
      else current.reverse :: split (state.next class_) [c] rest

end Grapheme

/-- The grapheme clusters of a list of characters. -/
def graphemeChars : List Char -> List (List Char)
  | [] => []
  | c :: rest => Grapheme.split (Grapheme.State.start (Grapheme.classOf c)) [c] rest

/-- The grapheme clusters of a text. -/
def graphemes (text : String) : List String :=
  (graphemeChars text.toList).map String.ofList

end Text
end PatternMachine
