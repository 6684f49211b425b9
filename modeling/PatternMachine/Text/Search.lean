/-!
# Searching and splitting text

The first place at which one text occurs in another, and the pieces between
the occurrences of a separator.
-/

namespace PatternMachine
namespace Text

/-- The characters before the first occurrence of `part`, and those behind it. -/
def splitFirst? (part : List Char) : List Char -> Option (List Char × List Char)
  | [] => if part.isEmpty then some ([], []) else none
  | c :: rest =>
      if part.isPrefixOf (c :: rest) then some ([], (c :: rest).drop part.length)
      else (splitFirst? part rest).map fun (front, behind) => (c :: front, behind)

/-- The pieces between the occurrences of a separator, reading at most `steps`
of them. -/
def pieces (separator : List Char) : Nat -> List Char -> List (List Char)
  | 0, chars => [chars]
  | steps + 1, chars =>
      match splitFirst? separator chars with
      | some (front, behind) => front :: pieces separator steps behind
      | none => [chars]

/-- Split a text at every occurrence of a separator that is not empty. -/
def splitAt (text separator : String) : List String :=
  (pieces separator.toList text.length text.toList).map String.ofList

/-- Whether one text occurs in another. -/
def occursIn (part text : String) : Bool :=
  (splitFirst? part.toList text.toList).isSome

/-- What follows a given beginning of a text. -/
def dropStart? (start text : String) : Option String :=
  if start.toList.isPrefixOf text.toList then some (String.ofList (text.toList.drop start.length))
  else none

end Text
end PatternMachine
