/-!
# Globs

A glob describes names: `*` stands for any characters and `?` for one
character, neither of them a slash; brackets hold the characters allowed at one
place; a backslash takes the next character literally. A malformed glob
describes nothing.
-/

namespace PatternMachine
namespace Text

/-- One element of a glob. -/
inductive GlobPart
  | star
  | any
  | exactly (c : Char)
  | oneOf (negated : Bool) (ranges : List (Char × Char))
  deriving Repr

namespace Glob

/-- A character inside brackets, possibly behind a backslash. Something must
follow it. -/
def bracketChar? : List Char -> Option (Char × List Char)
  | '\\' :: c :: next :: rest => some (c, next :: rest)
  | '\\' :: _ => none
  | '-' :: _ => none
  | ']' :: _ => none
  | c :: next :: rest => some (c, next :: rest)
  | _ => none

/-- The ranges inside brackets, up to the closing one. At most `steps` ranges
are read. -/
def bracketRanges? :
    Nat -> List (Char × Char) -> List Char -> Option (List (Char × Char) × List Char)
  | 0, _, _ => none
  | steps + 1, seen, chars =>
      match chars, seen with
      | ']' :: rest, _ :: _ => some (seen.reverse, rest)
      | _, _ => do
          let (low, rest) ← bracketChar? chars
          match rest with
          | '-' :: rest =>
              let (high, rest) ← bracketChar? rest
              bracketRanges? steps ((low, high) :: seen) rest
          | _ => bracketRanges? steps ((low, low) :: seen) rest

/-- Read a glob of at most `steps` elements. -/
def parse? : Nat -> List Char -> Option (List GlobPart)
  | _, [] => some []
  | 0, _ => none
  | steps + 1, c :: rest =>
      match c, rest with
      | '*', _ => return .star :: (← parse? steps rest)
      | '?', _ => return .any :: (← parse? steps rest)
      | '\\', literal :: rest => return .exactly literal :: (← parse? steps rest)
      | '\\', [] => none
      | '[', '^' :: rest => do
          let (ranges, rest) ← bracketRanges? (rest.length + 1) [] rest
          return .oneOf true ranges :: (← parse? steps rest)
      | '[', _ => do
          let (ranges, rest) ← bracketRanges? (rest.length + 1) [] rest
          return .oneOf false ranges :: (← parse? steps rest)
      | _, _ => return .exactly c :: (← parse? steps rest)

/-- Whether one element other than a star accepts a character. -/
def accepts : GlobPart -> Char -> Bool
  | .star, _ => false
  | .any, c => c != '/'
  | .exactly expected, c => c == expected
  | .oneOf negated ranges, c =>
      (ranges.any fun (low, high) => low <= c && c <= high) != negated

/-- Whether the elements describe a whole name. -/
def describes : List GlobPart -> List Char -> Bool
  | [], chars => chars.isEmpty
  | .star :: parts, [] => describes parts []
  | .star :: parts, c :: rest =>
      describes parts (c :: rest) || (c != '/' && describes (.star :: parts) rest)
  | _ :: _, [] => false
  | part :: parts, c :: rest => accepts part c && describes parts rest
termination_by parts chars => parts.length + chars.length

end Glob

/-- Whether a glob describes a name. -/
def globMatches (glob name : String) : Bool :=
  match Glob.parse? (glob.length + 1) glob.toList with
  | some parts => Glob.describes parts name.toList
  | none => false

end Text
end PatternMachine
