import PatternMachine.Text.Blank
import PatternMachine.Text.CharacterClass
import PatternMachine.Version

/-!
# Ranges of versions

A range is a choice between conjunctions of comparisons with versions. In a
text the comparisons are separated by blanks and the choices by two bars, and a
version that ends in a wildcard stands for all versions that begin like it.
-/

namespace PatternMachine

/-- How versions are compared. -/
inductive Comparator
  | equal
  | notEqual
  | less
  | lessOrEqual
  | greater
  | greaterOrEqual
  deriving DecidableEq, Repr, Inhabited

namespace Comparator

/-- Read a sign of comparison; no sign means equality. -/
def ofSign? : String -> Option Comparator
  | "" | "=" | "==" => some equal
  | "!" | "!=" => some notEqual
  | "<" => some less
  | "<=" => some lessOrEqual
  | ">" => some greater
  | ">=" => some greaterOrEqual
  | _ => none

/-- Whether a comparison with the given outcome holds. -/
def holds : Comparator -> Ordering -> Bool
  | equal, order => order.isEq
  | notEqual, order => order.isNe
  | less, order => order.isLT
  | lessOrEqual, order => order.isLE
  | greater, order => order.isGT
  | greaterOrEqual, order => order.isGE

end Comparator

/-- Why a text is no range. -/
inductive RangeError
  | barsFirst
  | barsLast
  | noVersion (piece : String)
  | unknownSign (piece sign version : String)
  | invalidVersion (piece sign version : String) (cause : VersionError)
  deriving DecidableEq, Repr, Inhabited

/-- The wording of a range error. -/
def RangeError.message : RangeError -> String
  | barsFirst => "First element in range is '||'"
  | barsLast => "Last element in range is '||'"
  | noVersion piece => "Could not get version from string: " ++ Text.quoted piece
  | unknownSign piece sign version =>
      "Could not parse Range " ++ Text.quoted piece ++ ": Could not parse comparator " ++
        Text.quoted sign ++ " in " ++ Text.quoted (sign ++ version)
  | invalidVersion piece sign version cause =>
      "Could not parse Range " ++ Text.quoted piece ++ ": Could not parse version " ++
        Text.quoted version ++ " in " ++ Text.quoted (sign ++ version) ++ ": " ++ cause.message

/-- One comparison: the version under test stands to the left. -/
structure Comparison where
  comparator : Comparator
  version : Version
  deriving DecidableEq, Repr, Inhabited

/-- A range: one of the choices has to hold in all its comparisons. -/
structure VersionRange where
  choices : List (List Comparison)
  deriving DecidableEq, Repr, Inhabited

namespace VersionRange

/-- Whether a version lies in a range. -/
def contains (range : VersionRange) (version : Version) : Bool :=
  range.choices.any fun choice =>
    choice.all fun comparison =>
      comparison.comparator.holds (version.compare comparison.version)

/-- The character that a blank must not follow if it is to separate pieces. -/
def joins (c : Char) : Bool :=
  c == '<' || c == '=' || c == '>'

/-- Collect the pieces of a text. `latest` is the last character that was no
blank, and `piece` holds the piece so far backwards. -/
def piecesFrom (latest : Option Char) (piece : List Char) : List Char -> List (List Char)
  | [] => [piece.reverse]
  | c :: rest =>
      if c != ' ' then piecesFrom (some c) (c :: piece) rest
      else if latest.any joins then piecesFrom latest (c :: piece) rest
      else piece.reverse :: piecesFrom latest [] rest

/-- The pieces of a text without their blanks. A piece of a single byte does not
count. -/
def pieces (text : String) : List String :=
  let found := (piecesFrom none [] text.toList).map String.ofList
  (found.filter fun piece => 2 <= piece.utf8ByteSize).map fun piece =>
    String.ofList (piece.toList.filter (· != ' '))

/-- Collect the choices between bars; `choice` holds the current one backwards. -/
def choicesFrom (choice : List String) : List String -> List (List String)
  | [] => [choice.reverse]
  | piece :: rest =>
      if piece == "||" then choice.reverse :: choicesFrom [] rest
      else choicesFrom (piece :: choice) rest

/-- Split pieces at the bars. -/
def splitChoices (pieces : List String) : Except RangeError (List (List String)) :=
  if pieces.head? == some "||" then .error .barsFirst
  else if pieces.isEmpty || pieces.getLast? == some "||" then .error .barsLast
  else .ok (choicesFrom [] pieces)

/-- The characters that count as digits in any script. -/
def digits : List (Nat × Nat) :=
  (Text.classRanges? "Nd").getD []

/-- Whether a character is a digit of any script. -/
def isAnyDigit (c : Char) : Bool :=
  c.isDigit || (0x80 <= c.toNat && digits.any fun (low, high) => low <= c.toNat && c.toNat <= high)

/-- The sign and the version in a piece; the version begins with a digit. -/
def splitSign (piece : String) : Except RangeError (String × String) :=
  let sign := piece.toList.takeWhile fun c => !isAnyDigit c
  let version := piece.toList.drop sign.length
  if version.isEmpty then .error (.noVersion piece)
  else .ok (Text.trim (String.ofList sign), String.ofList version)

/-- Replace the first occurrence of a part of a text. -/
def replaceFirst (text part replacement : String) : String :=
  match Text.splitFirst? part.toList text.toList with
  | some (front, behind) => String.ofList (front ++ replacement.toList ++ behind)
  | none => text

/-- A version text with zeroes for its wildcards. -/
def flattened (version : String) : String :=
  let flat := replaceFirst (replaceFirst version ".x.x" ".x") ".x" ".0"
  if (flat.splitOn ".").length == 2 then flat ++ ".0" else flat

/-- The next number as text, for a text that is an integer of 64 bits. -/
def nextNumber? (text : String) : Option String :=
  let (negative, digits) := match text.toList with
    | '-' :: digits => (true, digits)
    | '+' :: digits => (false, digits)
    | digits => (false, digits)
  if digits.isEmpty || !digits.all Char.isDigit then none
  else
    let size : Nat := digits.foldl (fun value c => value * 10 + (c.toNat - '0'.toNat)) 0
    let value : Int := if negative then -size else size
    if -(Nat.pow 2 63) <= value && value < Nat.pow 2 63 then some (toString (Int64.ofInt (value + 1)).toInt)
    else none

/-- A version text with the number at one place increased; nothing if that is no
number. -/
def increased (place : Nat) (version : String) : String :=
  let parts := version.splitOn "."
  match parts[place]?.bind nextNumber? with
  | some next => String.intercalate "." (parts.set place next)
  | none => ""

/-- The first version text beyond those a wildcard stands for. Without a wildcard
in its last place there is none. -/
def beyond (version : String) : String :=
  let parts := version.splitOn "."
  if parts.getLast? != some "x" then ""
  else if parts.length == 3 then increased 1 (flattened version)
  else if parts.length == 2 then increased 0 (flattened version)
  else ""

/-- The comparisons a piece with a wildcard stands for. -/
def expand (sign version : String) : List String :=
  match sign with
  | ">" => [">=" ++ beyond version]
  | ">=" => [">=" ++ flattened version]
  | "<" => ["<" ++ flattened version]
  | "<=" => ["<" ++ beyond version]
  | "" | "=" | "==" => [">=" ++ flattened version, "<" ++ beyond version]
  | "!" | "!=" => ["<" ++ flattened version, ">=" ++ beyond version]
  | _ => [flattened version]

/-- The comparisons a piece stands for. -/
def expandPiece (piece : String) : Except RangeError (List String) := do
  if piece.any (· == 'x') then
    let (sign, version) ← splitSign piece
    return expand sign version
  else return [piece]

/-- Read one comparison. -/
def readComparison (piece : String) : Except RangeError Comparison := do
  let (sign, version) ← splitSign piece
  match Comparator.ofSign? sign with
  | none => throw (.unknownSign piece sign version)
  | some comparator =>
      match Version.ofText version with
      | .ok bound => return ⟨comparator, bound⟩
      | .error cause => throw (.invalidVersion piece sign version cause)

/-- Read a range. -/
def ofText (text : String) : Except RangeError VersionRange := do
  let choices ← splitChoices (pieces text)
  let expanded ← choices.mapM fun choice => choice.mapM expandPiece
  return ⟨← expanded.mapM fun choice => choice.flatten.mapM readComparison⟩

end VersionRange
end PatternMachine
