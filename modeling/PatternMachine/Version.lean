import PatternMachine.Text.Quoted
import PatternMachine.Text.Search

/-!
# Versions

A version is three numbers, the identifiers of a pre-release, and the
identifiers of a build. A pre-release comes before the release it leads to; the
build does not count in comparisons.
-/

namespace PatternMachine

/-- An identifier of a pre-release. -/
inductive PrereleaseIdentifier
  | numeric (value : Nat)
  | alphanumeric (text : String)
  deriving DecidableEq, Repr, Inhabited

namespace PrereleaseIdentifier

/-- An identifier as it is written. -/
def shown : PrereleaseIdentifier -> String
  | numeric value => toString value
  | alphanumeric text => text

/-- Numbers come in their order, before all other identifiers. -/
def compare : PrereleaseIdentifier -> PrereleaseIdentifier -> Ordering
  | numeric left, numeric right => Ord.compare left right
  | numeric _, alphanumeric _ => .lt
  | alphanumeric _, numeric _ => .gt
  | alphanumeric left, alphanumeric right => Ord.compare left right

/-- The order of the identifiers of two pre-releases. Of two lists that agree as
far as they go the longer one is later. -/
def compareLists : List PrereleaseIdentifier -> List PrereleaseIdentifier -> Ordering
  | [], [] => .eq
  | [], _ :: _ => .lt
  | _ :: _, [] => .gt
  | left :: leftRest, right :: rightRest =>
      (left.compare right).then (compareLists leftRest rightRest)

end PrereleaseIdentifier

/-- A version. -/
structure Version where
  major : Nat
  minor : Nat
  patch : Nat
  prerelease : List PrereleaseIdentifier := []
  build : List String := []
  deriving DecidableEq, Repr, Inhabited

/-- One of the three numbers of a version. -/
inductive VersionPart
  | major
  | minor
  | patch
  deriving DecidableEq, Repr, Inhabited

/-- The word for a part in the middle of a sentence. -/
def VersionPart.word : VersionPart -> String
  | major => "major"
  | minor => "minor"
  | patch => "patch"

/-- The word for a part at the start of a sentence. -/
def VersionPart.heading : VersionPart -> String
  | major => "Major"
  | minor => "Minor"
  | patch => "Patch"

/-- Why a text is no version. -/
inductive VersionError
  | empty
  | tooFewParts
  | notNumeric (part : VersionPart) (text : String)
  | leadingZeroes (part : VersionPart) (text : String)
  | noNumber (text : String)
  | numberTooLarge (text : String)
  | emptyPrerelease
  | prereleaseZeroes (text : String)
  | invalidPrerelease (text : String)
  | emptyBuild
  | invalidBuild (text : String)
  deriving DecidableEq, Repr, Inhabited

/-- The wording of a version error. -/
def VersionError.message : VersionError -> String
  | empty => "Version string empty"
  | tooFewParts => "No Major.Minor.Patch elements found"
  | notNumeric part text =>
      "Invalid character(s) found in " ++ part.word ++ " number " ++ Text.quoted text
  | leadingZeroes part text =>
      part.heading ++ " number must not contain leading zeroes " ++ Text.quoted text
  | noNumber text => "strconv.ParseUint: parsing " ++ Text.quoted text ++ ": invalid syntax"
  | numberTooLarge text =>
      "strconv.ParseUint: parsing " ++ Text.quoted text ++ ": value out of range"
  | emptyPrerelease => "Prerelease is empty"
  | prereleaseZeroes text =>
      "Numeric PreRelease version must not contain leading zeroes " ++ Text.quoted text
  | invalidPrerelease text => "Invalid character(s) found in prerelease " ++ Text.quoted text
  | emptyBuild => "Build meta data is empty"
  | invalidBuild text => "Invalid character(s) found in build meta data " ++ Text.quoted text

namespace Version

/-- A version as it is written. -/
def shown (version : Version) : String :=
  let numbers := [version.major, version.minor, version.patch].map toString
  let prerelease := version.prerelease.map PrereleaseIdentifier.shown
  String.intercalate "." numbers ++
    (if prerelease.isEmpty then "" else "-" ++ String.intercalate "." prerelease) ++
    (if version.build.isEmpty then "" else "+" ++ String.intercalate "." version.build)

/-- The order of pre-releases; no pre-release at all comes last. -/
def comparePrereleases :
    List PrereleaseIdentifier -> List PrereleaseIdentifier -> Ordering
  | [], [] => .eq
  | [], _ :: _ => .gt
  | _ :: _, [] => .lt
  | left, right => PrereleaseIdentifier.compareLists left right

/-- The order of versions. -/
def compare (left right : Version) : Ordering :=
  (Ord.compare left.major right.major).then <|
    (Ord.compare left.minor right.minor).then <|
      (Ord.compare left.patch right.patch).then <|
        comparePrereleases left.prerelease right.prerelease

/-- Whether a text is written in digits only. -/
def isNumeric (text : String) : Bool :=
  text.toList.all Char.isDigit

/-- Whether a text is written in letters, digits and hyphens only. -/
def isIdentifier (text : String) : Bool :=
  text.toList.all fun c => c.isAlphanum || c == '-'

/-- Whether a number is written with a zero too many in front. -/
def hasLeadingZero (text : String) : Bool :=
  match text.toList with
  | '0' :: _ :: _ => true
  | _ => false

/-- The value of digits, if there are any and 64 bits hold it. -/
def number (text : String) : Except VersionError Nat :=
  if text.isEmpty then .error (.noNumber text)
  else
    let value := text.foldl (fun value c => value * 10 + (c.toNat - '0'.toNat)) 0
    if value < Nat.pow 2 64 then .ok value else .error (.numberTooLarge text)

/-- Read one of the three numbers. -/
def readPart (part : VersionPart) (text : String) : Except VersionError Nat :=
  if !isNumeric text then .error (.notNumeric part text)
  else if hasLeadingZero text then .error (.leadingZeroes part text)
  else number text

/-- Read an identifier of a pre-release. -/
def readPrerelease (text : String) : Except VersionError PrereleaseIdentifier :=
  if text.isEmpty then .error .emptyPrerelease
  else if isNumeric text then
    if hasLeadingZero text then .error (.prereleaseZeroes text)
    else (number text).map .numeric
  else if isIdentifier text then .ok (.alphanumeric text)
  else .error (.invalidPrerelease text)

/-- Read an identifier of a build. -/
def readBuild (text : String) : Except VersionError String :=
  if text.isEmpty then .error .emptyBuild
  else if isIdentifier text then .ok text
  else .error (.invalidBuild text)

/-- What stands before a mark, and the pieces behind it. -/
def splitIdentifiers (mark text : String) : String × List String :=
  match text.splitOn mark with
  | front :: piece :: pieces =>
      (front, (String.intercalate mark (piece :: pieces)).splitOn ".")
  | _ => (text, [])

/-- Read a version. -/
def ofText (text : String) : Except VersionError Version := do
  if text.isEmpty then throw .empty
  match text.splitOn "." with
  | major :: minor :: piece :: pieces =>
      let major ← readPart .major major
      let minor ← readPart .minor minor
      let (rest, build) := splitIdentifiers "+" (String.intercalate "." (piece :: pieces))
      let (patch, prerelease) := splitIdentifiers "-" rest
      let patch ← readPart .patch patch
      let prerelease ← prerelease.mapM readPrerelease
      let build ← build.mapM readBuild
      return { major, minor, patch, prerelease, build }
  | _ => throw .tooFewParts

/-- The version of this machine. -/
def current : Version :=
  { major := 0, minor := 4, patch := 0 }

end Version
end PatternMachine
