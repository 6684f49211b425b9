
/-!
# Trees of files

A tree of files as the commands see it: texts and directories, and one
directory that paths start from unless they are absolute.
-/

namespace PatternMachine

/-- What is done to a file. -/
inductive FileAccess
  | opening
  | reading
  | inspecting
  deriving DecidableEq, Repr, Inhabited

/-- The word for an access in reports. -/
def FileAccess.word : FileAccess -> String
  | opening => "open"
  | reading => "read"
  | inspecting => "stat"

/-- Why a path does not lead to what is wanted. -/
inductive FileProblem
  | missing
  | notDirectory
  | isDirectory
  | invalidName
  | nameTooLong
  deriving DecidableEq, Repr, Inhabited

/-- The wording of a problem. -/
def FileProblem.message : FileProblem -> String
  | missing => "no such file or directory"
  | notDirectory => "not a directory"
  | isDirectory => "is a directory"
  | invalidName => "invalid argument"
  | nameTooLong => "file name too long"

/-- A failed access. -/
structure FileError where
  access : FileAccess
  path : String
  problem : FileProblem
  deriving DecidableEq, Repr, Inhabited

/-- The wording of a failed access. -/
def FileError.message (error : FileError) : String :=
  error.access.word ++ " " ++ error.path ++ ": " ++ error.problem.message

/-- A place in a tree: the names on the way to it. -/
abbrev Place := List String

/-- What stands at a place. -/
inductive Entry
  | file (text : String)
  | directory
  deriving DecidableEq, Repr, Inhabited

/-- A tree of files: what stands at its places. The directories on the way to a
place need not be listed. -/
structure Files where
  entries : List (Place × Entry) := []
  deriving DecidableEq, Repr, Inhabited

namespace Files

/-- The name that the place of an absolute path begins with. -/
def top : String := "/"

/-- The name of the directory above. -/
def above : String := ".."

/-- Whether a name does not lead away from a directory. -/
def staysAt (name : String) : Bool :=
  name == "" || name == "."

/-- The place a name leads to from another place. -/
def step (place : Place) (name : String) : Place :=
  if staysAt name then place
  else if name == above then
    if place == [top] then place
    else if place.all (· == above) then place ++ [above]
    else place.dropLast
  else place ++ [name]

/-- The place a path starts from. -/
def origin (path : String) : Place :=
  if path.startsWith "/" then [top] else []

/-- The place a path leads to. -/
def placeOf (path : String) : Place :=
  (path.splitOn "/").foldl step (origin path)

/-- A tree with one more file. -/
def addFile (files : Files) (path text : String) : Files :=
  let place := placeOf path
  ⟨files.entries.filter (fun entry => entry.1 != place) ++ [(place, .file text)]⟩

/-- A tree with one more directory. -/
def addDirectory (files : Files) (path : String) : Files :=
  ⟨files.entries ++ [(placeOf path, .directory)]⟩

/-- Whether a place is a directory in every tree: one above the start, the start
itself or the top. -/
def isFixed (place : Place) : Bool :=
  place == [top] || place.all (· == above)

/-- What stands at a place, if anything does. -/
def entry? (files : Files) (place : Place) : Option Entry :=
  match files.entries.lookup place with
  | some entry => some entry
  | none =>
      if isFixed place || files.entries.any fun entry => place.isPrefixOf entry.1 then
        some .directory
      else none

/-- The most bytes a name may have. -/
def longestName : Nat := 255

/-- Follow a path from a place, one name after the other. Only a directory leads
on. -/
def follow (files : Files) (place : Place) (entry : Entry) :
    List String -> Except FileProblem (Place × Entry)
  | [] => .ok (place, entry)
  | name :: rest =>
      if entry != .directory then .error .notDirectory
      else if longestName < name.utf8ByteSize then .error .nameTooLong
      else
        match files.entry? (step place name) with
        | some found => files.follow (step place name) found rest
        | none => .error .missing

/-- Where a path leads to. -/
def find (files : Files) (path : String) : Except FileProblem (Place × Entry) :=
  if path.any (· == '\x00') then .error .invalidName
  else if path.isEmpty then .error .missing
  else files.follow (origin path) .directory (path.splitOn "/")

/-- The text of a file. -/
def read (files : Files) (path : String) : Except FileError String :=
  match files.find path with
  | .ok (_, .file text) => .ok text
  | .ok (_, .directory) => .error ⟨.reading, path, .isDirectory⟩
  | .error problem => .error ⟨.opening, path, problem⟩

/-- The part of a path from the last point on, if one stands in its last name. -/
def extension (path : String) : String :=
  let backwards := path.toList.reverse
  let suffix := backwards.takeWhile fun c => c != '.' && c != '/'
  match backwards.drop suffix.length with
  | '.' :: _ => String.ofList ('.' :: suffix.reverse)
  | _ => ""

/-- The last name of a path. -/
def lastName (path : String) : String :=
  String.ofList (path.toList.reverse.takeWhile (· != '/')).reverse

/-- Whether a place comes before another one or is the same: the names are
compared one by one. -/
def precedes : Place -> Place -> Bool
  | [], _ => true
  | _ :: _, [] => false
  | left :: leftRest, right :: rightRest =>
      if left == right then precedes leftRest rightRest else decide (left < right)

/-- The files at or below a place with their paths from there, in the order of
their names, those of a directory standing together. -/
def below (files : Files) (place : Place) : List (String × String) :=
  let found := files.entries.filterMap fun
    | (found, .file text) =>
        let names := found.drop place.length
        if place.isPrefixOf found && names.head? != some top && names.head? != some above then
          some (names, text)
        else none
    | _ => none
  (found.mergeSort fun left right => precedes left.1 right.1).map fun (names, text) =>
    (if names.isEmpty then "." else String.intercalate "/" names, text)

/-- The files with a given extension at or below a path, with their paths from
there. -/
def collect (files : Files) (path suffix : String) : Except FileError (List (String × String)) :=
  match files.find path with
  | .error problem => .error ⟨.inspecting, path, problem⟩
  | .ok (place, _) =>
      .ok ((files.below place).filter fun (relative, _) =>
        extension (if relative == "." then path else relative) == suffix)

end Files
end PatternMachine
