import PatternMachine.Document.Base64
import PatternMachine.Document.Value
import PatternMachine.Text.Utf8

/-!
# Decoding nodes

Reading a node as a plain value. Faults such as a key given twice are collected
and reported together at the end; a failure ends the reading at once.
-/

namespace PatternMachine
namespace Document

/-- Something wrong with a node that does not keep the rest from being read. -/
inductive Fault
  | repeatedKey (line : Nat) (key : String) (firstLine : Nat)
  | repeatedField (line : Nat) (key typeName : String)
  | wrongType (line : Nat) (tag value : String) (wanted : String)
  deriving DecidableEq, Repr, Inhabited

/-- What ends the reading of a node. -/
inductive Failure
  | mismatch (details : Scalar.Mismatch)
  | invalidBase64
  | containsItself (name : String)
  | mergeWantsMap
  | invalidKey (key : String)
  | excessiveAliases
  deriving DecidableEq, Repr, Inhabited

/-- Why a node could not be decoded. -/
inductive DecodeError
  | faults (all : List Fault)
  | failure (cause : Failure)
  deriving DecidableEq, Repr, Inhabited

/-- The text of a scalar as a fault quotes it: cut when it is long, and left out
for a collection. -/
def quotedExcerpt (tag value : String) : String :=
  if tag == sequenceTag || tag == mappingTag then value
  else if 10 < value.utf8ByteSize then " `" ++ Text.takeBytes 7 value ++ "...`"
  else " `" ++ value ++ "`"

/-- The wording of a fault. -/
def Fault.message : Fault -> String
  | repeatedKey line key firstLine =>
      "line " ++ toString line ++ ": mapping key " ++ Text.quoted key ++
        " already defined at line " ++ toString firstLine
  | repeatedField line key typeName =>
      "line " ++ toString line ++ ": field " ++ key ++ " already set in type " ++ typeName
  | wrongType line tag value wanted =>
      "line " ++ toString line ++ ": cannot unmarshal " ++ tag ++ quotedExcerpt tag value ++
        " into " ++ wanted

/-- The wording of a failure. -/
def Failure.message : Failure -> String
  | mismatch details => details.message
  | invalidBase64 => "!!binary value contains invalid base64 data"
  | containsItself name => "anchor '" ++ name ++ "' value contains itself"
  | mergeWantsMap => "map merge requires map or sequence of maps as the value"
  | invalidKey key => "invalid map key: " ++ key
  | excessiveAliases => "document contains excessive aliasing"

/-- The wording of a decoding error. -/
def DecodeError.message : DecodeError -> String
  | faults all =>
      "yaml: unmarshal errors:\n  " ++ String.intercalate "\n  " (all.map Fault.message)
  | failure cause => "yaml: " ++ cause.message

/-- What decoding keeps track of: the faults so far, how many nodes were read,
and how many of those through an alias. -/
structure Progress where
  faults : List Fault := []
  nodes : Nat := 0
  aliased : Nat := 0
  deriving Inhabited

/-- A decoding step. -/
abbrev Decode (α : Type) := EStateM Failure Progress α

namespace Decode

/-- Report a fault. -/
def report (fault : Fault) : Decode Unit :=
  modify fun progress => { progress with faults := progress.faults ++ [fault] }

/-- Whether too many nodes came from aliases: at most 99 of 100 may in a document
of up to 400,000 nodes, at most one of ten in one of 4,000,000 or more, and the
share falls evenly in between. -/
def tooManyAliases (progress : Progress) : Bool :=
  let low := 400000
  let high := 4000000
  100 < progress.aliased && 1000 < progress.nodes &&
    (if progress.nodes <= low then 99 * progress.nodes < 100 * progress.aliased
    else if high <= progress.nodes then progress.nodes < 10 * progress.aliased
    else
      (99 * (high - low) - 89 * (progress.nodes - low)) * progress.nodes <
        100 * (high - low) * progress.aliased)

/-- Count a node. -/
def enter (throughAlias : Bool) : Decode Unit := do
  modify fun progress =>
    { progress with
      nodes := progress.nodes + 1
      aliased := progress.aliased + (if throughAlias then 1 else 0) }
  if tooManyAliases (← get) then throw .excessiveAliases

/-- Resolve a scalar. Binary data becomes a text of characters: a byte that belongs to none
becomes U+FFFD, where the machine that is modelled keeps the byte. -/
def scalar (tag value : String) : Decode Value := do
  if tag == binaryTag then
    match fromBase64? value with
    | some bytes => return .text (Text.ofBytes bytes)
    | none => throw .invalidBase64
  else
    match Scalar.resolve tag value with
    | .ok found => return Value.ofScalar found
    | .error details => throw (.mismatch details)

/-- The faults of one key against the keys behind it. -/
def repeatsOf (key : Node) (behind : List (Node × Node)) : List Fault :=
  behind.filterMap fun (other, _) =>
    if key.sameForm other && key.value == other.value then
      some (.repeatedKey other.line other.value key.line)
    else none

/-- The faults of keys given more than once. -/
def repeatedKeys : List (Node × Node) -> List Fault
  | [] => []
  | (key, _) :: rest => repeatsOf key rest ++ repeatedKeys rest

/-- Report the keys given more than once; answer whether there are any. -/
def reportRepeated (entries : List (Node × Node)) : Decode Bool := do
  let faults := repeatedKeys entries
  faults.forM report
  return !faults.isEmpty

/-- Whether all keys of a mapping are texts by their tags. -/
def hasTextKeys (entries : List (Node × Node)) : Bool :=
  entries.all fun (key, _) => key.tag == textTag || key.tag == mergeTag

/-- A map that is being filled: whether its keys are texts, the keys that a merge
must not overwrite (nothing outside a merge), and the entries so far. -/
structure Target where
  textKeys : Bool
  merged : Option (List Value) := none
  entries : List (Value × Value) := []

/-- Whether a key may be written; a merge writes no key twice. -/
def Target.admits (target : Target) (key : Value) : Bool :=
  match target.merged with
  | some keys => !keys.any (Value.sameKey key)
  | none => true

/-- Write an entry. -/
def Target.insert (target : Target) (key item : Value) : Target :=
  { target with entries := Value.insertEntry key item target.entries }

/-- Note a key as written by a merge. -/
def Target.note (target : Target) (key : Value) : Target :=
  { target with merged := target.merged.map (key :: ·) }

/-- The merge that a mapping asks for, to be made after its own entries. -/
abbrev Merge := Option (Target -> Decode Target)

/-- A key of a map whose keys are texts: the text of the scalar. Null is no key. -/
def textKey (key : Node) (found : Value) : Decode (Option Value) := do
  match found with
  | .null => return none
  | .list _ =>
      report (.wrongType key.line key.tag key.value "string")
      return none
  | .map _ _ =>
      report (.wrongType key.line key.tag key.value "string")
      return none
  | .text text => return some (.text (if key.tag == binaryTag then text else key.value))
  | _ => return some (.text key.value)

/-- A key for a map. -/
def keyFor (target : Target) (key : Node) (found : Option Value) : Decode (Option Value) := do
  match found with
  | none => return none
  | some value => if target.textKeys then textKey key.resolved value else return some value

/-- Merge one mapping, given how its entries are written, and then what it merges
itself. A mapping that gives a key twice is not merged. -/
def mergeEntries (throughAlias : Bool) (target : Target) (entries : List (Node × Node))
    (filling : Decode (Target × Merge)) : Decode Target := do
  enter throughAlias
  if ← reportRepeated entries then return target
  else
    match ← filling with
    | (filled, some merge) => merge filled
    | (filled, none) => return filled

mutual

/-- The plain value of a node, or nothing when it has a fault. -/
def value (throughAlias : Bool) : Node -> Decode (Option Value)
  | .missing => do
      enter throughAlias
      return some .null
  | .scalar _ tag source => do
      enter throughAlias
      return some (← scalar tag source)
  | .sequence _ _ items => do
      enter throughAlias
      return some (.list (← values throughAlias items))
  | .mapping _ _ entries => do
      enter throughAlias
      if ← reportRepeated entries then return none
      else
        let textKeys := hasTextKeys entries
        let (target, merge) ← fill throughAlias { textKeys } none entries
        let keys := keyValues throughAlias entries
        let target ← match merge with
          | some merge => do merge { target with merged := some (← keys) }
          | none => pure target
        return some (.map textKeys target.entries)
  | .reference _ _ target => do
      enter throughAlias
      value true target
  | .selfReference _ name => throw (.containsItself name)

/-- The plain values of several nodes; those with a fault are left out. -/
def values (throughAlias : Bool) : List Node -> Decode (List Value)
  | [] => return []
  | node :: rest => do
      let found ← value throughAlias node
      let behind ← values throughAlias rest
      return found.toList ++ behind

/-- The keys of a mapping. -/
def keyValues (throughAlias : Bool) : List (Node × Node) -> Decode (List Value)
  | [] => return []
  | (key, _) :: rest => do
      let found ← value throughAlias key
      let behind ← keyValues throughAlias rest
      return found.toList ++ behind

/-- Write the entries of a mapping into a map; answer the merge it asks for. -/
def fill (throughAlias : Bool) (target : Target) (merge : Merge) :
    List (Node × Node) -> Decode (Target × Merge)
  | [] => return (target, merge)
  | (key, item) :: rest => do
      if key.isMerge then
        fill throughAlias target (some fun target => mergeNode throughAlias target item) rest
      else
        match ← keyFor target key (← value throughAlias key) with
        | none => fill throughAlias target merge rest
        | some found =>
            if !target.admits found then fill throughAlias target merge rest
            else if found.isCollection then throw (.invalidKey found.spelled)
            else
              let noted := target.note found
              match ← value throughAlias item with
              | none => fill throughAlias noted merge rest
              | some content => fill throughAlias (noted.insert found content) merge rest

/-- Merge what a merge key names: a mapping, or several in turn. -/
def mergeNode (throughAlias : Bool) (target : Target) : Node -> Decode Target
  | .mapping _ _ entries =>
      mergeEntries throughAlias target entries (fill throughAlias target none entries)
  | .reference _ _ referenced => do
      enter throughAlias
      mergeMapping true target referenced
  | .sequence _ _ items => mergeAll throughAlias target items
  | .selfReference _ name => throw (.containsItself name)
  | _ => throw .mergeWantsMap

/-- Merge several mappings, the first one first. -/
def mergeAll (throughAlias : Bool) (target : Target) : List Node -> Decode Target
  | [] => return target
  | .reference _ _ referenced :: rest => do
      enter throughAlias
      mergeAll throughAlias (← mergeMapping true target referenced) rest
  | node :: rest => do
      mergeAll throughAlias (← mergeMapping throughAlias target node) rest

/-- Merge one mapping, and what it merges itself. -/
def mergeMapping (throughAlias : Bool) (target : Target) : Node -> Decode Target
  | .mapping _ _ entries =>
      mergeEntries throughAlias target entries (fill throughAlias target none entries)
  | .selfReference _ name => throw (.containsItself name)
  | _ => throw .mergeWantsMap

end

end Decode

/-- Run a decoding; collected faults make it fail. -/
def Decode.finish {α : Type} (decoding : Decode α) : Except DecodeError α :=
  match decoding {} with
  | .ok result progress =>
      if progress.faults.isEmpty then .ok result else .error (.faults progress.faults)
  | .error cause _ => .error (.failure cause)

/-- The plain value of a node. -/
def Node.decodeValue (node : Node) : Except DecodeError Value :=
  (Decode.value false node).finish.map fun found => found.getD .null

end Document
end PatternMachine
