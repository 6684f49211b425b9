import PatternMachine.Document.Composition
import PatternMachine.Document.Decode

/-!
# Decoding records

Reading a mapping whose keys name the fields of a record. Keys that name no
field do not count. A null leaves most fields as they are, and a value of the
wrong type is a fault, after which reading goes on.
-/

namespace PatternMachine
namespace Document

/-- What a node has to say about a field: a value, null, or a fault that has been
reported. -/
inductive Found (α : Type)
  | value (content : α)
  | null
  | faulty
  deriving Inhabited

namespace Found

/-- The value found, if there is one. -/
def value? {α : Type} : Found α -> Option α
  | value content => some content
  | _ => none

end Found

namespace Decode

/-- The node an alias stands for, or the node itself, and whether it is read
through an alias. -/
def referenced (throughAlias : Bool) (node : Node) : Decode (Bool × Node) := do
  enter throughAlias
  match node with
  | .reference _ _ target =>
      enter true
      return (true, target)
  | .selfReference _ name => throw (.containsItself name)
  | _ => return (throughAlias, node)

/-- Report that a node is not of the type that is wanted. A mapping that gives a
key twice is reported for that instead. -/
def reportType {α : Type} (wanted : String) (node : Node) : Decode (Found α) := do
  let fault := Fault.wrongType node.line node.tag node.value wanted
  match node with
  | .mapping _ _ entries => unless ← reportRepeated entries do report fault
  | _ => report fault
  return .faulty

/-- Read a scalar; `convert` is given its tag, its text and its value. -/
def scalarOf {α : Type} (wanted : String) (convert : String -> String -> Value -> Option α)
    (throughAlias : Bool) (node : Node) : Decode (Found α) := do
  let (_, node) ← referenced throughAlias node
  match node with
  | .scalar _ tag source =>
      match ← scalar tag source with
      | .null => return .null
      | value =>
          match convert tag source value with
          | some content => return .value content
          | none => reportType wanted node
  | .missing => return .null
  | _ => reportType wanted node

/-- The text of any scalar. -/
def textOf (throughAlias : Bool) (node : Node) : Decode (Found String) :=
  scalarOf "string"
    (fun tag source value =>
      match value with
      | .text text => some (if tag == binaryTag then text else source)
      | _ => some source)
    throughAlias node

/-- The words for true and false besides the usual ones. -/
def wordTruth? (word : String) : Option Bool :=
  if ["y", "Y", "yes", "Yes", "YES", "on", "On", "ON"].contains word then some true
  else if ["n", "N", "no", "No", "NO", "off", "Off", "OFF"].contains word then some false
  else none

/-- A truth value. -/
def truthOf (throughAlias : Bool) (node : Node) : Decode (Found Bool) :=
  scalarOf "bool"
    (fun _ _ value =>
      match value with
      | .boolean truth => some truth
      | .text word => wordTruth? word
      | _ => none)
    throughAlias node

/-- A real cut to an integer of 64 bits; what is too small becomes the smallest. -/
def truncated? (value : Float) : Option Int :=
  if value <= 9223372036854775808.0 then
    if value < -9223372036854775808.0 || 9223372036854775808.0 <= value then some (-(Nat.pow 2 63))
    else some (Number.truncate value).toInt
  else none

/-- An integer; a real is cut. -/
def integerOf (throughAlias : Bool) (node : Node) : Decode (Found Int) :=
  scalarOf "int"
    (fun _ _ value =>
      match value with
      | .integer number => if number < Nat.pow 2 63 then some number else none
      | .real number => truncated? number
      | _ => none)
    throughAlias node

/-- Read items one after the other; only those with a value are kept. -/
def itemsOf {α : Type} (item : Node -> Decode (Found α)) : List Node -> Decode (List α)
  | [] => return []
  | node :: rest => do
      let found ← item node
      return found.value?.toList ++ (← itemsOf item rest)

/-- A list. Items that are null or faulty are left out. -/
def listOf {α : Type} (wanted : String) (item : Bool -> Node -> Decode (Found α))
    (throughAlias : Bool) (node : Node) : Decode (Found (List α)) := do
  let (throughAlias, node) ← referenced throughAlias node
  match node with
  | .sequence _ _ items => return .value (← itemsOf (item throughAlias) items)
  | .missing => return .null
  | .scalar _ tag source =>
      match ← scalar tag source with
      | .null => return .null
      | _ => reportType wanted node
  | _ => reportType wanted node

/-- Any value. -/
def anyOf (throughAlias : Bool) (node : Node) : Decode (Found Value) := do
  match ← value throughAlias node with
  | some .null => return .null
  | some content => return .value content
  | none => return .faulty

/-- The node itself, unread. -/
def nodeOf (throughAlias : Bool) (node : Node) : Decode (Found Node) := do
  enter throughAlias
  return .value node

/-- A field of a record: its key, and how its node changes the record. -/
structure Field (σ : Type) where
  key : String
  assign : Bool -> Node -> σ -> Decode σ

/-- A field that keeps its value unless another one is given. -/
def Field.kept {σ α : Type} (key : String) (read : Bool -> Node -> Decode (Found α))
    (write : α -> σ -> σ) : Field σ where
  key := key
  assign throughAlias node state := do
    match ← read throughAlias node with
    | .value content => return write content state
    | _ => return state

/-- A field that null empties. -/
def Field.cleared {σ α : Type} (key : String) (read : Bool -> Node -> Decode (Found α))
    (write : Option α -> σ -> σ) : Field σ where
  key := key
  assign throughAlias node state := do
    match ← read throughAlias node with
    | .value content => return write (some content) state
    | .null => return write none state
    | .faulty => return state

/-- A record that is being filled: its state, the keys of fields already set by
this mapping, and the keys that a merge must not set. -/
structure Filling (σ : Type) where
  state : σ
  done : List String := []
  merged : Option (List Value) := none

/-- What is known of the type of a record. -/
structure Schema (σ : Type) where
  typeName : String
  fields : List (Field σ)

/-- Set the field a key names, if there is one. -/
def assignField {σ : Type} (schema : Schema σ) (throughAlias : Bool) (filling : Filling σ)
    (key : Node) (name : String) (item : Node) : Decode (Filling σ) := do
  match schema.fields.find? fun field => field.key == name with
  | none => return filling
  | some field =>
      if filling.done.contains name then
        report (.repeatedField key.line name schema.typeName)
        return filling
      else
        let state ← field.assign throughAlias item filling.state
        return { filling with state, done := name :: filling.done }

/-- Set the field of one entry. -/
def assignEntry {σ : Type} (schema : Schema σ) (throughAlias : Bool) (filling : Filling σ)
    (key item : Node) : Decode (Filling σ) := do
  let target : Target := { textKeys := true, merged := filling.merged }
  match ← keyFor target key (← value throughAlias key) with
  | some (.text name) =>
      if !target.admits (.text name) then return filling
      else
        let filling := { filling with merged := filling.merged.map (Value.text name :: ·) }
        assignField schema throughAlias filling key name item
  | _ => return filling

/-- The merge that a mapping asks for. -/
abbrev RecordMerge (σ : Type) := Option (Filling σ -> Decode (Filling σ))

/-- Merge one mapping into a record, given how its entries are set. -/
def mergeRecordEntries {σ : Type} (throughAlias : Bool) (filling : Filling σ)
    (entries : List (Node × Node)) (setting : Decode (Filling σ × RecordMerge σ)) :
    Decode (Filling σ) := do
  enter throughAlias
  if ← reportRepeated entries then return filling
  else
    match ← setting with
    | (set, some merge) => merge set
    | (set, none) => return set

mutual

/-- Set the fields of a record in order; answer the merge that is asked for. -/
def setFields {σ : Type} (schema : Schema σ) (throughAlias : Bool) (filling : Filling σ)
    (merge : RecordMerge σ) : List (Node × Node) -> Decode (Filling σ × RecordMerge σ)
  | [] => return (filling, merge)
  | (key, item) :: rest => do
      if key.isMerge then
        setFields schema throughAlias filling
          (some fun filling => mergeRecord schema throughAlias filling item) rest
      else
        setFields schema throughAlias (← assignEntry schema throughAlias filling key item) merge
          rest

/-- Merge what a merge key names: a mapping, or several in turn. -/
def mergeRecord {σ : Type} (schema : Schema σ) (throughAlias : Bool) (filling : Filling σ) :
    Node -> Decode (Filling σ)
  | .mapping _ _ entries =>
      mergeRecordEntries throughAlias filling entries
        (setFields schema throughAlias { filling with done := [] } none entries)
  | .reference _ _ target => do
      enter throughAlias
      mergeOneRecord schema true filling target
  | .sequence _ _ items => mergeRecords schema throughAlias filling items
  | .selfReference _ name => throw (.containsItself name)
  | _ => throw .mergeWantsMap

/-- Merge several mappings, the first one first. -/
def mergeRecords {σ : Type} (schema : Schema σ) (throughAlias : Bool) (filling : Filling σ) :
    List Node -> Decode (Filling σ)
  | [] => return filling
  | .reference _ _ target :: rest => do
      enter throughAlias
      mergeRecords schema throughAlias (← mergeOneRecord schema true filling target) rest
  | node :: rest => do
      mergeRecords schema throughAlias (← mergeOneRecord schema throughAlias filling node) rest

/-- Merge one mapping. -/
def mergeOneRecord {σ : Type} (schema : Schema σ) (throughAlias : Bool) (filling : Filling σ) :
    Node -> Decode (Filling σ)
  | .mapping _ _ entries =>
      mergeRecordEntries throughAlias filling entries
        (setFields schema throughAlias { filling with done := [] } none entries)
  | .selfReference _ name => throw (.containsItself name)
  | _ => throw .mergeWantsMap

end

/-- The keys of a mapping, which a merge into it must not set. -/
def ownKeys (throughAlias : Bool) : List (Node × Node) -> Decode (List Value)
  | [] => return []
  | (key, _) :: rest => do
      let found ← value throughAlias key
      return found.toList ++ (← ownKeys throughAlias rest)

/-- Read a record on top of a given one. -/
def recordOf {σ : Type} (schema : Schema σ) (state : σ) (throughAlias : Bool) (node : Node) :
    Decode (Found σ) := do
  let (throughAlias, node) ← referenced throughAlias node
  match node with
  | .mapping _ _ entries =>
      if ← reportRepeated entries then return .faulty
      else
        match ← setFields schema throughAlias { state } none entries with
        | (filling, none) => return .value filling.state
        | (filling, some merge) =>
            let keys ← ownKeys throughAlias entries
            return .value (← merge { filling with merged := some keys }).state
  | .scalar _ tag source =>
      match ← scalar tag source with
      | .null => return .null
      | _ => reportType schema.typeName node
  | .missing => return .null
  | _ => reportType schema.typeName node

end Decode

/-- Why a text does not hold a record. -/
inductive RecordError
  | unreadable (cause : ReadError)
  | undecodable (cause : DecodeError)
  deriving DecidableEq, Repr, Inhabited

/-- The wording of a record error. -/
def RecordError.message : RecordError -> String
  | unreadable cause => cause.message
  | undecodable cause => cause.message

/-- Read a text that holds a record, on top of a given one. -/
def recordOfText {σ : Type} (schema : Decode.Schema σ) (state : σ) (text : String) :
    Except RecordError σ :=
  match Node.ofText text with
  | .error cause => .error (.unreadable cause)
  | .ok node =>
      match (Decode.recordOf schema state false node).finish with
      | .ok found => .ok (found.value?.getD state)
      | .error cause => .error (.undecodable cause)

end Document
end PatternMachine
