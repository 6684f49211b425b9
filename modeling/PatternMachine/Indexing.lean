import PatternMachine.Evaluator
import PatternMachine.Text.Grapheme

/-!
# Indexing

Lists and tuples are indexed by integers or by lists of integers, texts by
positions of grapheme clusters, and objects by member names. Negative integers
count from the end. Only one element at a time can be written.
-/

namespace PatternMachine

/-- The place an index denotes in a sequence of a given length. -/
def position? (index : Int64) (length : Nat) : Option Nat :=
  let place := if index.toInt < 0 then index.toInt + length else index.toInt
  if place < 0 || (length : Int) <= place then none else some place.toNat

namespace Evaluator

/-- The place an index denotes, or the error that it denotes none. -/
def positionOrRaise (index : Int64) (length : Nat) : Action Nat :=
  match position? index length with
  | some place => return place
  | none =>
      Action.raise .valueError
        ("index " ++ toString index.toInt ++ " is out of bounds for length " ++ toString length)

/-- The places denoted by a list of indices. `subject` names the kind of
sequence in the error for an index that is no integer. -/
def positionsOrRaise (subject : String) (length : Nat) : List Term -> Action (List Nat)
  | [] => return []
  | .integer index :: rest => do
      let place ← positionOrRaise index length
      return place :: (← positionsOrRaise subject length rest)
  | other :: _ =>
      Action.raise .valueError
        (subject ++ " index must be an integer, got " ++ other.typeName)

/-- The elements of a sequence at an evaluated index; `rebuild` makes a sequence
of the same sort. A missing element reads as an empty sequence. -/
def selectElements (elements : List Term) (rebuild : List Term -> Action Term) :
    Term -> Action Term
  | .integer index => do
      let place ← positionOrRaise index elements.length
      match elements[place]?.getD .absent with
      | .absent => rebuild []
      | element => return element
  | .list cell => do
      let indices := ((← Action.store).elements cell).toList
      let places ← positionsOrRaise "list" elements.length indices
      rebuild (places.map fun place => elements[place]?.getD .absent)
  | other => Action.raise .valueError ("index must be an integer, got " ++ other.typeName)

/-- The grapheme clusters of a text at an evaluated index. -/
def selectClusters (text : String) : Term -> Action Term
  | .integer index => do
      let clusters := Text.graphemes text
      let place ← positionOrRaise index clusters.length
      Action.newText (clusters[place]?.getD "")
  | .list cell => do
      let clusters := Text.graphemes text
      let indices := ((← Action.store).elements cell).toList
      let places ← positionsOrRaise "string" clusters.length indices
      Action.newText (String.join (places.map fun place => clusters[place]?.getD ""))
  | other =>
      Action.raise .valueError ("string index must be an integer, got " ++ other.typeName)

/-- The member an index names: an identifier names it directly, any other term
must evaluate to a text. -/
def memberName (self : Evaluator) : Term -> Action String
  | .identifier name => return name
  | selector => do
      match ← self.walk selector with
      | .text name => return name
      | other =>
          Action.raise .valueError
            ("object member must be an identifier, got " ++ other.typeName)

/-- The error that a struct lacks a member. -/
def noMember {α : Type} (template : Option Template) (name : String) : Action α :=
  Action.raise .valueError ("struct " ++ structName template ++ " has no member " ++ name)

/-- The member of an object. A function comes back bound to the object. -/
def readMember (self : Evaluator) (template : Option Template) (memory : CellRef)
    (selector : Term) : Action Term := do
  let name ← self.memberName selector
  match (← Action.store).member? template memory name with
  | none => noMember template name
  | some (.closure body captured) =>
      Action.newMethod (.object template memory) (.closure body captured)
  | some value => return value

/-- Read from an evaluated structure. Member names are taken literally; every
other index is evaluated first. -/
def readIndex (self : Evaluator) (subject selector : Term) : Action Term := do
  match subject with
  | .object template memory => self.readMember template memory selector
  | _ =>
      let index ← self.walk selector
      match subject with
      | .list cell =>
          selectElements ((← Action.store).elements cell).toList Action.newList index
      | .tuple cell =>
          selectElements ((← Action.store).elements cell).toList Action.newTuple index
      | .text text => selectClusters text index
      | other =>
          Action.raise .valueError
            ("value of type " ++ other.typeName ++ " cannot be indexed")

/-- Evaluate an index expression. -/
def walkIndex (self : Evaluator) (subject selector : Term) : Action Term := do
  self.readIndex (← self.walk subject) selector

/-- Write one element of a cell. -/
def writeElement (self : Evaluator) (cell : CellRef) (selector value : Term) :
    Action Unit := do
  match ← self.walk selector with
  | .integer index =>
      let length := ((← Action.store).elements cell).size
      let place ← positionOrRaise index length
      modify fun machine =>
        { machine with store := machine.store.writeElement cell place value }
  | other => Action.raise .valueError ("index must be an integer, got " ++ other.typeName)

/-- Write one member of an object. -/
def writeMember (self : Evaluator) (template : Option Template) (memory : CellRef)
    (selector value : Term) : Action Unit := do
  let name ← self.memberName selector
  match (← Action.store).writeMember? template memory name value with
  | some store => modify fun machine => { machine with store := store }
  | none => noMember template name

/-- Store a value at the place an index expression denotes. -/
def writeIndex (self : Evaluator) (subject selector value : Term) : Action Unit := do
  match ← self.walk subject with
  | .object template memory => self.writeMember template memory selector value
  | .list cell => self.writeElement cell selector value
  | .tuple cell => self.writeElement cell selector value
  | .text _ => Action.raise .valueError "strings are immutable"
  | other =>
      Action.raise .valueError ("value of type " ++ other.typeName ++ " cannot be indexed")

/-! ## Committing bindings

The bindings of a successful match are committed one after the other: names are
bound, index expressions are written through. -/

/-- Commit one binding. The name `_` binds nothing, and `this` cannot be bound
by a pattern. -/
def declare (self : Evaluator) (binding : Binding) : Action Unit :=
  match binding.target with
  | .identifier name =>
      if name == "_" then return ()
      else if name == "this" then
        Action.raise .valueError "this cannot be bound by a pattern"
      else Action.bindName name binding.value
  | .index _ subject selector => self.writeIndex subject selector binding.value
  | other =>
      Action.raise .machineError ("cannot declare a binding for " ++ other.kind.label)

/-- Commit bindings in order. -/
def declareAll (self : Evaluator) : List Binding -> Action Unit
  | [] => return ()
  | binding :: rest => do
      self.declare binding
      self.declareAll rest

end Evaluator

end PatternMachine
