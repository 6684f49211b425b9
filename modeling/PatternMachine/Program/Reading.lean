import PatternMachine.Operator
import PatternMachine.Program.Problem

/-!
# Reading terms

A scalar is a literal and a sequence is a list. Every other construct is a
mapping with one key, which names the construct; its value holds the operands.
-/

namespace PatternMachine
namespace Program

/-- A reading step. Terms that are read live in the store. -/
abbrev Read (α : Type) := EStateM LoadError Store α

open Document (Node)

namespace Read

/-- Report a problem with a node. -/
def fail {α : Type} (node : Node) (problem : Problem) : Read α :=
  throw (.onLine node.line problem)

/-- A fresh mark. -/
def mark : Read Mark :=
  modifyGet Store.freshMark

/-- A list with the given elements. -/
def newList (elements : List Term) : Read Term := do
  return .list (← modifyGet fun store => store.newCell elements.toArray)

/-- A tuple with the given elements. -/
def newTuple (elements : List Term) : Read Term := do
  return .tuple (← modifyGet fun store => store.newCell elements.toArray)

/-- The text of a scalar. -/
def scalar : Node -> Read String
  | .scalar _ _ value => return value
  | node => fail node .scalarExpected

/-- Read steps in order. -/
def all {α : Type} : List (Read α) -> Read (List α)
  | [] => return []
  | step :: rest => do
      let first ← step
      return first :: (← all rest)

/-- Refuse keys that are not allowed. -/
def checkKeys {α : Type} (allowed : List String) : List (Node × α) -> Read Unit
  | [] => return ()
  | (key, _) :: rest =>
      if allowed.contains key.value then checkKeys allowed rest
      else fail key (.unexpectedKey key.value)

/-- The value of a key. Of a key given twice the last value counts. -/
def valueOf? {α : Type} (key : String) (entries : List (Node × α)) : Option α :=
  (entries.reverse.find? fun (other, _) => other.value == key).map Prod.snd

/-- The literal a scalar stands for by its tag. -/
def literal (node : Node) (tag value : String) : Read Term :=
  if tag == Document.integerTag then
    match Number.integer? value with
    | some number => return .integer number
    | none => fail node (.invalidInteger value)
  else if tag == Document.realTag then
    match Number.real? value with
    | some number => return .real number
    | none => fail node (.invalidReal value)
  else if tag == Document.booleanTag then
    match Number.boolean? value with
    | some truth => return .boolean truth
    | none => fail node (.invalidBoolean value)
  else if tag == Document.nullTag then return .none
  else return .text value

end Read

/-- A node with the step that reads it as a term. -/
structure Part where
  node : Node
  term : Read Term

/-- The operand of a construct: its node, and the parts of that node if it is a
sequence or a mapping. -/
structure Operand where
  node : Node
  whole : Read Term
  items : List Part
  entries : List (Node × Part)

namespace Operand

open Read

/-- The operand as a sequence of parts. -/
def sequence (operand : Operand) (otherwise : Problem) : Read (List Part) :=
  match operand.node with
  | .sequence _ _ _ => return operand.items
  | node => fail node otherwise

/-- The operand as a sequence of terms. -/
def elements (operand : Operand) : Read (List Term) := do
  Read.all ((← operand.sequence .sequenceExpected).map Part.term)

/-- The operand as two terms. -/
def two (operand : Operand) (construct : Term -> Term -> Read Term) : Read Term := do
  match ← operand.elements with
  | [first, second] => construct first second
  | terms => fail operand.node (.wrongOperands 2 terms.length)

/-- The operand as a mapping with certain keys. -/
def fields (operand : Operand) (allowed : List String) : Read (List (Node × Part)) :=
  match operand.node with
  | .mapping _ _ _ => do
      checkKeys allowed operand.entries
      return operand.entries
  | node => fail node (.mappingExpected allowed)

/-- The term under a key that has to be there. -/
def required (operand : Operand) (entries : List (Node × Part)) (key : String) : Read Term :=
  match valueOf? key entries with
  | some part => part.term
  | none => fail operand.node (.missingKey key)

/-- The term under a key that may be left out. -/
def optional (entries : List (Node × Part)) (key : String) : Read Term :=
  match valueOf? key entries with
  | some part => part.term
  | none => return .absent

/-- The operand as a scalar read in a certain way. -/
def scalarAs {α : Type} (operand : Operand) (read? : String -> Option α)
    (construct : α -> Term) (otherwise : String -> Problem) : Read Term := do
  let source ← Read.scalar operand.node
  match read? source with
  | some value => return construct value
  | none => fail operand.node (otherwise source)

/-- A range. -/
def range (operand : Operand) (raw : Bool) : Read Term := do
  let entries ← operand.fields ["start", "stop", "stride"]
  let start ← operand.required entries "start"
  let stop ← operand.required entries "stop"
  let stride ← optional entries "stride"
  return .range raw (← mark) start stop stride

/-- An application of a named function. Without arguments it is applied to none;
several arguments make a tuple. -/
def call (operand : Operand) : Read Term := do
  match ← operand.sequence .callForm with
  | [] => fail operand.node .callForm
  | name :: arguments => do
      let name ← Read.scalar name.node
      let terms ← Read.all (arguments.map Part.term)
      let argument ← match terms with
        | [] => pure Term.none
        | [only] => pure only
        | _ => newTuple terms
      return .apply (← mark) (.identifier name) argument

/-- The operator a sign or a name stands for. -/
def operatorOf (node : Node) : Read Operator := do
  let sign ← Read.scalar node
  match (Operator.ofSign? sign).or (Operator.ofName? sign) with
  | some operator => return operator
  | none => fail node (.unknownOperator sign)

/-- An application of an operator to one or two operands. -/
def operation (operand : Operand) : Read Term := do
  match ← operand.sequence .operatorForm with
  | [sign, only] => do
      let operator ← operatorOf sign.node
      let argument ← only.term
      return .apply (← mark) (.identifier operator.name) argument
  | [sign, left, right] => do
      let operator ← operatorOf sign.node
      let argument ← newTuple (← Read.all [left.term, right.term])
      return .apply (← mark) (.identifier operator.name) argument
  | _ => fail operand.node .operatorForm

/-- A conditional. -/
def conditional (operand : Operand) : Read Term := do
  let entries ← operand.fields ["cond", "then", "else"]
  let condition ← operand.required entries "cond"
  let consequent ← operand.required entries "then"
  let alternative ← optional entries "else"
  return .conditional (← mark) condition consequent alternative

/-- A term and a pattern. -/
def termAndPattern (operand : Operand) (construct : Mark -> Term -> Term -> Term) :
    Read Term := do
  let entries ← operand.fields ["term", "pattern"]
  let term ← operand.required entries "term"
  let pattern ← operand.required entries "pattern"
  return construct (← mark) term pattern

/-- A named pattern. -/
def namedPattern (operand : Operand) : Read Term := do
  let entries ← operand.fields ["name", "pattern"]
  match valueOf? "name" entries with
  | none => fail operand.node (.missingKey "name")
  | some part =>
      let name ← Read.scalar part.node
      let pattern ← operand.required entries "pattern"
      return .named (← mark) name pattern

/-- A type pattern; a leading percent sign is dropped. -/
def typePattern (operand : Operand) : Read Term := do
  let name ← Read.scalar operand.node
  return .typeMatch (← mark) ((Text.dropStart? "%" name).getD name)

/-- An identifier. -/
def identifier (operand : Operand) : Read Term := do
  let name ← Read.scalar operand.node
  if name.isEmpty then fail operand.node .emptyIdentifier else return .identifier name

/-- A line number. -/
def lineNumber (node : Node) : Read Int :=
  match Number.integer? node.value with
  | some line => return line.toInt
  | none => fail node (.invalidLine node.value)

/-- The position a line marker names: a line of the module that is being read,
or a module and a line. -/
def position (moduleName : String) (node : Node) : Read Position :=
  match node with
  | .scalar _ _ _ => do
      return { moduleName, line := ← lineNumber node }
  | .mapping _ _ entries => do
      checkKeys ["module", "line"] entries
      let moduleName ← match valueOf? "module" entries with
        | some named => Read.scalar named
        | none => pure moduleName
      let line ← match valueOf? "line" entries with
        | some line => lineNumber line
        | none => pure 0
      return { moduleName, line }
  | _ => fail node (.mappingExpected ["module", "line"])

/-- A foreign value. -/
def foreignValue (operand : Operand) : Read Term :=
  match operand.node.decodeValue with
  | .ok value => do return .foreign (← mark) value.shown
  | .error cause => fail operand.node (.foreignValue cause)

/-- The construct a key names. -/
def construct? (moduleName : String) (operand : Operand) (key : String) : Option (Read Term) :=
  match key with
  | "int" => some (operand.scalarAs Number.integer? .integer .invalidInteger)
  | "real" => some (operand.scalarAs Number.real? .real .invalidReal)
  | "bool" => some (operand.scalarAs Number.boolean? .boolean .invalidBoolean)
  | "str" => some (operand.scalarAs some .text fun _ => .scalarExpected)
  | "none" => some (pure .none)
  | "nil" => some (pure .nil)
  | "list" => some do newList (← operand.elements)
  | "tuple" => some do newTuple (← operand.elements)
  | "pair" => some (operand.two fun first second => pure (.pair first second))
  | "to_list" => some (operand.range false)
  | "raw_to_list" => some (operand.range true)
  | "head_tail" =>
      some (operand.two fun head tail => do return .headTail false (← mark) head tail)
  | "raw_head_tail" =>
      some (operand.two fun head tail => do return .headTail true (← mark) head tail)
  | "seq" => some (operand.two fun first second => do return .sequence (← mark) first second)
  | "function" => some do
      let body ← Read.scalar operand.node
      return .function (← mark) body
  | "apply" =>
      some (operand.two fun callee argument => do return .apply (← mark) callee argument)
  | "call" => some operand.call
  | "op" => some operand.operation
  | "index" =>
      some (operand.two fun subject selector => do return .index (← mark) subject selector)
  | "if" => some operand.conditional
  | "is" => some (operand.termAndPattern .isMatch)
  | "in" =>
      some (operand.two fun element container => do
        return .membership (← mark) element container)
  | "eval" => some do
      let expression ← operand.whole
      return .evaluation (← mark) expression
  | "escape" => some do
      let name ← Read.scalar operand.node
      return .escape (← mark) name
  | "named" => some operand.namedPattern
  | "type" => some operand.typePattern
  | "constraint" => some do
      let pattern ← operand.whole
      return .constraint (← mark) pattern
  | "quote" => some do return .quote (← operand.whole)
  | "deref" => some do
      let expression ← operand.whole
      return .deref (← mark) expression
  | "id" => some operand.identifier
  | "line" => some do
      let position ← position moduleName operand.node
      return .lineMark (← mark) position
  | "data" => some do
      let value ← operand.whole
      return .dataMember (← mark) value
  | "unify" => some (operand.termAndPattern .initMember)
  | "foreign" => some operand.foreignValue
  | _ => none

end Operand

mutual

/-- Read a node as a term of a module. -/
def term (moduleName : String) : Node -> Read Term
  | .missing => Read.fail .missing .unsupportedNode
  | .scalar line tag value => Read.literal (.scalar line tag value) tag value
  | .sequence _ _ items => do
      Read.newList (← Read.all ((parts moduleName items).map Part.term))
  | .mapping line tag entries =>
      match entries with
      | [(key, node)] =>
          let operand : Operand :=
            { node, whole := term moduleName node, items := itemParts moduleName node,
              entries := entryParts moduleName node }
          match operand.construct? moduleName key.value with
          | some reading => reading
          | none => Read.fail key (.unknownConstruct key.value)
      | _ => Read.fail (.mapping line tag entries) (.notOneKey entries.length)
  | .reference _ _ target => term moduleName target
  | .selfReference _ _ => throw .absent

/-- Nodes with the steps that read them. -/
def parts (moduleName : String) : List Node -> List Part
  | [] => []
  | node :: rest => ⟨node, term moduleName node⟩ :: parts moduleName rest

/-- The values of entries with the steps that read them. -/
def valueParts (moduleName : String) : List (Node × Node) -> List (Node × Part)
  | [] => []
  | (key, node) :: rest => (key, ⟨node, term moduleName node⟩) :: valueParts moduleName rest

/-- The items of a sequence with the steps that read them. -/
def itemParts (moduleName : String) : Node -> List Part
  | .sequence _ _ items => parts moduleName items
  | _ => []

/-- The entries of a mapping with the steps that read their values. -/
def entryParts (moduleName : String) : Node -> List (Node × Part)
  | .mapping _ _ entries => valueParts moduleName entries
  | _ => []

end

end Program
end PatternMachine
