import PatternMachine.Builtin
import PatternMachine.Match
import PatternMachine.Operator

/-!
# Statements, calls and construction

A call runs the code of a function body under the scopes its function captured,
with one fresh scope for the arguments. Whatever happens, the caller gets its
scopes, its position and its depth back.

Programs may nest calls far deeper than the stack of one thread reaches. A
computation can be moved to a stack of its own, which changes nothing about its
result.
-/

namespace PatternMachine

/-- The value of a computation, run on a fresh stack. -/
def onFreshStack {α : Type} (compute : Unit -> α) : α :=
  (Task.spawn compute .dedicated).get

/-- A fresh stack has no influence on the value. -/
theorem onFreshStack_eq {α : Type} (compute : Unit -> α) : onFreshStack compute = compute () :=
  rfl

namespace Evaluator

/-- Read the member declarations of a struct: the member names and their initial
values, in order. -/
def structMembers (self : Evaluator) (name : String) :
    List Term -> List String -> List Term -> Action (List String × List Term)
  | [], names, values => return (names, values)
  | declaration :: rest, names, values => do
      let add (member : String) (value : Term) : Action (List String × List Term) :=
        if names.contains member then
          Action.raise .valueError
            ("struct " ++ name ++ " declares member " ++ member ++ " more than once")
        else self.structMembers name rest (names ++ [member]) (values ++ [value])
      match declaration with
      | .lineMark _ position =>
          modify fun machine => { machine with position := position }
          self.structMembers name rest names values
      | .dataMember _ (.identifier member) => add member .none
      | .dataMember _ _ =>
          Action.raise .machineError ("data member of " ++ name ++ " must be an identifier")
      | .initMember _ term (.identifier member) => add member (← self.walk term)
      | .initMember _ _ _ =>
          Action.raise .machineError
            ("initialised member of " ++ name ++ " must be an identifier")
      | other =>
          Action.raise .machineError
            ("invalid member " ++ other.kind.label ++ " in struct " ++ name)

/-- Build a struct from its member declarations. -/
def buildStruct (self : Evaluator) (name : String) (members : List Term) :
    Action Template := do
  let (names, values) ← self.structMembers name members [] []
  Action.newStruct name names values

/-- Run one statement. -/
def exec (self : Evaluator) : Statement -> Action Term
  | .define name members => do
      let template ← self.buildStruct name members
      Action.bindName template.name (.struct template)
      return .struct template
  | .declareGlobals [] => Action.raise .machineError "statement has no expression"
  | .declareGlobals names => do
      modify fun machine => names.foldl Machine.declareGlobal machine
      return .none
  | .evaluate expression pattern => do
      let value ← self.walk expression
      if pattern.isAbsent then return value
      else
        self.declareAll (← self.unify .binding value pattern)
        return value

/-- Run statements in order; the value is that of the last one. -/
def execBlock (self : Evaluator) : List Statement -> Term -> Action Term
  | [], value => return value
  | statement :: rest, _ => do
      self.execBlock rest (← Action.located (self.exec statement))

/-- Record that a clause was tried. -/
def recordClause (name : String) (clause : Nat) (pattern : Term) (matched : Bool) :
    Action Unit := do
  if ← Action.follows name then
    Action.record (.tried name clause (← Action.caption pattern) matched)

/-- Try clauses in order and run the body of the first one that matches. -/
def tryClauses (self : Evaluator) (name : String) (argument : Term) :
    Nat -> List Clause -> Action Term
  | _, [] => do
      Action.raise .valueError
        ("none of the function bodies of " ++ name ++
          " unified with the actual parameter " ++ (← Action.display argument))
  | place, clause :: rest => do
      match ← Action.orNoMatch (self.unify .binding argument clause.pattern) with
      | none =>
          recordClause name place clause.pattern false
          self.tryClauses name argument (place + 1) rest
      | some bindings =>
          recordClause name place clause.pattern true
          self.declareAll bindings
          self.execBlock clause.body .none

/-- Run code on an argument. -/
def runCode (self : Evaluator) (code : Code) (argument : Term) : Action Term :=
  match code with
  | .clauses name clauses => self.tryClauses name argument 0 clauses
  | .native operation => operation.run

/-- Run code for a call; the trace shows how it began and how it ended. -/
def runTraced (self : Evaluator) (body : String) (code : Code) (argument : Term) :
    Action Term := do
  let followed ← Action.follows body
  if followed then
    Action.record (.called body (← Action.caption argument) (← get).position)
  let result ← fun machine =>
    match Action.located (self.runCode code argument) machine with
    | .error (.raised exception) after =>
        let text := after.store.errorText exception.payload
        match Action.record (.raised body text) after with
        | .ok _ after => .error (.raised exception) after
        | .error stop after => .error stop after
    | outcome => outcome
  if followed then
    let shown ← if result.isAbsent then pure "none" else Action.caption result
    Action.record (.returned body shown)
  return result

/-- How many nested calls share a stack. -/
def callsPerStack : Nat := 128

/-- Refuse a call that is nested too deeply. -/
def checkDepth (body : String) : Action Unit := do
  let machine ← get
  let limit := machine.settings.maxDepth
  if 0 < limit && limit < (machine.callDepth : Int) then
    Action.failure
      ("maximum call depth " ++ toString limit ++ " exceeded in " ++ body ++ " at " ++
        machine.position.shown)

/-- Enter the scopes a function captured, with a fresh scope in which `this` is
the receiver, if there is one. -/
def enterFunction (captured : Closure) (receiver : Term) : Action Unit := do
  Action.install captured
  modify Machine.pushScope
  unless receiver.isAbsent do Action.bindName "this" receiver

/-- Call a function. A missing receiver leaves `this` unbound. -/
def call (self : Evaluator) (receiver : Term) (body : String) (captured : Option Closure)
    (argument : Term) : Action Term := do
  match (← get).dispatch.get? body with
  | none =>
      Action.raise .machineError
        ("no implementation registered for function " ++ Text.quoted body)
  | some code =>
      match captured with
      | none => Action.raise .machineError ("function " ++ Text.quoted body ++ " has no closure")
      | some closure =>
          modify Machine.beginCall
          let caller ← get
          let framed : Action Term := do
            checkDepth body
            Action.ensuring
              (do
                enterFunction closure receiver
                self.runTraced body code argument)
              fun machine =>
                { machine with
                  scopes := caller.scopes
                  globals := caller.globals
                  position := caller.position }
          Action.ensuring
            (if caller.callDepth % callsPerStack == 0 then
              fun machine => onFreshStack fun _ => framed machine
            else framed)
            Machine.endCall

/-- Write values to the data members of a new object. -/
def fillSlots (memory : CellRef) (slots : List Nat) (values : List Term) : Action Unit :=
  modify fun machine =>
    { machine with
      store := (slots.zip values).foldl
        (fun store (slot, value) => store.writeElement memory slot value) machine.store }

/-- The values an argument gives to the data members: the elements of a tuple or
a pair, or the argument itself. None gives no value to a struct without data. -/
def constructorValues (store : Store) (slots : List Nat) (argument : Term) : List Term :=
  match store.tupleElements? argument with
  | some values => values
  | none =>
      match argument, slots with
      | .none, [] => []
      | _, _ => [argument]

/-- Make an object of a struct. A function called `__init__` initialises the
object; otherwise the argument fills the data members in order. -/
def construct (self : Evaluator) (template : Template) (argument : Term) : Action Term := do
  let memory ← Action.newObject template
  let object := Term.object (some template) memory
  match (← Action.store).member? (some template) memory "__init__" with
  | some (.closure body captured) =>
      let _ ← self.call object body captured argument
      return object
  | _ =>
      let store ← Action.store
      let slots := store.dataSlots template
      let values := constructorValues store slots argument
      if values.length != slots.length then
        Action.raise .valueError
          (template.name ++ " takes " ++ toString slots.length ++ " arguments but " ++
            toString values.length ++ " were given")
      else
        fillSlots memory slots values
        return object

/-- Apply an evaluated function, method or struct to an evaluated argument. -/
def applyValue (self : Evaluator) (callee argument : Term) : Action Term :=
  match callee with
  | .closure body captured => self.call .absent body captured argument
  | .method _ receiver (.closure body captured) => self.call receiver body captured argument
  | .method _ _ _ => Action.raise .machineError "bound method has no function body"
  | .struct template => self.construct template argument
  | other =>
      Action.raise .valueError ("value of type " ++ other.typeName ++ " is not callable")

/-- Evaluate an application. Operators come before any name; an indexed function
is called with the indexed structure as its receiver. -/
def walkApply (self : Evaluator) (callee argument : Term) : Action Term := do
  match callee with
  | .index _ subject selector =>
      let structure_ ← self.walk subject
      let member ← self.readIndex structure_ selector
      let value ← self.walk argument
      match member with
      | .closure body captured => self.call structure_ body captured value
      | other => self.applyValue other value
  | .identifier name =>
      match Operator.ofName? name with
      | some operator => applyOperator operator (← self.walk argument)
      | none =>
          let function ← self.walk callee
          self.applyValue function (← self.walk argument)
  | _ =>
      let function ← self.walk callee
      self.applyValue function (← self.walk argument)

/-- Run code by name without a call: the code reads its formals from the active
scopes. -/
def walkEscape (self : Evaluator) (name : String) : Action Term := do
  match (← get).dispatch.get? name with
  | some code => self.runCode code .none
  | none =>
      Action.raise .machineError
        ("no native implementation registered for " ++ Text.quoted name)

end Evaluator
end PatternMachine
