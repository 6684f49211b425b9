import PatternMachine.Code
import PatternMachine.Exception
import PatternMachine.Trace

/-!
# The machine

The state a program runs on, and actions on it. An action either yields a
result or stops; it leaves a state behind in both cases, so that an error never
undoes what happened before it.
-/

namespace PatternMachine

/-- Settings that stay fixed while a program runs. -/
structure Settings where
  /-- The most calls that may be in progress at once; zero and below lift the limit. -/
  maxDepth : Int := 10000
  /-- Whether a function with a clause that can never be reached is refused. -/
  checkRedundancy : Bool := true
  /-- Whether a pattern may bind one name more than once. -/
  allowNonLinear : Bool := false
  deriving DecidableEq, Repr, Inhabited

/-- How many terms of each kind were allocated, by the code of the kind. -/
structure Tally where
  counts : Array Nat := Array.replicate Kind.all.length 0
  deriving DecidableEq, Repr, Inhabited

namespace Tally

/-- Count one more term. -/
def count (tally : Tally) (kind : Kind) : Tally :=
  ⟨tally.counts.modify kind.code (· + 1)⟩

/-- The number of terms of one kind. -/
def get (tally : Tally) (kind : Kind) : Nat :=
  tally.counts[kind.code]?.getD 0

/-- The number of terms counted. -/
def total (tally : Tally) : Nat :=
  tally.counts.foldl (· + ·) 0

/-- The kinds counted at all, in their order, with their numbers. -/
def report (tally : Tally) : String :=
  let parts := Kind.all.filterMap fun kind =>
    if tally.get kind == 0 then none else some (kind.label ++ "=" ++ toString (tally.get kind))
  if parts.isEmpty then "no allocations" else String.intercalate ", " parts

end Tally

/-- Everything a running program can change or depend on. -/
structure Machine where
  store : Store
  /-- The active scopes, outermost first; the first is the global scope. -/
  scopes : Array ScopeRef
  /-- For each active scope, the names declared global in it. -/
  globals : Array GlobalsRef
  dispatch : Dispatch := {}
  settings : Settings := {}
  tracer : Tracer := {}
  tally : Tally := {}
  position : Position := {}
  /-- Whether a quoted term evaluates to the value of the term. -/
  ignoreQuote : Bool := false
  constraintDepth : Nat := 0
  /-- How many calls are in progress. -/
  callDepth : Nat := 0
  /-- The most calls that have been in progress at once. Nothing depends on it. -/
  deepest : Nat := 0
  /-- Whether the warning about undecidable clauses has been given. -/
  guardWarned : Bool := false
  output : String := ""
  trace : Array TraceEvent := #[]
  deriving Inhabited

namespace Machine

/-- Count a call that begins. -/
def beginCall (machine : Machine) : Machine :=
  { machine with
    callDepth := machine.callDepth + 1
    deepest := max machine.deepest (machine.callDepth + 1) }

/-- Count a call that ends. -/
def endCall (machine : Machine) : Machine :=
  { machine with callDepth := machine.callDepth - 1 }

end Machine

/-! ## Checks of the machine itself

A failed check means that the machine is broken or has hit a limit. It ends
everything, and no program can handle it. -/

namespace Contract

/-- The report of a check that does not hold, with or without an explanation. -/
def assertionReport : Option String -> String
  | none => "An assertion has failed"
  | some explanation => "An assertion has failed: " ++ explanation

/-- The report of an unconditional failure. -/
def failureReport (explanation : String) : String :=
  "A failure has occurred: " ++ explanation

/-- Check a condition. -/
def assert (condition : Bool) (explanation : Option String) : Except String Unit :=
  if condition then .ok () else .error (assertionReport explanation)

end Contract

/-! ## Actions -/

/-- Why an action stopped: an error was raised, the machine gave up for good, or
the number of steps it was allowed ran out. What never comes to an end runs out of
any number of steps. -/
inductive Stop
  | raised (exception : Raised)
  | fatal (message : String)
  | exhausted
  deriving Inhabited

/-- An action on the machine. -/
abbrev Action (α : Type) := EStateM Stop Machine α

namespace Action

/-- Raise an error where the machine stands. -/
def raisePayload {α : Type} (payload : Payload) : Action α := fun machine =>
  .error (.raised { payload, origin := machine.position }) machine

/-- Raise a standard error. -/
def raise {α : Type} (kind : ErrorKind) (message : String) : Action α :=
  raisePayload (.standard kind message)

/-- Raise a value. -/
def raiseValue {α : Type} (value : Term) : Action α :=
  raisePayload (.value value)

/-- Give up because an assertion about the machine itself does not hold. -/
def assertionFailure {α : Type} (message : String) : Action α :=
  throw (.fatal (Contract.assertionReport (some message)))

/-- Give up because a limit is exceeded. -/
def failure {α : Type} (message : String) : Action α :=
  throw (.fatal (Contract.failureReport message))

/-- Run an action and then change the state, whether the action stopped or not. -/
def ensuring {α : Type} (action : Action α) (cleanup : Machine -> Machine) : Action α :=
  fun machine =>
    match action machine with
    | .ok result after => .ok result (cleanup after)
    | .error stop after => .error stop (cleanup after)

/-- Run an action; record the position at which an error leaves it. -/
def located {α : Type} (action : Action α) : Action α :=
  fun machine =>
    match action machine with
    | .ok result after => .ok result after
    | .error (.raised exception) after =>
        .error (.raised (exception.locate after.position)) after
    | .error stop after => .error stop after

/-- Run an action; a failed match is an answer rather than an error. -/
def orNoMatch {α : Type} (action : Action α) : Action (Option α) :=
  fun machine =>
    match action machine with
    | .ok result after => .ok (some result) after
    | .error (.raised exception) after =>
        if after.store.isMatchFailure exception.payload then .ok none after
        else .error (.raised exception) after
    | .error stop after => .error stop after

/-- The store as it is now. -/
def store : Action Store := do
  return (← get).store

/-- The term that is found at a site now. -/
def find (site : Site) : Action Term := do
  return (← store).find site

/-- Look at the store for as long as it takes; run out of steps if no answer is ever
found. -/
def finitely {α : Type} (look : Store -> Option α) : Action α := do
  match look (← store) with
  | some answer => return answer
  | none => throw .exhausted

/-- A term as it is shown now. -/
def display (term : Term) : Action String :=
  finitely fun store => store.display? term

/-- Whether two terms are equal now. -/
def equal (left right : Term) : Action Bool :=
  finitely fun store => store.equal? left right

/-- A term as the trace has it now. -/
def caption (term : Term) : Action String := do
  return (← store).display term

/-- Count an allocation. -/
def count (kind : Kind) : Action Unit :=
  modify fun machine => { machine with tally := machine.tally.count kind }

/-- A fresh mark. -/
def freshMark : Action Mark :=
  modifyGet fun machine =>
    let (mark, store) := machine.store.freshMark
    (mark, { machine with store := store })

/-- A fresh cell. It is not counted: the term that owns it is. -/
def newCell (elements : List Term) : Action CellRef :=
  modifyGet fun machine =>
    let (cell, store) := machine.store.newCell elements.toArray
    (cell, { machine with store := store })

/-- Integers from -16 to 255 are shared and not counted. -/
def isSharedInteger (value : Int64) : Bool :=
  -16 <= value && value <= 255

/-- An integer. -/
def newInteger (value : Int64) : Action Term := do
  unless isSharedInteger value do count .integer
  return .integer value

/-- A real. -/
def newReal (value : Float) : Action Term := do
  count .real
  return .real value

/-- A text. -/
def newText (value : String) : Action Term := do
  count .text
  return .text value

/-- A list with the given elements. -/
def newList (elements : List Term) : Action Term := do
  count .list
  return .list (← newCell elements)

/-- A tuple with the given elements. -/
def newTuple (elements : List Term) : Action Term := do
  count .tuple
  return .tuple (← newCell elements)

/-- A pair. -/
def newPair (first second : Term) : Action Term := do
  count .pair
  return .pair first second

/-- A sequence of two values. -/
def newSequence (first second : Term) : Action Term := do
  count .sequence
  return .sequence (← freshMark) first second

/-- A quoted term. -/
def newQuote (expression : Term) : Action Term := do
  count .quote
  return .quote expression

/-- An identifier. -/
def newIdentifier (name : String) : Action Term := do
  count .identifier
  return .identifier name

/-- A foreign value. -/
def newForeign (shown : String) : Action Term := do
  count .foreign
  return .foreign (← freshMark) shown

/-- A function over captured scopes. -/
def newClosure (body : String) (captured : Closure) : Action Term := do
  count .closure
  return .closure body (some captured)

/-- A function bound to a receiver. -/
def newMethod (receiver body : Term) : Action Term := do
  count .method
  return .method (← freshMark) receiver body

/-- A struct whose members start with the given values. -/
def newStruct (name : String) (members : List String) (initial : List Term) :
    Action Template := do
  count .struct
  count .list
  let mark ← freshMark
  return { mark, name, members, memory := ← newCell initial }

/-- An object of a struct, with a copy of the template memory as its own. -/
def newObject (template : Template) : Action CellRef := do
  count .object
  count .list
  newCell ((← store).elements template.memory).toList

/-- Append text to the output. -/
def write (text : String) : Action Unit :=
  modify fun machine => { machine with output := machine.output ++ text }

/-- Record an event if it is followed. -/
def record (event : TraceEvent) : Action Unit :=
  modify fun machine =>
    if machine.tracer.records event then { machine with trace := machine.trace.push event }
    else machine

/-- Whether the calls of a body are traced. -/
def follows (body : String) : Action Bool := do
  return (← get).tracer.follows body

end Action

end PatternMachine
