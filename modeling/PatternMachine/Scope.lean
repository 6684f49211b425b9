import PatternMachine.Machine
import PatternMachine.Text.EditDistance
import PatternMachine.Text.LetterCase

/-!
# Scopes

Names are looked up from the innermost active scope outwards. A name is bound
in the innermost scope, unless it was declared global there: then it is bound
in the global scope.
-/

namespace PatternMachine

namespace Machine

/-- The level of the innermost scope. -/
def level (machine : Machine) : Int :=
  (machine.scopes.size : Int) - 1

/-- Whether a name is declared global in the innermost scope. -/
def isGlobal (machine : Machine) (name : String) : Bool :=
  match machine.globals.back? with
  | some names => (machine.store.globalNames names).contains name
  | none => false

/-- The scope a name is bound in by the next binding. -/
def bindingScope? (machine : Machine) (name : String) : Option ScopeRef :=
  if machine.isGlobal name then machine.scopes[0]? else machine.scopes.back?

/-- Bind a name. -/
def bindName (machine : Machine) (name : String) (value : Term) : Machine :=
  match machine.bindingScope? name with
  | some scope => { machine with store := machine.store.bind scope name value }
  | none => machine

/-- Declare a name global in the innermost scope. -/
def declareGlobal (machine : Machine) (name : String) : Machine :=
  match machine.globals.back? with
  | some names => { machine with store := machine.store.declareGlobal names name }
  | none => machine

/-- Open a new innermost scope. -/
def pushScope (machine : Machine) : Machine :=
  let (scope, store) := machine.store.newScope
  let (names, store) := store.newGlobals
  { machine with
    store := store, scopes := machine.scopes.push scope, globals := machine.globals.push names }

/-- Close the innermost scope. -/
def popScope (machine : Machine) : Machine :=
  { machine with scopes := machine.scopes.pop, globals := machine.globals.pop }

/-- The innermost level, at most `below`, at which a name is bound. -/
def findBelow? (machine : Machine) (name : String) : Nat -> Option Nat
  | 0 => none
  | below + 1 =>
      match machine.scopes[below]? with
      | some scope =>
          if (machine.store.scope scope).contains name then some below
          else machine.findBelow? name below
      | none => machine.findBelow? name below

/-- The innermost level at which a name is bound. -/
def find? (machine : Machine) (name : String) : Option Nat :=
  machine.findBelow? name machine.scopes.size

/-- The value of a name. -/
def lookup? (machine : Machine) (name : String) : Option Term := do
  let scope ← machine.scopes[← machine.find? name]?
  (machine.store.scope scope).get? name

/-- The visible names in increasing order, each once. -/
def names (machine : Machine) : List String :=
  (machine.scopes.toList.flatMap fun scope => (machine.store.scope scope).names).eraseDups.mergeSort

/-- The largest distance at which a name still counts as a misspelling. -/
def suggestionDistance : Nat := 2

/-- How far apart two names are by a distance of texts, whatever the case of
their letters. -/
def spellingDistance (distance : List Char -> List Char -> Nat) (name candidate : String) : Nat :=
  distance (Text.lower name).toList (Text.lower candidate).toList

/-- Keep the nearer of the best candidate so far and a new one; the earlier one
wins a tie. -/
def nearer
    (distance : List Char -> List Char -> Nat)
    (name : String)
    (best : String × Nat)
    (candidate : String) :
    String × Nat :=
  if candidate.startsWith "__" then best
  else
    let far := spellingDistance distance name candidate
    if far < best.2 then (candidate, far) else best

/-- The visible name nearest to a given one by a distance of texts, or the empty
text when none is near. Names that start with two underscores are never suggested. -/
def suggestBy
    (machine : Machine)
    (distance : List Char -> List Char -> Nat)
    (name : String) :
    String :=
  (machine.names.foldl (nearer distance name) ("", suggestionDistance + 1)).1

/-- The name suggested for a misspelt one: the nearest by edit distance. -/
def suggest (machine : Machine) (name : String) : String :=
  machine.suggestBy Text.editDistance name

end Machine

namespace Action

/-- A snapshot of the active scopes. -/
def capture : Action Closure := do
  let mark ← freshMark
  let machine ← get
  return { mark, scopes := machine.scopes, globals := machine.globals, level := machine.level }

/-- One set of global names for each of `size` levels: the given ones from the
outermost level inwards, and fresh empty ones for the levels left over. -/
def alignGlobals (size : Nat) (given : List GlobalsRef) : Action (Array GlobalsRef) :=
  modifyGet fun machine =>
    let kept := given.take size
    let (fresh, store) := (List.range (size - kept.length)).foldl
      (fun (refs, store) _ =>
        let (ref, store) := Store.newGlobals store
        (refs ++ [ref], store))
      (([] : List GlobalsRef), machine.store)
    ((kept ++ fresh).toArray, { machine with store := store })

/-- Make a snapshot the active scopes, up to its level. A level outside the
snapshot stands for all of it. -/
def install (closure : Closure) : Action Unit := do
  if closure.scopes.isEmpty then assertionFailure "closure has no global scope"
  let wanted := closure.level + 1
  let size :=
    if (closure.scopes.size : Int) < wanted || wanted < 1 then closure.scopes.size
    else wanted.toNat
  let globals ← alignGlobals size closure.globals.toList
  modify fun machine =>
    { machine with scopes := closure.scopes.extract 0 size, globals := globals }

/-- Close the innermost scope; the global scope stays. -/
def popScope : Action Unit := do
  if (← get).scopes.size <= 1 then assertionFailure "cannot pop the global scope"
  modify Machine.popScope

/-- Bind a name. -/
def bindName (name : String) (value : Term) : Action Unit :=
  modify fun machine => machine.bindName name value

/-- The value of a name. -/
def lookup? (name : String) : Action (Option Term) := do
  return (← get).lookup? name

/-- The value of a name that has to be bound. -/
def lookupStrict (name : String) : Action Term := do
  match ← lookup? name with
  | some value => return value
  | none => assertionFailure (Text.quoted name ++ " is not defined")

end Action

end PatternMachine
