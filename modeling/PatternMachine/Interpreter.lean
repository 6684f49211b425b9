import PatternMachine.Walk

/-!
# The interpreter

Here the circle of evaluation and matching is closed. Every recursive call uses
up one level of a given depth, so that both functions are total; the depth the
interpreter runs with is beyond the reach of any program.
-/

namespace PatternMachine

mutual

/-- Evaluate a term with at most `depth` nested recursive calls. -/
def walkWithin (depth : Nat) (term : Term) : Action Term :=
  match depth with
  | 0 => throw .exhausted
  | depth + 1 => Evaluator.walkStep ⟨walkWithin depth, unifyWithin depth⟩ term

/-- Match a term with at most `depth` nested recursive calls. -/
def unifyWithin (depth : Nat) (mode : Mode) (term pattern : Term) : Action (List Binding) :=
  match depth with
  | 0 => throw .exhausted
  | depth + 1 => Evaluator.unifyStep ⟨walkWithin depth, unifyWithin depth⟩ mode term pattern

end

namespace Evaluator

/-- The evaluator that allows a given depth of recursion. -/
def within (depth : Nat) : Evaluator :=
  ⟨walkWithin depth, unifyWithin depth⟩

/-- The depth the interpreter runs with. -/
def depthLimit : Nat := Nat.pow 2 60

/-- The evaluator the interpreter runs with. -/
def standard : Evaluator :=
  within depthLimit

end Evaluator

namespace Machine

/-- A machine over a store of terms already read: one empty global scope with
the exception struct in it. -/
def fresh (store : Store) : Machine :=
  let (scope, store) := store.newScope
  let (names, store) := store.newGlobals
  let machine : Machine := { store := store, scopes := #[scope], globals := #[names] }
  machine.bindName Template.exception.name (.struct Template.exception)

end Machine

namespace Interpreter

/-- Evaluate a term. -/
def walk (term : Term) : Action Term :=
  Evaluator.standard.walk term

/-- Match a term against a pattern. -/
def unify (mode : Mode) (term pattern : Term) : Action (List Binding) :=
  Evaluator.standard.unify mode term pattern

/-- Run statements; the value is that of the last one, or none. -/
def run (statements : List Statement) : Action Term :=
  Evaluator.standard.execBlock statements .none

/-- The error that one clause is already covered by an earlier one. -/
def redundant (name : String) (later earlier : Nat × Clause) : Action Unit := do
  Action.raise .redundantPattern
    ("function " ++ name ++ ": clause " ++ toString later.1 ++ " (" ++
      (← Action.display later.2.pattern) ++ ") is unreachable, clause " ++ toString earlier.1 ++
      " (" ++ (← Action.display earlier.2.pattern) ++ ") already matches it")

/-- Whether an earlier pattern covers a later one. Every error counts as no. -/
def covers (later earlier : Term) : Action Bool := fun machine =>
  match unify .covering later earlier machine with
  | .ok _ after => .ok true after
  | .error (.raised _) after => .ok false after
  | .error stop after => .error stop after

/-- Compare a clause with the earlier ones. -/
def checkAgainst (name : String) (later : Nat × Clause) : List (Nat × Clause) -> Action Unit
  | [] => return ()
  | earlier :: rest => do
      if ← covers later.2.pattern earlier.2.pattern then redundant name later earlier
      checkAgainst name later rest

/-- Compare every clause with all earlier ones, which are given in `before`. -/
def checkFrom (name : String) :
    List (Nat × Clause) -> List (Nat × Clause) -> Action Unit
  | _, [] => return ()
  | before, clause :: rest => do
      checkAgainst name clause before
      checkFrom name (before ++ [clause]) rest

/-- Refuse a function with a clause that an earlier clause covers. -/
def checkClauses (name : String) (clauses : List Clause) : Action Unit :=
  checkFrom name [] (clauses.zipIdx.map fun (clause, place) => (place, clause))

/-- Register a function. With redundancy checking a redundant clause is refused. -/
def defineFunction (name : String) (clauses : List Clause) : Action Unit := do
  if (← get).settings.checkRedundancy then checkClauses name clauses
  modify fun machine =>
    { machine with dispatch := machine.dispatch.insert name (.clauses name clauses) }

end Interpreter

end PatternMachine
