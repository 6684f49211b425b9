import PatternMachine.Call

/-!
# Evaluation

Literals and values evaluate to themselves. Containers evaluate their parts
from left to right into a new container, so that a program read once can be
evaluated any number of times.
-/

namespace PatternMachine

/-- The members of an ascending range from `value` on, at most `count` of them.
The range ends before the next step would pass `last`, so that no step that is
made wraps around. -/
def ascending (last step : Int64) : Nat -> Int64 -> List Int64
  | 0, _ => []
  | count + 1, value =>
      if value <= last then
        value :: (if last - step < value then [] else ascending last step count (value + step))
      else []

/-- The members of a descending range from `value` on, at most `count` of them. -/
def descending (last step : Int64) : Nat -> Int64 -> List Int64
  | 0, _ => []
  | count + 1, value =>
      if last <= value then
        value :: (if value < last - step then [] else descending last step count (value + step))
      else []

/-- The members of a range of integers, both ends included. -/
def rangeMembers (first last step : Int64) : List Int64 :=
  let count := ((last.toInt - first.toInt) / step.toInt).toNat + 1
  if 0 < step then ascending last step count first else descending last step count first

namespace Evaluator

/-- Evaluate a bound of a range. -/
def walkBound (self : Evaluator) (what : String) (term : Term) : Action Int64 := do
  match ← self.walk term with
  | .integer value => return value
  | other =>
      Action.raise .valueError (what ++ " must be an integer, got " ++ other.typeName)

/-- Make integers one after the other. -/
def newIntegers : List Int64 -> Action (List Term)
  | [] => return []
  | value :: rest => do
      let term ← Action.newInteger value
      return term :: (← newIntegers rest)

/-- Evaluate a range. The stride is one unless it is given. -/
def walkRange (self : Evaluator) (start stop stride : Term) : Action Term := do
  let first ← self.walkBound "range start" start
  let last ← self.walkBound "range end" stop
  let step ← if stride.isOmitted then pure 1 else self.walkBound "range stride" stride
  if step == 0 then Action.raise .valueError "range stride cannot be zero"
  else Action.newList (← newIntegers (rangeMembers first last step))

/-- Evaluate a head and a tail to a list. -/
def walkHeadTail (self : Evaluator) (head tail : Term) : Action Term := do
  let first ← self.walk head
  match ← self.walk tail with
  | .list cell => Action.newList (first :: ((← Action.store).elements cell).toList)
  | other =>
      Action.raise .valueError
        ("tail of a head-tail expression must be a list, got " ++ other.typeName)

/-- Evaluate a condition and exactly one branch. -/
def walkConditional (self : Evaluator) (condition consequent alternative : Term) :
    Action Term := do
  let verdict ← self.walk condition
  if (← Action.store).truthy verdict then self.walk consequent
  else if alternative.isAbsent then return .none
  else self.walk alternative

/-- Match a value and commit the bindings. A failed match is false. -/
def walkIsMatch (self : Evaluator) (subject pattern : Term) : Action Term := do
  let value ← self.walk subject
  match ← Action.orNoMatch (self.unify .binding value pattern) with
  | none => return .boolean false
  | some bindings =>
      self.declareAll bindings
      return .boolean true

/-- Look for a value among the elements of a list or tuple. -/
def walkMembership (self : Evaluator) (element container : Term) : Action Term := do
  let value ← self.walk element
  let sequence ← self.walk container
  match (← Action.store).sequenceElements? sequence with
  | some elements =>
      return .boolean
        (← Action.finitely fun store => elements.anyM fun other => store.equal? value other)
  | none =>
      Action.raise .valueError ("in expects a list but got " ++ sequence.typeName)

/-- Evaluate a term with quotes transparent, and once more if a quote is left. -/
def walkEvaluation (self : Evaluator) (expression : Term) : Action Term := do
  let before := (← get).ignoreQuote
  modify fun machine => { machine with ignoreQuote := true }
  Action.ensuring
    (do
      match ← self.walk expression with
      | .quote inner => self.walk inner
      | value => return value)
    fun machine => { machine with ignoreQuote := before }

/-- The value of a name. The error for an unbound name suggests a similar one. -/
def walkIdentifier (name : String) : Action Term := do
  match ← Action.lookup? name with
  | some value => return value
  | none =>
      let suggestion := (← get).suggest name
      Action.raise .valueError
        (name ++ " is not defined" ++
          (if suggestion.isEmpty then "" else " (did you mean " ++ suggestion ++ "?)"))

/-- Evaluate a term: one step of the recursion. -/
def walkStep (self : Evaluator) (term : Term) : Action Term := do
  match term with
  | .absent => Action.raise .machineError "walk called with a missing node"
  | .integer _ => return term
  | .real _ => return term
  | .boolean _ => return term
  | .text _ => return term
  | .none => return term
  | .nil => return term
  | .object _ _ => return term
  | .foreign _ _ => return term
  | .method _ _ _ => return term
  | .closure _ _ => return term
  | .struct _ => return term
  | .lineMark _ position =>
      modify fun machine => { machine with position := position }
      return .none
  | .list _ => Action.newList (← self.walkAll ((← Action.store).sites term))
  | .tuple _ => Action.newTuple (← self.walkAll ((← Action.store).sites term))
  | .pair first second =>
      let firstValue ← self.walk first
      Action.newPair firstValue (← self.walk second)
  | .sequence _ first second =>
      let firstValue ← self.walk first
      Action.newSequence firstValue (← self.walk second)
  | .range _ _ start stop stride => self.walkRange start stop stride
  | .headTail _ _ head tail => self.walkHeadTail head tail
  | .function _ body => Action.newClosure body (← Action.capture)
  | .apply _ callee argument => self.walkApply callee argument
  | .index _ subject selector => self.walkIndex subject selector
  | .conditional _ condition consequent alternative =>
      self.walkConditional condition consequent alternative
  | .isMatch _ subject pattern => self.walkIsMatch subject pattern
  | .membership _ element container => self.walkMembership element container
  | .evaluation _ expression => self.walkEvaluation expression
  | .escape _ name => self.walkEscape name
  | .quote expression =>
      if (← get).ignoreQuote then self.walk expression else return term
  | .deref _ expression => self.walk expression
  | .identifier name => walkIdentifier name
  | .named _ _ _ =>
      Action.raise .valueError
        ((← Action.display term) ++ " is a pattern and cannot be evaluated")
  | .typeMatch _ _ =>
      Action.raise .valueError
        ((← Action.display term) ++ " is a pattern and cannot be evaluated")
  | .constraint _ _ =>
      Action.raise .valueError
        ((← Action.display term) ++ " is a pattern and cannot be evaluated")
  | .dataMember _ _ =>
      Action.raise .machineError
        (term.kind.label ++ " is only valid inside a struct definition")
  | .initMember _ _ _ =>
      Action.raise .machineError
        (term.kind.label ++ " is only valid inside a struct definition")

end Evaluator
end PatternMachine
