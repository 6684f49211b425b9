import PatternMachine.Scope

/-!
# Formals of built-in functions

A built-in operation finds its arguments under the names of its formals.
-/

namespace PatternMachine
namespace Builtin

/-- The value of a formal. -/
def formal (name : String) : Action Term := do
  match ← Action.lookup? name with
  | some value => return value
  | none =>
      Action.raise .machineError ("formal parameter " ++ name ++ " is not bound")

/-- The value of a formal that has to be a text. -/
def textFormal (function name : String) : Action String := do
  match ← formal name with
  | .text value => return value
  | other =>
      Action.raise .valueError (function ++ " expects a string, got " ++ other.typeName)

/-- The elements of the formal `xs`, which has to be a list or tuple. -/
def listFormal (function : String) : Action (List Term) := do
  let xs ← formal "xs"
  match (← Action.store).sequenceElements? xs with
  | some elements => return elements
  | none => Action.raise .valueError (function ++ " expects a list, got " ++ xs.typeName)

/-- The formal `x` as a real. -/
def realFormal (function : String) : Action Float := do
  let x ← formal "x"
  match x.number? with
  | some number => return number.toReal
  | none => Action.raise .valueError (function ++ " expects a number, got " ++ x.typeName)

end Builtin
end PatternMachine
