import PatternMachine.Tree

/-!
# Exceptions

A raised error carries either a standard kind with a message, or any value a
program chose to raise. An exception object, a value of the struct `Exception`
with a text as its kind, reads like a standard error.
-/

namespace PatternMachine

/-- The kinds of standard errors. -/
inductive ErrorKind
  | patternMatchFailed
  | valueError
  | arithmeticError
  | machineError
  | fileNotFound
  | nonLinearPattern
  | redundantPattern
  deriving DecidableEq, Repr, Inhabited

namespace ErrorKind

/-- All kinds, each at the place given by its code. -/
def all : List ErrorKind :=
  [patternMatchFailed, valueError, arithmeticError, machineError, fileNotFound, nonLinearPattern,
    redundantPattern]

/-- The place of a kind in the fixed order. -/
def code (kind : ErrorKind) : Nat :=
  kind.ctorIdx

/-- The name of a kind in an exception object. -/
def label : ErrorKind -> String
  | patternMatchFailed => "PatternMatchFailed"
  | valueError => "ValueError"
  | arithmeticError => "ArithmeticError"
  | machineError => "VMError"
  | fileNotFound => "FileNotFound"
  | nonLinearPattern => "NonLinearPattern"
  | redundantPattern => "RedundantPatternFound"

/-- A short description of a kind. -/
def description : ErrorKind -> String
  | patternMatchFailed => "Pattern match failed"
  | valueError => "Invalid value"
  | arithmeticError => "Arithmetic error"
  | machineError => "Internal virtual machine error"
  | fileNotFound => "File not found"
  | nonLinearPattern => "Non-linear pattern"
  | redundantPattern => "Redundant pattern"

/-- The kind with a given name. -/
def ofLabel? (name : String) : Option ErrorKind :=
  all.find? fun kind => kind.label == name

/-- The kind with a given code. -/
def ofCode? (code : Int) : Option ErrorKind :=
  if code < 0 then none else all[code.toNat]?

/-- The name of the kind with a given code. -/
def labelOfCode (code : Int) : String :=
  ((ofCode? code).map label).getD "UnknownError"

/-- The description of the kind with a given code. -/
def descriptionOfCode (code : Int) : String :=
  ((ofCode? code).map description).getD "Unknown error"

end ErrorKind

/-- What was raised. -/
inductive Payload
  | standard (kind : ErrorKind) (message : String)
  | value (term : Term)
  deriving Inhabited

/-- A raised error with the position at which it first left a statement or a
call. -/
structure Exception where
  payload : Payload
  position : Option Position := none
  deriving Inhabited

namespace Exception

/-- Record a position unless one is recorded already. -/
def locate (exception : Exception) (position : Position) : Exception :=
  { exception with position := exception.position.or (some position) }

end Exception

/-- An error on its way out of a run. Its position is worked out on the way;
`origin` is where the machine stood when the error was raised, and nothing in a
run depends on it. -/
structure Raised extends Exception where
  origin : Position := {}
  deriving Inhabited

namespace Raised

instance : Coe Raised Exception := ⟨toException⟩

/-- Record a position unless one is recorded already. -/
def locate (raised : Raised) (position : Position) : Raised :=
  { raised with toException := raised.toException.locate position }

end Raised

namespace Store

/-- The kind and the message of an error that has them: a standard one, or an
object of a struct named `Exception` with two members, the first of them a
text. -/
def parts? (store : Store) : Payload -> Option (String × String)
  | .standard kind message => some (kind.label, message)
  | .value (.object template memory) =>
      if structName template == Template.exception.name then
        match (store.elements memory).toList with
        | [.text kind, message] => some (kind, store.display message)
        | _ => none
      else none
  | .value _ => none

/-- An error as it is reported. -/
def errorText (store : Store) (payload : Payload) : String :=
  match store.parts? payload, payload with
  | some (kind, message), _ => kind ++ ": " ++ message
  | none, .value term => store.display term
  | none, .standard kind message => kind.label ++ ": " ++ message

/-- The standard kind of an error, if it has one. -/
def errorKind? (store : Store) (payload : Payload) : Option ErrorKind := do
  ErrorKind.ofLabel? (← store.parts? payload).1

/-- Whether an error says that a pattern did not match. -/
def isMatchFailure (store : Store) (payload : Payload) : Bool :=
  store.errorKind? payload == some .patternMatchFailed

end Store

end PatternMachine
