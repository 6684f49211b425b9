import PatternMachine.Interpreter

/-!
# The report of an uncaught error

An error that leaves a program is reported in one line, with its position
unless that is empty. An error that does not look like an exception object is
reported as being of unknown type.
-/

namespace PatternMachine

/-- A position behind a report; the empty position is not shown. -/
def Position.suffix (position : Position) : String :=
  if position.moduleName.isEmpty && position.line == 0 then "" else " (" ++ position.shown ++ ")"

/-- The report of an error that no program raised. -/
def hostReport (message : String) : String :=
  "ERROR: " ++ message ++ "\n"

namespace Exception

/-- The raised value: a standard error is an exception object. -/
def raisedValue (exception : Exception) : Action Term := do
  match exception.payload with
  | .value term => return term
  | .standard kind message =>
      let memory ← Action.newCell [.text kind.label, .text message]
      return .object (some Template.exception) memory

/-- The pattern of an exception object. -/
def objectPattern : Action Term := do
  let members ← Action.newCell (Template.exception.members.map Term.identifier)
  return .apply (← Action.freshMark) (.identifier Template.exception.name) (.tuple members)

/-- The report of an error. -/
def report (exception : Exception) : Action String := do
  let value ← exception.raisedValue
  let pattern ← objectPattern
  let position := exception.position.getD (← get).position
  fun machine =>
    match Interpreter.unify .binding value pattern machine with
    | .ok bindings after =>
        let shown := bindings.map fun binding => after.store.display binding.value
        .ok ("ERROR: " ++ String.intercalate ": " shown ++ position.suffix ++ "\n") after
    | .error (.raised _) after =>
        .ok
          ("ERROR: Unknown Error Type: " ++ after.store.display value ++ position.suffix ++ "\n")
          after
    | .error stop after => .error stop after

end Exception
end PatternMachine
