import PatternMachine.Builtin
import PatternMachine.Program

/-!
# Running programs

A program is run by registering its functions and then running its statements.
An error ends the run and is part of its outcome; only what the machine gives up
for good on leaves it without one.
-/

namespace PatternMachine
namespace Program

/-- What stands before the wording of an error in a definition. -/
def DefinitionError.heading (error : DefinitionError) : String :=
  "defining " ++ error.function ++ ": "

/-- How a run ended. -/
inductive Outcome
  | finished (value : Term)
  | refused (error : DefinitionError)
  | raised (exception : Exception)
  deriving Inhabited

/-- Run a program. -/
def run (program : Program) : Action Outcome := fun machine =>
  match program.define machine with
  | .ok (some error) after => .ok (.refused error) after
  | .ok none after =>
      match Interpreter.run program.statements after with
      | .ok value last => .ok (.finished value) last
      | .error (.raised exception) last => .ok (.raised exception) last
      | .error stop last => .error stop last
  | .error stop after => .error stop after

end Program

namespace Machine

/-- A machine with given settings over a store of terms already read. -/
def prepared (store : Store) (settings : Settings) (tracer : Tracer) (withBuiltins : Bool) :
    Machine :=
  let machine := { fresh store with settings, tracer }
  if withBuiltins then
    match Native.installAll machine with
    | .ok _ after => after
    | .error _ after => after
  else machine

end Machine
end PatternMachine
