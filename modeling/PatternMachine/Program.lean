import PatternMachine.Interpreter
import PatternMachine.Program.Statement

/-!
# Programs

A program is a table of functions and the statements to run. Its statements
begin by binding the name of every function, so that functions can call each
other.
-/

namespace PatternMachine

/-- A program. -/
structure Program where
  name : String
  functions : List Program.FunctionDefinition := []
  statements : List Statement := []
  deriving Inhabited

namespace Program

open Document (Node)

/-- The error of a definition, with the function it belongs to. -/
structure DefinitionError where
  function : String
  exception : Exception
  deriving Inhabited

/-- The statement that binds the name of a function to it. -/
def bindFunction (definition : FunctionDefinition) : Read Statement := do
  return .evaluate (.function (← Read.mark) definition.name) (.identifier definition.name)

/-- Put a program together. -/
def assemble (name : String) (functions : List FunctionDefinition)
    (statements : List Statement) : Read Program := do
  let bindings ← Read.all (functions.map bindFunction)
  return { name, functions, statements := bindings ++ statements }

/-- Read one part of a program that may be left out. -/
def optionalPart {α : Type} (entries : List (Node × Node)) (key : String)
    (read : Node -> Read (List α)) : Read (List α) :=
  match Read.valueOf? key entries with
  | some node => read node
  | none => return []

/-- Read a program. It may name itself; otherwise it has the given name. -/
def read (name : String) (node : Node) : Read Program := do
  match node with
  | .missing => return { name }
  | _ =>
      let entries ← Read.fields node ["name", "functions", "structs", "program"]
      let name ← match Read.valueOf? "name" entries with
        | some named => Read.scalar named
        | none => pure name
      let functions ← optionalPart entries "functions" (Read.functions name)
      let structs ← optionalPart entries "structs" (Read.structs name)
      let body ← optionalPart entries "program" (Read.statements name)
      assemble name functions (structs ++ body)

/-- Register functions in order, up to the first that is refused. -/
def defineAll : List FunctionDefinition -> Action (Option DefinitionError)
  | [] => return none
  | definition :: rest => fun machine =>
      match Interpreter.defineFunction definition.name definition.clauses machine with
      | .ok _ after => defineAll rest after
      | .error (.raised exception) after => .ok (some ⟨definition.name, exception⟩) after
      | .error stop after => .error stop after

/-- Register the functions of a program. -/
def define (program : Program) : Action (Option DefinitionError) :=
  defineAll program.functions

end Program
end PatternMachine
