import PatternMachine.Code
import PatternMachine.Program.Reading

/-!
# Reading statements and functions

A statement is a mapping: an expression with an optional pattern, a struct
definition, or a declaration of global names, each with an optional line
marker in front.
-/

namespace PatternMachine
namespace Program

open Document (Node)

/-- A function: its name and its clauses. -/
structure FunctionDefinition where
  name : String
  clauses : List Clause
  deriving Inhabited

namespace Read

/-- The entries of a mapping with certain keys. -/
def fields (node : Node) (allowed : List String) : Read (List (Node × Node)) :=
  match node with
  | .mapping _ _ entries => do
      checkKeys allowed entries
      return entries
  | _ => fail node (.mappingExpected allowed)

/-- Add to an error where it happened. -/
def within {α : Type} (context : LoadError -> LoadError) (step : Read α) : Read α :=
  tryCatch step fun cause => throw (context cause)

/-- The terms of a sequence. -/
def terms (moduleName : String) (node : Node) : Read (List Term) :=
  match node with
  | .sequence _ _ items => all (items.map (term moduleName))
  | _ => fail node .sequenceExpected

/-- The texts of a sequence of scalars. -/
def names (node : Node) : Read (List String) :=
  match node with
  | .sequence _ _ items => all (items.map scalar)
  | _ => fail node .namesExpected

/-- A struct definition. -/
def struct (moduleName : String) (node : Node) : Read Statement := do
  let entries ← fields node ["name", "members"]
  match valueOf? "name" entries with
  | none => fail node .unnamedStruct
  | some named =>
      let name ← scalar named
      let members ← match valueOf? "members" entries with
        | some members => within (.inStruct name) (terms moduleName members)
        | none => pure []
      return .define name members

/-- The statement that marks a line. -/
def lineMarker (moduleName : String) (node : Node) : Read Statement := do
  let position ← Operand.position moduleName node
  return .evaluate (.lineMark (← mark) position) .absent

/-- The statement itself, without its line marker. A marker may stand alone. -/
def unmarkedStatement (moduleName : String) (node : Node) (entries : List (Node × Node)) :
    Read (List Statement) := do
  match valueOf? "struct" entries, valueOf? "global" entries, valueOf? "expr" entries with
  | some definition, _, _ => return [← struct moduleName definition]
  | none, some declared, _ => return [.declareGlobals (← names declared)]
  | none, none, some expression =>
      let expression ← term moduleName expression
      let pattern ← match valueOf? "let" entries with
        | some pattern => term moduleName pattern
        | none => pure .absent
      return [.evaluate expression pattern]
  | none, none, none =>
      if (valueOf? "line" entries).isSome then return [] else fail node (.missingKey "expr")

/-- A statement, with a line marker in front if it has one. -/
def statement (moduleName : String) (node : Node) : Read (List Statement) := do
  let entries ← fields node ["line", "expr", "let", "struct", "global"]
  let marker ← match valueOf? "line" entries with
    | some line => do pure [← lineMarker moduleName line]
    | none => pure []
  return marker ++ (← unmarkedStatement moduleName node entries)

/-- A sequence of statements. -/
def statements (moduleName : String) (node : Node) : Read (List Statement) := do
  match node with
  | .missing => return []
  | .sequence _ _ items => return (← all (items.map (statement moduleName))).flatten
  | _ => fail node .statementsExpected

/-- A clause: a pattern and a body, which may be left out. -/
def clause (moduleName : String) (node : Node) : Read Clause := do
  let entries ← fields node ["pattern", "body"]
  match valueOf? "pattern" entries with
  | none => fail node (.missingKey "pattern")
  | some pattern =>
      let pattern ← term moduleName pattern
      let body ← match valueOf? "body" entries with
        | some body => statements moduleName body
        | none => pure []
      return { pattern, body }

/-- The clauses of a function; there has to be one. -/
def clauses (moduleName : String) (node : Node) : Read (List Clause) :=
  match node with
  | .sequence _ _ (first :: rest) => all ((first :: rest).map (clause moduleName))
  | _ => fail node .clausesExpected

/-- A table of functions. -/
def functions (moduleName : String) (node : Node) : Read (List FunctionDefinition) :=
  match node with
  | .missing => return []
  | .mapping _ _ entries =>
      all (entries.map fun (key, node) => do
        let clauses ← within (.inFunction key.value) (clauses moduleName node)
        return { name := key.value, clauses })
  | _ => fail node .functionsExpected

/-- A sequence of struct definitions. -/
def structs (moduleName : String) (node : Node) : Read (List Statement) :=
  match node with
  | .sequence _ _ items => all (items.map (struct moduleName))
  | _ => fail node .structsExpected

end Read
end Program
end PatternMachine
