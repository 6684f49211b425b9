import PatternMachine.Term

/-!
# Executable code

A function is a list of clauses tried in order, or one of the operations that
are built into the machine. The dispatch table finds the code of a function
body by its name.
-/

namespace PatternMachine

/-- One step of a program: a struct definition, a declaration of global names,
or an expression whose value is matched against a pattern. A missing pattern
leaves the value unmatched. -/
inductive Statement
  | define (name : String) (members : List Term)
  | declareGlobals (names : List String)
  | evaluate (expression pattern : Term)
  deriving Inhabited

/-- One equation of a function: a pattern for the argument and the statements
run when the argument matches. -/
structure Clause where
  pattern : Term
  body : List Statement
  deriving Inhabited

/-- The operations built into the machine. -/
inductive Native
  | abs
  | ceil
  | downcase
  | explode
  | floor
  | hash
  | implode
  | index
  | len
  | max
  | member
  | min
  | print
  | println
  | raise
  | reverse
  | sort
  | sqrt
  | tointeger
  | toreal
  | tostring
  | trim
  | typeof
  | unique
  | upcase
  deriving DecidableEq, Repr, Inhabited

/-- The code of a function body. -/
inductive Code
  | clauses (name : String) (clauses : List Clause)
  | native (operation : Native)
  deriving Inhabited

/-- The dispatch table. The latest entry for a name counts. -/
structure Dispatch where
  entries : List (String × Code) := []
  deriving Inhabited

namespace Dispatch

/-- The code registered under a name. -/
def get? (dispatch : Dispatch) (name : String) : Option Code :=
  dispatch.entries.lookup name

/-- Register code under a name. -/
def insert (dispatch : Dispatch) (name : String) (code : Code) : Dispatch :=
  ⟨(name, code) :: dispatch.entries⟩

end Dispatch

end PatternMachine
