import PatternMachine.Document.Decode

/-!
# Problems of program files

What can be wrong with the document of a program, and how it is worded. A
problem is reported with the line of the node it belongs to.
-/

namespace PatternMachine
namespace Program

/-- Something wrong with one node. -/
inductive Problem
  | notOneKey (count : Nat)
  | unknownConstruct (key : String)
  | unsupportedNode
  | invalidInteger (source : String)
  | invalidReal (source : String)
  | invalidBoolean (source : String)
  | invalidLine (source : String)
  | scalarExpected
  | sequenceExpected
  | namesExpected
  | statementsExpected
  | clausesExpected
  | functionsExpected
  | structsExpected
  | mappingExpected (keys : List String)
  | wrongOperands (expected found : Nat)
  | unexpectedKey (key : String)
  | missingKey (key : String)
  | callForm
  | operatorForm
  | unknownOperator (sign : String)
  | emptyIdentifier
  | unnamedStruct
  | foreignValue (cause : Document.DecodeError)
  deriving Repr, Inhabited

/-- The wording of a problem. -/
def Problem.message : Problem -> String
  | notOneKey count =>
      "a node mapping must have exactly one key, got " ++ toString count
  | unknownConstruct key => "unknown node kind " ++ Text.quoted key
  | unsupportedNode => "unsupported YAML node"
  | invalidInteger source => "invalid integer " ++ Text.quoted source
  | invalidReal source => "invalid real " ++ Text.quoted source
  | invalidBoolean source => "invalid boolean " ++ Text.quoted source
  | invalidLine source => "invalid line number " ++ Text.quoted source
  | scalarExpected => "expected a scalar"
  | sequenceExpected => "expected a sequence"
  | namesExpected => "expected a sequence of names"
  | statementsExpected => "expected a sequence of statements"
  | clausesExpected => "expected a non-empty sequence of clauses"
  | functionsExpected => "functions must map body ids to clauses"
  | structsExpected => "structs must be a sequence"
  | mappingExpected keys => "expected a mapping with keys " ++ String.intercalate ", " keys
  | wrongOperands expected found =>
      "expected " ++ toString expected ++ " operands, got " ++ toString found
  | unexpectedKey key => "unexpected key " ++ Text.quoted key
  | missingKey key => "missing key " ++ Text.quoted key
  | callForm => "call expects [name, args...]"
  | operatorForm => "op expects [operator, operand] or [operator, left, right]"
  | unknownOperator sign => "unknown operator " ++ Text.quoted sign
  | emptyIdentifier => "empty identifier"
  | unnamedStruct => "struct without a name"
  | foreignValue cause => "decoding foreign value: " ++ cause.message

/-- Why a document is no program: no node at all, a problem on a line, or an
error inside a function or a struct. -/
inductive LoadError
  | absent
  | onLine (line : Nat) (problem : Problem)
  | inFunction (name : String) (cause : LoadError)
  | inStruct (name : String) (cause : LoadError)
  deriving Repr, Inhabited

/-- The wording of a load error. -/
def LoadError.message : LoadError -> String
  | absent => "missing node"
  | onLine line problem => "line " ++ toString line ++ ": " ++ problem.message
  | inFunction name cause => "function " ++ name ++ ": " ++ cause.message
  | inStruct name cause => "struct " ++ name ++ ": " ++ cause.message

end Program
end PatternMachine
