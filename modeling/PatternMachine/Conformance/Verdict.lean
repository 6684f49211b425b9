import PatternMachine.Conformance.Suite
import PatternMachine.Program.Problem
import PatternMachine.Text.Difference
import PatternMachine.Version.Range

/-!
# Verdicts

What comes of a test: it passes, it is skipped, or it fails for a reason.
-/

namespace PatternMachine
namespace Conformance

/-- A part of the program of a test. -/
inductive ProgramPart
  | suiteFunctions
  | testFunctions
  | suiteSetup
  | program
  deriving DecidableEq, Repr, Inhabited

/-- The name of a part. -/
def ProgramPart.label : ProgramPart -> String
  | suiteFunctions => "suite functions"
  | testFunctions => "test functions"
  | suiteSetup => "suite setup"
  | program => "program"

/-- Why a test fails. Values are given as they are displayed. -/
inductive Failure
  | invalidRange (source : String) (cause : RangeError)
  | unloadable (part : ProgramPart) (cause : Program.LoadError)
  | valueForError (expected value : String)
  | raisedValue (expected value : String)
  | otherError (expected kind message : String)
  | otherMessage (expected found : String)
  | unexpectedError (message : String)
  | unreadableValue (cause : Program.LoadError)
  | otherValue (expected found : String)
  | otherType (expected found : String)
  | otherOutput (expected found : String)
  deriving Repr, Inhabited

/-- The wording of a failure. -/
def Failure.message : Failure -> String
  | invalidRange source cause =>
      "invalid requires.avm " ++ Text.quoted source ++ ": " ++ cause.message
  | unloadable part cause => "load error: " ++ part.label ++ ": " ++ cause.message
  | valueForError expected value => "expected error " ++ expected ++ ", got value: " ++ value
  | raisedValue expected value => "expected error " ++ expected ++ ", got raised value " ++ value
  | otherError expected kind message =>
      "expected error " ++ expected ++ ", got " ++ kind ++ ": " ++ message
  | otherMessage expected found => "error message mismatch: " ++ Text.difference expected found
  | unexpectedError message => "unexpected error: " ++ message
  | unreadableValue cause => "failed to decode expected value: " ++ cause.message
  | otherValue expected found => "value mismatch: " ++ Text.difference expected found
  | otherType expected found => "expected type " ++ expected ++ ", got " ++ found
  | otherOutput expected found => "output mismatch: " ++ Text.difference expected found

/-- What comes of a test. -/
inductive Verdict
  | passed
  | skipped (reason : String)
  | failed (failure : Failure)
  deriving Repr, Inhabited

namespace Verdict

/-- Whether a test passed. -/
def isPassed : Verdict -> Bool
  | passed => true
  | _ => false

/-- Whether a test was skipped. -/
def isSkipped : Verdict -> Bool
  | skipped _ => true
  | _ => false

/-- Whether a test failed. -/
def isFailed : Verdict -> Bool
  | failed _ => true
  | _ => false

end Verdict

/-- The numbers of tests with each verdict in one line. -/
def summary (verdicts : List Verdict) : String :=
  toString (verdicts.countP Verdict.isPassed) ++ " passed, " ++
    toString (verdicts.countP Verdict.isFailed) ++ " failed, " ++
    toString (verdicts.countP Verdict.isSkipped) ++ " skipped (" ++
    toString verdicts.length ++ " total)"

end Conformance
end PatternMachine
