import PatternMachine.Conformance.Verdict
import PatternMachine.Files
import PatternMachine.Program.Run

/-!
# Running conformance tests

The suites below a directory are read, and each of their tests is run on a
machine of its own. A suite that cannot be read does not keep the others from
being run.
-/

namespace PatternMachine
namespace Conformance

open Document (Node)

/-- A test with its suite and the file it comes from. -/
structure Loaded where
  file : String
  suite : Suite
  test : Test
  deriving Inhabited

/-- Why not all suites could be loaded. -/
inductive CollectionError
  | noDirectory (cause : FileError)
  | suites (causes : List (String × SuiteError))
  deriving DecidableEq, Repr, Inhabited

/-- The wording of a collection error. -/
def CollectionError.message : CollectionError -> String
  | noDirectory cause => "conformance directory: " ++ cause.message
  | suites causes => listed (causes.map fun (file, cause) => file ++ ": " ++ cause.message)

/-- The file name ending of suites. -/
def suiteExtension : String := ".yaml"

/-- Load the tests of all suites below a path, and report the suites that could
not be loaded. -/
def collect (files : Files) (path : String) : List Loaded × Option CollectionError :=
  match files.collect path suiteExtension with
  | .error cause => ([], some (.noDirectory cause))
  | .ok found =>
      let read := found.map fun (file, text) => (file, Suite.ofText text)
      let tests := read.flatMap fun
        | (file, .ok suite) => suite.tests.map fun test => { file, suite, test }
        | (_, .error _) => []
      let causes := read.filterMap fun
        | (file, .error cause) => some (file, cause)
        | (_, .ok _) => none
      (tests, if causes.isEmpty then none else some (.suites causes))

namespace Loaded

/-- The module name of a test: its file without the ending. -/
def moduleName (loaded : Loaded) : String :=
  let chars := loaded.file.toList
  if suiteExtension.toList.isSuffixOf chars then
    String.ofList (chars.take (chars.length - suiteExtension.length))
  else loaded.file

/-- Read one part of a program. -/
def readPart {α : Type} (part : ProgramPart) (reading : Program.Read α) :
    EStateM Failure Store α := fun store =>
  match reading store with
  | .ok result after => .ok result after
  | .error cause after => .error (.unloadable part cause) after

/-- The program of a test: the functions and the setup of its suite come first. -/
def program (loaded : Loaded) : EStateM Failure Store Program := do
  let name := loaded.moduleName
  let shared ← readPart .suiteFunctions (Program.Read.functions name loaded.suite.functions)
  let own ← readPart .testFunctions (Program.Read.functions name loaded.test.functions)
  let setup ← readPart .suiteSetup (Program.Read.statements name loaded.suite.setup)
  let body ← readPart .program (Program.Read.statements name loaded.test.program)
  readPart .program (Program.assemble name (shared ++ own) (setup ++ body))

/-- The settings of the machine for a test. -/
def settings (loaded : Loaded) : Settings :=
  let options := loaded.test.options
  let standard : Settings := {}
  { maxDepth := if options.maxDepth > 0 then options.maxDepth else standard.maxDepth
    checkRedundancy := options.checkRedundancy.getD standard.checkRedundancy
    allowNonLinear := options.allowNonLinear }

/-- What a test requires and the machine does not provide. -/
def unmet? (loaded : Loaded) (version : Version) : Option Verdict :=
  let source := loaded.suite.requirements.machine
  if source.isEmpty then none
  else
    match VersionRange.ofText source with
    | .error cause => some (.failed (.invalidRange source cause))
    | .ok range =>
        if range.contains version then none
        else some (.skipped ("requires avm " ++ source ++ " (have " ++ version.shown ++ ")"))

end Loaded

namespace Expectation

/-- Compare what was printed. -/
def checkOutput (expectation : Expectation) (output : String) : Verdict :=
  match expectation.output with
  | some expected => if expected == output then .passed else .failed (.otherOutput expected output)
  | none => .passed

/-- Compare an error with the expected one. The expected message is a part of the
whole message. -/
def checkError (expectation : Expectation) (machine : Machine) (payload : Payload) : Verdict :=
  match machine.store.parts? payload with
  | none => .failed (.raisedValue expectation.error (machine.store.errorText payload))
  | some (kind, message) =>
      if kind != expectation.error then .failed (.otherError expectation.error kind message)
      else if !Text.occursIn expectation.message message then
        .failed (.otherMessage expectation.message message)
      else expectation.checkOutput machine.output

/-- Compare the value of a program with the expected one, which is read but not
evaluated. -/
def checkValue (expectation : Expectation) (store : Store) (value : Term) : Option Failure :=
  if expectation.value.isMissing then none
  else
    match Program.term "" expectation.value store with
    | .error cause _ => some (.unreadableValue cause)
    | .ok expected store =>
        if store.equal expected value then none
        else some (.otherValue (store.display expected) (store.display value))

/-- Compare the type of a value with the expected one. -/
def checkType (expectation : Expectation) (value : Term) : Option Failure :=
  if expectation.typeName.isEmpty || value.typeName == expectation.typeName then none
  else some (.otherType expectation.typeName value.typeName)

/-- Compare the outcome of a run with what is expected. -/
def check (expectation : Expectation) (machine : Machine) (outcome : Program.Outcome) :
    Verdict :=
  let store := machine.store
  let unexpected (heading : String) (exception : Exception) : Verdict :=
    if expectation.error.isEmpty then
      .failed (.unexpectedError (heading ++ store.errorText exception.payload))
    else expectation.checkError machine exception.payload
  match outcome with
  | .refused error => unexpected error.heading error.exception
  | .raised exception => unexpected "" exception
  | .finished value =>
      if !expectation.error.isEmpty then
        .failed (.valueForError expectation.error (store.display value))
      else
        match (expectation.checkValue store value).or (expectation.checkType value) with
        | some failure => .failed failure
        | none => expectation.checkOutput machine.output

end Expectation

/-- A verdict and what was traced on the way to it. -/
structure Result where
  loaded : Loaded
  verdict : Verdict
  trace : List TraceEvent := []
  deriving Inhabited

/-- Run the program of a test. -/
def execute (tracer : Tracer) (loaded : Loaded) : Except Stop Result :=
  match loaded.program Store.initial with
  | .error failure _ => .ok { loaded, verdict := .failed failure }
  | .ok program store =>
      let withBuiltins := loaded.suite.requirements.features.contains "builtins"
      let machine := Machine.prepared store loaded.settings tracer withBuiltins
      match program.run machine with
      | .ok outcome after =>
          .ok
            { loaded
              verdict := loaded.test.expectation.check after outcome
              trace := after.trace.toList }
      | .error stop _ => .error stop

/-- Run a test, unless it is skipped or its requirements are not met. -/
def run (version : Version) (tracer : Tracer) (loaded : Loaded) : Except Stop Result :=
  match loaded.test.skipReason? with
  | some reason => .ok { loaded, verdict := .skipped reason }
  | none =>
      match loaded.unmet? version with
      | some verdict => .ok { loaded, verdict }
      | none => execute tracer loaded

/-- Run tests in order. -/
def runAll (version : Version) (tracer : Tracer) (tests : List Loaded) :
    Except Stop (List Result) :=
  tests.mapM (run version tracer)

end Conformance
end PatternMachine
