import PatternMachine.Command.Invocation
import PatternMachine.Configuration
import PatternMachine.Conformance.Run
import PatternMachine.Program.Source
import PatternMachine.Report

/-!
# Commands

Carrying out a command line on a tree of files. The result is what is printed,
the exit code, and an error that is left to be reported.
-/

namespace PatternMachine
namespace Command

/-- Why a command fails before it has reported anything itself. -/
inductive CommandError
  | line (cause : LineError)
  | configuration (cause : ConfigurationError)
  | collection (cause : Conformance.CollectionError)
  deriving DecidableEq, Repr, Inhabited

/-- The wording of a command error. -/
def CommandError.message : CommandError -> String
  | line cause => cause.message
  | configuration cause => cause.message
  | collection cause => cause.message

/-- What a command leaves behind. -/
structure Result where
  output : String := ""
  diagnostics : String := ""
  code : Nat := 0
  error : Option CommandError := none
  deriving DecidableEq, Repr, Inhabited

namespace Result

/-- The result of a command that failed with an error not reported yet. -/
def ofError (error : CommandError) : Result :=
  { code := 1, error := some error }

/-- The diagnostics with the error that is left to be reported. -/
def allDiagnostics (result : Result) : String :=
  match result.error with
  | some error => result.diagnostics ++ "error: " ++ error.message ++ "\n"
  | none => result.diagnostics

end Result

/-- The configuration a command works with: its file, changed by its flags. -/
def Overrides.configuration? (overrides : Overrides) (files : Files) :
    Except CommandError Configuration :=
  match Configuration.load files overrides.configuration with
  | .error cause => .error (.configuration cause)
  | .ok found =>
      .ok
        { found with
          trace := overrides.trace.getD found.trace
          traceFilter := overrides.traceFilter.getD found.traceFilter }

/-- The text of a trace. -/
def traceText (events : List TraceEvent) : String :=
  String.join (events.map TraceEvent.line)

/-- What a machine leaves behind, and a text printed in the end. -/
def resultOf (machine : Machine) (last : String) (code : Nat) : Result :=
  { output := machine.output ++ last
    diagnostics := traceText machine.trace.toList
    code }

/-- Report an error on the output of a machine. -/
def fail (machine : Machine) (exception : Exception) : Except Stop Result :=
  match exception.report machine with
  | .ok report after => .ok (resultOf after report 1)
  | .error stop _ => .error stop

/-- Report that a program cannot be loaded. -/
def failLoading (machine : Machine) (error : Program.ProgramFileError) : Except Stop Result :=
  match error with
  | .notFound path => fail machine ⟨.standard .fileNotFound path, none⟩
  | _ => .ok (resultOf machine (hostReport error.message) 1)

/-- Run a program. Its value is printed if that is wanted. -/
def runProgram (configuration : Configuration) (files : Files) (path : String)
    (print withBuiltins : Bool) : Except Stop Result :=
  let machineOver (store : Store) : Machine :=
    Machine.prepared store configuration.settings configuration.tracer withBuiltins
  match Program.ofFile files path Store.initial with
  | .error error => failLoading (machineOver Store.initial) error
  | .ok (program, store) =>
      match program.run (machineOver store) with
      | .ok (.finished value) after =>
          .ok (resultOf after (if print then after.store.display value ++ "\n" else "") 0)
      | .ok (.refused error) after => fail after error.exception
      | .ok (.raised exception) after => fail after exception
      | .error stop _ => .error stop

/-- Load a program and register its functions, without running it. Redundant
clauses are refused whatever the configuration says. -/
def checkProgram (configuration : Configuration) (files : Files) (path : String) :
    Except Stop Result :=
  let settings := { configuration.settings with checkRedundancy := true }
  let machineOver (store : Store) : Machine :=
    Machine.prepared store settings configuration.tracer true
  match Program.ofFile files path Store.initial with
  | .error error => failLoading (machineOver Store.initial) error
  | .ok (program, store) =>
      match program.define (machineOver store) with
      | .ok none after =>
          let report :=
            program.name ++ ": " ++ toString program.functions.length ++ " functions, " ++
              toString program.statements.length ++ " statements ok\n"
          .ok (resultOf after report 0)
      | .ok (some error) after => fail after error.exception
      | .error stop _ => .error stop

/-- The line about the verdict on a test, if there is one. -/
def verdictLine (showSkipped : Bool) (result : Conformance.Result) : String :=
  let name := result.loaded.file ++ "/" ++ result.loaded.test.name
  match result.verdict with
  | .passed => ""
  | .skipped reason => if showSkipped then "SKIP " ++ name ++ ": " ++ reason ++ "\n" else ""
  | .failed failure => "FAIL " ++ name ++ ": " ++ failure.message ++ "\n"

/-- Run the conformance suites below a path. Suites that cannot be loaded are
reported; if no test is left, that is an error. -/
def runSuites (configuration : Configuration) (files : Files) (path : String)
    (showSkipped : Bool) : Except Stop Result := do
  match Conformance.collect files path with
  | ([], some cause) => return .ofError (.collection cause)
  | (tests, problem) =>
      let results ← Conformance.runAll Version.current configuration.tracer tests
      let verdicts := results.map Conformance.Result.verdict
      let warning := match problem with
        | some cause => "warning: " ++ cause.message ++ "\n"
        | none => ""
      return {
        output :=
          String.join (results.map (verdictLine showSkipped)) ++ Conformance.summary verdicts ++ "\n"
        diagnostics := warning ++ traceText (results.flatMap Conformance.Result.trace)
        code := if verdicts.any Conformance.Verdict.isFailed then 1 else 0 }

/-- What the version command prints. -/
def versionText : String :=
  programName ++ " " ++ Version.current.shown ++ "\n"

/-- What the help command prints. -/
def helpText : String :=
  "avm runs programs given as YAML node trees.\n\n" ++
    "    $ avm run program.yaml    : run a program\n" ++
    "    $ avm check program.yaml  : load a program and check its functions\n" ++
    "    $ avm test [dir]          : run the conformance suites\n"

/-- Carry out what a command line asks for. -/
def Invocation.perform (files : Files) : Invocation -> Except Stop Result
  | showHelp => .ok { output := helpText }
  | showVersion => .ok { output := versionText }
  | run overrides path print withBuiltins =>
      match overrides.configuration? files with
      | .error error => .ok (.ofError error)
      | .ok configuration => runProgram configuration files path print withBuiltins
  | check overrides path =>
      match overrides.configuration? files with
      | .error error => .ok (.ofError error)
      | .ok configuration => checkProgram configuration files path
  | test overrides path showSkipped =>
      match overrides.configuration? files with
      | .error error => .ok (.ofError error)
      | .ok configuration =>
          runSuites configuration files (path.getD configuration.conformance) showSkipped

/-- Carry out a command line. -/
def perform (files : Files) (line : List String) : Except Stop Result :=
  match Invocation.ofLine line with
  | .error cause => .ok (.ofError (.line cause))
  | .ok invocation => invocation.perform files

end Command
end PatternMachine
