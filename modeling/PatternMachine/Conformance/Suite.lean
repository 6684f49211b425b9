import PatternMachine.Document.Record

/-!
# Conformance suites

A suite is a document with tests. Each test is a program and what is expected
of it: a value, a type, an error or a printed text.
-/

namespace PatternMachine
namespace Conformance

open Document (Node Value RecordError)
open Document.Decode (Field Schema integerOf truthOf textOf listOf anyOf nodeOf recordOf)

/-- What a suite needs of the machine: a range of versions, and features. -/
structure Requirements where
  machine : String := ""
  features : List String := []
  deriving Inhabited

/-- How the machine is set up for a test. -/
structure Options where
  maxDepth : Int := 0
  checkRedundancy : Option Bool := none
  allowNonLinear : Bool := false
  deriving Inhabited

/-- What is expected of a test. -/
structure Expectation where
  value : Node := .missing
  error : String := ""
  message : String := ""
  typeName : String := ""
  output : Option String := none
  deriving Inhabited

/-- A test. -/
structure Test where
  name : String := ""
  description : String := ""
  skip : Option Value := none
  options : Options := {}
  functions : Node := .missing
  program : Node := .missing
  expectation : Expectation := {}
  deriving Inhabited

/-- A suite of tests, with functions and statements that they share. -/
structure Suite where
  name : String := ""
  description : String := ""
  requirements : Requirements := {}
  functions : Node := .missing
  setup : Node := .missing
  tests : List Test := []
  deriving Inhabited

namespace Requirements

/-- The fields of requirements. -/
def schema : Schema Requirements where
  typeName := "conformance.Requirements"
  fields :=
    [Field.kept "avm" textOf fun text state => { state with machine := text },
      Field.cleared "features" (listOf "[]string" textOf) fun names state =>
        { state with features := names.getD [] }]

end Requirements

namespace Options

/-- The fields of options. -/
def schema : Schema Options where
  typeName := "conformance.Options"
  fields :=
    [Field.kept "max_depth" integerOf fun depth state => { state with maxDepth := depth },
      Field.cleared "check_redundancy" truthOf fun choice state =>
        { state with checkRedundancy := choice },
      Field.kept "allow_nonlinear" truthOf fun choice state =>
        { state with allowNonLinear := choice }]

end Options

namespace Expectation

/-- The fields of an expectation. -/
def schema : Schema Expectation where
  typeName := "conformance.Expectation"
  fields :=
    [Field.kept "value" nodeOf fun node state => { state with value := node },
      Field.kept "error" textOf fun text state => { state with error := text },
      Field.kept "message" textOf fun text state => { state with message := text },
      Field.kept "type" textOf fun text state => { state with typeName := text },
      Field.cleared "output" textOf fun text state => { state with output := text }]

/-- Whether nothing is expected. A message alone does not count. -/
def isEmpty (expectation : Expectation) : Bool :=
  expectation.value.isMissing && expectation.error.isEmpty && expectation.typeName.isEmpty &&
    expectation.output.isNone

end Expectation

namespace Test

/-- The fields of a test. -/
def schema : Schema Test where
  typeName := "conformance.TestCase"
  fields :=
    [Field.kept "name" textOf fun text state => { state with name := text },
      Field.kept "description" textOf fun text state => { state with description := text },
      Field.cleared "skip" anyOf fun content state => { state with skip := content },
      Field.kept "options" (recordOf Options.schema {}) fun options state =>
        { state with options },
      Field.kept "functions" nodeOf fun node state => { state with functions := node },
      Field.kept "program" nodeOf fun node state => { state with program := node },
      Field.kept "expect" (recordOf Expectation.schema {}) fun expectation state =>
        { state with expectation }]

/-- Why a test is to be skipped, if it is. -/
def skipReason? (test : Test) : Option String :=
  match test.skip with
  | some (.boolean true) => some "skipped"
  | some (.text reason) => some reason
  | _ => none

end Test

namespace Suite

/-- The fields of a suite. -/
def schema : Schema Suite where
  typeName := "conformance.TestSuite"
  fields :=
    [Field.kept "name" textOf fun text state => { state with name := text },
      Field.kept "description" textOf fun text state => { state with description := text },
      Field.kept "requires" (recordOf Requirements.schema {}) fun requirements state =>
        { state with requirements },
      Field.kept "functions" nodeOf fun node state => { state with functions := node },
      Field.kept "setup" nodeOf fun node state => { state with setup := node },
      Field.cleared "tests" (listOf "[]conformance.TestCase" (recordOf Test.schema {}))
        fun tests state => { state with tests := tests.getD [] }]

end Suite

/-- Something a suite lacks. -/
inductive Defect
  | unnamedSuite
  | unnamedTest (place : Nat)
  | noProgram (test : String)
  | noExpectation (test : String)
  deriving DecidableEq, Repr, Inhabited

/-- The wording of a defect. -/
def Defect.message : Defect -> String
  | unnamedSuite => "suite has no name"
  | unnamedTest place => "test " ++ toString place ++ " has no name"
  | noProgram test => "test " ++ test ++ " has no program"
  | noExpectation test => "test " ++ test ++ " has no expectation"

/-- A list of errors as one text. -/
def listed (messages : List String) : String :=
  let count := messages.length
  let points := messages.map fun message => "* " ++ message
  toString count ++ (if count == 1 then " error" else " errors") ++ " occurred:\n\t" ++
    String.intercalate "\n\t" points ++ "\n\n"

/-- Why a text is no suite. -/
inductive SuiteError
  | malformed (cause : RecordError)
  | defective (defects : List Defect)
  deriving DecidableEq, Repr, Inhabited

/-- The wording of a suite error. -/
def SuiteError.message : SuiteError -> String
  | malformed cause => cause.message
  | defective defects => listed (defects.map Defect.message)

namespace Suite

/-- What a test lacks. -/
def testDefects (place : Nat) (test : Test) : List Defect :=
  if test.name.isEmpty then [.unnamedTest place]
  else
    (if test.program.isMissing then [.noProgram test.name] else []) ++
      (if test.expectation.isEmpty then [.noExpectation test.name] else [])

/-- What a suite lacks. -/
def defects (suite : Suite) : List Defect :=
  (if suite.name.isEmpty then [.unnamedSuite] else []) ++
    suite.tests.zipIdx.flatMap fun (test, place) => testDefects place test

/-- Read the text of a suite. -/
def ofText (text : String) : Except SuiteError Suite :=
  match Document.recordOfText schema {} text with
  | .error cause => .error (.malformed cause)
  | .ok suite =>
      if suite.defects.isEmpty then .ok suite else .error (.defective suite.defects)

end Suite
end Conformance
end PatternMachine
