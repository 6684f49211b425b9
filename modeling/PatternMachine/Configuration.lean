import PatternMachine.Document.Record
import PatternMachine.Files
import PatternMachine.Machine

/-!
# Configuration

The settings of the commands. A configuration file changes the standard ones;
fields it leaves out keep their values.
-/

namespace PatternMachine

/-- The settings of the commands. -/
structure Configuration where
  /-- The most calls that may be in progress at once. -/
  maxDepth : Int := 10000
  /-- Whether unreachable clauses are refused; without an answer the machine decides. -/
  checkRedundancy : Option Bool := some true
  allowNonLinear : Bool := false
  trace : Bool := false
  traceFilter : String := ""
  /-- The directory of the conformance suites. -/
  conformance : String := "conformance/testdata"
  deriving DecidableEq, Repr, Inhabited

/-- Why there is no usable configuration. -/
inductive ConfigurationError
  | unreadable (path : String) (cause : FileError)
  | malformed (path : String) (cause : Document.RecordError)
  | depthNotPositive (path : String) (depth : Int)
  deriving DecidableEq, Repr, Inhabited

/-- The wording of a configuration error. -/
def ConfigurationError.message : ConfigurationError -> String
  | unreadable path cause => "reading config " ++ path ++ ": " ++ cause.message
  | malformed path cause => "parsing config " ++ path ++ ": " ++ cause.message
  | depthNotPositive path depth =>
      "config " ++ path ++ ": max_depth must be positive, got " ++ toString depth

namespace Configuration

open Document.Decode (Field Schema integerOf truthOf textOf)

/-- The fields of a configuration file. -/
def schema : Schema Configuration where
  typeName := "config.Config"
  fields :=
    [Field.kept "max_depth" integerOf fun depth state => { state with maxDepth := depth },
      Field.cleared "check_redundancy" truthOf fun choice state =>
        { state with checkRedundancy := choice },
      Field.kept "allow_nonlinear" truthOf fun choice state =>
        { state with allowNonLinear := choice },
      Field.kept "trace" truthOf fun choice state => { state with trace := choice },
      Field.kept "trace_filter" textOf fun text state => { state with traceFilter := text },
      Field.kept "conformance" textOf fun text state => { state with conformance := text }]

/-- Read the text of a configuration file. The path is only used in reports. -/
def ofText (path text : String) : Except ConfigurationError Configuration :=
  match Document.recordOfText schema {} text with
  | .error cause => .error (.malformed path cause)
  | .ok found =>
      if found.maxDepth <= 0 then .error (.depthNotPositive path found.maxDepth) else .ok found

/-- Load a configuration; the empty path stands for the standard one. -/
def load (files : Files) (path : String) : Except ConfigurationError Configuration :=
  if path.isEmpty then .ok {}
  else
    match files.read path with
    | .error cause => .error (.unreadable path cause)
    | .ok text => ofText path text

/-- The settings of a machine that is configured. -/
def settings (configuration : Configuration) : Settings :=
  { maxDepth := configuration.maxDepth
    checkRedundancy := configuration.checkRedundancy.getD true
    allowNonLinear := configuration.allowNonLinear }

/-- What a configured machine traces. -/
def tracer (configuration : Configuration) : Tracer :=
  if configuration.trace then ⟨true, Tracer.parseFilters configuration.traceFilter⟩ else {}

end Configuration
end PatternMachine
