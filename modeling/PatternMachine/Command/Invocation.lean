import PatternMachine.Command.Flag
import PatternMachine.Text.EditDistance
import PatternMachine.Text.LetterCase
import PatternMachine.Text.Utf8

/-!
# Command lines

What a command line asks for. The first argument that is neither a flag nor the
value of one names the command; flags may stand before and behind it.
-/

namespace PatternMachine
namespace Command

/-- The name of the program. -/
def programName : String := "avm"

/-- A command. -/
inductive Name
  | run
  | check
  | test
  | version
  | help
  | completion
  deriving DecidableEq, Repr, Inhabited

namespace Name

/-- The commands in their order. -/
def all : List Name :=
  [run, check, test, version, help, completion]

/-- A command as it is written. -/
def word : Name -> String
  | run => "run"
  | check => "check"
  | test => "test"
  | version => "version"
  | help => "help"
  | completion => "completion"

/-- The command with a given name. -/
def ofWord? (word : String) : Option Name :=
  all.find? fun name => name.word == word

end Name

/-- Flags of every command. -/
def sharedFlags : List Flag :=
  [{ name := "config", kind := .text }, { name := "logtostderr", kind := .switch },
    { name := "verbose", letter := some 'v', kind := .integer },
    { name := "trace", kind := .switch }, { name := "trace-filter", kind := .text }]

/-- The flag that asks for help. -/
def helpFlag : Flag :=
  { name := "help", letter := some 'h', kind := .switch }

/-- Flags of one command. -/
def ownFlags : Name -> List Flag
  | .run =>
      [{ name := "print", letter := some 'p', kind := .switch },
        { name := "no-builtins", kind := .switch }]
  | .test => [{ name := "show-skipped", kind := .switch }]
  | _ => []

/-- Why a command line cannot be carried out. -/
inductive LineError
  | unknownCommand (word : String)
  | flag (cause : FlagError)
  | unexpectedOperand (command : Name) (operand : String)
  | wrongCount (expected found : Nat)
  | tooMany (limit found : Nat)
  deriving DecidableEq, Repr, Inhabited

/-- The bytes of a text in lower case. -/
def loweredBytes (text : String) : List Char :=
  (Text.bytesOf (Text.lower text)).map fun byte => Char.ofNat byte.toNat

/-- Whether a command is close to a word: at most two changes away from it, or an
extension of it. -/
def Name.resembles (name : Name) (word : String) : Bool :=
  let wanted := loweredBytes word
  let own := loweredBytes name.word
  Text.editDistance wanted own <= 2 || wanted.isPrefixOf own

/-- The commands that may be meant by a word. -/
def suggestions (word : String) : List Name :=
  Name.all.filter fun name => name != .help && name.resembles word

/-- The suggestions behind a report. -/
def suggestionText (word : String) : String :=
  let names := suggestions word
  if names.isEmpty then ""
  else "\n\nDid you mean this?\n" ++ String.join (names.map fun name => "\t" ++ name.word ++ "\n")

/-- The wording of an error in a command line. -/
def LineError.message : LineError -> String
  | unknownCommand word =>
      "unknown command " ++ Text.quoted word ++ " for " ++ Text.quoted programName ++
        suggestionText word
  | flag cause => cause.message
  | unexpectedOperand command operand =>
      "unknown command " ++ Text.quoted operand ++ " for " ++
        Text.quoted (programName ++ " " ++ command.word)
  | wrongCount expected found =>
      "accepts " ++ toString expected ++ " arg(s), received " ++ toString found
  | tooMany limit found =>
      "accepts at most " ++ toString limit ++ " arg(s), received " ++ toString found

/-- Whether the argument behind a given one is its value: the given one is a long
flag or a single letter, not a switch, and has no value of its own. -/
def takesNext (argument : String) : Bool :=
  if argument.any (· == '=') then false
  else
    match argument.toList with
    | '-' :: '-' :: name =>
        !(Flag.named? sharedFlags (String.ofList name)).any Flag.isSwitch
    | ['-', letter] =>
        letter.utf8Size == 1 && !(Flag.lettered? sharedFlags letter).any Flag.isSwitch
    | _ => false

/-- Whether an argument begins with a hyphen. -/
def isHyphened (argument : String) : Bool :=
  argument.startsWith "-"

/-- The arguments that are neither flags nor values of flags, before two hyphens
alone. A flag that waits for a value hides the last argument behind it. -/
def words : List String -> List String
  | [] => []
  | argument :: rest =>
      if argument == "--" then []
      else if takesNext argument then
        match rest with
        | _ :: next :: more => words (next :: more)
        | _ => []
      else if argument.isEmpty || isHyphened argument then words rest
      else argument :: words rest

/-- The arguments without the first that is a given word. -/
def withoutWord (word : String) : List String -> List String
  | [] => []
  | argument :: rest =>
      if argument == "--" then argument :: rest
      else if takesNext argument then
        match rest with
        | value :: more => argument :: value :: withoutWord word more
        | [] => [argument]
      else if argument == word then rest
      else argument :: withoutWord word rest

/-- Settings that every command takes from its flags. -/
structure Overrides where
  /-- The path of the configuration file; empty for none. -/
  configuration : String := ""
  trace : Option Bool := none
  traceFilter : Option String := none
  deriving DecidableEq, Repr, Inhabited

/-- What a command line asks for. -/
inductive Invocation
  | showHelp
  | showVersion
  | run (overrides : Overrides) (path : String) (print withBuiltins : Bool)
  | check (overrides : Overrides) (path : String)
  | test (overrides : Overrides) (path : Option String) (showSkipped : Bool)
  deriving DecidableEq, Repr, Inhabited

namespace Invocation

/-- The settings that every command takes from its flags. -/
def overridesOf (arguments : Arguments) : Overrides :=
  { configuration := (arguments.text? "config").getD ""
    trace := arguments.switch? "trace"
    traceFilter := arguments.text? "trace-filter" }

/-- What a command asks for, given its arguments. -/
def ofArguments (name : Name) (arguments : Arguments) : Except LineError Invocation :=
  let overrides := overridesOf arguments
  let isOn (flag : String) : Bool := (arguments.switch? flag).getD false
  if isOn helpFlag.name then .ok .showHelp
  else
    match name, arguments.operands with
    | .run, [path] => .ok (.run overrides path (isOn "print") (!isOn "no-builtins"))
    | .check, [path] => .ok (.check overrides path)
    | .test, [] => .ok (.test overrides none (isOn "show-skipped"))
    | .test, [path] => .ok (.test overrides (some path) (isOn "show-skipped"))
    | .version, [] => .ok .showVersion
    | .version, operand :: _ => .error (.unexpectedOperand .version operand)
    | .test, operands => .error (.tooMany 1 operands.length)
    | .help, _ | .completion, _ => .ok .showHelp
    | _, operands => .error (.wrongCount 1 operands.length)

/-- Read the flags in front of and behind a command. -/
def read (flags : List Flag) (arguments : List String) : Except LineError Arguments :=
  (Arguments.read (helpFlag :: flags) arguments).mapError .flag

/-- Read a command line. Without a command it asks for help. -/
def ofLine (line : List String) : Except LineError Invocation := do
  match words line with
  | [] =>
      let _ ← read sharedFlags line
      return .showHelp
  | word :: _ =>
      match Name.ofWord? word with
      | none => throw (.unknownCommand word)
      | some name =>
          ofArguments name (← read (ownFlags name ++ sharedFlags) (withoutWord word line))

end Invocation
end Command
end PatternMachine
