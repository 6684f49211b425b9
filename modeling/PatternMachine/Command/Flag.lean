import PatternMachine.Number.Literal
import PatternMachine.Text.Quoted

/-!
# Flags

Arguments that begin with a hyphen. A flag has a long name and may have a
letter. A switch needs no value; any other flag takes its value from behind an
equals sign or, if there is none, from the next argument. Letters can be written
together. Two hyphens alone end the flags.
-/

namespace PatternMachine
namespace Command

/-- What values a flag has. -/
inductive FlagKind
  | switch
  | text
  | integer
  deriving DecidableEq, Repr, Inhabited

/-- A flag. -/
structure Flag where
  name : String
  letter : Option Char := none
  kind : FlagKind
  deriving DecidableEq, Repr, Inhabited

/-- The value of a flag. -/
inductive FlagValue
  | switch (value : Bool)
  | text (value : String)
  | integer (value : Int)
  deriving DecidableEq, Repr, Inhabited

/-- Why a value does not suit a flag. -/
inductive ValueProblem
  | noBoolean
  | noInteger
  | integerTooLarge
  deriving DecidableEq, Repr, Inhabited

/-- The wording of a problem with a value. -/
def ValueProblem.message (value : String) : ValueProblem -> String
  | noBoolean => "strconv.ParseBool: parsing " ++ Text.quoted value ++ ": invalid syntax"
  | noInteger => "strconv.ParseInt: parsing " ++ Text.quoted value ++ ": invalid syntax"
  | integerTooLarge =>
      "strconv.ParseInt: parsing " ++ Text.quoted value ++ ": value out of range"

/-- What is wrong with the flags of a command line. -/
inductive FlagError
  | badSyntax (argument : String)
  | unknown (name : String)
  | unknownLetter (letter : Char) (letters : String)
  | noValue (argument : String)
  | noValueForLetter (letter : Char) (letters : String)
  | invalidValue (flag : Flag) (value : String) (problem : ValueProblem)
  deriving DecidableEq, Repr, Inhabited

/-- A flag as it is named in reports. -/
def Flag.shown (flag : Flag) : String :=
  match flag.letter with
  | some letter => "-" ++ String.singleton letter ++ ", --" ++ flag.name
  | none => "--" ++ flag.name

/-- A letter in quotes: the character with the code of its first byte. -/
def quotedLetter (letter : Char) : String :=
  let first := (String.singleton letter).toUTF8.toList.headD 0
  let c := Char.ofNat first.toNat
  let inner :=
    if c == '\'' then ['\\', '\'']
    else if c == '"' then ['"']
    else Text.quotedChar c
  String.ofList ('\'' :: inner ++ ['\''])

/-- The wording of a flag error. -/
def FlagError.message : FlagError -> String
  | badSyntax argument => "bad flag syntax: " ++ argument
  | unknown name => "unknown flag: --" ++ name
  | unknownLetter letter letters =>
      "unknown shorthand flag: " ++ quotedLetter letter ++ " in -" ++ letters
  | noValue argument => "flag needs an argument: " ++ argument
  | noValueForLetter letter letters =>
      "flag needs an argument: " ++ quotedLetter letter ++ " in -" ++ letters
  | invalidValue flag value problem =>
      "invalid argument " ++ Text.quoted value ++ " for " ++ Text.quoted flag.shown ++ " flag: " ++
        problem.message value

namespace Flag

/-- Read the value of a flag. -/
def readValue (flag : Flag) (source : String) : Except FlagError FlagValue :=
  match flag.kind with
  | .text => .ok (.text source)
  | .switch =>
      match Number.boolean? source with
      | some value => .ok (.switch value)
      | none => .error (.invalidValue flag source .noBoolean)
  | .integer =>
      match Number.integer? source with
      | some value => .ok (.integer value.toInt)
      | none =>
          let digits := (Number.splitSign source.toList).2
          .error
            (.invalidValue flag source
              (if (Number.natural? digits).isSome then .integerTooLarge else .noInteger))

/-- The flag with a given name. -/
def named? (flags : List Flag) (name : String) : Option Flag :=
  flags.find? fun flag => flag.name == name

/-- The flag with a given letter. -/
def lettered? (flags : List Flag) (letter : Char) : Option Flag :=
  flags.find? fun flag => flag.letter == some letter

/-- Whether a flag is a switch. -/
def isSwitch (flag : Flag) : Bool :=
  flag.kind == .switch

end Flag

/-- What the arguments of a command say: the values of its flags, the latest
first, and the other arguments in order. -/
structure Arguments where
  values : List (String × FlagValue) := []
  operands : List String := []
  deriving DecidableEq, Repr, Inhabited

namespace Arguments

/-- The value of a switch, if it is given. -/
def switch? (arguments : Arguments) (name : String) : Option Bool :=
  match arguments.values.lookup name with
  | some (.switch value) => some value
  | _ => none

/-- The value of a text flag, if it is given. -/
def text? (arguments : Arguments) (name : String) : Option String :=
  match arguments.values.lookup name with
  | some (.text value) => some value
  | _ => none

/-- Set a flag. -/
def assign (arguments : Arguments) (flag : Flag) (source : String) :
    Except FlagError Arguments :=
  (flag.readValue source).map fun value =>
    { arguments with values := (flag.name, value) :: arguments.values }

/-- Turn a switch on. -/
def turnOn (arguments : Arguments) (flag : Flag) : Arguments :=
  { arguments with values := (flag.name, .switch true) :: arguments.values }

/-- A flag that waits for its value, and the error if there is none. -/
structure Waiting where
  flag : Flag
  error : FlagError

/-- What stands before the first equals sign, and what stands behind it. -/
def splitValue (text : String) : String × Option String :=
  let name := text.toList.takeWhile (· != '=')
  match text.toList.drop name.length with
  | _ :: value => (String.ofList name, some (String.ofList value))
  | [] => (text, none)

/-- Read an argument that begins with two hyphens. -/
def readLong (flags : List Flag) (arguments : Arguments) (argument : String) :
    Except FlagError (Arguments × Option Waiting) := do
  let (name, value) := splitValue (String.ofList (argument.toList.drop 2))
  if name.isEmpty || name.startsWith "-" then throw (.badSyntax argument)
  else
    match Flag.named? flags name, value with
    | none, _ => throw (.unknown name)
    | some flag, some source => return (← arguments.assign flag source, none)
    | some flag, none =>
        if flag.isSwitch then return (arguments.turnOn flag, none)
        else return (arguments, some ⟨flag, .noValue argument⟩)

/-- Read letters that stand behind one hyphen. Letters that begin with `test.`
do not count. -/
def readLetters (flags : List Flag) (arguments : Arguments) :
    List Char -> Except FlagError (Arguments × Option Waiting)
  | [] => .ok (arguments, none)
  | letter :: rest =>
      let letters := String.ofList (letter :: rest)
      if letters.startsWith "test." then .ok (arguments, none)
      else
        match Flag.lettered? flags letter with
        | none => .error (.unknownLetter letter letters)
        | some flag =>
            match rest with
            | '=' :: c :: value =>
                (arguments.assign flag (String.ofList (c :: value))).map (·, none)
            | _ =>
                if flag.isSwitch then readLetters flags (arguments.turnOn flag) rest
                else if rest.isEmpty then
                  .ok (arguments, some ⟨flag, .noValueForLetter letter letters⟩)
                else (arguments.assign flag (String.ofList rest)).map (·, none)

/-- Read one argument. -/
def readOne (flags : List Flag) (arguments : Arguments) (argument : String) :
    Except FlagError (Arguments × Option Waiting) :=
  match argument.toList with
  | '-' :: '-' :: _ => readLong flags arguments argument
  | '-' :: letter :: letters => readLetters flags arguments (letter :: letters)
  | _ => .ok ({ arguments with operands := arguments.operands ++ [argument] }, none)

/-- Read arguments one after the other. -/
def readFrom (flags : List Flag) (arguments : Arguments) :
    Option Waiting -> List String -> Except FlagError Arguments
  | none, [] => .ok arguments
  | some waiting, [] => .error waiting.error
  | some waiting, value :: rest => do
      readFrom flags (← arguments.assign waiting.flag value) none rest
  | none, argument :: rest => do
      if argument == "--" then return { arguments with operands := arguments.operands ++ rest }
      else
        let (arguments, waiting) ← readOne flags arguments argument
        readFrom flags arguments waiting rest

/-- Read the arguments of a command. -/
def read (flags : List Flag) (arguments : List String) : Except FlagError Arguments :=
  readFrom flags {} none arguments

end Arguments
end Command
end PatternMachine
