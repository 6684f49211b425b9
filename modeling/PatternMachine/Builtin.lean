import PatternMachine.Builtin.List
import PatternMachine.Builtin.Number
import PatternMachine.Builtin.Text

/-!
# The built-in functions

Every built-in function is a function of one clause whose body escapes to an
operation of the machine; the operation reads its formals from the scope of the
call.
-/

namespace PatternMachine
namespace Native

/-- All built-in functions, by name in increasing order. -/
def all : List Native :=
  [abs, ceil, downcase, explode, floor, hash, implode, index, len, max, member, min, print,
    println, raise, reverse, sort, sqrt, tointeger, toreal, tostring, trim, typeof, unique, upcase]

/-- The name a program calls. -/
def name : Native -> String
  | abs => "abs"
  | ceil => "ceil"
  | downcase => "downcase"
  | explode => "explode"
  | floor => "floor"
  | hash => "hash"
  | implode => "implode"
  | index => "index"
  | len => "len"
  | max => "max"
  | member => "member"
  | min => "min"
  | print => "print"
  | println => "println"
  | raise => "raise"
  | reverse => "reverse"
  | sort => "sort"
  | sqrt => "sqrt"
  | tointeger => "tointeger"
  | toreal => "toreal"
  | tostring => "tostring"
  | trim => "trim"
  | typeof => "typeof"
  | unique => "unique"
  | upcase => "upcase"

/-- The built-in function of a name. -/
def ofName? (name : String) : Option Native :=
  all.find? fun operation => operation.name == name

/-- The name under which the operation itself is registered. -/
def escapeName (operation : Native) : String :=
  "__" ++ operation.name ++ "__"

/-- The names of the formals. A single formal takes the whole argument, several
take the elements of a tuple. -/
def formalNames : Native -> List String
  | explode => ["s", "sep"]
  | hash => ["data", "algo"]
  | implode => ["xs", "sep"]
  | index => ["s", "sub"]
  | member => ["x", "xs"]
  | downcase => ["s"]
  | trim => ["s"]
  | upcase => ["s"]
  | max => ["xs"]
  | min => ["xs"]
  | reverse => ["xs"]
  | sort => ["xs"]
  | unique => ["xs"]
  | _ => ["x"]

/-- The pattern for the argument. -/
def formals (operation : Native) : Action Term := do
  match operation.formalNames with
  | [name] => return .identifier name
  | names => return .tuple (← Action.newCell (names.map Term.identifier))

/-- Run the operation. -/
def run : Native -> Action Term
  | abs => Builtin.absolute
  | ceil => Builtin.roundUp
  | downcase => Builtin.lowerCase
  | explode => Builtin.explode
  | floor => Builtin.roundDown
  | hash => Builtin.digest
  | implode => Builtin.implode
  | index => Builtin.findText
  | len => Builtin.length
  | max => Builtin.largest
  | member => Builtin.isMember
  | min => Builtin.smallest
  | print => Builtin.print
  | println => Builtin.printLine
  | raise => Builtin.raiseValue
  | reverse => Builtin.reverse
  | sort => Builtin.sort
  | sqrt => Builtin.squareRoot
  | tointeger => Builtin.toInteger
  | toreal => Builtin.toReal
  | tostring => Builtin.toText
  | trim => Builtin.trimText
  | typeof => Builtin.typeOf
  | unique => Builtin.unique
  | upcase => Builtin.upperCase

/-- Register one built-in function and bind its name. -/
def install (captured : Closure) (operation : Native) : Action Unit := do
  let pattern ← operation.formals
  let mark ← Action.freshMark
  let body := Statement.evaluate (.escape mark operation.escapeName) .absent
  modify fun machine =>
    { machine with
      dispatch := (machine.dispatch.insert operation.escapeName (.native operation)).insert
        operation.name (.clauses operation.name [⟨pattern, [body]⟩]) }
  Action.bindName operation.name (← Action.newClosure operation.name captured)

/-- Make functions callable one after the other. -/
def installEach (captured : Closure) : List Native -> Action Unit
  | [] => return ()
  | operation :: rest => do
      operation.install captured
      installEach captured rest

/-- Make all built-in functions callable. -/
def installAll : Action Unit := do
  installEach (← Action.capture) all

end Native
end PatternMachine
