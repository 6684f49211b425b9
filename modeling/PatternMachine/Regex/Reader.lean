import PatternMachine.Regex.Class

/-!
# Reading regular expressions

An expression is read from left to right. Open groups form a stack: each holds
the alternatives finished so far and the items of the one being read.

Two limits are not those of the machine that is modelled. It refuses expressions whose
compiled form grows too large; here only the copies that counted repetitions ask for
are limited. And it measures height after adjacent characters are merged into one
literal; here they count as a sequence, so that an expression just below the limit may
be refused that it takes.
-/

namespace PatternMachine
namespace Regex

/-- The switches a group can turn on and off. -/
structure Switches where
  foldCase : Bool := false
  manyLines : Bool := false
  dotNewline : Bool := false
  ungreedy : Bool := false
  deriving Inhabited

/-- An expression with the height of its tree. -/
structure Item where
  expression : Expression
  height : Nat
  deriving Inhabited

/-- The part of a group read so far, latest first. -/
structure Level where
  alternatives : List Item := []
  items : List Item := []
  deriving Inhabited

/-- An open group: the part of the level around it, the switches to restore, and
whether it captures. -/
structure Group where
  outer : Level
  switches : Switches
  captures : Bool
  deriving Inhabited

/-- The state of the reader. `lastRepeat` is the rest of the expression from the
repetition read just before, if there was one. -/
structure Reader where
  whole : List Char
  level : Level := {}
  groups : List Group := []
  switches : Switches := {}
  lastRepeat : Option (List Char) := none
  deriving Inhabited

/-- The largest height of an expression. -/
def heightLimit : Nat := 1000

/-- The largest number of copies nested repetitions may ask for. -/
def copyLimit : Nat := 1000

/-- Join the items of an alternative. -/
def Level.sequenceItem (level : Level) : Item :=
  match level.items.reverse with
  | [] => ⟨.empty, 1⟩
  | [item] => item
  | first :: rest =>
      ⟨rest.foldl (fun joined item => .followedBy joined item.expression) first.expression,
        1 + (first :: rest).foldl (fun height item => max height item.height) 0⟩

/-- Join the alternatives of a group. -/
def Level.item (level : Level) : Item :=
  match level.alternatives.reverse with
  | [] => level.sequenceItem
  | first :: rest =>
      let all := rest ++ [level.sequenceItem]
      ⟨all.foldl (fun joined item => .either joined item.expression) first.expression,
        1 + (first :: all).foldl (fun height item => max height item.height) 0⟩

namespace Reader

/-- Refuse an item that nests too deeply. Characters of a literal are items of their own
at this point, below the sequence they form. -/
def checkHeight (reader : Reader) (item : Item) : Except Problem Unit :=
  if item.height > heightLimit then throw (.nestingDepth (String.ofList reader.whole))
  else return ()

/-- Append an item to the alternative being read. -/
def push (reader : Reader) (item : Item) : Except Problem Reader := do
  reader.checkHeight item
  return { reader with
    level := { reader.level with items := item :: reader.level.items }, lastRepeat := none }

/-- Append an expression without parts. -/
def pushLeaf (reader : Reader) (expression : Expression) : Except Problem Reader :=
  reader.push ⟨expression, 1⟩

/-- Append a single character. -/
def pushCode (reader : Reader) (code : Nat) : Except Problem Reader :=
  reader.pushLeaf
    (.one { items := [{ ranges := [(code, code)], folded := reader.switches.foldCase }] })

/-- Open a group. -/
def openGroup (reader : Reader) (captures : Bool) : Reader :=
  { reader with
    level := {}
    groups := ⟨reader.level, reader.switches, captures⟩ :: reader.groups
    lastRepeat := none }

/-- Start the next alternative. -/
def nextAlternative (reader : Reader) : Except Problem Reader := do
  let item := reader.level.sequenceItem
  reader.checkHeight item
  return { reader with
    level := { alternatives := item :: reader.level.alternatives, items := [] }
    lastRepeat := none }

/-- Close the innermost group. -/
def closeGroup (reader : Reader) : Except Problem Reader := do
  let item := reader.level.item
  reader.checkHeight item
  match reader.groups with
  | [] => throw (.unexpectedParenthesis (String.ofList reader.whole))
  | group :: groups =>
      let outer :=
        { reader with level := group.outer, groups := groups, switches := group.switches }
      outer.push (if group.captures then ⟨item.expression, item.height + 1⟩ else item)

end Reader

/-- Whether nested repetitions stay within a number of copies. -/
def copiesWithin : Expression -> Nat -> Bool
  | .repeated inner least most, limit =>
      if most == some 0 then true
      else
        let copies := most.getD least
        if copies > limit then false
        else copiesWithin inner (if copies > 0 then limit / copies else limit)
  | .followedBy first second, limit => copiesWithin first limit && copiesWithin second limit
  | .either first second, limit => copiesWithin first limit && copiesWithin second limit
  | _, _ => true

namespace Reader

/-- Skip the mark of a repetition that prefers few copies. -/
def skipLazy : List Char -> List Char
  | '?' :: rest => rest
  | rest => rest

/-- Apply a repetition to the item before it. `chars` starts at the repetition
and `rest` behind it; `counted` says that it was written with braces. -/
def repetition (reader : Reader) (least : Nat) (most : Option Nat) (counted : Bool)
    (chars rest : List Char) : Except Problem (Reader × List Char) := do
  let rest := skipLazy rest
  if let some last := reader.lastRepeat then throw (.nestedRepetition (before last rest))
  match reader.level.items with
  | [] => throw (.missingRepeatArgument (before chars rest))
  | item :: items =>
      let expression := Expression.repeated item.expression least most
      let result : Item := ⟨expression, item.height + 1⟩
      reader.checkHeight result
      if counted && (least >= 2 || most.getD 0 >= 2) && !copiesWithin expression copyLimit then
        throw (.repeatCount (before chars rest))
      return ({ reader with
        level := { reader.level with items := result :: items }
        lastRepeat := some chars }, rest)

end Reader

/-- The bounds of a counted repetition; a bound too large to be allowed is
reported as such. -/
inductive Bounds
  | within (least : Nat) (most : Option Nat)
  | tooLarge

/-- Read a decimal number without superfluous zeros. -/
def decimal? (chars : List Char) : Option (Nat × List Char) :=
  let digits := chars.takeWhile Char.isDigit
  let rest := chars.dropWhile Char.isDigit
  match digits with
  | [] => none
  | '0' :: _ :: _ => none
  | _ => some (digits.foldl (fun total c => total * 10 + (c.toNat - '0'.toNat)) 0, rest)

/-- The bounds of a repetition, if they are in order and not too large. -/
def Bounds.of (least : Nat) (most : Option Nat) : Bounds :=
  if least > copyLimit || most.getD 0 > copyLimit || (most.any fun most => most < least) then
    .tooLarge
  else .within least most

/-- Read the closing brace, alone or behind an upper bound. -/
def boundsFrom? (least : Nat) : List Char -> Option (Bounds × List Char)
  | '}' :: rest => some (.of least (some least), rest)
  | ',' :: '}' :: rest => some (.of least none, rest)
  | ',' :: rest => do
      let (most, rest) ← decimal? rest
      match rest with
      | '}' :: rest => some (.of least (some most), rest)
      | _ => none
  | _ => none

/-- Read the bounds between braces, behind the opening one. -/
def bounds? (chars : List Char) : Option (Bounds × List Char) := do
  let (least, rest) ← decimal? chars
  boundsFrom? least rest

/-- Whether a name may be given to a group: letters, digits and underscores. -/
def isGroupName (name : List Char) : Bool :=
  !name.isEmpty && name.all fun c => c == '_' || c.isAlphanum

/-- Read the switches behind `(?` up to a colon or a closing parenthesis. The
answer says whether a group opens. `whole` starts at the parenthesis. -/
def readSwitches (whole : List Char) :
    Bool -> Bool -> Switches -> List Char -> Except Problem (Bool × Switches × List Char)
  | _, _, _, [] => throw (.groupSyntax (String.ofList whole))
  | off, seen, switches, c :: rest =>
      if c == 'i' then readSwitches whole off true { switches with foldCase := !off } rest
      else if c == 'm' then readSwitches whole off true { switches with manyLines := !off } rest
      else if c == 's' then readSwitches whole off true { switches with dotNewline := !off } rest
      else if c == 'U' then readSwitches whole off true { switches with ungreedy := !off } rest
      else if c == '-' && !off then readSwitches whole true false switches rest
      else if (c == ':' || c == ')') && (!off || seen) then return (c == ':', switches, rest)
      else throw (.groupSyntax (before whole rest))

namespace Reader

/-- Read a group with a name, behind its opening mark of `size` characters. -/
def namedGroup (reader : Reader) (chars : List Char) (size : Nat) :
    Except Problem (Reader × List Char) := do
  if !chars.contains '>' then throw (.namedCapture (String.ofList chars))
  let name := (chars.takeWhile (· != '>')).drop size
  let rest := (chars.dropWhile (· != '>')).drop 1
  if !isGroupName name then throw (.namedCapture (before chars rest))
  return (reader.openGroup true, rest)

/-- Read what starts with `(?`. -/
def specialGroup (reader : Reader) (chars : List Char) :
    Except Problem (Reader × List Char) := do
  match chars with
  | '(' :: '?' :: 'P' :: '<' :: _ :: _ => reader.namedGroup chars 4
  | '(' :: '?' :: '<' :: _ :: _ => reader.namedGroup chars 3
  | _ =>
      let (opens, switches, rest) ← readSwitches chars false false reader.switches (chars.drop 2)
      let base := if opens then reader.openGroup false else { reader with lastRepeat := none }
      return ({ base with switches := switches }, rest)

end Reader

/-- Split at the first `\E`. -/
def splitLiteral : List Char -> List Char × List Char
  | '\\' :: 'E' :: rest => ([], rest)
  | c :: rest =>
      let (literal, rest) := splitLiteral rest
      (c :: literal, rest)
  | [] => ([], [])

namespace Reader

/-- Append characters literally. -/
def pushLiteral (reader : Reader) : List Char -> Except Problem Reader
  | [] => return { reader with lastRepeat := none }
  | c :: rest => do
      let reader ← reader.pushCode c.toNat
      reader.pushLiteral rest

/-- Append a class read by itself. -/
def pushItem (reader : Reader) (item : ClassItem) : Except Problem Reader :=
  reader.pushLeaf (.one { items := [item] })

/-- Read an escape that stands for a class or for a character. -/
def escaped (reader : Reader) (chars : List Char) : Except Problem (Reader × List Char) := do
  let folded := reader.switches.foldCase
  if let some (item, rest) ← propertyClass folded chars then
    return (← reader.pushItem item, rest)
  if let some (item, rest) := letterClass? folded chars then
    return (← reader.pushItem item, rest)
  let (code, rest) ← escape chars
  return (← reader.pushCode code, rest)

/-- Read what starts with a backslash. -/
def backslash (reader : Reader) (chars : List Char) : Except Problem (Reader × List Char) := do
  match chars with
  | _ :: 'A' :: rest => return (← reader.pushLeaf (.place .textStart), rest)
  | _ :: 'b' :: rest => return (← reader.pushLeaf (.place .wordEdge), rest)
  | _ :: 'B' :: rest => return (← reader.pushLeaf (.place .noWordEdge), rest)
  | _ :: 'z' :: rest => return (← reader.pushLeaf (.place .textEnd), rest)
  | _ :: 'C' :: rest => throw (.escapeSequence (before chars rest))
  | _ :: 'Q' :: rest =>
      let (literal, rest) := splitLiteral rest
      return (← reader.pushLiteral literal, rest)
  | _ => reader.escaped chars

/-- Read one element of an expression. -/
def step (reader : Reader) (chars : List Char) : Except Problem (Reader × List Char) := do
  match chars with
  | [] => return (reader, [])
  | '(' :: '?' :: _ => reader.specialGroup chars
  | '(' :: rest => return (reader.openGroup true, rest)
  | '|' :: rest => return (← reader.nextAlternative, rest)
  | ')' :: rest => return (← reader.closeGroup, rest)
  | '^' :: rest =>
      let boundary := if reader.switches.manyLines then Boundary.lineStart else .textStart
      return (← reader.pushLeaf (.place boundary), rest)
  | '$' :: rest =>
      let boundary := if reader.switches.manyLines then Boundary.lineEnd else .textEnd
      return (← reader.pushLeaf (.place boundary), rest)
  | '.' :: rest =>
      let excluded := if reader.switches.dotNewline then [] else [(10, 10)]
      return (← reader.pushLeaf
        (.one { items := [{ ranges := excluded }], negated := true }), rest)
  | '[' :: _ =>
      let (class_, rest) ← bracketClass reader.switches.foldCase chars
      return (← reader.pushLeaf (.one class_), rest)
  | '*' :: rest => reader.repetition 0 none false chars rest
  | '+' :: rest => reader.repetition 1 none false chars rest
  | '?' :: rest => reader.repetition 0 (some 1) false chars rest
  | '{' :: inner =>
      match bounds? inner with
      | none => return (← reader.pushCode '{'.toNat, inner)
      | some (.tooLarge, rest) => throw (.repeatCount (before chars rest))
      | some (.within least most, rest) => reader.repetition least most true chars rest
  | '\\' :: _ => reader.backslash chars
  | c :: rest => return (← reader.pushCode c.toNat, rest)

/-- Read a whole expression in at most `steps` elements. -/
def run : Nat -> Reader -> List Char -> Except Problem Item
  | 0, reader, _ => throw (.missingParenthesis (String.ofList reader.whole))
  | steps + 1, reader, chars => do
      if chars.isEmpty then
        let item := reader.level.item
        if !reader.groups.isEmpty then throw (.missingParenthesis (String.ofList reader.whole))
        reader.checkHeight item
        return item
      else
        let (reader, rest) ← reader.step chars
        run steps reader rest

end Reader

/-- Read an expression together with its height. Its size is not limited. -/
def read (text : List Char) : Except Problem Item :=
  Reader.run (text.length + 1) { whole := text } text

/-- Read an expression. -/
def parse (text : List Char) : Except Problem Expression := do
  return (← read text).expression

end Regex
end PatternMachine
