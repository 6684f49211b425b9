import PatternMachine.Regex.Syntax
import PatternMachine.Text.CharacterClass

/-!
# Character classes in regular expressions

Reading escapes, named classes and bracketed classes. Every reader works on the
rest of the expression; the piece of text an error names is what has been read
of it.
-/

namespace PatternMachine
namespace Regex

/-- The part of `whole` in front of its ending `rest`. -/
def before (whole rest : List Char) : String :=
  String.ofList (whole.take (whole.length - rest.length))

/-- The classes written in brackets with colons, such as `[:alpha:]`. -/
def bracketGroups : List (String × List (Nat × Nat)) :=
  [("alnum", [(0x30, 0x39), (0x41, 0x5A), (0x61, 0x7A)]),
    ("alpha", [(0x41, 0x5A), (0x61, 0x7A)]),
    ("ascii", [(0x00, 0x7F)]),
    ("blank", [(0x09, 0x09), (0x20, 0x20)]),
    ("cntrl", [(0x00, 0x1F), (0x7F, 0x7F)]),
    ("digit", [(0x30, 0x39)]),
    ("graph", [(0x21, 0x7E)]),
    ("lower", [(0x61, 0x7A)]),
    ("print", [(0x20, 0x7E)]),
    ("punct", [(0x21, 0x2F), (0x3A, 0x40), (0x5B, 0x60), (0x7B, 0x7E)]),
    ("space", [(0x09, 0x0D), (0x20, 0x20)]),
    ("upper", [(0x41, 0x5A)]),
    ("word", [(0x30, 0x39), (0x41, 0x5A), (0x5F, 0x5F), (0x61, 0x7A)]),
    ("xdigit", [(0x30, 0x39), (0x41, 0x46), (0x61, 0x66)])]

/-- The class behind a one-letter escape in lower case. -/
def letterGroup? : Char -> Option (List (Nat × Nat))
  | 'd' => some [(0x30, 0x39)]
  | 's' => some [(0x09, 0x0A), (0x0C, 0x0D), (0x20, 0x20)]
  | 'w' => some [(0x30, 0x39), (0x41, 0x5A), (0x5F, 0x5F), (0x61, 0x7A)]
  | _ => none

/-- Read an escape such as `\d` or, negated, `\D`. -/
def letterClass? (folded : Bool) : List Char -> Option (ClassItem × List Char)
  | '\\' :: letter :: rest =>
      match letterGroup? letter with
      | some ranges => some ({ ranges, folded }, rest)
      | none =>
          if letter.isUpper then
            (letterGroup? letter.toLower).map fun ranges =>
              ({ ranges, folded, negated := true }, rest)
          else none
  | _ => none

/-- The name of a class behind `\p`, which is one letter or stands in braces, and what is
left behind it. `whole` starts at the backslash. -/
def propertyName (whole : List Char) : List Char -> Except Problem (List Char × List Char)
  | '{' :: inner =>
      if inner.contains '}' then
        return (inner.takeWhile (· != '}'), (inner.dropWhile (· != '}')).drop 1)
      else throw (.characterRange (String.ofList whole))
  | c :: rest => return ([c], rest)
  | [] => return ([], [])

/-- The class with a name; a caret in front of the name negates it. -/
def namedClass? (folded negated : Bool) (name : List Char) : Option ClassItem :=
  let caret := name.head? == some '^'
  let bare := if caret then name.drop 1 else name
  (Text.classRanges? (String.ofList bare)).map fun ranges =>
    { ranges, folded, negated := negated != caret }

/-- Read an escape such as `\pL` or, negated, `\P{Greek}`. -/
def propertyClass (folded : Bool) (chars : List Char) :
    Except Problem (Option (ClassItem × List Char)) := do
  match chars with
  | '\\' :: letter :: after =>
      if letter != 'p' && letter != 'P' then return none
      else
        let (name, rest) ← propertyName chars after
        match namedClass? folded (letter == 'P') name with
        | some item => return some (item, rest)
        | none => throw (.characterRange (before chars rest))
  | _ => return none

/-- Find the first `:]` and split around it. -/
def splitAtColonBracket : List Char -> Option (List Char × List Char)
  | ':' :: ']' :: rest => some ([], rest)
  | c :: rest => (splitAtColonBracket rest).map fun (name, rest) => (c :: name, rest)
  | [] => none

/-- Read a class such as `[:alpha:]` or `[:^alpha:]`. -/
def bracketGroup (folded : Bool) (chars : List Char) :
    Except Problem (Option (ClassItem × List Char)) := do
  match chars with
  | '[' :: ':' :: inner =>
      match splitAtColonBracket inner with
      | none => return none
      | some (name, rest) =>
          let caret := name.head? == some '^'
          let bare := if caret then name.drop 1 else name
          match bracketGroups.lookup (String.ofList bare) with
          | some ranges => return some ({ ranges, folded, negated := caret }, rest)
          | none => throw (.characterRange (before chars rest))
  | _ => return none

/-- The value of a hexadecimal digit. -/
def hexValue? (c : Char) : Option Nat :=
  if '0' <= c && c <= '9' then some (c.toNat - '0'.toNat)
  else if 'a' <= c && c <= 'f' then some (c.toNat - 'a'.toNat + 10)
  else if 'A' <= c && c <= 'F' then some (c.toNat - 'A'.toNat + 10)
  else none

/-- Whether a character is an octal digit. -/
def isOctal (c : Char) : Bool :=
  '0' <= c && c <= '7'

/-- Read hexadecimal digits up to a closing brace. On failure the answer is what
is left behind the offending character. -/
def bracedHex : Nat -> Nat -> List Char -> Except (List Char) (Nat × List Char)
  | _, _, [] => throw []
  | count, total, c :: rest =>
      if c == '}' then if count == 0 then throw rest else return (total, rest)
      else match hexValue? c with
        | none => throw rest
        | some value =>
            let total := total * 16 + value
            if total > 0x10FFFF then throw rest else bracedHex (count + 1) total rest

/-- Read at most `count` more octal digits. -/
def octalDigits : Nat -> Nat -> List Char -> Nat × List Char
  | 0, total, rest => (total, rest)
  | count + 1, total, c :: rest =>
      if isOctal c then octalDigits count (total * 8 + (c.toNat - '0'.toNat)) rest
      else (total, c :: rest)
  | _, total, [] => (total, [])

/-- The code a letter escape stands for. -/
def controlEscape? : Char -> Option Nat
  | 'a' => some 7
  | 'f' => some 12
  | 'n' => some 10
  | 'r' => some 13
  | 't' => some 9
  | 'v' => some 11
  | _ => none

/-- Read the hexadecimal escape behind `\x`. -/
def hexEscape (whole : List Char) : List Char -> Except Problem (Nat × List Char)
  | [] => throw (.escapeSequence (before whole []))
  | '{' :: rest =>
      match bracedHex 0 0 rest with
      | .ok result => return result
      | .error rest => throw (.escapeSequence (before whole rest))
  | first :: second :: rest =>
      match hexValue? first, hexValue? second with
      | some high, some low => return (high * 16 + low, rest)
      | _, _ => throw (.escapeSequence (before whole rest))
  | [_] => throw (.escapeSequence (before whole []))

/-- Read an escape that stands for one character. -/
def escape (chars : List Char) : Except Problem (Nat × List Char) :=
  match chars with
  | _ :: c :: rest =>
      let invalid : Except Problem (Nat × List Char) :=
        throw (.escapeSequence (before chars rest))
      if c == '0' then return octalDigits 2 0 rest
      else if isOctal c then
        match rest with
        | next :: _ =>
            if isOctal next then return octalDigits 2 (c.toNat - '0'.toNat) rest else invalid
        | [] => invalid
      else if c == 'x' then hexEscape chars rest
      else match controlEscape? c with
        | some code => return (code, rest)
        | none => if c.toNat < 128 && !c.isAlphanum then return (c.toNat, rest) else invalid
  | _ => throw .trailingBackslash

/-- Read one character of a bracketed class; `whole` is the class from its
opening bracket on. -/
def classChar (whole : List Char) : List Char -> Except Problem (Nat × List Char)
  | [] => throw (.missingBracket (String.ofList whole))
  | '\\' :: rest => escape ('\\' :: rest)
  | c :: rest => return (c.toNat, rest)

/-- Read a character of a bracketed class, or the range from it to another. -/
def classRange (folded : Bool) (whole chars : List Char) :
    Except Problem (ClassItem × List Char) := do
  let (low, rest) ← classChar whole chars
  match rest with
  | '-' :: next :: after =>
      if next == ']' then return ({ ranges := [(low, low)], folded }, rest)
      else
        let (high, rest) ← classChar whole (next :: after)
        if high < low then throw (.characterRange (before chars rest))
        return ({ ranges := [(low, high)], folded }, rest)
  | _ => return ({ ranges := [(low, low)], folded }, rest)

/-- Read one item of a bracketed class. -/
def classItem (folded : Bool) (whole chars : List Char) :
    Except Problem (ClassItem × List Char) := do
  if let some found ← bracketGroup folded chars then return found
  if let some found ← propertyClass folded chars then return found
  if let some found := letterClass? folded chars then return found
  classRange folded whole chars

/-- Read the items of a bracketed class up to the closing bracket, which may
itself be the first item. -/
def classItems (folded : Bool) (whole : List Char) :
    Nat -> Bool -> List ClassItem -> List Char -> Except Problem (List ClassItem × List Char)
  | 0, _, _, _ => throw (.missingBracket (String.ofList whole))
  | steps + 1, first, seen, chars =>
      match chars, first with
      | ']' :: rest, false => return (seen.reverse, rest)
      | _, _ => do
          let (item, rest) ← classItem folded whole chars
          classItems folded whole steps false (item :: seen) rest

/-- Read a bracketed class from its opening bracket on. -/
def bracketClass (folded : Bool) (whole : List Char) :
    Except Problem (CharClass × List Char) := do
  let inner := whole.drop 1
  let negated := inner.head? == some '^'
  let body := if negated then inner.drop 1 else inner
  let (items, rest) ← classItems folded whole (body.length + 2) true [] body
  return ({ items, negated }, rest)

end Regex
end PatternMachine
