import PatternMachine.Builtin.Formal
import PatternMachine.Digest.Hexadecimal
import PatternMachine.Text.Blank
import PatternMachine.Text.Grapheme
import PatternMachine.Text.Search

/-!
# Built-in functions on texts, and output
-/

namespace PatternMachine
namespace Builtin

/-- Write a value. -/
def print : Action Term := do
  Action.write (← Action.display (← formal "x"))
  return .none

/-- Write a value and end the line. -/
def printLine : Action Term := do
  Action.write ((← Action.display (← formal "x")) ++ "\n")
  return .none

/-- Raise a value. -/
def raiseValue : Action Term := do
  Action.raiseValue (← formal "x")

/-- The name of the type of a value. -/
def typeOf : Action Term := do
  Action.newText (← formal "x").typeName

/-- A value as it is shown. -/
def toText : Action Term := do
  Action.newText (← Action.display (← formal "x"))

/-- The number of elements of a list, tuple or pair, of grapheme clusters of a
text, or of data members of an object. -/
def length : Action Term := do
  let x ← formal "x"
  let store ← Action.store
  let answer (count : Nat) : Action Term := Action.newInteger (Int64.ofNat count)
  match x with
  | .list cell => answer (store.elements cell).size
  | .tuple cell => answer (store.elements cell).size
  | .pair _ _ => answer 2
  | .text text => answer (Text.graphemes text).length
  | .object (some template) _ => answer (store.dataSlots template).length
  | .object none _ => answer 0
  | other =>
      Action.raise .valueError ("value of type " ++ other.typeName ++ " has no length")

/-- A text in upper case. -/
def upperCase : Action Term := do
  Action.newText (Text.upper (← textFormal "upcase" "s"))

/-- A text in lower case. -/
def lowerCase : Action Term := do
  Action.newText (Text.lower (← textFormal "downcase" "s"))

/-- A text without blanks at its ends. -/
def trimText : Action Term := do
  Action.newText (Text.trim (← textFormal "trim" "s"))

/-- The number of grapheme clusters before the first occurrence of a text, or
minus one when it does not occur. -/
def findText : Action Term := do
  let text ← textFormal "index" "s"
  let part ← textFormal "index" "sub"
  match Text.splitFirst? part.toList text.toList with
  | some (front, _) => Action.newInteger (Int64.ofNat (Text.graphemeChars front).length)
  | none => Action.newInteger (-1)

/-- Make texts one after the other. -/
def newTexts : List String -> Action (List Term)
  | [] => return []
  | text :: rest => do
      let term ← Action.newText text
      return term :: (← newTexts rest)

/-- The pieces of a text between separators. An empty separator splits at runs
of blanks. -/
def explode : Action Term := do
  let text ← textFormal "explode" "s"
  let separator ← textFormal "explode" "sep"
  let parts :=
    if separator.isEmpty then Text.words text else Text.splitAt text separator
  Action.newList (← newTexts parts)

/-- The texts among the elements, all of which have to be texts. -/
def textElements : List Term -> Action (List String)
  | [] => return []
  | .text text :: rest => return text :: (← textElements rest)
  | other :: _ =>
      Action.raise .valueError ("implode expects strings, got " ++ other.typeName)

/-- Join texts with a separator between them. -/
def implode : Action Term := do
  let xs ← formal "xs"
  let separator ← textFormal "implode" "sep"
  match (← Action.store).sequenceElements? xs with
  | some elements =>
      Action.newText (String.intercalate separator (← textElements elements))
  | none => Action.raise .valueError ("implode expects a list, got " ++ xs.typeName)

/-- The digest of a value as it is shown. -/
def digest : Action Term := do
  let data ← formal "data"
  match ← formal "algo" with
  | .text name =>
      match Digest.ofName? name with
      | some function =>
          let message := (← Action.display data).toUTF8.toList
          Action.newText (Digest.hexadecimal (function message))
      | none =>
          Action.raise .valueError ("unknown hash algorithm " ++ Text.quoted name)
  | other =>
      Action.raise .valueError
        ("hash algorithm must be a string, got " ++ other.typeName)

end Builtin
end PatternMachine
