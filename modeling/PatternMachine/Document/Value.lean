import PatternMachine.Document.Node
import PatternMachine.Number.RealFormat
import PatternMachine.Text.Quoted

/-!
# Plain values

What a node stands for when nothing is known about its use: lists and maps of
scalars. Maps are shown in the order of their keys.
-/

namespace PatternMachine
namespace Document

/-- A plain value. A map says whether all its keys are texts by their tags; its
entries stand in the order in which the keys were first met. -/
inductive Value
  | null
  | boolean (value : Bool)
  | integer (value : Int)
  | real (value : Float)
  | timestamp (value : Timestamp)
  | text (value : String)
  | list (items : List Value)
  | map (textKeys : Bool) (entries : List (Value × Value))
  deriving Inhabited

namespace Value

/-- The value of a scalar. -/
def ofScalar : Scalar -> Value
  | .null => null
  | .boolean value => boolean value
  | .integer value => integer value
  | .real value => real value
  | .timestamp value => timestamp value
  | .text value => text value

/-- Whether two keys are the same key. Integers beyond the signed range are of a
type of their own, which their size already tells; a key that is not a number is
never the same as any other. -/
def sameKey : Value -> Value -> Bool
  | null, null => true
  | boolean left, boolean right => left == right
  | integer left, integer right => left == right
  | real left, real right => left == right
  | timestamp left, timestamp right => left == right
  | text left, text right => left == right
  | _, _ => false

/-- Whether a value is a collection. -/
def isCollection : Value -> Bool
  | list _ => true
  | map _ _ => true
  | _ => false

/-- Bind a key in a list of entries; a key that is already there keeps its place. -/
def insertEntry (key item : Value) : List (Value × Value) -> List (Value × Value)
  | [] => [(key, item)]
  | (other, old) :: rest =>
      if sameKey other key then (other, item) :: rest else (other, old) :: insertEntry key item rest

/-- The order in which the keys of a map are shown: numbers by size with
not-a-number first, false before true, texts by their characters. -/
def keyBefore : Value -> Value -> Bool
  | boolean left, boolean right => !left || right
  | integer left, integer right => left <= right
  | real left, real right => left.isNaN || left <= right
  | text left, text right => left <= right
  | timestamp left, timestamp right => left.shown <= right.shown
  | null, _ => true
  | _, null => false
  | _, _ => true

/-- The text of a key and its value, with the key kept beside it. -/
abbrev ShownEntry := Value × String

/-- Put the texts of the entries of a map in the order of the keys. -/
def arrangeEntries (entries : List ShownEntry) : List String :=
  (entries.mergeSort fun left right => keyBefore left.1 right.1).map Prod.snd

mutual

/-- A value as it is shown. -/
def shown : Value -> String
  | null => "<nil>"
  | boolean value => if value then "true" else "false"
  | integer value => toString value
  | real value => Number.bare.write value
  | timestamp value => value.shown
  | text value => value
  | list items => "[" ++ String.intercalate " " (shownItems items) ++ "]"
  | map _ entries =>
      "map[" ++ String.intercalate " " (arrangeEntries (shownEntries entries)) ++ "]"

/-- The items of a list as they are shown. -/
def shownItems : List Value -> List String
  | [] => []
  | item :: rest => shown item :: shownItems rest

/-- The entries of a map as they are shown. -/
def shownEntries : List (Value × Value) -> List ShownEntry
  | [] => []
  | (key, item) :: rest => (key, shown key ++ ":" ++ shown item) :: shownEntries rest

end

mutual

/-- A value written out with its types, as errors about map keys show it. -/
def spelled : Value -> String
  | null => "interface \x7b\x7d(nil)"
  | boolean value => if value then "true" else "false"
  | integer value =>
      if value < Nat.pow 2 63 then toString value
      else "0x" ++ String.ofList (Nat.toDigits 16 value.toNat)
  | real value => Number.bare.write value
  | timestamp value => value.shown
  | text value => Text.quoted value
  | list items =>
      "[]interface \x7b\x7d\x7b" ++ String.intercalate ", " (spelledItems items) ++ "\x7d"
  | map textKeys entries =>
      "map[" ++ (if textKeys then "string" else "interface \x7b\x7d") ++
        "]interface \x7b\x7d\x7b" ++
        String.intercalate ", " (arrangeEntries (spelledEntries entries)) ++ "\x7d"

/-- The items of a list written out. -/
def spelledItems : List Value -> List String
  | [] => []
  | item :: rest => spelled item :: spelledItems rest

/-- The entries of a map written out. -/
def spelledEntries : List (Value × Value) -> List ShownEntry
  | [] => []
  | (key, item) :: rest => (key, spelled key ++ ":" ++ spelled item) :: spelledEntries rest

end

end Value
end Document
end PatternMachine
