import PatternMachine.Document.Timestamp
import PatternMachine.Text.Search

/-!
# Scalars of a document

The text of a plain scalar decides what it stands for: null, a truth value, an
integer, a real, a timestamp, or just the text. A tag written in front of it
restricts the choice.
-/

namespace PatternMachine
namespace Document

/-- What a scalar stands for. Integers may use the range of 64 bits with or
without sign. -/
inductive Scalar
  | null
  | boolean (value : Bool)
  | integer (value : Int)
  | real (value : Float)
  | timestamp (value : Timestamp)
  | text (value : String)
  deriving Inhabited

/-- The tags with a meaning of their own. -/
def nullTag : String := "!!null"

@[inherit_doc nullTag]
def booleanTag : String := "!!bool"

@[inherit_doc nullTag]
def integerTag : String := "!!int"

@[inherit_doc nullTag]
def realTag : String := "!!float"

@[inherit_doc nullTag]
def timestampTag : String := "!!timestamp"

@[inherit_doc nullTag]
def textTag : String := "!!str"

@[inherit_doc nullTag]
def binaryTag : String := "!!binary"

@[inherit_doc nullTag]
def mergeTag : String := "!!merge"

@[inherit_doc nullTag]
def sequenceTag : String := "!!seq"

@[inherit_doc nullTag]
def mappingTag : String := "!!map"

/-- The common beginning of the long forms of the standard tags. -/
def longTagStart : String := "tag:yaml.org,2002:"

/-- The short form of a tag. -/
def shortTag (tag : String) : String :=
  match Text.dropStart? longTagStart tag with
  | some name => "!!" ++ name
  | none => tag

namespace Scalar

/-- The tag of what a scalar stands for. -/
def tag : Scalar -> String
  | null => nullTag
  | boolean _ => booleanTag
  | integer _ => integerTag
  | real _ => realTag
  | timestamp _ => timestampTag
  | text _ => textTag

/-- The scalars that are spelled by a fixed word. -/
def ofWord? (word : String) : Option Scalar :=
  if ["true", "True", "TRUE"].contains word then some (boolean true)
  else if ["false", "False", "FALSE"].contains word then some (boolean false)
  else if ["", "~", "null", "Null", "NULL"].contains word then some null
  else if [".nan", ".NaN", ".NAN"].contains word then
    some (real (Number.ofFields false 2047 (Nat.pow 2 51)))
  else if [".inf", ".Inf", ".INF", "+.inf", "+.Inf", "+.INF"].contains word then
    some (real (Number.ofFields false 2047 0))
  else if ["-.inf", "-.Inf", "-.INF"].contains word then
    some (real (Number.ofFields true 2047 0))
  else none

/-- Skip decimal digits. -/
def skipDigits (chars : List Char) : List Char :=
  chars.dropWhile Char.isDigit

/-- Whether a text ends an exponent part: nothing, or a letter `e`, an optional
sign and digits. -/
def isExponent (chars : List Char) : Bool :=
  match chars with
  | [] => true
  | letter :: rest =>
      let digits := (Number.splitSign rest).2
      (letter == 'e' || letter == 'E') && !digits.isEmpty && (skipDigits digits).isEmpty

/-- Whether a text is a decimal real: an optional sign, digits with an optional
point, or a point and digits, and an optional exponent. -/
def isDecimal (chars : List Char) : Bool :=
  match (Number.splitSign chars).2 with
  | '.' :: first :: rest => first.isDigit && isExponent (skipDigits rest)
  | first :: rest =>
      first.isDigit &&
        match skipDigits rest with
        | '.' :: rest => isExponent (skipDigits rest)
        | rest => isExponent rest
  | [] => false

/-- Read digits in a base, with an optional sign. -/
def inBase? (base : Nat) (negative : Bool) (chars : List Char) : Option Int := do
  let (minus, digits) := Number.splitSign chars
  if digits.isEmpty || digits.contains '_' || (negative && digits.length != chars.length) then none
  else
    let size ← Number.digitsValue? base digits 0
    let value : Int := if negative || minus then -(size : Int) else size
    if value < -(Nat.pow 2 63) then none
    else if value < Nat.pow 2 63 then some value
    else if value < Nat.pow 2 64 && digits.length == chars.length then some value
    else none

/-- Read an integer whose base mark a sign may precede: the marks `0b` and `0o`. -/
def marked? (chars : List Char) : Option Int :=
  match chars with
  | '0' :: 'b' :: digits => inBase? 2 false digits
  | '-' :: '0' :: 'b' :: digits => inBase? 2 true digits
  | '0' :: 'o' :: digits => inBase? 8 false digits
  | '-' :: '0' :: 'o' :: digits => inBase? 8 true digits
  | _ => none

/-- Read a number without underscores. -/
def ofNumeral? (plain : String) : Option Scalar :=
  match Number.integer? plain with
  | some value => some (integer value.toInt)
  | none =>
      match Number.unsigned? plain with
      | some value => some (integer value)
      | none =>
          let decimal := if isDecimal plain.toList then Number.real? plain else none
          match decimal with
          | some value => some (real value)
          | none => (marked? plain.toList).map integer

/-- What a text that starts with a digit or a sign stands for. Underscores in
numbers do not count. -/
def ofDigits (timestamps : Bool) (source : String) : Scalar :=
  let moment := if timestamps then Timestamp.ofText? source else none
  match moment with
  | some value => timestamp value
  | none =>
      (ofNumeral? (String.ofList (source.toList.filter (· != '_')))).getD (text source)

/-- What a plain text stands for; a timestamp only where one is looked for. -/
def ofPlain (timestamps : Bool) (source : String) : Scalar :=
  match ofWord? source with
  | some scalar => scalar
  | none =>
      match source.toList with
      | first :: _ =>
          if first.isDigit || first == '+' || first == '-' then ofDigits timestamps source
          else if first == '.' then
            match Number.real? source with
            | some value => real value
            | none => text source
          else text source
      | [] => null

/-- The error that a text is not what its tag says. -/
structure Mismatch where
  found : String
  source : String
  wanted : String
  deriving DecidableEq, Repr, Inhabited

/-- The wording of a mismatch. -/
def Mismatch.message (mismatch : Mismatch) : String :=
  "cannot decode " ++ mismatch.found ++ " `" ++ mismatch.source ++ "` as a " ++ mismatch.wanted

/-- Whether a tag chooses among the scalars; any other tag takes the text. -/
def isResolvable (tag : String) : Bool :=
  ["", textTag, booleanTag, integerTag, realTag, nullTag, timestampTag].contains tag

/-- What a scalar with a tag stands for. The empty tag leaves the choice to the
text, and an integer may stand where a real is wanted. -/
def resolve (tag source : String) : Except Mismatch Scalar :=
  if !isResolvable tag || tag == textTag then .ok (text source)
  else
    let found := ofPlain (tag == "" || tag == timestampTag) source
    if tag == "" || found.tag == tag then .ok found
    else match found with
      | integer value =>
          if tag == realTag && value < Nat.pow 2 63 then .ok (real (Number.ofInteger (Int64.ofInt value)))
          else .error ⟨found.tag, source, tag⟩
      | _ => .error ⟨found.tag, source, tag⟩

end Scalar
end Document
end PatternMachine
