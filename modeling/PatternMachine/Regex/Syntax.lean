import PatternMachine.Text.LetterCase

/-!
# Regular expressions

The expressions themselves, and the ways in which the text of one can be
malformed. Groups leave no trace: only whether a text matches is ever asked.
-/

namespace PatternMachine
namespace Regex

/-- Ranges of character codes, possibly taken up to case, possibly negated. -/
structure ClassItem where
  ranges : List (Nat × Nat)
  folded : Bool := false
  negated : Bool := false
  deriving Repr, Inhabited

/-- A set of characters: what lies in some item, or, negated, in none. -/
structure CharClass where
  items : List ClassItem
  negated : Bool := false
  deriving Repr, Inhabited

/-- Whether a code lies in one of the ranges. -/
def inRanges (ranges : List (Nat × Nat)) (code : Nat) : Bool :=
  ranges.any fun (low, high) => low <= code && code <= high

/-- Whether a character belongs to an item. -/
def ClassItem.contains (item : ClassItem) (c : Char) : Bool :=
  let inside :=
    if item.folded then
      (Text.caseVariants c).any fun variant => inRanges item.ranges variant.toNat
    else inRanges item.ranges c.toNat
  inside != item.negated

/-- Whether a character belongs to a class. -/
def CharClass.contains (class_ : CharClass) (c : Char) : Bool :=
  (class_.items.any fun item => item.contains c) != class_.negated

/-- Conditions on a place between characters. -/
inductive Boundary
  | textStart
  | textEnd
  | lineStart
  | lineEnd
  | wordEdge
  | noWordEdge
  deriving DecidableEq, Repr, Inhabited

/-- A regular expression. -/
inductive Expression
  | empty
  | never
  | one (class_ : CharClass)
  | place (boundary : Boundary)
  | followedBy (first second : Expression)
  | either (first second : Expression)
  | repeated (inner : Expression) (least : Nat) (most : Option Nat)
  deriving Repr, Inhabited

/-- Why the text of an expression is malformed. Each cause carries the piece of
text it is found in. -/
inductive Problem
  | characterRange (piece : String)
  | escapeSequence (piece : String)
  | namedCapture (piece : String)
  | groupSyntax (piece : String)
  | nestedRepetition (piece : String)
  | repeatCount (piece : String)
  | missingBracket (piece : String)
  | missingParenthesis (piece : String)
  | missingRepeatArgument (piece : String)
  | trailingBackslash
  | unexpectedParenthesis (piece : String)
  | nestingDepth (piece : String)
  deriving DecidableEq, Repr, Inhabited

namespace Problem

/-- The cause in words, and the piece of text. -/
def parts : Problem -> String × String
  | characterRange piece => ("invalid character class range", piece)
  | escapeSequence piece => ("invalid escape sequence", piece)
  | namedCapture piece => ("invalid named capture", piece)
  | groupSyntax piece => ("invalid or unsupported Perl syntax", piece)
  | nestedRepetition piece => ("invalid nested repetition operator", piece)
  | repeatCount piece => ("invalid repeat count", piece)
  | missingBracket piece => ("missing closing ]", piece)
  | missingParenthesis piece => ("missing closing )", piece)
  | missingRepeatArgument piece => ("missing argument to repetition operator", piece)
  | trailingBackslash => ("trailing backslash at end of expression", "")
  | unexpectedParenthesis piece => ("unexpected )", piece)
  | nestingDepth piece => ("expression nests too deeply", piece)

/-- The message for a malformed expression. -/
def message (problem : Problem) : String :=
  "error parsing regexp: " ++ problem.parts.1 ++ ": `" ++ problem.parts.2 ++ "`"

end Problem

end Regex
end PatternMachine
