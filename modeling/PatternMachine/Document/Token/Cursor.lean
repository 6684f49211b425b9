import PatternMachine.Document.Token
import PatternMachine.Number.Literal

/-!
# Reading characters

The characters still to be read with the place of the first of them, and the
classes of characters that tokens are made of.
-/

namespace PatternMachine
namespace Document

/-- Whether a character is a space or a tab. -/
def isSpace (c : Char) : Bool :=
  c == ' ' || c == '\t'

/-- Whether a character breaks the line. -/
def isBreak (c : Char) : Bool :=
  c == '\n' || c == '\r' || c.toNat == 0x85 || c.toNat == 0x2028 || c.toNat == 0x2029

/-- Whether a character may stand in a name. -/
def isNameChar (c : Char) : Bool :=
  c.isAlphanum || c == '_' || c == '-'

/-- The mark that may stand at the start of a line and means nothing. -/
def isByteOrderMark (c : Char) : Bool :=
  c.toNat == 0xFEFF

/-- Whether the first character is a blank, a break, or missing. -/
def endsWord : List Char -> Bool
  | [] => true
  | c :: _ => isSpace c || isBreak c

/-- Whether the first character is a break or missing. -/
def endsLine : List Char -> Bool
  | [] => true
  | c :: _ => isBreak c

/-- Whether the text goes on with three dashes or three points that stand alone. -/
def startsIndicator : List Char -> Bool
  | '-' :: '-' :: '-' :: rest => endsWord rest
  | '.' :: '.' :: '.' :: rest => endsWord rest
  | _ => false

/-- What a line break contributes to a text: most breaks are line feeds there. -/
def breakText (c : Char) : List Char :=
  if c.toNat == 0x2028 || c.toNat == 0x2029 then [c] else ['\n']

namespace Mark

/-- The place after some characters on the same line. -/
def along (mark : Mark) (count : Nat) : Mark :=
  { mark with index := mark.index + count, column := mark.column + count }

/-- The place after a line break of some characters. -/
def nextLine (mark : Mark) (count : Nat) : Mark :=
  { index := mark.index + count, line := mark.line + 1, column := 0 }

end Mark

/-- The characters to be read, and the place of the first. -/
structure Cursor where
  chars : List Char
  mark : Mark := {}
  deriving Inhabited

namespace Cursor

/-- Move on by some characters of the line. -/
def along (cursor : Cursor) (count : Nat) : Cursor :=
  ⟨cursor.chars.drop count, cursor.mark.along count⟩

/-- Read the characters of a class. -/
def run (cursor : Cursor) (test : Char -> Bool) : List Char × Cursor :=
  let taken := cursor.chars.takeWhile test
  (taken, cursor.along taken.length)

/-- Move past the characters of a class. -/
def skipRun (cursor : Cursor) (test : Char -> Bool) : Cursor :=
  (cursor.run test).2

/-- Move past a line break, if there is one. -/
def skipBreak (cursor : Cursor) : Cursor :=
  match cursor.chars with
  | '\r' :: '\n' :: rest => ⟨rest, cursor.mark.nextLine 2⟩
  | c :: rest => if isBreak c then ⟨rest, cursor.mark.nextLine 1⟩ else cursor
  | [] => cursor

/-- The first character. -/
def head? (cursor : Cursor) : Option Char :=
  cursor.chars.head?

/-- Fail inside a construct that starts at a given place. -/
def fail {α : Type} (cursor : Cursor) (start : Mark) (flaw : Flaw) : Except SyntaxError α :=
  .error
    { flaw, construct := start.line, noticed := cursor.mark.line, inToken := true }

/-- Move past blanks, and past a comment behind them, up to the end of the line. -/
def skipToLineEnd (cursor : Cursor) : Cursor :=
  let cursor := cursor.skipRun isSpace
  if cursor.head? == some '#' then cursor.skipRun (fun c => !isBreak c) else cursor

/-- Move past a comment that follows on the same line, if there is one. -/
def skipLineComment (cursor : Cursor) : Cursor :=
  let behind := cursor.skipRun isSpace
  if behind.head? == some '#' then behind.skipRun (fun c => !isBreak c) else cursor

end Cursor

/-- What the search for the next token is passing. -/
inductive Passing
  | blanks
  | comment
  | betweenComments
  deriving DecidableEq, Repr, Inhabited

/-- How far ahead of a comment the next one is looked for. -/
def commentReach : Nat := 512

/-- Whether another comment follows with only blanks and breaks before it. -/
def commentFollows (chars : List Char) : Bool :=
  ((chars.take commentReach).dropWhile fun c => isSpace c || isBreak c).head? == some '#'

/-- Find the next token: pass blanks, breaks and comments. Answers also whether a
key may start there. A tab is a blank where it cannot be mistaken for
indentation: inside brackets, where no key may start, and between comments. -/
def nextToken (inFlow : Bool) (keyAllowed : Bool) (passing : Passing) (mark : Mark) :
    List Char -> Bool × Cursor
  | [] => (keyAllowed, ⟨[], mark⟩)
  | '\r' :: '\n' :: rest =>
      if passing == .betweenComments || (passing == .comment && commentFollows ('\n' :: rest)) then
        nextToken inFlow keyAllowed .betweenComments (mark.nextLine 2) rest
      else nextToken inFlow (keyAllowed || !inFlow) .blanks (mark.nextLine 2) rest
  | c :: rest =>
      if isBreak c then
        if passing == .betweenComments || (passing == .comment && commentFollows (c :: rest)) then
          nextToken inFlow keyAllowed .betweenComments (mark.nextLine 1) rest
        else nextToken inFlow (keyAllowed || !inFlow) .blanks (mark.nextLine 1) rest
      else if passing == .comment || c == '#' then
        nextToken inFlow keyAllowed .comment (mark.along 1) rest
      else if c == ' ' || (c == '\t' && (inFlow || !keyAllowed || passing == .betweenComments))
          || (isByteOrderMark c && mark.column == 0) then
        nextToken inFlow keyAllowed passing (mark.along 1) rest
      else (keyAllowed, ⟨c :: rest, mark⟩)

end Document
end PatternMachine
