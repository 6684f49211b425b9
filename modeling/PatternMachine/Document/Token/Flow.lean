import PatternMachine.Document.Token.Cursor

/-!
# Plain and quoted scalars

A scalar may run over several lines. A single line break between two words is
folded into a space; of several, all but the first are kept.
-/

namespace PatternMachine
namespace Document

/-- The text of a scalar that is being read, reversed, and the gap behind it:
its blanks, reversed, or, once the line is broken, the first break and the
further breaks. -/
structure Folding where
  text : List Char := []
  blanks : List Char := []
  firstBreak : List Char := []
  moreBreaks : List Char := []
  broken : Bool := false

namespace Folding

/-- Add a blank to the gap. Blanks behind a break do not count. -/
def addBlank (folding : Folding) (c : Char) : Folding :=
  if folding.broken then folding else { folding with blanks := c :: folding.blanks }

/-- Add a break to the gap. -/
def addBreak (folding : Folding) (c : Char) : Folding :=
  if folding.broken then { folding with moreBreaks := folding.moreBreaks ++ breakText c }
  else { folding with blanks := [], firstBreak := breakText c, broken := true }

/-- Break the line without leaving a trace. -/
def addEscapedBreak (folding : Folding) : Folding :=
  { folding with broken := true }

/-- What a gap stands for, in order. -/
def gap (folding : Folding) : List Char :=
  if folding.broken then
    if folding.firstBreak == ['\n'] then
      if folding.moreBreaks.isEmpty then [' '] else folding.moreBreaks
    else folding.firstBreak ++ folding.moreBreaks
  else folding.blanks.reverse

/-- Close the gap. -/
def join (folding : Folding) : Folding :=
  { text := folding.gap.reverse ++ folding.text }

/-- Add a character. -/
def addChar (folding : Folding) (c : Char) : Folding :=
  { folding with text := c :: folding.text }

/-- The text read so far. -/
def result (folding : Folding) : String :=
  String.ofList folding.text.reverse

end Folding

/-- Where a plain scalar is being read. -/
inductive PlainPart
  | start
  | word
  | gap
  deriving DecidableEq, Repr, Inhabited

/-- A plain scalar: its text, whether a line break follows it, and the rest. -/
structure PlainScalar where
  text : String
  broken : Bool
  rest : Cursor

/-- Whether a character ends a plain scalar inside brackets. -/
def isFlowIndicator (c : Char) : Bool :=
  c == ',' || c == '?' || c == '[' || c == ']' || c == '{' || c == '}'

/-- Read a plain scalar. Outside brackets it ends before a line that is indented
less than `indent`. -/
def plainScalar (inFlow : Bool) (indent : Int) (start : Mark) (part : PlainPart)
    (folding : Folding) (mark : Mark) : List Char -> Except SyntaxError PlainScalar
  | [] => .ok ⟨folding.result, folding.broken, ⟨[], mark⟩⟩
  | '\r' :: '\n' :: rest =>
      plainScalar inFlow indent start .gap (folding.addBreak '\n') (mark.nextLine 2) rest
  | c :: rest =>
      let done : Except SyntaxError PlainScalar :=
        .ok ⟨folding.result, folding.broken, ⟨c :: rest, mark⟩⟩
      if isBreak c then
        plainScalar inFlow indent start .gap (folding.addBreak c) (mark.nextLine 1) rest
      else if isSpace c then
        if folding.broken && c == '\t' && (mark.column : Int) < indent then
          Cursor.fail ⟨c :: rest, mark⟩ start .tabInPlain
        else plainScalar inFlow indent start .gap (folding.addBlank c) (mark.along 1) rest
      else if part == .gap && !inFlow && (mark.column : Int) < indent then done
      else if part != .word && (c == '#' || (mark.column == 0 && startsIndicator (c :: rest))) then
        done
      else if (c == ':' && endsWord rest) || (inFlow && isFlowIndicator c) then done
      else
        plainScalar inFlow indent start .word (folding.join.addChar c) (mark.along 1) rest

/-- The character a one-letter escape stands for. -/
def escapedChar? (c : Char) : Option Char :=
  match c with
  | '0' => some (Char.ofNat 0x00)
  | 'a' => some (Char.ofNat 0x07)
  | 'b' => some (Char.ofNat 0x08)
  | 't' => some '\t'
  | '\t' => some '\t'
  | 'n' => some '\n'
  | 'v' => some (Char.ofNat 0x0B)
  | 'f' => some (Char.ofNat 0x0C)
  | 'r' => some '\r'
  | 'e' => some (Char.ofNat 0x1B)
  | ' ' => some ' '
  | '"' => some '"'
  | '\'' => some '\''
  | '\\' => some '\\'
  | 'N' => some (Char.ofNat 0x85)
  | '_' => some (Char.ofNat 0xA0)
  | 'L' => some (Char.ofNat 0x2028)
  | 'P' => some (Char.ofNat 0x2029)
  | _ => none

/-- The value of hexadecimal digits. -/
def codeValue? (digits : List Char) : Option Nat :=
  digits.foldlM
    (fun total c =>
      match Number.digit? c with
      | some digit => if digit < 16 then some (total * 16 + digit) else none
      | none => none)
    0

/-- The character that hexadecimal digits name. -/
def codedChar (digits : List Char) : Except Flaw Char :=
  match codeValue? digits with
  | none => .error .hexadecimalExpected
  | some code =>
      if (0xD800 <= code && code <= 0xDFFF) || 0x10FFFF < code then .error .invalidCharacterCode
      else .ok (Char.ofNat code)

/-- Read a scalar between single quotes; a quote inside it is written twice. -/
def singleQuoted (start : Mark) (inGap : Bool) (folding : Folding) (mark : Mark) :
    List Char -> Except SyntaxError (String × Cursor)
  | [] => Cursor.fail ⟨[], mark⟩ start .endOfStream
  | '\r' :: '\n' :: rest =>
      singleQuoted start true (folding.addBreak '\n') (mark.nextLine 2) rest
  | '\'' :: '\'' :: rest =>
      singleQuoted start false (folding.join.addChar '\'') (mark.along 2) rest
  | c :: rest =>
      if isBreak c then singleQuoted start true (folding.addBreak c) (mark.nextLine 1) rest
      else if isSpace c then singleQuoted start true (folding.addBlank c) (mark.along 1) rest
      else if inGap && mark.column == 0 && startsIndicator (c :: rest) then
        Cursor.fail ⟨c :: rest, mark⟩ start .documentIndicator
      else if c == '\'' then .ok (folding.join.result, ⟨rest, mark.along 1⟩)
      else singleQuoted start false (folding.join.addChar c) (mark.along 1) rest

/-- Read a scalar between double quotes. -/
def doubleQuoted (start : Mark) (inGap : Bool) (folding : Folding) (mark : Mark) :
    List Char -> Except SyntaxError (String × Cursor)
  | [] => Cursor.fail ⟨[], mark⟩ start .endOfStream
  | '\r' :: '\n' :: rest =>
      doubleQuoted start true (folding.addBreak '\n') (mark.nextLine 2) rest
  | '\\' :: '\r' :: '\n' :: rest =>
      doubleQuoted start true folding.join.addEscapedBreak ((mark.along 1).nextLine 2) rest
  | '\\' :: 'x' :: a :: b :: rest =>
      match codedChar [a, b] with
      | .ok c => doubleQuoted start false (folding.join.addChar c) (mark.along 4) rest
      | .error flaw => Cursor.fail ⟨rest, mark⟩ start flaw
  | '\\' :: 'u' :: a :: b :: c :: d :: rest =>
      match codedChar [a, b, c, d] with
      | .ok c => doubleQuoted start false (folding.join.addChar c) (mark.along 6) rest
      | .error flaw => Cursor.fail ⟨rest, mark⟩ start flaw
  | '\\' :: 'U' :: a :: b :: c :: d :: e :: f :: g :: h :: rest =>
      match codedChar [a, b, c, d, e, f, g, h] with
      | .ok c => doubleQuoted start false (folding.join.addChar c) (mark.along 10) rest
      | .error flaw => Cursor.fail ⟨rest, mark⟩ start flaw
  | '\\' :: escape :: rest =>
      if isBreak escape then
        doubleQuoted start true folding.join.addEscapedBreak ((mark.along 1).nextLine 1) rest
      else if escape == 'x' || escape == 'u' || escape == 'U' then
        Cursor.fail ⟨rest, mark⟩ start .hexadecimalExpected
      else match escapedChar? escape with
        | some c => doubleQuoted start false (folding.join.addChar c) (mark.along 2) rest
        | none => Cursor.fail ⟨rest, mark⟩ start .unknownEscape
  | c :: rest =>
      if isBreak c then doubleQuoted start true (folding.addBreak c) (mark.nextLine 1) rest
      else if isSpace c then doubleQuoted start true (folding.addBlank c) (mark.along 1) rest
      else if inGap && mark.column == 0 && startsIndicator (c :: rest) then
        Cursor.fail ⟨c :: rest, mark⟩ start .documentIndicator
      else if c == '"' then .ok (folding.join.result, ⟨rest, mark.along 1⟩)
      else if c == '\\' then Cursor.fail ⟨rest, mark⟩ start .unknownEscape
      else doubleQuoted start false (folding.join.addChar c) (mark.along 1) rest

end Document
end PatternMachine
