import PatternMachine.Document.Token.Cursor

/-!
# Block scalars

A block scalar is written on indented lines of its own. A literal one keeps its
line breaks, a folded one joins lines by spaces. The header may say how far the
lines are indented and what happens to the breaks at the end.
-/

namespace PatternMachine
namespace Document

/-- What happens to the breaks at the end of a block scalar: one is kept, none,
or all. -/
inductive Chomping
  | clip
  | strip
  | keep
  deriving DecidableEq, Repr, Inhabited

/-- The header of a block scalar. No increment means that the first line with
content decides the indentation. -/
structure BlockHeader where
  chomping : Chomping := .clip
  increment : Option Nat := none
  deriving DecidableEq, Repr, Inhabited

/-- The chomping a sign asks for. -/
def Chomping.ofSign? : Option Char -> Option Chomping
  | some '+' => some .keep
  | some '-' => some .strip
  | _ => none

/-- Read the indentation a header gives. -/
def blockIncrement (start : Mark) (cursor : Cursor) :
    Except SyntaxError (Option Nat × Cursor) :=
  match cursor.head? with
  | some c =>
      if c == '0' then cursor.fail start .zeroIndentation
      else if c.isDigit then .ok (some (c.toNat - '0'.toNat), cursor.along 1)
      else .ok (none, cursor)
  | none => .ok (none, cursor)

/-- Read the header of a block scalar: a sign and a digit in either order. -/
def blockHeader (start : Mark) (cursor : Cursor) : Except SyntaxError (BlockHeader × Cursor) := do
  match Chomping.ofSign? cursor.head? with
  | some chomping =>
      let (increment, cursor) ← blockIncrement start (cursor.along 1)
      return ({ chomping, increment }, cursor)
  | none =>
      let (increment, cursor) ← blockIncrement start cursor
      match increment, Chomping.ofSign? cursor.head? with
      | some _, some chomping => return ({ chomping, increment }, cursor.along 1)
      | _, _ => return ({ increment }, cursor)

/-- Where a block scalar is being read. -/
inductive BlockPart
  | indentation
  | line
  deriving DecidableEq, Repr, Inhabited

/-- A block scalar that is being read. -/
structure BlockText where
  /-- The text so far, reversed. -/
  text : List Char := []
  /-- The break that ended the last line. -/
  lastBreak : List Char := []
  /-- The breaks of the empty lines behind it. -/
  emptyLines : List Char := []
  /-- Whether the last line started with a blank. -/
  startsBlank : Bool := false

namespace BlockText

/-- Begin a line; `blank` says whether it starts with a blank. In a folded scalar
the break between two lines that do not start with blanks becomes a space, or
nothing when empty lines stand between them. -/
def beginLine (block : BlockText) (literal blank : Bool) : BlockText :=
  let joint :=
    if !literal && !block.startsBlank && !blank && block.lastBreak == ['\n'] then
      if block.emptyLines.isEmpty then [' '] else []
    else block.lastBreak
  { text := (joint ++ block.emptyLines).reverse ++ block.text, startsBlank := blank }

/-- Add a break: it ends a line with content, or it is an empty line. -/
def addBreak (block : BlockText) (part : BlockPart) (lineBreak : List Char) : BlockText :=
  match part with
  | .line => { block with lastBreak := lineBreak }
  | .indentation => { block with emptyLines := block.emptyLines ++ lineBreak }

/-- The whole text. -/
def finish (block : BlockText) (chomping : Chomping) : String :=
  let tail := match chomping with
    | .clip => block.lastBreak
    | .strip => []
    | .keep => block.lastBreak ++ block.emptyLines
  String.ofList (block.text.reverse ++ tail)

end BlockText

/-- How a block scalar is read. -/
structure BlockFormat where
  literal : Bool
  chomping : Chomping
  /-- The least indentation the lines may have. -/
  least : Nat
  start : Mark

/-- The deepest empty line so far. -/
def BlockPart.deepest (part : BlockPart) (before : Nat) (mark : Mark) : Nat :=
  match part with
  | .line => before
  | .indentation => max before mark.column

/-- Read the lines of a block scalar. Without a given indentation it is found
from the first line with content; `deepest` is the deepest empty line before. -/
def blockLines (form : BlockFormat) (part : BlockPart) (indent : Option Nat) (deepest : Nat)
    (block : BlockText) (mark : Mark) : List Char -> Except SyntaxError (String × Cursor)
  | [] => .ok (block.finish form.chomping, ⟨[], mark⟩)
  | '\r' :: '\n' :: rest =>
      blockLines form .indentation indent (part.deepest deepest mark)
        (block.addBreak part ['\n']) (mark.nextLine 2) rest
  | c :: rest =>
      if isBreak c then
        blockLines form .indentation indent (part.deepest deepest mark)
          (block.addBreak part (breakText c)) (mark.nextLine 1) rest
      else match part with
      | .line =>
          blockLines form .line indent deepest { block with text := c :: block.text }
            (mark.along 1) rest
      | .indentation =>
          let inside := match indent with
            | some depth => mark.column < depth
            | none => true
          if c == ' ' && inside then
            blockLines form .indentation indent deepest block (mark.along 1) rest
          else if c == '\t' && inside then
            Cursor.fail ⟨c :: rest, mark⟩ form.start .tabIndentation
          else
            let depth := indent.getD (max (max deepest mark.column) form.least)
            if mark.column == depth then
              let block := block.beginLine form.literal (isSpace c)
              blockLines form .line (some depth) deepest { block with text := c :: block.text }
                (mark.along 1) rest
            else .ok (block.finish form.chomping, ⟨c :: rest, mark⟩)

/-- Read a block scalar whose indicator stands at `start`; `parent` is the
indentation around it. -/
def blockScalar (literal : Bool) (parent : Int) (start : Mark) (cursor : Cursor) :
    Except SyntaxError (String × Cursor) := do
  let (header, cursor) ← blockHeader start cursor
  let cursor := cursor.skipToLineEnd
  if !endsLine cursor.chars then cursor.fail start .commentOrBreakExpected
  else
    let cursor := cursor.skipBreak
    let indent := header.increment.map fun increment =>
      if 0 <= parent then parent.toNat + increment else increment
    let form : BlockFormat :=
      { literal, chomping := header.chomping, least := max 1 (parent + 1).toNat, start }
    blockLines form .indentation indent 0 {} cursor.mark cursor.chars

end Document
end PatternMachine
