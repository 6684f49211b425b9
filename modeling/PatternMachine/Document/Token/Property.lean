import PatternMachine.Document.Token.Cursor

/-!
# Anchors, tags and directives

The small tokens around nodes: names of anchors and aliases, tags with their
handles, and the directives in front of a document.
-/

namespace PatternMachine
namespace Document

/-- Whether an anchor name may end before these characters. -/
def endsName (chars : List Char) : Bool :=
  endsWord chars ||
    match chars with
    | c :: _ => ['?', ':', ',', ']', '\x7d', '%', '@', '\x60'].contains c
    | [] => true

/-- Read the name of an anchor or an alias; the indicator stands at `start`. -/
def anchorName (start : Mark) (cursor : Cursor) : Except SyntaxError (String × Cursor) :=
  let (name, rest) := cursor.run isNameChar
  if name.isEmpty || !endsName rest.chars then rest.fail start .nameExpected
  else .ok (String.ofList name, rest)

/-- Whether a character may stand in the text of a tag. -/
def isTagChar (c : Char) : Bool :=
  isNameChar c ||
    [';', '/', '?', ':', '@', '&', '=', '+', '$', ',', '.', '!', '~', '*', '\'', '(', ')', '[',
      ']', '%'].contains c

/-- The number of bytes of a character by its first byte; zero for a byte that
starts none. -/
def encodedWidth (lead : Nat) : Nat :=
  if lead < 0x80 then 1
  else if 0xC0 <= lead && lead < 0xE0 then 2
  else if 0xE0 <= lead && lead < 0xF0 then 3
  else if 0xF0 <= lead && lead < 0xF8 then 4
  else 0

/-- The byte that two hexadecimal digits name. -/
def escapedByte? (high low : Char) : Option Nat := do
  let high ← Number.digit? high
  let low ← Number.digit? low
  if high < 16 && low < 16 then some (high * 16 + low) else none

/-- Read the text of a tag as bytes, reversed. A percent sign and two digits stand
for a byte; `pending` bytes are still wanted for the character being read. -/
def tagBytes (pending : Nat) (count : Nat) (bytes : List UInt8) :
    List Char -> Except Flaw (Nat × List UInt8)
  | '%' :: high :: low :: rest =>
      match escapedByte? high low with
      | none => .error .octetExpected
      | some byte =>
          if pending == 0 then
            if encodedWidth byte == 0 then .error .leadingOctet
            else tagBytes (encodedWidth byte - 1) (count + 3) (byte.toUInt8 :: bytes) rest
          else if byte / 64 == 2 then
            tagBytes (pending - 1) (count + 3) (byte.toUInt8 :: bytes) rest
          else .error .trailingOctet
  | c :: rest =>
      if pending != 0 || c == '%' then .error .octetExpected
      else if isTagChar c then
        tagBytes 0 (count + 1) ((String.singleton c).toUTF8.toList.reverse ++ bytes) rest
      else .ok (count, bytes)
  | [] => if pending != 0 then .error .octetExpected else .ok (count, bytes)

/-- Read the text of a tag. What was read of it before counts as its beginning;
without a beginning it must not be empty. -/
def tagText (start : Mark) (beginning : String) (mayBeEmpty : Bool) (cursor : Cursor) :
    Except SyntaxError (String × Cursor) :=
  match tagBytes 0 0 beginning.toUTF8.toList.reverse cursor.chars with
  | .error flaw => cursor.fail start flaw
  | .ok (count, bytes) =>
      if count == 0 && !mayBeEmpty then cursor.fail start .tagUriExpected
      else .ok (Text.ofBytes bytes.reverse, cursor.along count)

/-- Read a handle: an exclamation mark, a name and another exclamation mark, of
which the last two may be missing. -/
def tagHandle (cursor : Cursor) : String × Cursor :=
  let (name, rest) := (cursor.along 1).run isNameChar
  if rest.head? == some '!' then (String.ofList ('!' :: name ++ ['!']), rest.along 1)
  else (String.ofList ('!' :: name), rest)

/-- Whether a handle is complete. -/
def isWholeHandle (handle : String) : Bool :=
  2 <= handle.length && handle.endsWith "!"

/-- Read a tag that is written out between angle brackets. -/
def verbatimTag (start : Mark) (cursor : Cursor) : Except SyntaxError (TokenKind × Cursor) := do
  let (suffix, rest) ← tagText start "" false (cursor.along 2)
  if rest.head? == some '>' then return (.tag "" suffix, rest.along 1)
  else rest.fail start .angleExpected

/-- Read a tag with a handle. A lone exclamation mark has no handle and is its
own suffix. -/
def handledTag (start : Mark) (cursor : Cursor) : Except SyntaxError (TokenKind × Cursor) := do
  let (handle, rest) := tagHandle cursor
  if isWholeHandle handle then
    let (suffix, rest) ← tagText start "" false rest
    return (.tag handle suffix, rest)
  else
    let (suffix, rest) ← tagText start (String.ofList (handle.toList.drop 1)) true rest
    if suffix.isEmpty then return (.tag "" handle, rest) else return (.tag "!" suffix, rest)

/-- Read a tag. -/
def tagToken (start : Mark) (cursor : Cursor) : Except SyntaxError (TokenKind × Cursor) := do
  let (token, rest) ← match cursor.chars with
    | _ :: '<' :: _ => verbatimTag start cursor
    | _ => handledTag start cursor
  if endsWord rest.chars then return (token, rest) else rest.fail start .blankOrBreakExpected

/-- Read a number of a version. -/
def versionNumber (start : Mark) (cursor : Cursor) : Except SyntaxError (Nat × Cursor) :=
  let (digits, rest) := cursor.run Char.isDigit
  if 2 < digits.length then rest.fail start .versionNumberLong
  else if digits.isEmpty then rest.fail start .versionNumberExpected
  else .ok (digits.foldl (fun total c => total * 10 + (c.toNat - '0'.toNat)) 0, rest)

/-- Read the value of a version directive. -/
def versionDirective (start : Mark) (cursor : Cursor) :
    Except SyntaxError (TokenKind × Cursor) := do
  let (major, rest) ← versionNumber start (cursor.skipRun isSpace)
  if rest.head? == some '.' then
    let (minor, rest) ← versionNumber start (rest.along 1)
    return (.versionDirective major minor, rest)
  else rest.fail start .versionPointExpected

/-- Read the value of a tag directive. -/
def tagDirective (start : Mark) (cursor : Cursor) : Except SyntaxError (TokenKind × Cursor) := do
  let cursor := cursor.skipRun isSpace
  if cursor.head? != some '!' then cursor.fail start .exclamationExpected
  else
    let (handle, rest) := tagHandle cursor
    if handle != "!" && !isWholeHandle handle then rest.fail start .exclamationExpected
    else if !(rest.head?.any isSpace) then rest.fail start .blankExpected
    else
      let (expansion, rest) ← tagText start "" false (rest.skipRun isSpace)
      if endsWord rest.chars then return (.tagDirective handle expansion, rest)
      else rest.fail start .blankOrBreakExpected

/-- Read a directive; the percent sign stands at `start`. -/
def directive (start : Mark) (cursor : Cursor) : Except SyntaxError (TokenKind × Cursor) := do
  let (name, rest) := (cursor.along 1).run isNameChar
  if name.isEmpty then rest.fail start .directiveNameExpected
  else if !endsWord rest.chars then rest.fail start .directiveNameUnclean
  else
    let (token, rest) ← match String.ofList name with
      | "YAML" => versionDirective start rest
      | "TAG" => tagDirective start rest
      | _ => rest.fail start .unknownDirective
    let rest := rest.skipToLineEnd
    if endsLine rest.chars then return (token, rest.skipBreak)
    else rest.fail start .commentOrBreakExpected

end Document
end PatternMachine
