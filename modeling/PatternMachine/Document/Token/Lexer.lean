import PatternMachine.Document.Token.Block
import PatternMachine.Document.Token.Flow
import PatternMachine.Document.Token.Property

/-!
# Splitting a document into tokens

Tokens are found one after the other and wait in a queue, because what looks
like a scalar turns out to be a key only when the colon behind it is met: then
the key token is inserted in front of it. A key without a mark of its own must
stand on one line and be short.
-/

namespace PatternMachine
namespace Document

/-- A place where a key without a mark of its own may have started: the number of
the token there, and whether only a key makes sense at its indentation. -/
structure PossibleKey where
  possible : Bool := false
  required : Bool := false
  number : Nat := 0
  mark : Mark := {}
  deriving Inhabited

/-- The state of the lexer. -/
structure Lexer where
  cursor : Cursor
  started : Bool := false
  /-- The column of the innermost block collection; minus one outside of all. -/
  indent : Int := -1
  /-- The columns of the block collections around it. -/
  outerIndents : List Int := []
  flowLevel : Nat := 0
  keyAllowed : Bool := false
  /-- The last possible key of every bracket level, outermost first. -/
  keys : Array PossibleKey := #[]
  /-- The bracket level at which a token was noted as a possible key. -/
  keyLevels : List (Nat × Nat) := []
  queue : List Token := []
  /-- How many tokens have left the queue. -/
  taken : Nat := 0
  /-- More fetches than any token can wait for. -/
  patience : Nat
  deriving Inhabited

namespace Lexer

/-- A lexing step. -/
abbrev Outcome := Except SyntaxError Lexer

/-- The deepest nesting of brackets, and of block collections. -/
def depthLimit : Nat := 10000

/-- How far behind its start the colon of a key may stand. -/
def keyReach : Nat := 1024

/-- Whether the lexer is inside brackets. -/
def inFlow (lexer : Lexer) : Bool :=
  0 < lexer.flowLevel

/-- Fail inside a construct that starts at a given place. -/
def fail {α : Type} (lexer : Lexer) (start : Mark) (flaw : Flaw) : Except SyntaxError α :=
  lexer.cursor.fail start flaw

/-- The number the next token of the queue gets. -/
def nextNumber (lexer : Lexer) : Nat :=
  lexer.taken + lexer.queue.length

/-- Put a token at the end of the queue. -/
def append (lexer : Lexer) (kind : TokenKind) (mark : Mark) : Lexer :=
  { lexer with queue := lexer.queue ++ [⟨kind, mark.line⟩] }

/-- Put a token in front of the one with a given number. -/
def insertBefore (lexer : Lexer) (number : Nat) (kind : TokenKind) (mark : Mark) : Lexer :=
  { lexer with
    queue := lexer.queue.insertIdx (number - lexer.taken) ⟨kind, mark.line⟩ }

/-- The possible key of the current bracket level. -/
def currentKey (lexer : Lexer) : PossibleKey :=
  lexer.keys.back?.getD {}

/-- Replace the possible key of the current bracket level. -/
def setKey (lexer : Lexer) (key : PossibleKey) : Lexer :=
  { lexer with keys := lexer.keys.pop.push key }

/-- Forget that a token is a possible key. -/
def forgetNumber (lexer : Lexer) (number : Nat) : Lexer :=
  { lexer with keyLevels := lexer.keyLevels.filter fun entry => entry.1 != number }

/-- Give up the possible key of the current bracket level. -/
def dropKey (lexer : Lexer) : Outcome :=
  let key := lexer.currentKey
  if !key.possible then .ok lexer
  else if key.required then lexer.fail key.mark .colonExpected
  else .ok ((lexer.setKey { key with possible := false }).forgetNumber key.number)

/-- Note the current place as a possible key, where one is allowed. -/
def noteKey (lexer : Lexer) : Outcome := do
  if !lexer.keyAllowed then return lexer
  else
    let mark := lexer.cursor.mark
    let key : PossibleKey :=
      { possible := true
        required := !lexer.inFlow && lexer.indent == (mark.column : Int)
        number := lexer.nextNumber
        mark }
    let lexer := (← lexer.dropKey).setKey key
    return { lexer with keyLevels := (key.number, lexer.keys.size - 1) :: lexer.keyLevels }

/-- Whether a possible key is still one: it has to end on its line, and soon. -/
def stillPossible (lexer : Lexer) (key : PossibleKey) : Except SyntaxError Bool :=
  if !key.possible then .ok false
  else if key.mark.line < lexer.cursor.mark.line ||
      key.mark.index + keyReach < lexer.cursor.mark.index then
    if key.required then lexer.fail key.mark .colonExpected else .ok false
  else .ok true

/-- Open a block collection at a column, unless one is open there. The token that
opens it goes in front of the token with the given number, or to the end. -/
def openBlock (lexer : Lexer) (column : Nat) (number : Option Nat) (kind : TokenKind)
    (mark : Mark) : Outcome :=
  if lexer.inFlow || (column : Int) <= lexer.indent then .ok lexer
  else
    let opened : Lexer :=
      { lexer with indent := column, outerIndents := lexer.indent :: lexer.outerIndents }
    if depthLimit < opened.outerIndents.length then
      opened.fail opened.currentKey.mark (.tooDeep depthLimit)
    else match number with
      | some number => .ok (opened.insertBefore number kind mark)
      | none => .ok (opened.append kind mark)

/-- Close the block collections, innermost first, that start behind a column. -/
def closeBlocks (column : Int) (mark : Mark) : Int -> List Int -> List Token ->
    Int × List Int × List Token
  | indent, [], closed => (indent, [], closed)
  | indent, outer :: rest, closed =>
      if column < indent then
        closeBlocks column mark outer rest (closed ++ [⟨.blockEnd, mark.line⟩])
      else (indent, outer :: rest, closed)

/-- Close the block collections that start behind a column. -/
def unindent (lexer : Lexer) (column : Int) (mark : Mark) : Lexer :=
  if lexer.inFlow then lexer
  else
    let (indent, outerIndents, closed) :=
      closeBlocks column mark lexer.indent lexer.outerIndents []
    { lexer with indent, outerIndents, queue := lexer.queue ++ closed }

/-- Read an indicator of some characters as a token. -/
def indicator (lexer : Lexer) (width : Nat) (kind : TokenKind) : Lexer :=
  { lexer.append kind lexer.cursor.mark with cursor := lexer.cursor.along width }

/-- Begin the stream. -/
def startStream (lexer : Lexer) : Lexer :=
  { lexer.append .streamStart lexer.cursor.mark with
    keys := #[{}], keyAllowed := true, started := true }

/-- End the stream. An unfinished line counts as finished. -/
def endStream (lexer : Lexer) : Outcome := do
  let mark := lexer.cursor.mark
  let mark := if mark.column == 0 then mark else { mark with line := mark.line + 1, column := 0 }
  let lexer := { lexer with cursor := { lexer.cursor with mark } }
  let lexer ← (lexer.unindent (-1) mark).dropKey
  return { lexer.append .streamEnd mark with keyAllowed := false }

/-- Close everything that cannot reach over the border of a document. -/
def leaveDocument (lexer : Lexer) : Outcome := do
  let lexer ← (lexer.unindent (-1) lexer.cursor.mark).dropKey
  return { lexer with keyAllowed := false }

/-- Read a directive. -/
def readDirective (lexer : Lexer) : Outcome := do
  let lexer ← lexer.leaveDocument
  let start := lexer.cursor.mark
  let (kind, rest) ← directive start lexer.cursor
  return { lexer.append kind start with cursor := rest }

/-- Read the border of a document. -/
def readBorder (lexer : Lexer) (kind : TokenKind) : Outcome := do
  return (← lexer.leaveDocument).indicator 3 kind

/-- Read an opening bracket. -/
def openFlow (lexer : Lexer) (kind : TokenKind) : Outcome := do
  let lexer ← lexer.noteKey
  let level : PossibleKey := { number := lexer.nextNumber, mark := lexer.cursor.mark }
  let lexer := { lexer with flowLevel := lexer.flowLevel + 1, keys := lexer.keys.push level }
  if depthLimit < lexer.flowLevel then lexer.fail level.mark (.tooDeep depthLimit)
  else return { lexer.indicator 1 kind with keyAllowed := true }

/-- Read a closing bracket. -/
def closeFlow (lexer : Lexer) (kind : TokenKind) : Outcome := do
  let lexer ← lexer.dropKey
  let lexer :=
    if lexer.inFlow then
      { lexer.forgetNumber lexer.currentKey.number with
        flowLevel := lexer.flowLevel - 1, keys := lexer.keys.pop }
    else lexer
  return { lexer.indicator 1 kind with keyAllowed := false }

/-- Read a comma. -/
def readFlowEntry (lexer : Lexer) : Outcome := do
  return { (← lexer.dropKey).indicator 1 .flowEntry with keyAllowed := true }

/-- Read the dash of a block sequence. -/
def readBlockEntry (lexer : Lexer) : Outcome := do
  let mark := lexer.cursor.mark
  if !lexer.inFlow && !lexer.keyAllowed then lexer.fail mark .entryNotAllowed
  else
    let lexer ← lexer.openBlock mark.column none .blockSequenceStart mark
    return { (← lexer.dropKey).indicator 1 .blockEntry with keyAllowed := true }

/-- Read the mark of a key. -/
def readKey (lexer : Lexer) : Outcome := do
  let mark := lexer.cursor.mark
  if !lexer.inFlow && !lexer.keyAllowed then lexer.fail mark .keyNotAllowed
  else
    let lexer ← lexer.openBlock mark.column none .blockMappingStart mark
    let lexer ← lexer.dropKey
    return { lexer.indicator 1 .key with keyAllowed := !lexer.inFlow }

/-- Read a colon. It makes a key of the possible key before it, or it belongs to
a key that has a mark. -/
def readValue (lexer : Lexer) : Outcome := do
  let mark := lexer.cursor.mark
  let key := lexer.currentKey
  if ← lexer.stillPossible key then
    let lexer := lexer.insertBefore key.number .key key.mark
    let lexer ←
      lexer.openBlock key.mark.column (some key.number) .blockMappingStart key.mark
    let lexer := (lexer.setKey { key with possible := false }).forgetNumber key.number
    return { lexer.indicator 1 .value with keyAllowed := false }
  else
    let lexer := lexer.setKey { key with possible := false }
    if !lexer.inFlow && !lexer.keyAllowed then lexer.fail mark .valueNotAllowed
    else
      let lexer ← lexer.openBlock mark.column none .blockMappingStart mark
      return { lexer.indicator 1 .value with keyAllowed := !lexer.inFlow }

/-- Read an anchor or an alias. -/
def readAnchor (lexer : Lexer) (make : String -> TokenKind) : Outcome := do
  let lexer ← lexer.noteKey
  let start := lexer.cursor.mark
  let (name, rest) ← anchorName start (lexer.cursor.along 1)
  return { lexer.append (make name) start with cursor := rest, keyAllowed := false }

/-- Read a tag. -/
def readTag (lexer : Lexer) : Outcome := do
  let lexer ← lexer.noteKey
  let start := lexer.cursor.mark
  let (kind, rest) ← tagToken start lexer.cursor
  return { lexer.append kind start with cursor := rest, keyAllowed := false }

/-- Read a block scalar. -/
def readBlockScalar (lexer : Lexer) (literal : Bool) : Outcome := do
  let lexer ← lexer.dropKey
  let start := lexer.cursor.mark
  let (text, rest) ← blockScalar literal lexer.indent start (lexer.cursor.along 1)
  return { lexer.append (.scalar false text) start with cursor := rest, keyAllowed := true }

/-- Read a quoted scalar. -/
def readQuoted (lexer : Lexer) (single : Bool) : Outcome := do
  let lexer ← lexer.noteKey
  let start := lexer.cursor.mark
  let inside := lexer.cursor.along 1
  let (text, rest) ←
    if single then singleQuoted start false {} inside.mark inside.chars
    else doubleQuoted start false {} inside.mark inside.chars
  return { lexer.append (.scalar false text) start with cursor := rest, keyAllowed := false }

/-- Read a plain scalar; a key may follow when it ends with its line. -/
def readPlain (lexer : Lexer) : Outcome := do
  let lexer ← lexer.noteKey
  let start := lexer.cursor.mark
  let plain ←
    plainScalar lexer.inFlow (lexer.indent + 1) start .start {} start lexer.cursor.chars
  return { lexer.append (.scalar true plain.text) start with
    cursor := plain.rest, keyAllowed := plain.broken }

/-- Whether a plain scalar may start with these characters. -/
def startsPlain (inFlow : Bool) : List Char -> Bool
  | [] => false
  | c :: rest =>
      if c == '-' then !(rest.head?.any isSpace)
      else if c == '?' || c == ':' then !inFlow && !endsWord rest
      else
        !isSpace c && !isBreak c &&
          !([',', '[', ']', '\x7b', '\x7d', '#', '&', '*', '!', '|', '>', '\'', '"', '%', '@',
            '\x60'].contains c)

/-- Whether a comment on the same line belongs to the last token and is skipped
with it. -/
def takesComment (lexer : Lexer) : Bool :=
  match lexer.queue.getLast?.map Token.kind with
  | some .blockEntry => false
  | _ => lexer.cursor.mark.column != 0

/-- Skip a comment behind the last token. -/
def skipComment (lexer : Lexer) : Lexer :=
  if lexer.takesComment then { lexer with cursor := lexer.cursor.skipLineComment } else lexer

/-- Read the token that starts with the given characters. -/
def readToken (lexer : Lexer) : Outcome :=
  match lexer.cursor.chars with
  | '[' :: _ => lexer.openFlow .flowSequenceStart
  | '\x7b' :: _ => lexer.openFlow .flowMappingStart
  | ']' :: _ => lexer.closeFlow .flowSequenceEnd
  | '\x7d' :: _ => lexer.closeFlow .flowMappingEnd
  | ',' :: _ => lexer.readFlowEntry
  | '*' :: _ => lexer.readAnchor .reference
  | '&' :: _ => lexer.readAnchor .anchor
  | '!' :: _ => lexer.readTag
  | '\'' :: _ => lexer.readQuoted true
  | '"' :: _ => lexer.readQuoted false
  | c :: rest =>
      if c == '-' && endsWord rest then lexer.readBlockEntry
      else if c == '?' && (lexer.inFlow || endsWord rest) then lexer.readKey
      else if c == ':' && (lexer.inFlow || endsWord rest) then lexer.readValue
      else if c == '|' && !lexer.inFlow then lexer.readBlockScalar true
      else if c == '>' && !lexer.inFlow then lexer.readBlockScalar false
      else if startsPlain lexer.inFlow (c :: rest) then lexer.readPlain
      else lexer.fail lexer.cursor.mark .cannotStartToken
  | [] => lexer.endStream

/-- Find the next token and put it, with all that it implies, into the queue. -/
def fetch (lexer : Lexer) : Outcome :=
  if !lexer.started then .ok lexer.startStream
  else
    let before := lexer.cursor.mark
    let (keyAllowed, cursor) :=
      nextToken lexer.inFlow lexer.keyAllowed .blanks before lexer.cursor.chars
    let lexer := { lexer with keyAllowed, cursor }.unindent cursor.mark.column before
    if cursor.chars.isEmpty then lexer.endStream
    else if cursor.mark.column == 0 && cursor.head? == some '%' then lexer.readDirective
    else if cursor.mark.column == 0 && startsIndicator cursor.chars then
      lexer.readBorder (if cursor.head? == some '-' then .documentStart else .documentEnd)
    else lexer.readToken.map skipComment

/-- Whether the first token of the queue can be handed out: two more wait behind
it, and it is no possible key. -/
def isReady (lexer : Lexer) : Except SyntaxError Bool :=
  if lexer.queue.length < 3 then .ok false
  else match lexer.keyLevels.lookup lexer.taken with
    | none => .ok true
    | some level => (lexer.stillPossible (lexer.keys[level]?.getD {})).map not

/-- Fetch tokens, at most `steps` times, until the first can be handed out. -/
def fill : Nat -> Lexer -> Outcome
  | 0, lexer => .ok lexer
  | steps + 1, lexer => do
      if ← lexer.isReady then return lexer else fill steps (← lexer.fetch)

/-- The lexer at the start of a text. Every fetch reads a character or stands at
the end of the text, where a few are enough. -/
def ofChars (chars : List Char) : Lexer :=
  { cursor := ⟨chars, {}⟩, patience := chars.length + 8 }

/-- Make the first token of the queue available. -/
def prepare (lexer : Lexer) : Outcome :=
  fill lexer.patience lexer

/-- Take the first token from the queue. -/
def advance (lexer : Lexer) : Lexer :=
  { lexer with queue := lexer.queue.drop 1, taken := lexer.taken + 1 }

end Lexer
end Document
end PatternMachine
