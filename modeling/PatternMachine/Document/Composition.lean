import PatternMachine.Document.Node
import PatternMachine.Document.Token.Lexer

/-!
# Putting nodes together

The nodes of the first document of a text. An alias stands for the node that
was last given its name; a node knows its name before it knows its content.
-/

namespace PatternMachine
namespace Document

/-- Why a text is no document. -/
inductive ReadError
  | malformed (error : SyntaxError)
  | unknownAnchor (name : String)
  deriving DecidableEq, Repr, Inhabited

/-- The wording of a read error. -/
def ReadError.message : ReadError -> String
  | malformed error => "yaml: " ++ error.message
  | unknownAnchor name => "yaml: unknown anchor '" ++ name ++ "' referenced"

/-- What an anchor names: a node that is still being read, or one that is known. -/
inductive Anchored
  | unfinished (number : Nat)
  | known (node : Node)

/-- The state of the composition. -/
structure Composer where
  lexer : Lexer
  /-- What the handles of tags stand for. -/
  handles : List (String × String) := []
  anchors : List (String × Anchored) := []
  /-- How many anchors were met. -/
  anchorCount : Nat := 0

/-- A step of the composition. -/
abbrev Compose (α : Type) := EStateM ReadError Composer α

namespace Compose

/-- Fail because of the order of tokens, inside a construct that starts on a
given line. -/
def fail {α : Type} (construct noticed : Nat) (flaw : Flaw) : Compose α :=
  throw (.malformed { flaw, construct, noticed })

/-- Look at the next token. -/
def peek : Compose Token := do
  let composer ← get
  match composer.lexer.prepare with
  | .error error => throw (.malformed error)
  | .ok lexer =>
      set { composer with lexer }
      match lexer.queue with
      | token :: _ => return token
      | [] => fail 0 0 .unknown

/-- Take the next token. -/
def skip : Compose Unit :=
  modify fun composer => { composer with lexer := composer.lexer.advance }

/-- Take the next token and look at the one behind it. -/
def skipAndPeek : Compose Token := do
  skip
  peek

/-- An empty scalar on a line. -/
def emptyScalar (line : Nat) : Node :=
  .plain (line + 1) ""

/-- What is written in front of a node: where it starts, its anchor and its tag.
The empty tag stands for none. -/
structure Properties where
  line : Nat
  anchor : Option String := none
  tag : String := ""

/-- The tag a handle and a suffix stand for. -/
def expandTag (line tagLine : Nat) (handle suffix : String) : Compose String := do
  if handle.isEmpty then return suffix
  else
    match (← get).handles.lookup handle with
    | some expansion =>
        if (expansion ++ suffix).isEmpty then fail line tagLine .undefinedHandle
        else return expansion ++ suffix
    | none => fail line tagLine .undefinedHandle

/-- Read the anchor and the tag of a node, in either order. -/
def properties : Compose Properties := do
  let first ← peek
  match first.kind with
  | .anchor name =>
      let second ← skipAndPeek
      match second.kind with
      | .tag handle suffix =>
          let _ ← skipAndPeek
          let tag ← expandTag first.line second.line handle suffix
          return { line := first.line, anchor := some name, tag }
      | _ => return { line := first.line, anchor := some name }
  | .tag handle suffix =>
      let second ← skipAndPeek
      let anchor ← match second.kind with
        | .anchor name => do
            let _ ← skipAndPeek
            pure (some name)
        | _ => pure none
      let tag ← expandTag first.line first.line handle suffix
      return { line := first.line, anchor, tag }
  | _ => return { line := first.line }

/-- The tag of a node: the one that is written in front of it, or the usual one. -/
def Properties.tagOr (properties : Properties) (usual : String) : String :=
  if properties.tag.isEmpty || properties.tag == "!" then usual else shortTag properties.tag

/-- A scalar. Without a tag, quoted text is text and plain text decides itself. -/
def Properties.scalar (properties : Properties) (plain : Bool) (value : String) : Node :=
  let usual :=
    if !plain then textTag
    else if value == "<<" then mergeTag
    else (Scalar.ofPlain true value).tag
  .scalar (properties.line + 1) (properties.tagOr usual) value

/-- Let an anchor name a node. -/
def bindAnchor (anchor : Option String) (node : Node) : Compose Node := do
  match anchor with
  | some name =>
      modify fun composer =>
        { composer with
          anchors := (name, .known node) :: composer.anchors
          anchorCount := composer.anchorCount + 1 }
  | none => pure ()
  return node

/-- Replace what the newest entry of a name says if it is the given unfinished
node. -/
def finishEntry (name : String) (number : Nat) (node : Node) :
    List (String × Anchored) -> List (String × Anchored)
  | [] => []
  | (other, anchored) :: rest =>
      if other == name then
        match anchored with
        | .unfinished found =>
            if found == number then (other, .known node) :: rest else (other, anchored) :: rest
        | .known _ => (other, anchored) :: rest
      else (other, anchored) :: finishEntry name number node rest

/-- Read a collection; its anchor is known from its start, but what it names only
from its end. -/
def anchored (anchor : Option String) (content : Compose Node) : Compose Node := do
  match anchor with
  | none => content
  | some name =>
      let number := (← get).anchorCount
      modify fun composer =>
        { composer with
          anchors := (name, .unfinished number) :: composer.anchors
          anchorCount := number + 1 }
      let node ← content
      modify fun composer =>
        { composer with anchors := finishEntry name number node composer.anchors }
      return node

/-- The node an alias stands for. -/
def aliasNode (line : Nat) (name : String) : Compose Node := do
  match (← get).anchors.lookup name with
  | some (.known node) => return .reference (line + 1) name node
  | some (.unfinished _) => return .selfReference (line + 1) name
  | none => throw (.unknownAnchor name)

/-- Whether a token leaves the place of a block mapping's key or value empty. -/
def leavesEmpty : TokenKind -> Bool
  | .key => true
  | .value => true
  | .blockEnd => true
  | _ => false

/-- How a node may be written at some place: on lines of its own, and as a
sequence that is not indented. -/
structure Place where
  block : Bool := false
  indentless : Bool := false

mutual

/-- Read a node. Every recursive call uses up one of the steps given. -/
def node (steps : Nat) (place : Place) : Compose Node := do
  match steps with
  | 0 => fail 0 0 .unknown
  | steps + 1 =>
      match (← peek) with
      | ⟨.reference name, line⟩ =>
          skip
          aliasNode line name
      | _ =>
          let properties ← properties
          let token ← peek
          content steps place properties token

/-- Read what follows the anchor and the tag of a node. -/
def content (steps : Nat) (place : Place) (properties : Properties) (token : Token) :
    Compose Node := do
  match steps with
  | 0 => fail 0 0 .unknown
  | steps + 1 =>
      let line := properties.line
      let sequence (items : Compose (List Node)) : Compose Node :=
        anchored properties.anchor do
          return .sequence (line + 1) (properties.tagOr sequenceTag) (← items)
      let mapping (entries : Compose (List (Node × Node))) : Compose Node :=
        anchored properties.anchor do
          return .mapping (line + 1) (properties.tagOr mappingTag) (← entries)
      match token.kind, place.block, place.indentless with
      | .blockEntry, _, true => sequence (indentlessItems steps)
      | .scalar plain value, _, _ =>
          skip
          bindAnchor properties.anchor (properties.scalar plain value)
      | .flowSequenceStart, _, _ =>
          sequence do
            skip
            flowItems steps token.line true
      | .flowMappingStart, _, _ =>
          mapping do
            skip
            flowEntries steps token.line true
      | .blockSequenceStart, true, _ =>
          sequence do
            skip
            blockItems steps token.line
      | .blockMappingStart, true, _ =>
          mapping do
            skip
            blockEntries steps token.line
      | _, _, _ =>
          if properties.anchor.isSome || !properties.tag.isEmpty then
            bindAnchor properties.anchor (properties.scalar true "")
          else fail line token.line .contentExpected

/-- Read the items of a block sequence that starts on a line. -/
def blockItems (steps : Nat) (start : Nat) : Compose (List Node) := do
  match steps with
  | 0 => fail 0 0 .unknown
  | steps + 1 =>
      let token ← peek
      match token.kind with
      | .blockEntry =>
          let next ← skipAndPeek
          let item ← match next.kind with
            | .blockEntry => pure (emptyScalar token.line)
            | .blockEnd => pure (emptyScalar token.line)
            | _ => node steps { block := true }
          return item :: (← blockItems steps start)
      | .blockEnd =>
          skip
          return []
      | _ => fail start token.line .dashExpected

/-- Read the items of a sequence that is not indented; anything but a dash ends
it. -/
def indentlessItems (steps : Nat) : Compose (List Node) := do
  match steps with
  | 0 => fail 0 0 .unknown
  | steps + 1 =>
      let token ← peek
      match token.kind with
      | .blockEntry =>
          let next ← skipAndPeek
          let item ←
            if next.kind == .blockEntry || leavesEmpty next.kind then
              pure (emptyScalar token.line)
            else node steps { block := true }
          return item :: (← indentlessItems steps)
      | _ => return []

/-- Read the entries of a block mapping that starts on a line. -/
def blockEntries (steps : Nat) (start : Nat) : Compose (List (Node × Node)) := do
  match steps with
  | 0 => fail 0 0 .unknown
  | steps + 1 =>
      let token ← peek
      match token.kind with
      | .key =>
          let next ← skipAndPeek
          let key ←
            if leavesEmpty next.kind then pure (emptyScalar token.line)
            else node steps { block := true, indentless := true }
          let value ← blockValue steps
          return (key, value) :: (← blockEntries steps start)
      | .blockEnd =>
          skip
          return []
      | _ => fail start token.line .keyExpected

/-- Read the value of an entry of a block mapping. -/
def blockValue (steps : Nat) : Compose Node := do
  match steps with
  | 0 => fail 0 0 .unknown
  | steps + 1 =>
      let token ← peek
      match token.kind with
      | .value =>
          let next ← skipAndPeek
          if leavesEmpty next.kind then return emptyScalar token.line
          else node steps { block := true, indentless := true }
      | _ => return emptyScalar token.line

/-- Read the items of a sequence in brackets that starts on a line. A key among
them starts a mapping with one entry. -/
def flowItems (steps : Nat) (start : Nat) (first : Bool) : Compose (List Node) := do
  match steps with
  | 0 => fail 0 0 .unknown
  | steps + 1 =>
      let token ← peek
      match token.kind with
      | .flowSequenceEnd =>
          skip
          return []
      | _ =>
          let token ← match token.kind, first with
            | _, true => pure token
            | .flowEntry, false => skipAndPeek
            | _, false => fail start token.line .commaOrBracketExpected
          match token.kind with
          | .flowSequenceEnd =>
              skip
              return []
          | .key =>
              skip
              let entry ← flowPair steps
              let item := Node.mapping (token.line + 1) mappingTag [entry]
              return item :: (← flowItems steps start false)
          | _ =>
              let item ← node steps {}
              return item :: (← flowItems steps start false)

/-- Read the single entry of a mapping inside a sequence in brackets. -/
def flowPair (steps : Nat) : Compose (Node × Node) := do
  match steps with
  | 0 => fail 0 0 .unknown
  | steps + 1 =>
      let ends (kind : TokenKind) : Bool := kind == .flowEntry || kind == .flowSequenceEnd
      let token ← peek
      let key ←
        if token.kind == .value || ends token.kind then do
          skip
          pure (emptyScalar token.line)
        else node steps {}
      let token ← peek
      let value ← match token.kind with
        | .value => do
            let next ← skipAndPeek
            if ends next.kind then pure (emptyScalar token.line) else node steps {}
        | _ => pure (emptyScalar token.line)
      let _ ← peek
      return (key, value)

/-- Read the entries of a mapping in braces that starts on a line. -/
def flowEntries (steps : Nat) (start : Nat) (first : Bool) :
    Compose (List (Node × Node)) := do
  match steps with
  | 0 => fail 0 0 .unknown
  | steps + 1 =>
      let token ← peek
      match token.kind with
      | .flowMappingEnd =>
          skip
          return []
      | _ =>
          let token ← match token.kind, first with
            | _, true => pure token
            | .flowEntry, false => skipAndPeek
            | _, false => fail start token.line .commaOrBraceExpected
          match token.kind with
          | .flowMappingEnd =>
              skip
              return []
          | .key =>
              let next ← skipAndPeek
              let key ←
                if next.kind == .value || next.kind == .flowEntry || next.kind == .flowMappingEnd
                then pure (emptyScalar next.line)
                else node steps {}
              let value ← flowValue steps
              return (key, value) :: (← flowEntries steps start false)
          | _ =>
              let key ← node steps {}
              let next ← peek
              return (key, emptyScalar next.line) :: (← flowEntries steps start false)

/-- Read the value of an entry of a mapping in braces. -/
def flowValue (steps : Nat) : Compose Node := do
  match steps with
  | 0 => fail 0 0 .unknown
  | steps + 1 =>
      let token ← peek
      match token.kind with
      | .value =>
          let next ← skipAndPeek
          if next.kind == .flowEntry || next.kind == .flowMappingEnd then
            return emptyScalar next.line
          else node steps {}
      | _ => return emptyScalar token.line

end

/-- Note what a handle stands for. -/
def addHandle (line : Nat) (handle expansion : String) : Compose Unit := do
  if ((← get).handles.lookup handle).isSome then fail 0 line .duplicateTagDirective
  else modify fun composer => { composer with handles := (handle, expansion) :: composer.handles }

/-- Read the directives of a document. -/
def directives (steps : Nat) (versionSeen : Bool) : Compose Unit := do
  match steps with
  | 0 => fail 0 0 .unknown
  | steps + 1 =>
      let token ← peek
      match token.kind with
      | .versionDirective major minor =>
          if versionSeen then fail 0 token.line .duplicateVersion
          else if major != 1 || minor != 1 then fail 0 token.line .incompatibleVersion
          else
            skip
            directives steps true
      | .tagDirective handle expansion =>
          addHandle token.line handle expansion
          skip
          directives steps versionSeen
      | _ => return ()

/-- The handles that need no directive. -/
def usualHandles : List (String × String) :=
  [("!", "!"), ("!!", longTagStart)]

/-- Add the usual handles behind those the document has given itself. -/
def addUsualHandles : Compose Unit :=
  modify fun composer => { composer with handles := composer.handles ++ usualHandles }

/-- The content of a document whose start is marked; it may be empty. -/
def markedContent (steps : Nat) : Compose Node := do
  let token ← peek
  match token.kind with
  | .versionDirective _ _ => return emptyScalar token.line
  | .tagDirective _ _ => return emptyScalar token.line
  | .documentStart => return emptyScalar token.line
  | .documentEnd => return emptyScalar token.line
  | .streamEnd => return emptyScalar token.line
  | _ => node steps { block := true }

/-- A document whose start is marked. -/
def markedDocument (steps : Nat) : Compose Node := do
  directives steps false
  addUsualHandles
  let token ← peek
  if token.kind != .documentStart then fail 0 token.line .documentStartExpected
  else
    skip
    markedContent steps

/-- The first document of a text; without one the node is missing. -/
def document (steps : Nat) : Compose Node := do
  let _ ← peek
  let token ← skipAndPeek
  match token.kind with
  | .streamEnd => return .missing
  | .versionDirective _ _ => finish (markedDocument steps)
  | .tagDirective _ _ => finish (markedDocument steps)
  | .documentStart => finish (markedDocument steps)
  | _ =>
      addUsualHandles
      finish (node steps { block := true })
where
  /-- Look at the token behind a document. -/
  finish (content : Compose Node) : Compose Node := do
    let found ← content
    let _ ← peek
    return found

end Compose

/-- Whether a character may stand in a document. -/
def isAllowedChar (c : Char) : Bool :=
  let code := c.toNat
  code == 0x09 || code == 0x0A || code == 0x0D || (0x20 <= code && code <= 0x7E) ||
    code == 0x85 || (0xA0 <= code && code <= 0xFFFD) || 0x10000 <= code

/-- The first document of a text. -/
def Node.ofText (text : String) : Except ReadError Node :=
  let chars := text.toList
  if !chars.all isAllowedChar then .error (.malformed { flaw := .controlCharacter })
  else
    let chars := match chars with
      | first :: rest => if isByteOrderMark first then rest else chars
      | [] => ['\n']
    match Compose.document (8 * chars.length + 64) { lexer := Lexer.ofChars chars } with
    | .ok node _ => .ok node
    | .error error _ => .error error

end Document
end PatternMachine
