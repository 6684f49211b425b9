import PatternMachine.Text.Utf8

/-!
# Tokens of a document

The pieces a document text falls into. Structure that is written by indentation
shows as tokens of its own, and so does the key of a mapping entry.
-/

namespace PatternMachine
namespace Document

/-- A place in the text. All three count from zero; the index counts
characters. -/
structure Mark where
  index : Nat := 0
  line : Nat := 0
  column : Nat := 0
  deriving DecidableEq, Repr, Inhabited

/-- What a token is. -/
inductive TokenKind
  | streamStart
  | streamEnd
  | versionDirective (major minor : Nat)
  | tagDirective (handle expansion : String)
  | documentStart
  | documentEnd
  | blockSequenceStart
  | blockMappingStart
  | blockEnd
  | flowSequenceStart
  | flowSequenceEnd
  | flowMappingStart
  | flowMappingEnd
  | blockEntry
  | flowEntry
  | key
  | value
  | reference (name : String)
  | anchor (name : String)
  | tag (handle suffix : String)
  | scalar (plain : Bool) (value : String)
  deriving DecidableEq, Repr, Inhabited

/-- A token with the line it starts on, counted from zero. -/
structure Token where
  kind : TokenKind
  line : Nat
  deriving DecidableEq, Repr, Inhabited

/-- What can be wrong with the text of a document. -/
inductive Flaw
  | controlCharacter
  | cannotStartToken
  | entryNotAllowed
  | keyNotAllowed
  | valueNotAllowed
  | colonExpected
  | tooDeep (limit : Nat)
  | nameExpected
  | angleExpected
  | exclamationExpected
  | tagUriExpected
  | octetExpected
  | leadingOctet
  | trailingOctet
  | blankOrBreakExpected
  | blankExpected
  | directiveNameExpected
  | directiveNameUnclean
  | unknownDirective
  | versionPointExpected
  | versionNumberExpected
  | versionNumberLong
  | commentOrBreakExpected
  | zeroIndentation
  | tabIndentation
  | tabInPlain
  | documentIndicator
  | endOfStream
  | unknownEscape
  | hexadecimalExpected
  | invalidCharacterCode
  | documentStartExpected
  | duplicateVersion
  | incompatibleVersion
  | duplicateTagDirective
  | undefinedHandle
  | contentExpected
  | dashExpected
  | keyExpected
  | commaOrBracketExpected
  | commaOrBraceExpected
  | unknown
  deriving DecidableEq, Repr, Inhabited

/-- The wording of a flaw. -/
def Flaw.message : Flaw -> String
  | controlCharacter => "control characters are not allowed"
  | cannotStartToken => "found character that cannot start any token"
  | entryNotAllowed => "block sequence entries are not allowed in this context"
  | keyNotAllowed => "mapping keys are not allowed in this context"
  | valueNotAllowed => "mapping values are not allowed in this context"
  | colonExpected => "could not find expected ':'"
  | tooDeep limit => "exceeded max depth of " ++ toString limit
  | nameExpected => "did not find expected alphabetic or numeric character"
  | angleExpected => "did not find the expected '>'"
  | exclamationExpected => "did not find expected '!'"
  | tagUriExpected => "did not find expected tag URI"
  | octetExpected => "did not find URI escaped octet"
  | leadingOctet => "found an incorrect leading UTF-8 octet"
  | trailingOctet => "found an incorrect trailing UTF-8 octet"
  | blankOrBreakExpected => "did not find expected whitespace or line break"
  | blankExpected => "did not find expected whitespace"
  | directiveNameExpected => "could not find expected directive name"
  | directiveNameUnclean => "found unexpected non-alphabetical character"
  | unknownDirective => "found unknown directive name"
  | versionPointExpected => "did not find expected digit or '.' character"
  | versionNumberExpected => "did not find expected version number"
  | versionNumberLong => "found extremely long version number"
  | commentOrBreakExpected => "did not find expected comment or line break"
  | zeroIndentation => "found an indentation indicator equal to 0"
  | tabIndentation => "found a tab character where an indentation space is expected"
  | tabInPlain => "found a tab character that violates indentation"
  | documentIndicator => "found unexpected document indicator"
  | endOfStream => "found unexpected end of stream"
  | unknownEscape => "found unknown escape character"
  | hexadecimalExpected => "did not find expected hexdecimal number"
  | invalidCharacterCode => "found invalid Unicode character escape code"
  | documentStartExpected => "did not find expected <document start>"
  | duplicateVersion => "found duplicate %YAML directive"
  | incompatibleVersion => "found incompatible YAML document"
  | duplicateTagDirective => "found duplicate %TAG directive"
  | undefinedHandle => "found undefined tag handle"
  | contentExpected => "did not find expected node content"
  | dashExpected => "did not find expected '-' indicator"
  | keyExpected => "did not find expected key"
  | commaOrBracketExpected => "did not find expected ',' or ']'"
  | commaOrBraceExpected => "did not find expected ',' or '\x7d'"
  | unknown => "unknown problem parsing YAML content"

/-- A flaw with the line on which the construct it belongs to starts and the line
on which it was noticed, both counted from zero; zero also stands for no line.
A flaw of the tokens themselves is reported one line further than a flaw of
their order. -/
structure SyntaxError where
  flaw : Flaw
  construct : Nat := 0
  noticed : Nat := 0
  inToken : Bool := false
  deriving DecidableEq, Repr, Inhabited

/-- The line a flaw is reported on; zero stands for none. -/
def SyntaxError.reportedLine (error : SyntaxError) : Nat :=
  let line := if error.construct != 0 then error.construct else error.noticed
  if line == 0 then 0 else if error.inToken then line + 1 else line

/-- The wording of a syntax error. -/
def SyntaxError.message (error : SyntaxError) : String :=
  (if error.reportedLine == 0 then "" else "line " ++ toString error.reportedLine ++ ": ") ++
    error.flaw.message

end Document
end PatternMachine
