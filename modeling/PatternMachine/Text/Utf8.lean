/-!
# Text from bytes

Reading bytes as UTF-8. A byte that does not belong to a well-formed character
becomes a replacement character of its own.
-/

namespace PatternMachine
namespace Text

/-- The replacement character. -/
def replacement : Char :=
  Char.ofNat 0xFFFD

/-- The payload of a continuation byte. -/
def continuation? (byte : UInt8) : Option Nat :=
  if 0x80 <= byte && byte <= 0xBF then some (byte.toNat - 0x80) else none

/-- The first character of some bytes and the number of bytes it takes, if they
start with a well-formed one. -/
def firstChar? (bytes : List UInt8) : Option (Char × Nat) :=
  match bytes with
  | [] => none
  | lead :: rest =>
      let byte := lead.toNat
      if byte < 0x80 then some (Char.ofNat byte, 1)
      else if 0xC2 <= byte && byte <= 0xDF then do
        let one ← continuation? (← rest[0]?)
        some (Char.ofNat ((byte - 0xC0) * 64 + one), 2)
      else if 0xE0 <= byte && byte <= 0xEF then do
        let one ← continuation? (← rest[0]?)
        let two ← continuation? (← rest[1]?)
        let code := ((byte - 0xE0) * 64 + one) * 64 + two
        if code < 0x800 || (0xD800 <= code && code <= 0xDFFF) then none
        else some (Char.ofNat code, 3)
      else if 0xF0 <= byte && byte <= 0xF4 then do
        let one ← continuation? (← rest[0]?)
        let two ← continuation? (← rest[1]?)
        let three ← continuation? (← rest[2]?)
        let code := (((byte - 0xF0) * 64 + one) * 64 + two) * 64 + three
        if code < 0x10000 || 0x10FFFF < code then none
        else some (Char.ofNat code, 4)
      else none

/-- The characters of some bytes; `skip` bytes at the front are already read. -/
def charsOfBytes : Nat -> List UInt8 -> List Char
  | _, [] => []
  | skip + 1, _ :: rest => charsOfBytes skip rest
  | 0, byte :: rest =>
      match firstChar? (byte :: rest) with
      | some (c, size) => c :: charsOfBytes (size - 1) rest
      | none => replacement :: charsOfBytes 0 rest

/-- The text some bytes stand for. Texts are made of characters here, and a byte that
belongs to none becomes U+FFFD; the machine that is modelled keeps such a byte. -/
def ofBytes (bytes : List UInt8) : String :=
  String.ofList (charsOfBytes 0 bytes)

/-- The bytes of a text. -/
def bytesOf (text : String) : List UInt8 :=
  text.toUTF8.toList

/-- The first bytes of a text, as text. -/
def takeBytes (count : Nat) (text : String) : String :=
  ofBytes ((bytesOf text).take count)

end Text
end PatternMachine
