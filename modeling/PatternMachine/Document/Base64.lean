/-!
# Base 64

Bytes written with sixty-four printable characters, six bits each. Line breaks
between them do not count; the last group is padded to four characters.
-/

namespace PatternMachine
namespace Document

/-- The six bits a character stands for. -/
def sixBits? (c : Char) : Option Nat :=
  if 'A' <= c && c <= 'Z' then some (c.toNat - 'A'.toNat)
  else if 'a' <= c && c <= 'z' then some (c.toNat - 'a'.toNat + 26)
  else if '0' <= c && c <= '9' then some (c.toNat - '0'.toNat + 52)
  else if c == '+' then some 62
  else if c == '/' then some 63
  else none

/-- The bytes of groups of four characters; padding ends the text. -/
def groups? : List Char -> Option (List UInt8)
  | [] => some []
  | [a, b, '=', '='] => do
      let bits := (← sixBits? a) * 64 + (← sixBits? b)
      some [(bits / 16).toUInt8]
  | [a, b, c, '='] => do
      let bits := ((← sixBits? a) * 64 + (← sixBits? b)) * 64 + (← sixBits? c)
      some [(bits / 1024).toUInt8, (bits / 4).toUInt8]
  | a :: b :: c :: d :: rest => do
      let bits := (((← sixBits? a) * 64 + (← sixBits? b)) * 64 + (← sixBits? c)) * 64 +
        (← sixBits? d)
      let behind ← groups? rest
      some ((bits / 65536).toUInt8 :: (bits / 256).toUInt8 :: bits.toUInt8 :: behind)
  | _ => none

/-- Read base 64. -/
def fromBase64? (source : String) : Option (List UInt8) :=
  groups? (source.toList.filter fun c => c != '\r' && c != '\n')

end Document
end PatternMachine
