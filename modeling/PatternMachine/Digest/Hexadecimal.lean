import PatternMachine.Digest.Blake2b
import PatternMachine.Digest.Md5
import PatternMachine.Digest.Ripemd160
import PatternMachine.Digest.Sha1
import PatternMachine.Digest.Sha256
import PatternMachine.Text.LetterCase

/-!
# Digests by name

A digest is chosen by the name of its algorithm, in any case; the empty name
stands for SHA-256. It is written in upper-case hexadecimal digits.
-/

namespace PatternMachine
namespace Digest

/-- The digest function of an algorithm. -/
def ofName? (name : String) : Option (List UInt8 -> List UInt8) :=
  match Text.lower name with
  | "md5" => some md5
  | "sha1" => some sha1
  | "sha224" => some sha224
  | "sha256" => some sha256
  | "" => some sha256
  | "sha384" => some sha384
  | "sha512" => some sha512
  | "ripemd160" => some ripemd160
  | "blake2b" => some blake2b256
  | _ => none

/-- An upper-case hexadecimal digit. -/
def upperHexDigit (value : Nat) : Char :=
  if value < 10 then Char.ofNat ('0'.toNat + value) else Char.ofNat ('A'.toNat + value - 10)

/-- Bytes in hexadecimal digits. -/
def hexadecimal (bytes : List UInt8) : String :=
  String.ofList (bytes.flatMap fun byte =>
    [upperHexDigit (byte.toNat / 16), upperHexDigit (byte.toNat % 16)])

end Digest
end PatternMachine
