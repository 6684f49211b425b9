import PatternMachine.Digest.Block

/-!
# MD5
-/

namespace PatternMachine
namespace Digest

/-- The constants of MD5, one for each step. -/
def md5Constants : Array UInt32 :=
  #[0xD76AA478, 0xE8C7B756, 0x242070DB, 0xC1BDCEEE, 0xF57C0FAF, 0x4787C62A, 0xA8304613, 0xFD469501,
    0x698098D8, 0x8B44F7AF, 0xFFFF5BB1, 0x895CD7BE, 0x6B901122, 0xFD987193, 0xA679438E, 0x49B40821,
    0xF61E2562, 0xC040B340, 0x265E5A51, 0xE9B6C7AA, 0xD62F105D, 0x02441453, 0xD8A1E681, 0xE7D3FBC8,
    0x21E1CDE6, 0xC33707D6, 0xF4D50D87, 0x455A14ED, 0xA9E3E905, 0xFCEFA3F8, 0x676F02D9, 0x8D2A4C8A,
    0xFFFA3942, 0x8771F681, 0x6D9D6122, 0xFDE5380C, 0xA4BEEA44, 0x4BDECFA9, 0xF6BB4B60, 0xBEBFBC70,
    0x289B7EC6, 0xEAA127FA, 0xD4EF3085, 0x04881D05, 0xD9D4D039, 0xE6DB99E5, 0x1FA27CF8, 0xC4AC5665,
    0xF4292244, 0x432AFF97, 0xAB9423A7, 0xFC93A039, 0x655B59C3, 0x8F0CCC92, 0xFFEFF47D, 0x85845DD1,
    0x6FA87E4F, 0xFE2CE6E0, 0xA3014314, 0x4E0811A1, 0xF7537E82, 0xBD3AF235, 0x2AD7D2BB, 0xEB86D391]

/-- The rotations of MD5, four for each round. -/
def md5Rotations : Array Nat :=
  #[7, 12, 17, 22, 5, 9, 14, 20, 4, 11, 16, 23, 6, 10, 15, 21]

/-- The four words MD5 works on. -/
structure Md5State where
  a : UInt32 := 0x67452301
  b : UInt32 := 0xEFCDAB89
  c : UInt32 := 0x98BADCFE
  d : UInt32 := 0x10325476

/-- One step of MD5. -/
def md5Step (block : Array UInt32) (state : Md5State) (step : Nat) : Md5State :=
  let { a, b, c, d } := state
  let (mixed, place) :=
    if step < 16 then ((b &&& c) ||| (~~~b &&& d), step)
    else if step < 32 then ((d &&& b) ||| (~~~d &&& c), (5 * step + 1) % 16)
    else if step < 48 then (b ^^^ c ^^^ d, (3 * step + 5) % 16)
    else (c ^^^ (b ||| ~~~d), (7 * step) % 16)
  let sum := a + mixed + md5Constants.getD step 0 + block.getD place 0
  let rotation := md5Rotations.getD (step / 16 * 4 + step % 4) 0
  { a := d, b := b + rotateLeft32 sum rotation, c := b, d := c }

/-- Take one block into the state. -/
def md5Block (state : Md5State) (bytes : List UInt8) : Md5State :=
  let block := words32 .little bytes
  let after := (List.range 64).foldl (md5Step block) state
  { a := state.a + after.a, b := state.b + after.b, c := state.c + after.c, d := state.d + after.d }

/-- The MD5 digest of a message. -/
def md5 (message : List UInt8) : List UInt8 :=
  let state := (chunks 64 (padded .little 64 8 message)).foldl md5Block {}
  bytes32 .little [state.a, state.b, state.c, state.d]

end Digest
end PatternMachine
