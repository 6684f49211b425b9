import PatternMachine.Digest.Block

/-!
# SHA-224 and SHA-256
-/

namespace PatternMachine
namespace Digest

/-- The constants of SHA-256, one for each step. -/
def sha256Constants : Array UInt32 :=
  #[0x428A2F98, 0x71374491, 0xB5C0FBCF, 0xE9B5DBA5, 0x3956C25B, 0x59F111F1, 0x923F82A4, 0xAB1C5ED5,
    0xD807AA98, 0x12835B01, 0x243185BE, 0x550C7DC3, 0x72BE5D74, 0x80DEB1FE, 0x9BDC06A7, 0xC19BF174,
    0xE49B69C1, 0xEFBE4786, 0x0FC19DC6, 0x240CA1CC, 0x2DE92C6F, 0x4A7484AA, 0x5CB0A9DC, 0x76F988DA,
    0x983E5152, 0xA831C66D, 0xB00327C8, 0xBF597FC7, 0xC6E00BF3, 0xD5A79147, 0x06CA6351, 0x14292967,
    0x27B70A85, 0x2E1B2138, 0x4D2C6DFC, 0x53380D13, 0x650A7354, 0x766A0ABB, 0x81C2C92E, 0x92722C85,
    0xA2BFE8A1, 0xA81A664B, 0xC24B8B70, 0xC76C51A3, 0xD192E819, 0xD6990624, 0xF40E3585, 0x106AA070,
    0x19A4C116, 0x1E376C08, 0x2748774C, 0x34B0BCB5, 0x391C0CB3, 0x4ED8AA4A, 0x5B9CCA4F, 0x682E6FF3,
    0x748F82EE, 0x78A5636F, 0x84C87814, 0x8CC70208, 0x90BEFFFA, 0xA4506CEB, 0xBEF9A3F7, 0xC67178F2]

/-- The eight words SHA-256 starts from. -/
def sha256Start : Array UInt32 :=
  #[0x6A09E667, 0xBB67AE85, 0x3C6EF372, 0xA54FF53A, 0x510E527F, 0x9B05688C, 0x1F83D9AB, 0x5BE0CD19]

/-- The eight words SHA-224 starts from. -/
def sha224Start : Array UInt32 :=
  #[0xC1059ED8, 0x367CD507, 0x3070DD17, 0xF70E5939, 0xFFC00B31, 0x68581511, 0x64F98FA7, 0xBEFA4FA4]

/-- The block extended to one word for each step. -/
def sha256Schedule (block : Array UInt32) : Array UInt32 :=
  (List.range 48).foldl (fun words extra =>
    let place := extra + 16
    let early := words.getD (place - 15) 0
    let late := words.getD (place - 2) 0
    let mixedEarly := rotateRight32 early 7 ^^^ rotateRight32 early 18 ^^^ (early >>> 3)
    let mixedLate := rotateRight32 late 17 ^^^ rotateRight32 late 19 ^^^ (late >>> 10)
    words.push (words.getD (place - 16) 0 + mixedEarly + words.getD (place - 7) 0 + mixedLate)) block

/-- One step on the eight words. -/
def sha256Step (schedule state : Array UInt32) (step : Nat) : Array UInt32 :=
  let a := state.getD 0 0
  let b := state.getD 1 0
  let c := state.getD 2 0
  let d := state.getD 3 0
  let e := state.getD 4 0
  let f := state.getD 5 0
  let g := state.getD 6 0
  let h := state.getD 7 0
  let mixedE := rotateRight32 e 6 ^^^ rotateRight32 e 11 ^^^ rotateRight32 e 25
  let choice := (e &&& f) ^^^ (~~~e &&& g)
  let first := h + mixedE + choice + sha256Constants.getD step 0 + schedule.getD step 0
  let mixedA := rotateRight32 a 2 ^^^ rotateRight32 a 13 ^^^ rotateRight32 a 22
  let majority := (a &&& b) ^^^ (a &&& c) ^^^ (b &&& c)
  #[first + mixedA + majority, a, b, c, d + first, e, f, g]

/-- Take one block into the state. -/
def sha256Block (state : Array UInt32) (bytes : List UInt8) : Array UInt32 :=
  let schedule := sha256Schedule (words32 .big bytes)
  let after := (List.range 64).foldl (sha256Step schedule) state
  (state.zip after).map fun (old, new) => old + new

/-- The state after a whole message, as bytes. -/
def sha256From (start : Array UInt32) (message : List UInt8) : List UInt8 :=
  bytes32 .big ((chunks 64 (padded .big 64 8 message)).foldl sha256Block start).toList

/-- The SHA-256 digest of a message. -/
def sha256 (message : List UInt8) : List UInt8 :=
  sha256From sha256Start message

/-- The SHA-224 digest of a message. -/
def sha224 (message : List UInt8) : List UInt8 :=
  (sha256From sha224Start message).take 28

end Digest
end PatternMachine
