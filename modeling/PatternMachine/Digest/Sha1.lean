import PatternMachine.Digest.Block

/-!
# SHA-1
-/

namespace PatternMachine
namespace Digest

/-- The five words SHA-1 works on. -/
structure Sha1State where
  a : UInt32 := 0x67452301
  b : UInt32 := 0xEFCDAB89
  c : UInt32 := 0x98BADCFE
  d : UInt32 := 0x10325476
  e : UInt32 := 0xC3D2E1F0

/-- The block extended to one word for each step. -/
def sha1Schedule (block : Array UInt32) : Array UInt32 :=
  (List.range 64).foldl (fun words extra =>
    let place := extra + 16
    words.push (rotateLeft32
      (words.getD (place - 3) 0 ^^^ words.getD (place - 8) 0 ^^^ words.getD (place - 14) 0 ^^^
        words.getD (place - 16) 0) 1)) block

/-- One step of SHA-1. -/
def sha1Step (schedule : Array UInt32) (state : Sha1State) (step : Nat) : Sha1State :=
  let { a, b, c, d, e } := state
  let (mixed, constant) :=
    if step < 20 then ((b &&& c) ||| (~~~b &&& d), 0x5A827999)
    else if step < 40 then (b ^^^ c ^^^ d, 0x6ED9EBA1)
    else if step < 60 then ((b &&& c) ||| (b &&& d) ||| (c &&& d), 0x8F1BBCDC)
    else (b ^^^ c ^^^ d, 0xCA62C1D6)
  { a := rotateLeft32 a 5 + mixed + e + constant + schedule.getD step 0
    b := a
    c := rotateLeft32 b 30
    d := c
    e := d }

/-- Take one block into the state. -/
def sha1Block (state : Sha1State) (bytes : List UInt8) : Sha1State :=
  let schedule := sha1Schedule (words32 .big bytes)
  let after := (List.range 80).foldl (sha1Step schedule) state
  { a := state.a + after.a
    b := state.b + after.b
    c := state.c + after.c
    d := state.d + after.d
    e := state.e + after.e }

/-- The SHA-1 digest of a message. -/
def sha1 (message : List UInt8) : List UInt8 :=
  let state := (chunks 64 (padded .big 64 8 message)).foldl sha1Block {}
  bytes32 .big [state.a, state.b, state.c, state.d, state.e]

end Digest
end PatternMachine
