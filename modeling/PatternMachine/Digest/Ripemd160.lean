import PatternMachine.Digest.Block

/-!
# RIPEMD-160

Two lines of eighty steps run side by side over each block and are added up
crosswise.
-/

namespace PatternMachine
namespace Digest

/-- What distinguishes the two lines: the word taken and the rotation made at
each step, the constant of each round, and the order of the mixing functions. -/
structure RipemdLine where
  places : Array Nat
  rotations : Array Nat
  constants : Array UInt32
  mirrored : Bool

/-- The left line. -/
def ripemdLeft : RipemdLine where
  places :=
    #[0, 1, 2, 3, 4, 5, 6, 7, 8, 9, 10, 11, 12, 13, 14, 15,
      7, 4, 13, 1, 10, 6, 15, 3, 12, 0, 9, 5, 2, 14, 11, 8,
      3, 10, 14, 4, 9, 15, 8, 1, 2, 7, 0, 6, 13, 11, 5, 12,
      1, 9, 11, 10, 0, 8, 12, 4, 13, 3, 7, 15, 14, 5, 6, 2,
      4, 0, 5, 9, 7, 12, 2, 10, 14, 1, 3, 8, 11, 6, 15, 13]
  rotations :=
    #[11, 14, 15, 12, 5, 8, 7, 9, 11, 13, 14, 15, 6, 7, 9, 8,
      7, 6, 8, 13, 11, 9, 7, 15, 7, 12, 15, 9, 11, 7, 13, 12,
      11, 13, 6, 7, 14, 9, 13, 15, 14, 8, 13, 6, 5, 12, 7, 5,
      11, 12, 14, 15, 14, 15, 9, 8, 9, 14, 5, 6, 8, 6, 5, 12,
      9, 15, 5, 11, 6, 8, 13, 12, 5, 12, 13, 14, 11, 8, 5, 6]
  constants := #[0x00000000, 0x5A827999, 0x6ED9EBA1, 0x8F1BBCDC, 0xA953FD4E]
  mirrored := false

/-- The right line. -/
def ripemdRight : RipemdLine where
  places :=
    #[5, 14, 7, 0, 9, 2, 11, 4, 13, 6, 15, 8, 1, 10, 3, 12,
      6, 11, 3, 7, 0, 13, 5, 10, 14, 15, 8, 12, 4, 9, 1, 2,
      15, 5, 1, 3, 7, 14, 6, 9, 11, 8, 12, 2, 10, 0, 4, 13,
      8, 6, 4, 1, 3, 11, 15, 0, 5, 12, 2, 13, 9, 7, 10, 14,
      12, 15, 10, 4, 1, 5, 8, 7, 6, 2, 13, 14, 0, 3, 9, 11]
  rotations :=
    #[8, 9, 9, 11, 13, 15, 15, 5, 7, 7, 8, 11, 14, 14, 12, 6,
      9, 13, 15, 7, 12, 8, 9, 11, 7, 7, 12, 7, 6, 15, 13, 11,
      9, 7, 15, 11, 8, 6, 6, 14, 12, 13, 5, 14, 13, 13, 7, 5,
      15, 5, 8, 11, 14, 14, 6, 14, 6, 9, 12, 9, 12, 5, 15, 8,
      8, 5, 12, 9, 12, 5, 14, 6, 8, 13, 6, 5, 15, 13, 11, 11]
  constants := #[0x50A28BE6, 0x5C4DD124, 0x6D703EF3, 0x7A6D76E9, 0x00000000]
  mirrored := true

/-- The five words RIPEMD-160 works on. -/
structure RipemdState where
  a : UInt32 := 0x67452301
  b : UInt32 := 0xEFCDAB89
  c : UInt32 := 0x98BADCFE
  d : UInt32 := 0x10325476
  e : UInt32 := 0xC3D2E1F0

/-- The mixing function of a round. -/
def ripemdMix (round : Nat) (x y z : UInt32) : UInt32 :=
  if round == 0 then x ^^^ y ^^^ z
  else if round == 1 then (x &&& y) ||| (~~~x &&& z)
  else if round == 2 then (x ||| ~~~y) ^^^ z
  else if round == 3 then (x &&& z) ||| (y &&& ~~~z)
  else x ^^^ (y ||| ~~~z)

/-- One step of a line. -/
def ripemdStep (line : RipemdLine) (block : Array UInt32) (state : RipemdState) (step : Nat) :
    RipemdState :=
  let { a, b, c, d, e } := state
  let round := step / 16
  let mixed := ripemdMix (if line.mirrored then 4 - round else round) b c d
  let sum := a + mixed + block.getD (line.places.getD step 0) 0 + line.constants.getD round 0
  { a := e
    b := rotateLeft32 sum (line.rotations.getD step 0) + e
    c := b
    d := rotateLeft32 c 10
    e := d }

/-- Take one block into the state. -/
def ripemdBlock (state : RipemdState) (bytes : List UInt8) : RipemdState :=
  let block := words32 .little bytes
  let left := (List.range 80).foldl (ripemdStep ripemdLeft block) state
  let right := (List.range 80).foldl (ripemdStep ripemdRight block) state
  { a := state.b + left.c + right.d
    b := state.c + left.d + right.e
    c := state.d + left.e + right.a
    d := state.e + left.a + right.b
    e := state.a + left.b + right.c }

/-- The RIPEMD-160 digest of a message. -/
def ripemd160 (message : List UInt8) : List UInt8 :=
  let state := (chunks 64 (padded .little 64 8 message)).foldl ripemdBlock {}
  bytes32 .little [state.a, state.b, state.c, state.d, state.e]

end Digest
end PatternMachine
