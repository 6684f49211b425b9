import PatternMachine.Digest.Sha512

/-!
# BLAKE2b with 256 bits

The state is eight words, started from the same constants as SHA-512. Each
block is mixed in twelve rounds, together with the number of bytes read so far.
-/

namespace PatternMachine
namespace Digest

/-- The order in which the rounds take the words of a block; the table repeats
after ten rounds. -/
def blakeOrder : Array (Array Nat) :=
  #[#[0, 1, 2, 3, 4, 5, 6, 7, 8, 9, 10, 11, 12, 13, 14, 15],
    #[14, 10, 4, 8, 9, 15, 13, 6, 1, 12, 0, 2, 11, 7, 5, 3],
    #[11, 8, 12, 0, 5, 2, 15, 13, 10, 14, 3, 6, 7, 1, 9, 4],
    #[7, 9, 3, 1, 13, 12, 11, 14, 2, 6, 5, 10, 4, 0, 15, 8],
    #[9, 0, 5, 7, 2, 4, 10, 15, 14, 1, 11, 12, 6, 8, 3, 13],
    #[2, 12, 6, 10, 0, 11, 8, 3, 4, 13, 7, 5, 15, 14, 1, 9],
    #[12, 5, 1, 15, 14, 13, 4, 10, 0, 7, 6, 3, 9, 2, 8, 11],
    #[13, 11, 7, 14, 12, 1, 3, 9, 5, 0, 15, 4, 8, 6, 2, 10],
    #[6, 15, 14, 9, 11, 3, 0, 8, 12, 2, 13, 7, 1, 4, 10, 5],
    #[10, 2, 8, 4, 7, 6, 1, 5, 15, 11, 9, 14, 3, 12, 13, 0]]

/-- Mix two words of the block into four words of the working state. -/
def blakeMix (state : Array UInt64) (a b c d : Nat) (x y : UInt64) : Array UInt64 :=
  let va := state.getD a 0 + state.getD b 0 + x
  let vd := rotateRight64 (state.getD d 0 ^^^ va) 32
  let vc := state.getD c 0 + vd
  let vb := rotateRight64 (state.getD b 0 ^^^ vc) 24
  let va := va + vb + y
  let vd := rotateRight64 (vd ^^^ va) 16
  let vc := vc + vd
  let vb := rotateRight64 (vb ^^^ vc) 63
  (((state.setIfInBounds a va).setIfInBounds b vb).setIfInBounds c vc).setIfInBounds d vd

/-- The columns and diagonals mixed in every round. -/
def blakeLanes : List (Nat × Nat × Nat × Nat) :=
  [(0, 4, 8, 12), (1, 5, 9, 13), (2, 6, 10, 14), (3, 7, 11, 15),
    (0, 5, 10, 15), (1, 6, 11, 12), (2, 7, 8, 13), (3, 4, 9, 14)]

/-- One round. -/
def blakeRound (block : Array UInt64) (state : Array UInt64) (round : Nat) : Array UInt64 :=
  let order := blakeOrder.getD (round % 10) #[]
  let word (place : Nat) : UInt64 := block.getD (order.getD place 0) 0
  blakeLanes.zipIdx.foldl (fun state ((a, b, c, d), lane) =>
    blakeMix state a b c d (word (2 * lane)) (word (2 * lane + 1))) state

/-- Take one block into the state; `count` bytes have been read with it. -/
def blakeBlock (state : Array UInt64) (bytes : List UInt8) (count : Nat) (last : Bool) :
    Array UInt64 :=
  let block := words64 .little bytes
  let constants := sha512Start
  let working := state ++ constants
  let working := working.setIfInBounds 12 (constants.getD 4 0 ^^^ UInt64.ofNat count)
  let working := if last then working.setIfInBounds 14 (~~~(constants.getD 6 0)) else working
  let mixed := (List.range 12).foldl (blakeRound block) working
  (List.range 8).map (fun place =>
    state.getD place 0 ^^^ mixed.getD place 0 ^^^ mixed.getD (place + 8) 0) |>.toArray

/-- Take the blocks of a message; the last one is filled up with zeros. -/
def blakeBlocks : List (List UInt8) -> Nat -> Array UInt64 -> Array UInt64
  | [], _, state => state
  | [block], count, state =>
      blakeBlock state (block ++ List.replicate (128 - block.length) 0) (count + block.length) true
  | block :: rest, count, state =>
      blakeBlocks rest (count + 128) (blakeBlock state block (count + 128) false)

/-- The BLAKE2b digest of a message, with 256 bits. -/
def blake2b256 (message : List UInt8) : List UInt8 :=
  let start := sha512Start.setIfInBounds 0 (sha512Start.getD 0 0 ^^^ 0x01010020)
  let blocks := if message.isEmpty then [[]] else chunks 128 message
  (bytes64 .little (blakeBlocks blocks 0 start).toList).take 32

end Digest
end PatternMachine
