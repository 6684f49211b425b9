/-!
# Blocks and words

Digests read a message in blocks of words. The message is padded with one set
bit, zeros, and its length in bits, so that it fills whole blocks.
-/

namespace PatternMachine
namespace Digest

/-- The least significant `count` bytes of a number, the least significant first. -/
def lowBytes : Nat -> Nat -> List UInt8
  | 0, _ => []
  | count + 1, value => UInt8.ofNat (value % 256) :: lowBytes count (value / 256)

/-- The number written by bytes, the least significant first. -/
def ofLowBytes (bytes : List UInt8) : Nat :=
  bytes.foldr (fun byte total => total * 256 + byte.toNat) 0

/-- The order of bytes in words and lengths. -/
inductive Endian
  | little
  | big
  deriving DecidableEq, Repr

/-- A number in a given count of bytes. -/
def Endian.write (endian : Endian) (count value : Nat) : List UInt8 :=
  match endian with
  | .little => lowBytes count value
  | .big => (lowBytes count value).reverse

/-- The number in some bytes. -/
def Endian.read (endian : Endian) (bytes : List UInt8) : Nat :=
  match endian with
  | .little => ofLowBytes bytes
  | .big => ofLowBytes bytes.reverse

/-- A message with its padding: blocks of `blockSize` bytes whose last
`lengthSize` bytes are the length of the message in bits. -/
def padded (endian : Endian) (blockSize lengthSize : Nat) (message : List UInt8) : List UInt8 :=
  let filled := (message.length + 1 + lengthSize) % blockSize
  let zeros := if filled == 0 then 0 else blockSize - filled
  message ++ [0x80] ++ List.replicate zeros 0 ++ endian.write lengthSize (8 * message.length)

/-- Cut a list into pieces of a given size, at most `count` of them. -/
def pieces {α : Type} (size : Nat) : Nat -> List α -> List (List α)
  | 0, _ => []
  | count + 1, list => if list.isEmpty then [] else list.take size :: pieces size count (list.drop size)

/-- Cut a list into pieces of a given size. -/
def chunks {α : Type} (size : Nat) (list : List α) : List (List α) :=
  pieces size list.length list

/-- The words of 32 bits in a block. -/
def words32 (endian : Endian) (block : List UInt8) : Array UInt32 :=
  ((chunks 4 block).map fun bytes => UInt32.ofNat (endian.read bytes)).toArray

/-- The words of 64 bits in a block. -/
def words64 (endian : Endian) (block : List UInt8) : Array UInt64 :=
  ((chunks 8 block).map fun bytes => UInt64.ofNat (endian.read bytes)).toArray

/-- Turn a word of 32 bits to the left. -/
def rotateLeft32 (word : UInt32) (count : Nat) : UInt32 :=
  (word <<< UInt32.ofNat count) ||| (word >>> UInt32.ofNat (32 - count))

/-- Turn a word of 32 bits to the right. -/
def rotateRight32 (word : UInt32) (count : Nat) : UInt32 :=
  (word >>> UInt32.ofNat count) ||| (word <<< UInt32.ofNat (32 - count))

/-- Turn a word of 64 bits to the right. -/
def rotateRight64 (word : UInt64) (count : Nat) : UInt64 :=
  (word >>> UInt64.ofNat count) ||| (word <<< UInt64.ofNat (64 - count))

/-- The bytes of words of 32 bits. -/
def bytes32 (endian : Endian) (words : List UInt32) : List UInt8 :=
  words.flatMap fun word => endian.write 4 word.toNat

/-- The bytes of words of 64 bits. -/
def bytes64 (endian : Endian) (words : List UInt64) : List UInt8 :=
  words.flatMap fun word => endian.write 8 word.toNat

end Digest
end PatternMachine
