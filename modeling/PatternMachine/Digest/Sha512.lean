import PatternMachine.Digest.Block

/-!
# SHA-384 and SHA-512
-/

namespace PatternMachine
namespace Digest

/-- The constants of SHA-512, one for each step. -/
def sha512Constants : Array UInt64 :=
  #[0x428A2F98D728AE22, 0x7137449123EF65CD, 0xB5C0FBCFEC4D3B2F, 0xE9B5DBA58189DBBC,
    0x3956C25BF348B538, 0x59F111F1B605D019, 0x923F82A4AF194F9B, 0xAB1C5ED5DA6D8118,
    0xD807AA98A3030242, 0x12835B0145706FBE, 0x243185BE4EE4B28C, 0x550C7DC3D5FFB4E2,
    0x72BE5D74F27B896F, 0x80DEB1FE3B1696B1, 0x9BDC06A725C71235, 0xC19BF174CF692694,
    0xE49B69C19EF14AD2, 0xEFBE4786384F25E3, 0x0FC19DC68B8CD5B5, 0x240CA1CC77AC9C65,
    0x2DE92C6F592B0275, 0x4A7484AA6EA6E483, 0x5CB0A9DCBD41FBD4, 0x76F988DA831153B5,
    0x983E5152EE66DFAB, 0xA831C66D2DB43210, 0xB00327C898FB213F, 0xBF597FC7BEEF0EE4,
    0xC6E00BF33DA88FC2, 0xD5A79147930AA725, 0x06CA6351E003826F, 0x142929670A0E6E70,
    0x27B70A8546D22FFC, 0x2E1B21385C26C926, 0x4D2C6DFC5AC42AED, 0x53380D139D95B3DF,
    0x650A73548BAF63DE, 0x766A0ABB3C77B2A8, 0x81C2C92E47EDAEE6, 0x92722C851482353B,
    0xA2BFE8A14CF10364, 0xA81A664BBC423001, 0xC24B8B70D0F89791, 0xC76C51A30654BE30,
    0xD192E819D6EF5218, 0xD69906245565A910, 0xF40E35855771202A, 0x106AA07032BBD1B8,
    0x19A4C116B8D2D0C8, 0x1E376C085141AB53, 0x2748774CDF8EEB99, 0x34B0BCB5E19B48A8,
    0x391C0CB3C5C95A63, 0x4ED8AA4AE3418ACB, 0x5B9CCA4F7763E373, 0x682E6FF3D6B2B8A3,
    0x748F82EE5DEFB2FC, 0x78A5636F43172F60, 0x84C87814A1F0AB72, 0x8CC702081A6439EC,
    0x90BEFFFA23631E28, 0xA4506CEBDE82BDE9, 0xBEF9A3F7B2C67915, 0xC67178F2E372532B,
    0xCA273ECEEA26619C, 0xD186B8C721C0C207, 0xEADA7DD6CDE0EB1E, 0xF57D4F7FEE6ED178,
    0x06F067AA72176FBA, 0x0A637DC5A2C898A6, 0x113F9804BEF90DAE, 0x1B710B35131C471B,
    0x28DB77F523047D84, 0x32CAAB7B40C72493, 0x3C9EBE0A15C9BEBC, 0x431D67C49C100D4C,
    0x4CC5D4BECB3E42B6, 0x597F299CFC657E2A, 0x5FCB6FAB3AD6FAEC, 0x6C44198C4A475817]

/-- The eight words SHA-512 starts from. -/
def sha512Start : Array UInt64 :=
  #[0x6A09E667F3BCC908, 0xBB67AE8584CAA73B, 0x3C6EF372FE94F82B, 0xA54FF53A5F1D36F1,
    0x510E527FADE682D1, 0x9B05688C2B3E6C1F, 0x1F83D9ABFB41BD6B, 0x5BE0CD19137E2179]

/-- The eight words SHA-384 starts from. -/
def sha384Start : Array UInt64 :=
  #[0xCBBB9D5DC1059ED8, 0x629A292A367CD507, 0x9159015A3070DD17, 0x152FECD8F70E5939,
    0x67332667FFC00B31, 0x8EB44A8768581511, 0xDB0C2E0D64F98FA7, 0x47B5481DBEFA4FA4]

/-- The block extended to one word for each step. -/
def sha512Schedule (block : Array UInt64) : Array UInt64 :=
  (List.range 64).foldl (fun words extra =>
    let place := extra + 16
    let early := words.getD (place - 15) 0
    let late := words.getD (place - 2) 0
    let mixedEarly := rotateRight64 early 1 ^^^ rotateRight64 early 8 ^^^ (early >>> 7)
    let mixedLate := rotateRight64 late 19 ^^^ rotateRight64 late 61 ^^^ (late >>> 6)
    words.push (words.getD (place - 16) 0 + mixedEarly + words.getD (place - 7) 0 + mixedLate)) block

/-- One step on the eight words. -/
def sha512Step (schedule state : Array UInt64) (step : Nat) : Array UInt64 :=
  let a := state.getD 0 0
  let b := state.getD 1 0
  let c := state.getD 2 0
  let d := state.getD 3 0
  let e := state.getD 4 0
  let f := state.getD 5 0
  let g := state.getD 6 0
  let h := state.getD 7 0
  let mixedE := rotateRight64 e 14 ^^^ rotateRight64 e 18 ^^^ rotateRight64 e 41
  let choice := (e &&& f) ^^^ (~~~e &&& g)
  let first := h + mixedE + choice + sha512Constants.getD step 0 + schedule.getD step 0
  let mixedA := rotateRight64 a 28 ^^^ rotateRight64 a 34 ^^^ rotateRight64 a 39
  let majority := (a &&& b) ^^^ (a &&& c) ^^^ (b &&& c)
  #[first + mixedA + majority, a, b, c, d + first, e, f, g]

/-- Take one block into the state. -/
def sha512Block (state : Array UInt64) (bytes : List UInt8) : Array UInt64 :=
  let schedule := sha512Schedule (words64 .big bytes)
  let after := (List.range 80).foldl (sha512Step schedule) state
  (state.zip after).map fun (old, new) => old + new

/-- The state after a whole message, as bytes. -/
def sha512From (start : Array UInt64) (message : List UInt8) : List UInt8 :=
  bytes64 .big ((chunks 128 (padded .big 128 16 message)).foldl sha512Block start).toList

/-- The SHA-512 digest of a message. -/
def sha512 (message : List UInt8) : List UInt8 :=
  sha512From sha512Start message

/-- The SHA-384 digest of a message. -/
def sha384 (message : List UInt8) : List UInt8 :=
  (sha512From sha384Start message).take 48

end Digest
end PatternMachine
