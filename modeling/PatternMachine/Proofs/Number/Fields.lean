import Mathlib
import PatternMachine.Number.Binary64

/-!
# Floats made of fields

A float that is built from a sign, a biased exponent and a fraction is a finite number, as
long as the exponent is not the largest one. It is taken apart into what it was built from,
and the comparison of floats sees the same.
-/

namespace PatternMachine
namespace Number

open Float.Model (UnpackedFloat)
open Float.Model.UnpackedFloat (Sign packComponents)

/-- The sign of a float. -/
def signOf (negative : Bool) : Sign :=
  if negative then .negative else .positive

/-- The bits of a float with the given fields. -/
def packedFields (negative : Bool) (biased fraction : Nat) : BitVec 64 :=
  packComponents .binary64 (signOf negative) (BitVec.ofNat 11 biased) (BitVec.ofNat 52 fraction)

/-- The significand and the exponent that fields stand for. The smallest biased exponent is
that of the subnormal numbers. -/
def fieldMagnitude (biased fraction : Nat) : Magnitude :=
  if biased = 0 then ⟨fraction, leastExponent⟩ else ⟨2 ^ 52 + fraction, (biased : Int) - 1075⟩

variable {negative : Bool} {biased fraction : Nat}

theorem toNat_packedFields
    (biasedBound : biased < 2 ^ 11)
    (fractionBound : fraction < 2 ^ 52) :
    (packedFields negative biased fraction).toNat =
      (if negative then 2 ^ 63 else 0) + biased * 2 ^ 52 + fraction := by
  unfold packedFields packComponents
  rw [BitVec.toNat_append, BitVec.toNat_append, BitVec.toNat_ofNat, BitVec.toNat_ofNat,
    Nat.mod_eq_of_lt biasedBound, Nat.mod_eq_of_lt fractionBound,
    ← Nat.shiftLeft_add_eq_or_of_lt biasedBound, ← Nat.shiftLeft_add_eq_or_of_lt fractionBound,
    Nat.shiftLeft_eq, Nat.shiftLeft_eq]
  cases negative <;> simp [signOf, Sign.toBitVec]
  omega

/-- The number that fields stand for, as the comparison of floats sees it. -/
def unpackedFields (negative : Bool) (biased fraction : Nat) : UnpackedFloat :=
  let magnitude := fieldMagnitude biased fraction
  if positive : 0 < magnitude.significand then
    .finite (signOf negative) magnitude.significand magnitude.exponent positive
  else .zero (signOf negative)

theorem unpackSign_packComponents
    {spec : Float.Model.Format}
    (sign : Sign)
    (exponent : BitVec spec.exponentBits)
    (mantissa : BitVec spec.mantissaBitsWithoutImplicit) :
    UnpackedFloat.unpackSign (packComponents spec sign exponent mantissa) = sign.toBitVec := by
  ext index inside
  obtain rfl : index = 0 := by omega
  simp [UnpackedFloat.unpackSign, packComponents, BitVec.getLsbD_append, BitVec.getElem_append]

theorem ofBitVec_toBitVec (sign : Sign) : Sign.ofBitVec sign.toBitVec = sign := by
  cases sign <;> rfl

theorem finite_congr
    {sign : Sign}
    {first second : Nat}
    {exponent other : Int}
    {firstPositive : 0 < first}
    {secondPositive : 0 < second}
    (significands : first = second)
    (exponents : exponent = other) :
    UnpackedFloat.finite sign first exponent firstPositive =
      .finite sign second other secondPositive := by
  subst significands exponents
  rfl

/-- Fields are unpacked to the number they stand for. -/
theorem unpack_packedFields
    (finite : biased < 2047)
    (fractionBound : fraction < 2 ^ 52) :
    UnpackedFloat.unpack .binary64 (packedFields negative biased fraction) =
      unpackedFields negative biased fraction := by
  have exponent : @UnpackedFloat.unpackExponent .binary64
      (packedFields negative biased fraction) = BitVec.ofNat 11 biased :=
    UnpackedFloat.unpackExponent_packComponents
  have mantissa : @UnpackedFloat.unpackMantissa .binary64
      (packedFields negative biased fraction) = BitVec.ofNat 52 fraction :=
    UnpackedFloat.unpackMantissa_packComponents
  have sign : Sign.ofBitVec (@UnpackedFloat.unpackSign .binary64
      (packedFields negative biased fraction)) = signOf negative := by
    rw [packedFields, unpackSign_packComponents, ofBitVec_toBitVec]
  have exponentValue : (BitVec.ofNat 11 biased).toNat = biased :=
    (BitVec.toNat_ofNat ..).trans (Nat.mod_eq_of_lt (by omega))
  have mantissaValue : (BitVec.ofNat 52 fraction).toNat = fraction :=
    (BitVec.toNat_ofNat ..).trans (Nat.mod_eq_of_lt fractionBound)
  have notLargest : BitVec.ofNat 11 biased ≠ -1#11 := by
    intro largest
    have := congrArg BitVec.toNat largest
    rw [exponentValue] at this
    exact absurd this (by simp; omega)
  unfold UnpackedFloat.unpack unpackedFields
  simp only [exponent, mantissa, sign, notLargest, if_false]
  by_cases subnormal : biased = 0
  · subst subnormal
    have magnitude : fieldMagnitude 0 fraction = ⟨fraction, leastExponent⟩ := rfl
    rw [if_pos rfl]
    by_cases vanishes : fraction = 0
    · subst vanishes
      rfl
    · have mantissaNonzero : BitVec.ofNat 52 fraction ≠ 0#52 := by
        intro zero
        have := congrArg BitVec.toNat zero
        rw [mantissaValue] at this
        exact vanishes this
      rw [dif_neg mantissaNonzero, dif_pos (by rw [magnitude]; exact Nat.pos_of_ne_zero vanishes)]
      exact finite_congr mantissaValue rfl
  · have exponentNonzero : BitVec.ofNat 11 biased ≠ 0#11 := by
      intro zero
      have := congrArg BitVec.toNat zero
      rw [exponentValue] at this
      exact subnormal this
    have magnitude : fieldMagnitude biased fraction = ⟨2 ^ 52 + fraction, (biased : Int) - 1075⟩ :=
      if_neg subnormal
    rw [if_neg exponentNonzero, dif_pos (by rw [magnitude]; exact Nat.add_pos_left (by decide) _)]
    refine finite_congr ?_ ?_
    · rw [magnitude, BitVec.toNat_append, ← Nat.shiftLeft_add_eq_or_of_lt (BitVec.isLt _),
        mantissaValue]
      rfl
    · rw [magnitude, exponentValue]
      rfl

/-- The number that fields stand for is packed into the fields. -/
theorem pack_unpackedFields
    (finite : biased < 2047)
    (fractionBound : fraction < 2 ^ 52) :
    UnpackedFloat.pack .binary64 (unpackedFields negative biased fraction) =
      packedFields negative biased fraction := by
  unfold unpackedFields
  by_cases subnormal : biased = 0
  · subst subnormal
    have magnitude : fieldMagnitude 0 fraction = ⟨fraction, leastExponent⟩ := rfl
    simp only [magnitude]
    by_cases vanishes : fraction = 0
    · subst vanishes
      rfl
    · rw [dif_pos (Nat.pos_of_ne_zero vanishes)]
      have short : fraction.log2 < 52 := (Nat.log2_lt vanishes).mpr fractionBound
      have notNormal : ¬ fraction.log2 + 1 = Float.Model.Format.binary64.mantissaBits := by
        change ¬ fraction.log2 + 1 = 53
        omega
      unfold UnpackedFloat.pack
      dsimp only
      rw [if_neg (by decide), if_neg notNormal]
      rfl
  · have magnitude : fieldMagnitude biased fraction = ⟨2 ^ 52 + fraction, (biased : Int) - 1075⟩ :=
      if_neg subnormal
    simp only [magnitude]
    rw [dif_pos (Nat.add_pos_left (by decide) _)]
    have long : (2 ^ 52 + fraction).log2 = 52 := by
      rw [Nat.log2_eq_iff (by omega)]
      omega
    have rebiased : ((biased : Int) - 1075 + Float.Model.Format.binary64.exponentBias +
        Float.Model.Format.binary64.mantissaBitsWithoutImplicit).toNat = biased := by
      change ((biased : Int) - 1075 + 1023 + 52).toNat = biased
      omega
    have notLargest : ¬ 2 ^ 11 ≤ biased + 1 := by omega
    have mantissa : BitVec.ofNat 52 (2 ^ 52 + fraction) = BitVec.ofNat 52 fraction := by
      apply BitVec.eq_of_toNat_eq
      rw [BitVec.toNat_ofNat, BitVec.toNat_ofNat]
      omega
    unfold UnpackedFloat.pack
    dsimp only
    have normal : 52 + 1 = Float.Model.Format.binary64.mantissaBits := rfl
    rw [rebiased, long, if_neg notLargest, if_pos normal, mantissa]
    rfl

/-- A float keeps the bits it is made from up to the choice of what is not a number. -/
theorem toBits_ofBits (bits : UInt64) :
    (Float.ofBits bits).toModel.toBits =
      UInt64.ofBitVec (UnpackedFloat.pack .binary64
        (UnpackedFloat.unpack .binary64 bits.toBitVec)) := rfl

theorem ofFields_eq
    (finite : biased < 2047)
    (fractionBound : fraction < 2 ^ 52) :
    (ofFields negative biased fraction).toModel.toBits =
      UInt64.ofBitVec (packedFields negative biased fraction) := by
  have bits : (UInt64.ofNat ((if negative then Nat.pow 2 63 else 0) + biased * Nat.pow 2 52 +
      fraction)).toBitVec = packedFields negative biased fraction := by
    apply BitVec.eq_of_toNat_eq
    rw [toNat_packedFields (by omega) fractionBound, UInt64.toNat_toBitVec, UInt64.toNat_ofNat',
      Nat.pow_eq, Nat.pow_eq]
    refine Nat.mod_eq_of_lt ?_
    cases negative <;> simp only [Bool.false_eq_true, if_false, if_true] <;> omega
  rw [ofFields, toBits_ofBits, bits, unpack_packedFields finite fractionBound,
    pack_unpackedFields finite fractionBound]

/-- A float made of fields is the number they stand for. -/
theorem unpack_ofFields
    (finite : biased < 2047)
    (fractionBound : fraction < 2 ^ 52) :
    (ofFields negative biased fraction).toModel.unpack =
      unpackedFields negative biased fraction := by
  unfold Float.Model.unpack
  rw [ofFields_eq finite fractionBound]
  exact unpack_packedFields finite fractionBound

/-- A float made of fields is taken apart into them. -/
theorem decode_ofFields
    (finite : biased < 2047)
    (fractionBound : fraction < 2 ^ 52) :
    decode (ofFields negative biased fraction) =
      .finite negative (fieldMagnitude biased fraction) := by
  have bits : (ofFields negative biased fraction).toBits.toNat =
      (if negative then 2 ^ 63 else 0) + biased * 2 ^ 52 + fraction := by
    change (ofFields negative biased fraction).toModel.toBits.toNat = _
    rw [ofFields_eq finite fractionBound]
    exact toNat_packedFields (by omega) fractionBound
  have sign : ((if negative then 2 ^ 63 else 0) + biased * 2 ^ 52 + fraction) / 2 ^ 63 % 2 =
      if negative then 1 else 0 := by
    cases negative <;> simp only [Bool.false_eq_true, if_false, if_true] <;> omega
  have exponent : ((if negative then 2 ^ 63 else 0) + biased * 2 ^ 52 + fraction) / 2 ^ 52 %
      2 ^ 11 = biased := by
    cases negative <;> simp only [Bool.false_eq_true, if_false, if_true] <;> omega
  have mantissa : ((if negative then 2 ^ 63 else 0) + biased * 2 ^ 52 + fraction) % 2 ^ 52 =
      fraction := by
    cases negative <;> simp only [Bool.false_eq_true, if_false, if_true] <;> omega
  unfold decode
  simp only [bits, Nat.pow_eq, sign, exponent, mantissa]
  have negated : ((if negative = true then 1 else 0) == 1) = negative := by
    cases negative <;> rfl
  have notLargest : (biased == 2047) = false := by simpa using Nat.ne_of_lt finite
  rw [negated, notLargest, if_neg Bool.false_ne_true]
  unfold fieldMagnitude
  by_cases subnormal : biased = 0
  · simp [subnormal]
  · simp [subnormal]

end Number
end PatternMachine
