import Mathlib.Tactic.ByContra
import Mathlib.Tactic.SplitIfs
import PatternMachine.Proofs.Number.Fields

/-!
# The real nearest to an integer

An integer becomes a real by rounding to 53 binary digits, ties to even. Up to `2 ^ 53`
nothing is lost; beyond, the reals stand ever further apart. Rounding keeps the order, the
comparison of the reals is the comparison of the rounded integers, and cutting, rounding
down and rounding up all find the rounded integer again.
-/

namespace PatternMachine
namespace Number

/-! ## Rounding quotients -/

/-- A rounded quotient is off by half a unit at most. -/
theorem roundedQuotient_near
    {denominator : Nat}
    (positive : 0 < denominator)
    (numerator : Nat) :
    2 * (roundedQuotient numerator denominator * denominator) ≤ 2 * numerator + denominator ∧
      2 * numerator ≤ 2 * (roundedQuotient numerator denominator * denominator) + denominator := by
  have split := Nat.div_add_mod' numerator denominator
  have small := Nat.mod_lt numerator positive
  unfold roundedQuotient
  generalize numerator / denominator = quotient at split
  generalize numerator % denominator = remainder at split small
  have next : (quotient + 1) * denominator = quotient * denominator + denominator :=
    Nat.succ_mul quotient denominator
  dsimp only
  split_ifs <;> omega

theorem roundedQuotient_mono
    {denominator first second : Nat}
    (positive : 0 < denominator)
    (ordered : first ≤ second) :
    roundedQuotient first denominator ≤ roundedQuotient second denominator := by
  rcases Nat.lt_or_eq_of_le ordered with below | rfl
  · by_contra above
    have apart := Nat.mul_le_mul_right denominator (Nat.succ_le_of_lt (Nat.lt_of_not_le above))
    have upper := (roundedQuotient_near positive first).1
    have lower := (roundedQuotient_near positive second).2
    rw [Nat.succ_mul] at apart
    omega
  · exact Nat.le_refl _

/-- A multiple of the denominator is divided without rounding. -/
theorem roundedQuotient_mul (quotient : Nat) {denominator : Nat} (positive : 0 < denominator) :
    roundedQuotient (quotient * denominator) denominator = quotient := by
  unfold roundedQuotient
  rw [Nat.mul_div_cancel _ positive, Nat.mul_mod_left]
  simp [positive]

/-! ## The nearest real -/

/-- How far the reals around a natural number stand apart, if they are whole numbers. -/
def spacing (size : Nat) : Nat :=
  2 ^ (size.log2 - 52)

/-- The real nearest to a natural number. -/
def nearestSize (size : Nat) : Nat :=
  roundedQuotient size (spacing size) * spacing size

/-- The real nearest to an integer, which is an integer itself. -/
def nearest (value : Int) : Int :=
  if value < 0 then -(nearestSize value.natAbs : Int) else nearestSize value.natAbs

theorem spacing_pos (size : Nat) : 0 < spacing size :=
  Nat.two_pow_pos _

/-- A number is a real if the distance of the reals divides it. -/
theorem nearestSize_of_dvd {size : Nat} (exact : spacing size ∣ size) :
    nearestSize size = size := by
  obtain ⟨quotient, same⟩ := exact
  rw [Nat.mul_comm] at same
  have rounded := roundedQuotient_mul quotient (spacing_pos size)
  rw [← same] at rounded
  rw [nearestSize, rounded, ← same]

/-- Up to `2 ^ 53` every number is a real. -/
theorem nearestSize_of_le {size : Nat} (small : size ≤ 2 ^ 53) : nearestSize size = size := by
  rcases Nat.lt_or_eq_of_le small with below | rfl
  · have short : size.log2 ≤ 52 := by
      by_cases zero : size = 0
      · subst zero
        decide
      · exact Nat.lt_succ_iff.mp ((Nat.log2_lt zero).mpr below)
    have unit : spacing size = 1 := by rw [spacing, Nat.sub_eq_zero_of_le short, Nat.pow_zero]
    exact nearestSize_of_dvd (unit ▸ Nat.one_dvd size)
  · exact nearestSize_of_dvd (by decide +kernel)

/-- Rounding stays between the powers of two around a number. -/
theorem nearestSize_bounds {size : Nat} (positive : size ≠ 0) :
    2 ^ size.log2 ≤ nearestSize size ∧ nearestSize size ≤ 2 ^ (size.log2 + 1) := by
  have lower : 2 ^ size.log2 ≤ size := Nat.log2_self_le positive
  have upper : size < 2 ^ (size.log2 + 1) := Nat.lt_log2_self
  by_cases short : size.log2 ≤ 52
  · have same : nearestSize size = size := by
      refine nearestSize_of_le (Nat.le_of_lt (Nat.lt_of_lt_of_le upper ?_))
      exact Nat.pow_le_pow_right (by decide) (Nat.succ_le_succ short)
    rw [same]
    exact ⟨lower, Nat.le_of_lt upper⟩
  · have powers : ∀ extra, 2 ^ (size.log2 + extra) = 2 ^ (52 + extra) * spacing size := by
      intro extra
      rw [spacing, ← Nat.pow_add]
      congr 1
      omega
    have low := roundedQuotient_mono (spacing_pos size)
      (Nat.le_trans (Nat.le_of_eq (powers 0).symm) lower)
    have high := roundedQuotient_mono (spacing_pos size)
      (Nat.le_trans (Nat.le_of_lt upper) (Nat.le_of_eq (powers 1)))
    rw [roundedQuotient_mul _ (spacing_pos size)] at low high
    exact ⟨Nat.le_trans (Nat.le_of_eq (powers 0)) (Nat.mul_le_mul_right _ low),
      Nat.le_trans (Nat.mul_le_mul_right _ high) (Nat.le_of_eq (powers 1).symm)⟩

theorem nearestSize_mono {first second : Nat} (ordered : first ≤ second) :
    nearestSize first ≤ nearestSize second := by
  by_cases zero : first = 0
  · subst zero
    exact Nat.zero_le _
  · have positive : second ≠ 0 := by omega
    have longer : first.log2 ≤ second.log2 :=
      (Nat.le_log2 positive).mpr (Nat.le_trans (Nat.log2_self_le zero) ordered)
    rcases Nat.lt_or_eq_of_le longer with shorter | same
    · calc nearestSize first
        _ ≤ 2 ^ (first.log2 + 1) := (nearestSize_bounds zero).2
        _ ≤ 2 ^ second.log2 := Nat.pow_le_pow_right (by decide) shorter
        _ ≤ nearestSize second := (nearestSize_bounds positive).1
    · have unit : spacing first = spacing second := by rw [spacing, spacing, same]
      unfold nearestSize
      rw [unit]
      exact Nat.mul_le_mul_right _ (roundedQuotient_mono (spacing_pos second) ordered)

/-- Rounding keeps the order. -/
theorem nearest_mono {first second : Int} (ordered : first ≤ second) :
    nearest first ≤ nearest second := by
  unfold nearest
  split_ifs with firstNegative secondNegative
  · have : nearestSize second.natAbs ≤ nearestSize first.natAbs := nearestSize_mono (by omega)
    omega
  · omega
  · omega
  · have : nearestSize first.natAbs ≤ nearestSize second.natAbs := nearestSize_mono (by omega)
    omega

theorem natAbs_nearest (value : Int) : (nearest value).natAbs = nearestSize value.natAbs := by
  unfold nearest
  split_ifs <;> omega

/-! ## Whole reals -/

/-- A float stands for a whole number of 53 binary digits, and is no subnormal number. -/
inductive Whole : Float -> Int -> Prop
  | zero : Whole (ofFields false 0 0) 0
  | nonzero
      {negative : Bool}
      {biased fraction size : Nat}
      (whole : 1023 ≤ biased)
      (finite : biased < 2047)
      (fractionBound : fraction < 2 ^ 52)
      (scaled : (2 ^ 52 + fraction) * 2 ^ (biased - 1023) = size * 2 ^ 52) :
      Whole (ofFields negative biased fraction) (if negative then -(size : Int) else size)

/-- The digits of a magnitude that is scaled by `2 ^ 52` stand before its point. -/
theorem whole_magnitude
    {significand size : Nat}
    {biased : Nat}
    (whole : 1023 ≤ biased)
    (scaled : significand * 2 ^ (biased - 1023) = size * 2 ^ 52) :
    (Magnitude.mk significand ((biased : Int) - 1075)).floor = size ∧
      (Magnitude.mk significand ((biased : Int) - 1075)).ceiling = size := by
  unfold Magnitude.floor Magnitude.ceiling
  by_cases fractional : biased < 1075
  · have below : ((biased : Int) - 1075) < 0 := by omega
    have shift : ((biased : Int) - 1075).natAbs = 1075 - biased := by omega
    have exact : significand = size * 2 ^ (1075 - biased) := by
      have split : 2 ^ 52 = 2 ^ (1075 - biased) * 2 ^ (biased - 1023) := by
        rw [← Nat.pow_add]
        exact congrArg (2 ^ ·) (by omega)
      rw [split, ← Nat.mul_assoc] at scaled
      exact Nat.eq_of_mul_eq_mul_right (Nat.two_pow_pos _) scaled
    have positive : 0 < 2 ^ (1075 - biased) := Nat.two_pow_pos _
    simp only [below, if_true, shift, Nat.pow_eq, exact]
    refine ⟨Nat.mul_div_cancel _ positive, ?_⟩
    rw [Nat.mul_comm, Nat.mul_add_div positive, Nat.div_eq_of_lt (by omega), Nat.add_zero]
  · have above : ¬ ((biased : Int) - 1075) < 0 := by omega
    have shift : ((biased : Int) - 1075).natAbs = biased - 1075 := by omega
    have exact : significand * 2 ^ (biased - 1075) = size := by
      have split : 2 ^ (biased - 1023) = 2 ^ (biased - 1075) * 2 ^ 52 := by
        rw [← Nat.pow_add]
        exact congrArg (2 ^ ·) (by omega)
      rw [split, ← Nat.mul_assoc] at scaled
      exact Nat.eq_of_mul_eq_mul_right (Nat.two_pow_pos _) scaled
    simp only [above, if_false, shift, Nat.pow_eq, exact, and_self]

theorem vanishing_magnitude (exponent : Int) :
    (Magnitude.mk 0 exponent).floor = 0 ∧ (Magnitude.mk 0 exponent).ceiling = 0 := by
  have positive : 0 < 2 ^ exponent.natAbs := Nat.two_pow_pos _
  unfold Magnitude.floor Magnitude.ceiling
  simp only [Nat.pow_eq, Nat.zero_div, Nat.zero_mul, Nat.zero_add, ite_self, true_and]
  split_ifs
  · exact Nat.div_eq_of_lt (by omega)
  · rfl

theorem wholePart_of_decode
    {value : Float}
    {negative : Bool}
    {magnitude : Magnitude}
    (decoded : decode value = .finite negative magnitude)
    (above below : Magnitude -> Nat) :
    wholePart above below value =
      clamped (if negative then -(below magnitude : Int) else above magnitude) := by
  unfold wholePart
  rw [decoded]

/-- A whole number becomes an integer by any rule that changes no whole number. -/
theorem Whole.wholePart
    {value : Float}
    {whole : Int}
    (stands : Whole value whole)
    {above below : Magnitude -> Nat}
    (aboveWhole : above = Magnitude.floor ∨ above = Magnitude.ceiling)
    (belowWhole : below = Magnitude.floor ∨ below = Magnitude.ceiling) :
    wholePart above below value = clamped whole := by
  have either : ∀ {rule : Magnitude -> Nat} {magnitude : Magnitude} {size : Nat},
      rule = Magnitude.floor ∨ rule = Magnitude.ceiling ->
      magnitude.floor = size ∧ magnitude.ceiling = size -> rule magnitude = size := by
    rintro rule magnitude size (rfl | rfl) ⟨floor, ceiling⟩
    · exact floor
    · exact ceiling
  cases stands with
  | zero =>
      have decoded : decode (ofFields false 0 0) = .finite false ⟨0, leastExponent⟩ :=
        decode_ofFields (by decide) (by decide)
      rw [wholePart_of_decode decoded, either aboveWhole (vanishing_magnitude _)]
      rfl
  | @nonzero negative biased fraction size whole finite fractionBound scaled =>
      have magnitude : fieldMagnitude biased fraction =
          ⟨2 ^ 52 + fraction, (biased : Int) - 1075⟩ :=
        if_neg (by omega)
      have decoded : decode (ofFields negative biased fraction) = _ :=
        decode_ofFields finite fractionBound
      rw [magnitude] at decoded
      have same := whole_magnitude whole scaled
      rw [wholePart_of_decode decoded, either aboveWhole same, either belowWhole same]

/-! ## Integers as reals -/

theorem quotientExponent_one {size : Nat} (positive : size ≠ 0) :
    quotientExponent size 1 = (size.log2 : Int) - 52 := by
  have reaches : reachesPower size 1 ((size.log2 : Int) - (Nat.log2 1 : Int)) = true := by
    have whole : ¬ ((size.log2 : Int) - (Nat.log2 1 : Int)) < 0 := by
      rw [show Nat.log2 1 = 0 from rfl]
      omega
    unfold reachesPower
    rw [if_neg whole, decide_eq_true_iff, Nat.pow_eq, Nat.one_mul, show Nat.log2 1 = 0 from rfl]
    exact Nat.log2_self_le positive
  unfold quotientExponent
  dsimp only
  rw [if_pos reaches, show Nat.log2 1 = 0 from rfl, leastExponent]
  omega

/-- The significand of an integer has 53 digits, or is the next power of two. -/
theorem scaledQuotient_one {size : Nat} (positive : size ≠ 0) :
    2 ^ 52 ≤ scaledQuotient size 1 ((size.log2 : Int) - 52) ∧
      scaledQuotient size 1 ((size.log2 : Int) - 52) ≤ 2 ^ 53 ∧
      scaledQuotient size 1 ((size.log2 : Int) - 52) * 2 ^ size.log2 =
        nearestSize size * 2 ^ 52 := by
  have scaled : scaledQuotient size 1 ((size.log2 : Int) - 52) * 2 ^ size.log2 =
      nearestSize size * 2 ^ 52 := by
    unfold scaledQuotient
    by_cases short : size.log2 < 52
    · have below : (size.log2 : Int) - 52 < 0 := by omega
      have shift : ((size.log2 : Int) - 52).natAbs = 52 - size.log2 := by omega
      have small : size < 2 ^ 52 := (Nat.log2_lt positive).mp short
      have rounded := roundedQuotient_mul (size * 2 ^ (52 - size.log2)) Nat.one_pos
      rw [Nat.mul_one] at rounded
      rw [if_pos below, shift, Nat.pow_eq, rounded, nearestSize_of_le (by omega), Nat.mul_assoc,
        ← Nat.pow_add, Nat.sub_add_cancel (Nat.le_of_lt short)]
    · have above : ¬ (size.log2 : Int) - 52 < 0 := by omega
      have shift : ((size.log2 : Int) - 52).natAbs = size.log2 - 52 := by omega
      have long : 52 ≤ size.log2 := by omega
      rw [if_neg above, shift, Nat.pow_eq, Nat.one_mul, nearestSize, spacing, Nat.mul_assoc,
        ← Nat.pow_add, Nat.sub_add_cancel long]
  obtain ⟨lower, upper⟩ := nearestSize_bounds positive
  have unit : 0 < 2 ^ size.log2 := Nat.two_pow_pos _
  refine ⟨Nat.le_of_mul_le_mul_right ?_ unit, Nat.le_of_mul_le_mul_right ?_ unit, scaled⟩
  · rw [scaled, Nat.mul_comm]
    exact Nat.mul_le_mul_right _ lower
  · rw [scaled, Nat.pow_succ 2 52, Nat.mul_assoc, Nat.mul_comm (2 ^ 52), ← Nat.pow_succ']
    exact Nat.mul_le_mul_right _ upper

/-- A positive integer becomes the real nearest to it. -/
theorem ofQuotient?_one
    {size : Nat}
    (positive : size ≠ 0)
    (bounded : size < 2 ^ 64)
    (negative : Bool) :
    ∃ value, ofQuotient? negative size 1 = some value ∧
      Whole value (if negative then -(nearestSize size : Int) else nearestSize size) := by
  obtain ⟨lower, upper, scaled⟩ := scaledQuotient_one positive
  have short : size.log2 < 64 := (Nat.log2_lt positive).mpr bounded
  have nonzero : ¬ (size == 0 || 1 == 0) = true := by simpa using positive
  have start : ((size.log2 : Int) - 52 + 1075).toNat = size.log2 + 1023 := by omega
  unfold ofQuotient?
  rw [if_neg nonzero, quotientExponent_one positive]
  dsimp only
  generalize scaledQuotient size 1 ((size.log2 : Int) - 52) = significand at lower upper scaled
  rw [if_neg (by rw [Nat.pow_eq]; omega), start]
  rcases Nat.lt_or_eq_of_le upper with below | rfl
  · have within : (significand == Nat.pow 2 53) = false := by
      rw [Nat.pow_eq]
      simpa using Nat.ne_of_lt below
    rw [within, if_neg Bool.false_ne_true, if_neg (by omega)]
    refine ⟨_, rfl, .nonzero (by omega) (by omega) (Nat.mod_lt _ (by decide)) ?_⟩
    have same : 2 ^ 52 + significand % 2 ^ 52 = significand := by omega
    rw [Nat.pow_eq, same, Nat.add_zero, Nat.add_sub_cancel]
    exact scaled
  · have next : (2 ^ 53 == Nat.pow 2 53) = true := by rw [Nat.pow_eq, beq_self_eq_true]
    rw [next, if_pos rfl, if_neg (by omega)]
    refine ⟨_, rfl, .nonzero (by omega) (by omega) (Nat.mod_lt _ (by decide)) ?_⟩
    have carried : 2 ^ 52 + 2 ^ 53 % Nat.pow 2 52 = 2 ^ 52 := by decide +kernel
    have shift : size.log2 + 1023 + 1 - 1023 = size.log2 + 1 := by omega
    have double : 2 ^ (size.log2 + 1) = 2 * 2 ^ size.log2 := Nat.pow_succ'
    rw [carried, shift, double]
    omega

/-- The size of an integer of 64 bits, with its sign, becomes the real nearest to it. -/
theorem ofQuotient?_toInt (value : Int64) :
    ∃ real, ofQuotient? (decide (value.toInt < 0)) value.toInt.natAbs 1 = some real ∧
      Whole real (nearest value.toInt) := by
  by_cases zero : value.toInt = 0
  · rw [zero]
    exact ⟨_, rfl, .zero⟩
  · have lower := value.le_toInt
    have upper := value.toInt_lt
    obtain ⟨real, some, whole⟩ := ofQuotient?_one (Int.natAbs_ne_zero.mpr zero) (by omega)
      (decide (value.toInt < 0))
    exact ⟨real, some, by simpa [nearest] using whole⟩

/-- An integer of 64 bits becomes the real nearest to it. -/
theorem ofInteger_whole (value : Int64) : Whole (ofInteger value) (nearest value.toInt) := by
  have negative : decide (value < 0) = decide (value.toInt < 0) := by
    rw [decide_eq_decide, Int64.lt_iff_toInt_lt]
    rfl
  obtain ⟨real, some, whole⟩ := ofQuotient?_toInt value
  unfold ofInteger
  rw [negative]
  dsimp only
  rw [some]
  exact whole

/-! ## Comparing whole reals -/

open Float.Model (UnpackedFloat)

theorem lt_iff_compare (first second : Float) :
    first < second ↔
      first.toModel.unpack.compare second.toModel.unpack = some .lt := by
  have decided : first < second ↔ first.toModel < second.toModel := decide_eq_true_iff
  rw [decided]
  exact beq_iff_eq

/-- Significands of one length are scaled in the order of their exponents. -/
theorem scaled_lt_iff
    {first second firstShift secondShift : Nat}
    (firstLower : 2 ^ 52 ≤ first)
    (firstUpper : first < 2 ^ 53)
    (secondLower : 2 ^ 52 ≤ second)
    (secondUpper : second < 2 ^ 53) :
    first * 2 ^ firstShift < second * 2 ^ secondShift ↔
      firstShift < secondShift ∨ firstShift = secondShift ∧ first < second := by
  have further : ∀ {low high lowShift highShift : Nat}, low < 2 ^ 53 -> 2 ^ 52 ≤ high ->
      lowShift < highShift -> low * 2 ^ lowShift < high * 2 ^ highShift := by
    intro low high lowShift highShift upper lower below
    calc low * 2 ^ lowShift
      _ < 2 ^ 53 * 2 ^ lowShift := Nat.mul_lt_mul_of_pos_right upper (Nat.two_pow_pos _)
      _ = 2 ^ 52 * 2 ^ (lowShift + 1) := by
          rw [← Nat.pow_add, ← Nat.pow_add]
          exact congrArg (2 ^ ·) (by omega)
      _ ≤ high * 2 ^ highShift :=
          Nat.mul_le_mul lower (Nat.pow_le_pow_right (by decide) below)
  rcases Nat.lt_trichotomy firstShift secondShift with below | rfl | above
  · simp [below, further firstUpper secondLower below]
  · have unit : 0 < 2 ^ firstShift := Nat.two_pow_pos _
    simp [Nat.mul_lt_mul_right unit]
  · have reversed := further secondUpper firstLower above
    omega

/-- The exponents are compared first, and then the significands. -/
theorem compare_then_eq_lt {first second : Nat} {exponent other : Int} :
    (compare exponent other).then (compare first second) = .lt ↔
      exponent < other ∨ exponent = other ∧ first < second := by
  rw [Ordering.then_eq_lt, Int.compare_eq_lt, Int.compare_eq_eq, Nat.compare_eq_lt]

theorem compare_then_eq_gt {first second : Nat} {exponent other : Int} :
    (compare exponent other).then (compare first second) = .gt ↔
      other < exponent ∨ exponent = other ∧ second < first := by
  rw [Ordering.then_eq_gt, Int.compare_eq_gt, Int.compare_eq_eq, Nat.compare_eq_gt]

theorem Whole.size_pos
    {biased fraction size : Nat}
    (scaled : (2 ^ 52 + fraction) * 2 ^ (biased - 1023) = size * 2 ^ 52) :
    0 < size := by
  have unit : 0 < 2 ^ (biased - 1023) := Nat.two_pow_pos _
  have product : 0 < (2 ^ 52 + fraction) * 2 ^ (biased - 1023) := Nat.mul_pos (by omega) unit
  omega

/-- Whole numbers are in the order of their fields. -/
theorem Whole.size_lt_iff
    {biased fraction size biased' fraction' size' : Nat}
    (whole : 1023 ≤ biased)
    (whole' : 1023 ≤ biased')
    (fractionBound : fraction < 2 ^ 52)
    (fractionBound' : fraction' < 2 ^ 52)
    (scaled : (2 ^ 52 + fraction) * 2 ^ (biased - 1023) = size * 2 ^ 52)
    (scaled' : (2 ^ 52 + fraction') * 2 ^ (biased' - 1023) = size' * 2 ^ 52) :
    size < size' ↔ biased < biased' ∨ biased = biased' ∧ fraction < fraction' := by
  calc size < size'
    _ ↔ size * 2 ^ 52 < size' * 2 ^ 52 := by omega
    _ ↔ biased - 1023 < biased' - 1023 ∨
          biased - 1023 = biased' - 1023 ∧ 2 ^ 52 + fraction < 2 ^ 52 + fraction' := by
        rw [← scaled, ← scaled', scaled_lt_iff (by omega) (by omega) (by omega) (by omega)]
    _ ↔ biased < biased' ∨ biased = biased' ∧ fraction < fraction' := by omega

theorem unpack_nonzero
    {biased fraction : Nat}
    (normal : 0 < biased)
    (finite : biased < 2047)
    (fractionBound : fraction < 2 ^ 52)
    (negative : Bool) :
    ∃ positive, (ofFields negative biased fraction).toModel.unpack =
      .finite (signOf negative) (2 ^ 52 + fraction) ((biased : Int) - 1075) positive := by
  have magnitude : fieldMagnitude biased fraction = ⟨2 ^ 52 + fraction, (biased : Int) - 1075⟩ :=
    if_neg (by omega)
  have positive : 0 < 2 ^ 52 + fraction := by omega
  refine ⟨positive, ?_⟩
  rw [unpack_ofFields finite fractionBound, unpackedFields]
  simp only [magnitude]
  rw [dif_pos positive]

theorem unpack_zero : (ofFields false 0 0).toModel.unpack = .zero .positive :=
  unpack_ofFields (by decide) (by decide)

/-- Reals that stand for whole numbers are compared as these. -/
theorem Whole.lt_iff
    {first second : Float}
    {left right : Int}
    (firstWhole : Whole first left)
    (secondWhole : Whole second right) :
    first < second ↔ left < right := by
  rw [lt_iff_compare]
  cases firstWhole with
  | zero =>
      rw [unpack_zero]
      cases secondWhole with
      | zero =>
          rw [unpack_zero]
          simp [UnpackedFloat.compare]
      | @nonzero negative biased fraction size whole finite fractionBound scaled =>
          obtain ⟨_, unpacked⟩ := unpack_nonzero (by omega) finite fractionBound negative
          have positive := size_pos scaled
          rw [unpacked]
          cases negative with
          | false => simpa [signOf, UnpackedFloat.compare] using positive
          | true => simp [signOf, UnpackedFloat.compare]
  | @nonzero negative biased fraction size whole finite fractionBound scaled =>
      obtain ⟨_, unpacked⟩ := unpack_nonzero (by omega) finite fractionBound negative
      have positive := size_pos scaled
      rw [unpacked]
      cases secondWhole with
      | zero =>
          rw [unpack_zero]
          cases negative with
          | false => simp [signOf, UnpackedFloat.compare]
          | true => simpa [signOf, UnpackedFloat.compare] using positive
      | @nonzero negative' biased' fraction' size' whole' finite' fractionBound' scaled' =>
          obtain ⟨_, unpacked'⟩ := unpack_nonzero (by omega) finite' fractionBound' negative'
          have below := size_lt_iff whole whole' fractionBound fractionBound' scaled scaled'
          have above := size_lt_iff whole' whole fractionBound' fractionBound scaled' scaled
          rw [unpacked']
          cases negative with
          | false =>
              cases negative' with
              | false =>
                  simp only [signOf, UnpackedFloat.compare, Bool.false_eq_true, if_false,
                    Option.some.injEq, compare_then_eq_lt]
                  omega
              | true => simp [signOf, UnpackedFloat.compare]
          | true =>
              cases negative' with
              | false =>
                  have positive' := size_pos scaled'
                  refine iff_of_true rfl ?_
                  simp only [Bool.false_eq_true, if_false, if_true]
                  omega
              | true =>
                  simp only [signOf, UnpackedFloat.compare, if_true, Option.some.injEq,
                    Ordering.swap_eq_lt, compare_then_eq_gt]
                  omega

end Number
end PatternMachine
