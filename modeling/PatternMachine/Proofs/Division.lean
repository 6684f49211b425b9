import Mathlib.Algebra.Ring.Int.Defs
import PatternMachine.Proofs.Builtin.Comparison

/-!
# Integer division

Integers are machine words, and multiplication and subtraction wrap around. Division
refuses the divisor zero and the one quotient that is no machine word; every other
quotient is the mathematical one, rounded toward zero. Taking the product of quotient and
divisor from the dividend again leaves the remainder. No step of that wraps around,
because product and remainder lie between zero and the dividend.
-/

namespace PatternMachine

/-! ## Quotients and remainders -/

namespace Number

/-- Division of the dividend by the divisor is refused: the divisor is zero, or the
quotient is one more than the largest machine word. -/
def Indivisible (dividend divisor : Int) : Prop :=
  divisor = 0 ∨ dividend = -2 ^ 63 ∧ divisor = -1

/-- A quotient of machine words is the mathematical one, rounded toward zero. -/
theorem toInt_quotient
    {dividend divisor : Int64}
    (divisible : ¬ Indivisible dividend.toInt divisor.toInt) :
    (dividend / divisor).toInt = dividend.toInt.tdiv divisor.toInt := by
  by_cases least : dividend = Int64.minValue
  · apply Int64.toInt_div_of_ne_right
    rintro rfl
    refine divisible (.inr ⟨?_, rfl⟩)
    rw [least, Int64.toInt_minValue]
  · exact Int64.toInt_div_of_ne_left dividend divisor least

/-- Quotient times divisor and the remainder lie between zero and the dividend. -/
theorem natAbs_product_add_remainder (dividend divisor : Int) :
    (dividend.tdiv divisor * divisor).natAbs + (dividend.tmod divisor).natAbs =
      dividend.natAbs := by
  rw [Int.natAbs_mul, Int.natAbs_tdiv, Int.natAbs_tmod, Nat.mul_comm]
  exact Nat.div_add_mod dividend.natAbs divisor.natAbs

/-- The product of quotient and divisor does not wrap around. -/
theorem toInt_product
    {dividend divisor : Int64}
    (divisible : ¬ Indivisible dividend.toInt divisor.toInt) :
    (dividend / divisor * divisor).toInt = (dividend / divisor).toInt * divisor.toInt := by
  have between := natAbs_product_add_remainder dividend.toInt divisor.toInt
  have rebuilt := Int.mul_tdiv_add_tmod dividend.toInt divisor.toInt
  have low := dividend.le_toInt
  have high := dividend.toInt_lt
  rw [Int64.toInt_mul, toInt_quotient divisible]
  rw [Int.mul_comm] at rebuilt
  apply Int.bmod_eq_of_le
  · omega
  · omega

/-- Taking the product of quotient and divisor from the dividend does not wrap around and
leaves the remainder. -/
theorem toInt_remainder
    {dividend divisor : Int64}
    (divisible : ¬ Indivisible dividend.toInt divisor.toInt) :
    (dividend - dividend / divisor * divisor).toInt =
        dividend.toInt - (dividend / divisor * divisor).toInt ∧
      (dividend - dividend / divisor * divisor).toInt = dividend.toInt.tmod divisor.toInt := by
  have between := natAbs_product_add_remainder dividend.toInt divisor.toInt
  have rebuilt := Int.mul_tdiv_add_tmod dividend.toInt divisor.toInt
  have low := dividend.le_toInt
  have high := dividend.toInt_lt
  rw [Int.mul_comm] at rebuilt
  have unwrapped : (dividend - dividend / divisor * divisor).toInt =
      dividend.toInt - (dividend / divisor * divisor).toInt := by
    rw [Int64.toInt_sub, toInt_product divisible, toInt_quotient divisible]
    apply Int.bmod_eq_of_le <;> omega
  refine ⟨unwrapped, ?_⟩
  rw [unwrapped, toInt_product divisible, toInt_quotient divisible]
  omega

/-- A remainder is smaller than the divisor, and it is zero or has the sign of the
dividend. -/
theorem remainder_bounds
    (dividend : Int)
    {divisor : Int}
    (nonzero : divisor ≠ 0) :
    (dividend.tmod divisor).natAbs < divisor.natAbs ∧
      (dividend.tmod divisor = 0 ∨ (dividend.tmod divisor).sign = dividend.sign) := by
  constructor
  · rw [Int.natAbs_tmod]
    exact Nat.mod_lt dividend.natAbs (Int.natAbs_pos.mpr nonzero)
  · rw [Int.sign_tmod]
    by_cases divides : divisor ∣ dividend
    · exact .inl (Int.tmod_eq_zero_of_dvd divides)
    · exact .inr (if_neg divides)

end Number

/-! ## The operators -/

namespace Operator

/-- Given the two operands, as a tuple or as a pair, the operator yields the value on every
machine, of which only the counts of allocations change. -/
def Yields (operator : Operator) (left right value : Term) : Prop :=
  ∀ machine argument, machine.store.tupleElements? argument = some [left, right] ->
    ∃ tally, Evaluator.applyOperator operator argument machine =
      .ok value { machine with tally := tally }

/-- Given the two operands, the operator raises an error of the kind on every machine, which
stays as it is. -/
def Raises (operator : Operator) (left right : Term) (kind : ErrorKind) : Prop :=
  ∀ machine argument, machine.store.tupleElements? argument = some [left, right] ->
    ∃ message, Evaluator.applyOperator operator argument machine =
      Action.raise kind message machine

variable {operator : Operator} {left right value : Term} {kind : ErrorKind}

/-- An operator does not both yield a value and raise an error. -/
theorem Yields.not_raises (yields : operator.Yields left right value) :
    ¬ operator.Raises left right kind := by
  intro raises
  obtain ⟨tally, answered⟩ := yields default (.pair left right) rfl
  obtain ⟨message, refused⟩ := raises default (.pair left right) rfl
  rw [answered] at refused
  cases refused

end Operator

namespace Evaluator

variable {operator : Operator} {left right : Term} {leftValue rightValue : Int64}

/-- A binary operator takes its operands out of a tuple or a pair. -/
theorem applyOperator_operands
    {machine : Machine}
    {argument : Term}
    (operands : machine.store.tupleElements? argument = some [left, right])
    (negates : operator ≠ .negate)
    (complements : operator ≠ .complement) :
    applyOperator operator argument machine = applyBinary operator left right machine := by
  cases operator with
  | negate => exact absurd rfl negates
  | complement => exact absurd rfl complements
  | _ =>
      simp only [applyOperator, Action.bind_apply, Action.store_apply, operands]

/-- A binary operator that makes an integer of its operands yields it. -/
theorem yields_integer
    {value : Int64}
    (negates : operator ≠ .negate)
    (complements : operator ≠ .complement)
    (computes : applyBinary operator left right = Action.newInteger value) :
    operator.Yields left right (.integer value) := by
  intro machine argument operands
  rw [applyOperator_operands operands negates complements, computes]
  exact Action.newInteger_counts value machine

theorem times_yields
    (leftNumber : left.number? = some (.exact leftValue))
    (rightNumber : right.number? = some (.exact rightValue)) :
    Operator.times.Yields left right (.integer (leftValue * rightValue)) := by
  refine yields_integer (by decide) (by decide) ?_
  simp only [applyBinary, arithmetic, numericOperands, leftNumber, rightNumber]
  rfl

theorem minus_yields
    (leftNumber : left.number? = some (.exact leftValue))
    (rightNumber : right.number? = some (.exact rightValue)) :
    Operator.minus.Yields left right (.integer (leftValue - rightValue)) := by
  refine yields_integer (by decide) (by decide) ?_
  simp only [applyBinary, arithmetic, numericOperands, leftNumber, rightNumber]
  rfl

theorem divide_eq
    (leftNumber : left.number? = some (.exact leftValue))
    (rightNumber : right.number? = some (.exact rightValue)) :
    applyBinary .divide left right =
      if rightValue == 0 then Action.raise .arithmeticError "integer division by zero"
      else if leftValue == Int64.minValue && rightValue == -1 then
        Action.raise .arithmeticError "integer division overflow"
      else Action.newInteger (leftValue / rightValue) := by
  simp only [applyBinary, divide, numericOperands, leftNumber, rightNumber]
  rfl

theorem divide_raises
    (leftNumber : left.number? = some (.exact leftValue))
    (rightNumber : right.number? = some (.exact rightValue))
    (indivisible : Number.Indivisible leftValue.toInt rightValue.toInt) :
    Operator.divide.Raises left right .arithmeticError := by
  intro machine argument operands
  rw [applyOperator_operands operands (by decide) (by decide),
    divide_eq leftNumber rightNumber]
  rcases indivisible with zero | ⟨least, negated⟩
  · obtain rfl : rightValue = 0 := Int64.toInt_inj.mp zero
    exact ⟨_, rfl⟩
  · obtain rfl : leftValue = Int64.minValue := Int64.toInt_inj.mp least
    obtain rfl : rightValue = -1 := Int64.toInt_inj.mp negated
    exact ⟨_, rfl⟩

theorem divide_yields
    (leftNumber : left.number? = some (.exact leftValue))
    (rightNumber : right.number? = some (.exact rightValue))
    (divisible : ¬ Number.Indivisible leftValue.toInt rightValue.toInt) :
    Operator.divide.Yields left right (.integer (leftValue / rightValue)) := by
  have nonzero : (rightValue == 0) = false := by
    refine beq_eq_false_iff_ne.mpr ?_
    rintro rfl
    exact divisible (.inl rfl)
  have fits : (leftValue == Int64.minValue && rightValue == -1) = false := by
    refine Bool.eq_false_iff.mpr fun same => divisible (.inr ?_)
    obtain ⟨least, negated⟩ := (Bool.and_eq_true _ _).mp same
    rw [eq_of_beq least, eq_of_beq negated]
    exact ⟨rfl, rfl⟩
  refine yields_integer (by decide) (by decide) ?_
  rw [divide_eq leftNumber rightNumber, nonzero, fits]
  rfl

/-- Division of integers and booleans is refused for the divisor zero and for the least
integer over minus one, and for nothing else. Every other quotient is the mathematical one
rounded toward zero. The product of quotient and divisor, and the dividend less that
product, are what the operators `*` and `-` yield without wrapping around; what is left
is smaller than the divisor, and it is zero or has the sign of the dividend. -/
theorem division_exact
    {left right : Term}
    (leftIntegral : left.IsIntegral)
    (rightIntegral : right.IsIntegral) :
    (Operator.divide.Raises left right .arithmeticError ↔
      right.integralValue = 0 ∨ left.integralValue = -2 ^ 63 ∧ right.integralValue = -1) ∧
    (¬ (right.integralValue = 0 ∨ left.integralValue = -2 ^ 63 ∧ right.integralValue = -1) ->
      ∃ quotient product remainder : Int64,
        Operator.divide.Yields left right (.integer quotient) ∧
        quotient.toInt = left.integralValue.tdiv right.integralValue ∧
        Operator.times.Yields (.integer quotient) right (.integer product) ∧
        product.toInt = quotient.toInt * right.integralValue ∧
        Operator.minus.Yields left (.integer product) (.integer remainder) ∧
        remainder.toInt = left.integralValue - product.toInt ∧
        remainder.toInt.natAbs < right.integralValue.natAbs ∧
        (remainder.toInt = 0 ∨ remainder.toInt.sign = left.integralValue.sign)) := by
  obtain ⟨dividend, leftNumber, leftIs⟩ := leftIntegral.number?_eq
  obtain ⟨divisor, rightNumber, rightIs⟩ := rightIntegral.number?_eq
  rw [leftIs, rightIs]
  refine ⟨⟨fun raises => ?_, divide_raises leftNumber rightNumber⟩, fun divisible => ?_⟩
  · by_contra divisible
    exact (divide_yields leftNumber rightNumber divisible).not_raises raises
  · have unwrapped := Number.toInt_remainder divisible
    have bounds := Number.remainder_bounds dividend.toInt fun zero => divisible (.inl zero)
    rw [← unwrapped.2] at bounds
    exact ⟨dividend / divisor, dividend / divisor * divisor,
      dividend - dividend / divisor * divisor,
      divide_yields leftNumber rightNumber divisible, Number.toInt_quotient divisible,
      times_yields rfl rightNumber, Number.toInt_product divisible,
      minus_yields leftNumber rfl, unwrapped.1, bounds⟩

/-- The least integer over minus three, and over minus one. -/
theorem division_exact_of_least :
    (∃ quotient product remainder : Int64,
      Operator.divide.Yields (.integer Int64.minValue) (.integer (-3)) (.integer quotient) ∧
      Operator.times.Yields (.integer quotient) (.integer (-3)) (.integer product) ∧
      Operator.minus.Yields (.integer Int64.minValue) (.integer product) (.integer remainder) ∧
      quotient.toInt = 3074457345618258602 ∧ product.toInt = -9223372036854775806 ∧
      remainder.toInt = -2) ∧
    Operator.divide.Raises (.integer Int64.minValue) (.integer (-1)) .arithmeticError := by
  have least : (Term.integer Int64.minValue).IsIntegral := .inl rfl
  have minusThree : (Term.integer (-3)).IsIntegral := .inl rfl
  have minusOne : (Term.integer (-1)).IsIntegral := .inl rfl
  constructor
  · obtain ⟨quotient, product, remainder, divides, rounded, multiplies, unwrapped, subtracts,
      left, _⟩ := (division_exact least minusThree).2 (by decide)
    have first : quotient.toInt = 3074457345618258602 := rounded
    have second : product.toInt = -9223372036854775806 := by
      rw [unwrapped, first]
      rfl
    have third : remainder.toInt = -2 := by
      rw [left, second]
      rfl
    exact ⟨quotient, product, remainder, divides, multiplies, subtracts, first, second, third⟩
  · exact (division_exact least minusOne).1.mpr (.inr ⟨rfl, rfl⟩)

end Evaluator
end PatternMachine
