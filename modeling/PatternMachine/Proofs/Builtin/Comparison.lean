import Mathlib.Data.String.Basic
import Mathlib.Data.Int.Order.Basic
import PatternMachine.Proofs.Action
import PatternMachine.Proofs.Sorting

/-!
# The comparison operators

Integers and booleans are ranked by their values and texts by their characters, and the
comparison operators compare these ranks. So does the comparison that sorting uses, where
it has an answer.
-/

namespace PatternMachine

/-- Whether an operator holds between two values. -/
def Operator.holds (operator : Operator) (machine : Machine) (left right : Term) : Bool :=
  match Evaluator.applyOperator operator (.pair left right) machine with
  | .ok (.boolean verdict) _ => verdict
  | _ => false

namespace Term

/-- A term is an integer or a boolean. -/
def IsIntegral (term : Term) : Prop :=
  term.kind = .integer ∨ term.kind = .boolean

/-- A term is a number: an integer, a boolean or a real. -/
def IsNumber (term : Term) : Prop :=
  term.number?.isSome

/-- The value of an integer or a boolean; zero for every other term. -/
def integralValue (term : Term) : Int :=
  match term.number? with
  | some (.exact value) => value.toInt
  | _ => 0

/-- The characters of a text; none for every other term. -/
def textValue : Term -> String
  | text value => value
  | _ => ""

theorem IsIntegral.number?_eq {term : Term} (integral : term.IsIntegral) :
    ∃ value, term.number? = some (.exact value) ∧ term.integralValue = value.toInt := by
  unfold integralValue
  cases term <;> simp [IsIntegral, kind] at integral ⊢ <;> first
    | exact ⟨_, rfl, rfl⟩
    | grind

end Term

namespace Evaluator

variable {left right : Term} {ordering : Ordering}

/-- Two values are ordered for the operators as for sorting, where sorting has an answer. -/
theorem order_of_compareValues
    (compared : Builtin.compareValues left right = .ok ordering)
    (machine : Machine) :
    order left right machine = .ok ordering machine := by
  by_cases text : left.kind = .text
  · obtain ⟨value, rfl⟩ := Builtin.exists_eq_text text
    cases right with
    | text other =>
        cases compared
        rfl
    | _ => cases compared
  · have numbers : order left right =
        numericOperands "comparison" left right >>= fun numbers =>
          pure (numbers.1.order numbers.2) := by
      cases left <;> first | rfl | exact absurd rfl text
    rw [Builtin.compareValues_of_not_text text] at compared
    rw [numbers, numericOperands]
    cases leftNumber : left.number? with
    | none =>
        rw [leftNumber] at compared
        cases compared
    | some first =>
        cases rightNumber : right.number? with
        | none =>
            rw [leftNumber, rightNumber] at compared
            cases compared
        | some second =>
            rw [leftNumber, rightNumber] at compared
            cases compared
            rfl

/-- A comparison operator holds if it accepts the order of the two values. -/
theorem holds_of_compareValues
    {operator : Operator}
    {accept : Ordering -> Bool}
    (compared : Builtin.compareValues left right = .ok ordering)
    (machine : Machine)
    (compares : applyOperator operator (.pair left right) machine =
      compareWith accept left right machine) :
    operator.holds machine left right = accept ordering := by
  unfold Operator.holds
  rw [compares, compareWith, Action.bind_apply, order_of_compareValues compared]
  rfl

theorem atMost_holds
    (compared : Builtin.compareValues left right = .ok ordering)
    (machine : Machine) :
    Operator.atMost.holds machine left right = ordering.isLE :=
  holds_of_compareValues compared machine rfl

theorem atLeast_holds
    (compared : Builtin.compareValues left right = .ok ordering)
    (machine : Machine) :
    Operator.atLeast.holds machine left right = ordering.isGE :=
  holds_of_compareValues compared machine rfl

end Evaluator

namespace Builtin

/-- Asking twice which of two values is below the other compares them. -/
theorem compare_eq_ite
    {κ : Type}
    [LinearOrder κ]
    (left right : κ)
    [Decidable (left < right)]
    [Decidable (right < left)] :
    (if left < right then Ordering.lt else if right < left then .gt else .eq) =
      compare left right := by
  rcases lt_trichotomy left right with below | same | above
  · rw [if_pos below, compare_lt_iff_lt.mpr below]
  · rw [if_neg (not_lt_of_ge same.ge), if_neg (not_lt_of_ge same.le), compare_eq_iff_eq.mpr same]
  · rw [if_neg (lt_asymm above), if_pos above, compare_gt_iff_gt.mpr above]

theorem compareValues_integral
    {left right : Term}
    (leftIntegral : left.IsIntegral)
    (rightIntegral : right.IsIntegral) :
    compareValues left right = .ok (compare left.integralValue right.integralValue) := by
  obtain ⟨leftValue, leftNumber, leftRank⟩ := leftIntegral.number?_eq
  obtain ⟨rightValue, rightNumber, rightRank⟩ := rightIntegral.number?_eq
  have other : left.kind ≠ .text := by
    rcases leftIntegral with kind | kind <;> rw [kind] <;> decide
  rw [compareValues_of_not_text other, leftNumber, rightNumber, leftRank, rightRank,
    ← compare_eq_ite]
  change Except.ok (Number.order (.exact leftValue) (.exact rightValue)) = _
  unfold Number.order
  simp only [Int64.lt_iff_toInt_lt]

theorem compareValues_text
    {left right : Term}
    (leftText : left.kind = .text)
    (rightText : right.kind = .text) :
    compareValues left right = .ok (compare left.textValue right.textValue) := by
  obtain ⟨leftValue, rfl⟩ := exists_eq_text leftText
  obtain ⟨rightValue, rfl⟩ := exists_eq_text rightText
  rw [← compare_eq_ite]
  rfl

end Builtin

namespace Term.IsIntegral

variable {left right : Term}

/-- Integers and booleans are compared by their values. -/
theorem atMost_iff
    (leftIntegral : left.IsIntegral)
    (rightIntegral : right.IsIntegral)
    (machine : Machine) :
    Operator.atMost.holds machine left right = true ↔ left.integralValue ≤ right.integralValue := by
  rw [Evaluator.atMost_holds (Builtin.compareValues_integral leftIntegral rightIntegral)]
  exact Ordering.ne_gt_iff_isLE.symm.trans compare_le_iff_le

theorem atLeast_iff
    (leftIntegral : left.IsIntegral)
    (rightIntegral : right.IsIntegral)
    (machine : Machine) :
    Operator.atLeast.holds machine left right = true ↔
      right.integralValue ≤ left.integralValue := by
  rw [Evaluator.atLeast_holds (Builtin.compareValues_integral leftIntegral rightIntegral)]
  exact Ordering.ne_lt_iff_isGE.symm.trans compare_ge_iff_ge

end Term.IsIntegral
end PatternMachine
