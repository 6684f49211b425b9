import Mathlib.Tactic.Ring
import PatternMachine.Proofs.Action
import PatternMachine.Proofs.Store
import PatternMachine.Interpreter

/-!
# Ranges of integers

A range is made by a loop over machine integers. The loop leaves early, before the step
that would pass the end, and the test for this subtracts the step from the end. That
subtraction may wrap around, near one end of the machine integers and for a large step,
but it only ever errs on the side of one more turn. So no addition that is made wraps
around, and the members are the terms of the arithmetic sequence up to the end.
-/

namespace PatternMachine

/-- A value lies past the end, in the direction of the step. -/
def Passes (last step value : Int) : Prop :=
  (0 < step ∧ last < value) ∨ (step < 0 ∧ value < last)

instance (last step value : Int) : Decidable (Passes last step value) :=
  inferInstanceAs (Decidable (_ ∨ _))

/-- The loop over machine integers that makes a range, from a value on: it stops at a value
past the end, it leaves after a value that lies past the end less one step, and otherwise
it goes on with an addition that does not wrap around. The end less one step may wrap. -/
inductive RangeLoop (last step : Int64) : Int64 -> List Int64 -> Prop
  | past {value : Int64}
      (passed : Passes last.toInt step.toInt value.toInt) :
      RangeLoop last step value []
  | leave {value : Int64}
      (inside : ¬ Passes last.toInt step.toInt value.toInt)
      (leaves : Passes (last - step).toInt step.toInt value.toInt) :
      RangeLoop last step value [value]
  | turn {value : Int64} {rest : List Int64}
      (inside : ¬ Passes last.toInt step.toInt value.toInt)
      (stays : ¬ Passes (last - step).toInt step.toInt value.toInt)
      (advances : (value + step).toInt = value.toInt + step.toInt)
      (continues : RangeLoop last step (value + step) rest) :
      RangeLoop last step value (value :: rest)

/-! ## Machine integers -/

section Wrapping

variable {last step value : Int64}

/-- If a value is inside a range and does not pass the end less one step either, then
adding the step to it does not wrap around. -/
theorem toInt_add_of_stays
    (inside : ¬ Passes last.toInt step.toInt value.toInt)
    (stays : ¬ Passes (last - step).toInt step.toInt value.toInt) :
    (value + step).toInt = value.toInt + step.toInt := by
  have := last.le_toInt
  have := last.toInt_lt
  have := step.le_toInt
  have := step.toInt_lt
  have := value.le_toInt
  have := value.toInt_lt
  unfold Passes at inside stays
  -- If the end less the step wraps around, no value inside the range passes it. The end is
  -- then near the limit from which the step leads away, so the addition is safe all the same.
  rw [Int64.toInt_sub, Int.bmod_def] at stays
  rw [Int64.toInt_add, Int.bmod_eq_of_le] <;> omega

/-- If a value passes the end less one step, then the value after it passes the end. -/
theorem passes_of_leaves
    (leaves : Passes (last - step).toInt step.toInt value.toInt) :
    Passes last.toInt step.toInt (value.toInt + step.toInt) := by
  have := last.le_toInt
  have := last.toInt_lt
  have := step.le_toInt
  have := step.toInt_lt
  have := value.le_toInt
  have := value.toInt_lt
  unfold Passes at leaves ⊢
  rw [Int64.toInt_sub, Int.bmod_def] at leaves
  omega

end Wrapping

/-! ## The loop is the arithmetic sequence -/

/-- What comes after a value past the end is past the end too. -/
theorem Passes.later
    {last step value : Int}
    (passed : Passes last step value)
    (count : Nat) :
    Passes last step (value + count * step) := by
  rcases passed with ⟨ascends, passed⟩ | ⟨descends, passed⟩
  · have forward := Int.mul_nonneg (Int.natCast_nonneg count) ascends.le
    exact .inl ⟨ascends, by omega⟩
  · have backward := Int.mul_nonpos_of_nonneg_of_nonpos (Int.natCast_nonneg count) descends.le
    exact .inr ⟨descends, by omega⟩

theorem add_succ_mul (value step : Int) (count : Nat) :
    value + (count + 1 : Nat) * step = value + step + count * step := by
  push_cast
  ring

namespace RangeLoop

variable {last step value : Int64} {members : List Int64}

/-- The members follow each other at the distance of the step. -/
theorem toInt_members (loop : RangeLoop last step value members) :
    members.map Int64.toInt =
      (List.range members.length).map fun (count : Nat) => value.toInt + count * step.toInt := by
  induction loop with
  | past => rfl
  | leave => simp
  | @turn value rest inside stays advances continues inductionHypothesis =>
      rw [List.map_cons, inductionHypothesis, List.length_cons, List.range_succ_eq_map,
        List.map_cons, List.map_map]
      congr 1
      · simp
      · refine List.map_congr_left fun count _ => ?_
        rw [advances]
        exact (add_succ_mul _ _ count).symm

/-- A term of the sequence is a member just if it does not pass the end. -/
theorem lt_length_iff
    (loop : RangeLoop last step value members)
    (count : Nat) :
    count < members.length ↔ ¬ Passes last.toInt step.toInt (value.toInt + count * step.toInt) := by
  induction loop generalizing count with
  | past passed => simpa using passed.later count
  | leave inside leaves =>
      cases count with
      | zero => simpa using inside
      | succ count =>
          rw [add_succ_mul]
          simpa using (passes_of_leaves leaves).later count
  | turn inside stays advances continues inductionHypothesis =>
      cases count with
      | zero => simpa using inside
      | succ count =>
          rw [add_succ_mul, ← advances, ← inductionHypothesis]
          exact Nat.add_lt_add_iff_right

end RangeLoop

/-! ## Enough turns are counted -/

theorem ascending_loop
    {last step value : Int64}
    {count : Nat}
    (ascends : 0 < step.toInt)
    (enough : last.toInt - value.toInt < count * step.toInt) :
    RangeLoop last step value (ascending last step count value) := by
  induction count generalizing value with
  | zero => exact .past (.inl ⟨ascends, by omega⟩)
  | succ count inductionHypothesis =>
      unfold ascending
      by_cases inside : value <= last
      · rw [if_pos inside]
        rw [Int64.le_iff_toInt_le] at inside
        have within : ¬ Passes last.toInt step.toInt value.toInt := by
          unfold Passes
          omega
        by_cases leaves : last - step < value
        · rw [if_pos leaves]
          rw [Int64.lt_iff_toInt_lt] at leaves
          exact .leave within (.inl ⟨ascends, leaves⟩)
        · rw [if_neg leaves]
          rw [Int64.lt_iff_toInt_lt] at leaves
          have stays : ¬ Passes (last - step).toInt step.toInt value.toInt := by
            unfold Passes
            omega
          have advances := toInt_add_of_stays within stays
          refine .turn within stays advances (inductionHypothesis ?_)
          have split := add_succ_mul 0 step.toInt count
          omega
      · rw [if_neg inside]
        rw [Int64.le_iff_toInt_le] at inside
        exact .past (.inl ⟨ascends, by omega⟩)

theorem descending_loop
    {last step value : Int64}
    {count : Nat}
    (descends : step.toInt < 0)
    (enough : count * step.toInt < last.toInt - value.toInt) :
    RangeLoop last step value (descending last step count value) := by
  induction count generalizing value with
  | zero => exact .past (.inr ⟨descends, by omega⟩)
  | succ count inductionHypothesis =>
      unfold descending
      by_cases inside : last <= value
      · rw [if_pos inside]
        rw [Int64.le_iff_toInt_le] at inside
        have within : ¬ Passes last.toInt step.toInt value.toInt := by
          unfold Passes
          omega
        by_cases leaves : value < last - step
        · rw [if_pos leaves]
          rw [Int64.lt_iff_toInt_lt] at leaves
          exact .leave within (.inr ⟨descends, leaves⟩)
        · rw [if_neg leaves]
          rw [Int64.lt_iff_toInt_lt] at leaves
          have stays : ¬ Passes (last - step).toInt step.toInt value.toInt := by
            unfold Passes
            omega
          have advances := toInt_add_of_stays within stays
          refine .turn within stays advances (inductionHypothesis ?_)
          have split := add_succ_mul 0 step.toInt count
          omega
      · rw [if_neg inside]
        rw [Int64.le_iff_toInt_le] at inside
        exact .past (.inr ⟨descends, by omega⟩)

/-- The members of a range are made by the loop, which comes to its end. -/
theorem rangeMembers_loop
    {first last step : Int64}
    (nonzero : step ≠ 0) :
    RangeLoop last step first (rangeMembers first last step) := by
  have moves : step.toInt ≠ 0 := fun zero => nonzero (Int64.toInt_inj.mp zero)
  -- One turn more is counted than the quotient of the distance by the step, and the rest of
  -- that division is shorter than a step.
  have distance := Int.mul_ediv_add_emod (last.toInt - first.toInt) step.toInt
  have short := Int.emod_lt_abs (last.toInt - first.toInt) moves
  have rest := Int.emod_nonneg (last.toInt - first.toInt) moves
  have counted := Int.self_le_toNat ((last.toInt - first.toInt) / step.toInt)
  have turns := add_succ_mul 0 step.toInt ((last.toInt - first.toInt) / step.toInt).toNat
  rw [mul_comm] at distance
  unfold rangeMembers
  by_cases ascends : 0 < step
  · rw [if_pos ascends]
    have ascends : 0 < step.toInt := Int64.lt_iff_toInt_lt.mp ascends
    have scaled := Int.mul_le_mul_of_nonneg_right counted ascends.le
    rw [abs_of_pos ascends] at short
    exact ascending_loop ascends (by omega)
  · rw [if_neg ascends]
    have descends : step.toInt < 0 := by
      have notAscends := mt Int64.lt_iff_toInt_lt.mpr ascends
      have zero : (0 : Int64).toInt = 0 := rfl
      omega
    have scaled := Int.mul_le_mul_of_nonpos_right counted descends.le
    rw [abs_of_neg descends] at short
    exact descending_loop descends (by omega)

/-! ## The list of a range -/

namespace Evaluator

theorem newIntegers_apply (members : List Int64) (machine : Machine) :
    ∃ tally, newIntegers members machine =
      .ok (members.map .integer) { machine with tally := tally } := by
  induction members generalizing machine with
  | nil => exact ⟨machine.tally, rfl⟩
  | cons member rest inductionHypothesis =>
      obtain ⟨counted, made⟩ := Action.newInteger_counts member machine
      obtain ⟨tally, others⟩ := inductionHypothesis { machine with tally := counted }
      refine ⟨tally, ?_⟩
      unfold newIntegers
      rw [Action.bind_apply, made]
      dsimp only
      rw [Action.bind_apply, others]
      rfl

theorem walkBound_apply
    {self : Evaluator}
    {term : Term}
    {value : Int64}
    {machine after : Machine}
    (walked : self.walk term machine = .ok (.integer value) after)
    (what : String) :
    self.walkBound what term machine = .ok value after := by
  unfold walkBound
  rw [Action.bind_apply, walked]
  rfl

/-- The step of a range: one, unless a stride is given, and then what that evaluates to. -/
def WalksStride
    (self : Evaluator)
    (stride : Term)
    (step : Int64)
    (machine after : Machine) : Prop :=
  if stride.isOmitted then step = 1 ∧ after = machine
  else self.walk stride machine = .ok (.integer step) after

theorem walkRange_apply
    {self : Evaluator}
    {start stop stride : Term}
    {first last step : Int64}
    {machine started stopped strided : Machine}
    (starts : self.walk start machine = .ok (.integer first) started)
    (stops : self.walk stop started = .ok (.integer last) stopped)
    (strides : self.WalksStride stride step stopped strided)
    (nonzero : step ≠ 0) :
    ∃ cell after, self.walkRange start stop stride machine = .ok (.list cell) after ∧
      after.store.elements cell = ((rangeMembers first last step).map .integer).toArray := by
  have listed : ∃ cell after,
      (if step == 0 then Action.raise .valueError "range stride cannot be zero"
        else newIntegers (rangeMembers first last step) >>= fun members =>
          Action.newList members) strided = .ok (.list cell) after ∧
      after.store.elements cell = ((rangeMembers first last step).map .integer).toArray := by
    obtain ⟨tally, made⟩ := newIntegers_apply (rangeMembers first last step) strided
    rw [if_neg (by simpa using nonzero), Action.bind_apply, made]
    exact ⟨_, _, rfl, Store.elements_newCell_self _ _⟩
  unfold walkRange
  rw [Action.bind_apply, walkBound_apply starts]
  dsimp only
  rw [Action.bind_apply, walkBound_apply stops]
  unfold WalksStride at strides
  cases omitted : stride.isOmitted with
  | true =>
      rw [omitted, if_pos rfl] at strides
      obtain ⟨rfl, rfl⟩ := strides
      exact listed
  | false =>
      rw [omitted, if_neg Bool.false_ne_true] at strides
      dsimp only
      rw [if_neg Bool.false_ne_true, Action.bind_apply, walkBound_apply strides]
      exact listed

/-- A range whose step is not zero evaluates to a new list. Its members are made by the
loop over machine integers, in which no addition wraps around. They are the terms of the
arithmetic sequence from the start on, over all the integers, that do not pass the end. -/
theorem walk_range
    {depth : Nat}
    {raw : Bool}
    {mark : Mark}
    {start stop stride : Term}
    {first last step : Int64}
    {machine started stopped strided : Machine}
    (starts : (within depth).walk start machine = .ok (.integer first) started)
    (stops : (within depth).walk stop started = .ok (.integer last) stopped)
    (strides : (within depth).WalksStride stride step stopped strided)
    (nonzero : step ≠ 0) :
    ∃ (members : List Int64) (cell : CellRef) (after : Machine),
      (within (depth + 1)).walk (.range raw mark start stop stride) machine =
        .ok (.list cell) after ∧
      after.store.elements cell = (members.map Term.integer).toArray ∧
      RangeLoop last step first members ∧
      members.map Int64.toInt =
        (List.range members.length).map (fun (count : Nat) =>
          first.toInt + count * step.toInt) ∧
      ∀ count : Nat, count < members.length ↔
        ¬ Passes last.toInt step.toInt (first.toInt + count * step.toInt) := by
  obtain ⟨cell, after, walked, held⟩ := walkRange_apply starts stops strides nonzero
  have loop : RangeLoop last step first (rangeMembers first last step) :=
    rangeMembers_loop nonzero
  exact ⟨_, cell, after, walked, held, loop, loop.toInt_members, loop.lt_length_iff⟩

/-- At the lower end of the machine integers, the end less a large step wraps around to a
positive number. The range has its first member alone. -/
theorem walk_range_of_wrapping_end :
    (Int64.minValue + 1 - Int64.maxValue).toInt = 2 ∧
      ∃ (members : List Int64) (cell : CellRef) (after : Machine),
        (within 2).walk
            (.range false 0 (.integer Int64.minValue) (.integer (Int64.minValue + 1))
              (.integer Int64.maxValue)) default =
          .ok (.list cell) after ∧
        after.store.elements cell = (members.map Term.integer).toArray ∧
        members.map Int64.toInt = [-2 ^ 63] := by
  refine ⟨by decide, ?_⟩
  obtain ⟨members, cell, after, walked, held, _, sequence, inside⟩ :=
    @walk_range 1 false 0 (.integer Int64.minValue) (.integer (Int64.minValue + 1))
      (.integer Int64.maxValue) _ _ _ default _ _ _ rfl rfl rfl (by decide)
  refine ⟨members, cell, after, walked, held, ?_⟩
  have one : 0 < members.length := (inside 0).mpr (by decide)
  have notTwo : ¬ 1 < members.length := mt (inside 1).mp (by decide)
  have single : members.length = 1 := by omega
  rw [sequence, single]
  rfl

end Evaluator
end PatternMachine
