import PatternMachine.Proofs.Congruence.Evaluation
import PatternMachine.Proofs.Calling

/-!
# Evaluators that give up earlier

One evaluator refines another when it gives up, in a way that no program can
handle, or does the same. Whatever is built from the two recursive calls then
gives up or does the same: nothing catches such a stop. So a run that does not
give up is not changed by more depth, nor by supervision.
-/

namespace PatternMachine

/-- A reason to stop that no program can handle. -/
inductive Halt
  | fatal (message : String)
  | exhausted

/-- Stopping for such a reason. -/
def Halt.stop : Halt -> Stop
  | fatal message => .fatal message
  | exhausted => .exhausted

namespace Action

variable {α β : Type} {halt : Halt}

/-- On every machine the action gives up, or does what the other one does. -/
def Refines (halt : Halt) (action other : Action α) : Prop :=
  ∀ machine, (∃ after, action machine = .error halt.stop after) ∨ action machine = other machine

namespace Refines

theorem refl (action : Action α) : Refines halt action action :=
  fun _ => .inr rfl

theorem bind
    {action other : Action α}
    {next otherNext : α -> Action β}
    (first : Refines halt action other)
    (second : ∀ value, Refines halt (next value) (otherNext value)) :
    Refines halt (action >>= next) (other >>= otherNext) := by
  intro machine
  simp only [bind_apply]
  rcases first machine with ⟨after, halted⟩ | same
  · rw [halted]
    exact .inl ⟨after, rfl⟩
  · rw [same]
    cases other machine with
    | ok value after => exact second value after
    | error stop after => exact .inr rfl

/-- What was obtained in the same way is used. -/
theorem after
    {action : Action α}
    {next otherNext : α -> Action β}
    (second : ∀ value, Refines halt (next value) (otherNext value)) :
    Refines halt (action >>= next) (action >>= otherNext) :=
  (refl action).bind second

theorem ite
    {condition : Prop}
    [Decidable condition]
    {first second firstOther secondOther : Action α}
    (whenTrue : Refines halt first firstOther)
    (whenFalse : Refines halt second secondOther) :
    Refines halt (if condition then first else second)
      (if condition then firstOther else secondOther) := by
  by_cases decided : condition
  · simpa only [if_pos decided] using whenTrue
  · simpa only [if_neg decided] using whenFalse

theorem ensuring
    {action other : Action α}
    {cleanup : Machine -> Machine}
    (refines : Refines halt action other) :
    Refines halt (Action.ensuring action cleanup) (Action.ensuring other cleanup) := by
  intro machine
  simp only [ensuring_apply]
  rcases refines machine with ⟨after, halted⟩ | same
  · rw [halted]
    exact .inl ⟨cleanup after, rfl⟩
  · rw [same]
    exact .inr rfl

theorem located
    {action other : Action α}
    (refines : Refines halt action other) :
    Refines halt (Action.located action) (Action.located other) := by
  intro machine
  unfold Action.located
  rcases refines machine with ⟨after, halted⟩ | same
  · rw [halted]
    exact .inl ⟨after, by cases halt <;> rfl⟩
  · rw [same]
    exact .inr rfl

theorem orNoMatch
    {action other : Action α}
    (refines : Refines halt action other) :
    Refines halt (Action.orNoMatch action) (Action.orNoMatch other) := by
  intro machine
  unfold Action.orNoMatch
  rcases refines machine with ⟨after, halted⟩ | same
  · rw [halted]
    exact .inl ⟨after, by cases halt <;> rfl⟩
  · rw [same]
    exact .inr rfl

/-- An exception is recorded on its way out. -/
theorem recordRaised
    {action other : Action Term}
    (refines : Refines halt action other)
    (body : String) :
    Refines halt (Action.recordRaised body action) (Action.recordRaised body other) := by
  intro machine
  unfold Action.recordRaised
  rcases refines machine with ⟨after, halted⟩ | same
  · rw [halted]
    exact .inl ⟨after, by cases halt <;> rfl⟩
  · rw [same]
    exact .inr rfl

end Refines
end Action

namespace Evaluator

variable {halt : Halt} {self other : Evaluator}

theorem runTraced_refines
    {code : Code}
    {argument : Term}
    (refines : Action.Refines halt (self.runCode code argument) (other.runCode code argument))
    (body : String) :
    Action.Refines halt (self.runTraced body code argument)
      (other.runTraced body code argument) := by
  rw [runTraced_eq, runTraced_eq]
  refine .after fun followed => .after fun _ => ?_
  exact (refines.located.recordRaised body).bind fun _ => .refl _

theorem call_refines
    {argument : Term}
    (refines : ∀ code : Code,
      Action.Refines halt (self.runCode code argument) (other.runCode code argument))
    (receiver : Term)
    (body : String)
    (captured : Option Closure) :
    Action.Refines halt (self.call receiver body captured argument)
      (other.call receiver body captured argument) := by
  refine .after fun machine => ?_
  split
  · exact .refl _
  · split
    · exact .refl _
    · refine .after fun _ => .after fun caller => .ensuring (.ite ?_ ?_) <;>
        exact .after fun _ => .ensuring (.after fun _ => runTraced_refines (refines _) _)

end Evaluator

/-- Giving up or doing the same is a congruence. -/
def refinement (halt : Halt) : Congruence where
  Relates := Action.Refines halt
  pure _ := .refl _
  bind first second := first.bind second
  raise _ := .refl _
  exhausted := .refl _
  update _ := .refl _
  follows _ := .refl _
  remark _ := .refl _
  ensuring refines _ := refines.ensuring
  ignoringQuotes refines := .after fun _ => .after fun _ => refines.ensuring
  located refines := refines.located
  orNoMatch refines := refines.orNoMatch
  checkLinear _ _ := .refl _
  call receiver body captured _ refines := Evaluator.call_refines refines receiver body captured

/-- The recursive calls of one evaluator give up, or do what those of the other do. -/
abbrev Evaluator.Refines (halt : Halt) (evaluator other : Evaluator) : Prop :=
  Evaluator.Related (refinement halt) evaluator other

/-- More depth changes nothing about a run that does not use up its depth. -/
theorem Evaluator.within_refines
    {depth deeper : Nat}
    (deep : depth ≤ deeper) :
    Evaluator.Refines .exhausted (within depth) (within deeper) := by
  induction depth generalizing deeper with
  | zero => exact ⟨fun _ machine => .inl ⟨machine, rfl⟩, fun _ _ _ machine => .inl ⟨machine, rfl⟩⟩
  | succ depth inductionHypothesis =>
      obtain ⟨deeper, rfl⟩ := Nat.exists_eq_add_of_le' (Nat.lt_of_lt_of_le (Nat.succ_pos _) deep)
      have refines := inductionHypothesis (Nat.le_of_succ_le_succ deep)
      exact
        { walk := fun _ => refines.walkStep fun _ _ => refines.walkQuote (.refl _) _
          unify := refines.unifyStep }

/-- What is evaluated within a depth is evaluated in the same way within more. -/
theorem Evaluator.walk_eq_ok_of_le
    {depth deeper : Nat}
    {term value : Term}
    {machine after : Machine}
    (deep : depth ≤ deeper)
    (walked : (within depth).walk term machine = .ok value after) :
    (within deeper).walk term machine = .ok value after := by
  rcases (within_refines deep).walk term machine with ⟨stopped, exhausted⟩ | same
  · rw [walked] at exhausted
    cases exhausted
  · exact same.symm.trans walked

/-- The depth the interpreter runs with is beyond that of any run looked at here. -/
theorem Evaluator.le_depthLimit {depth : Nat} (small : depth ≤ 16) : depth ≤ depthLimit :=
  Nat.le_trans small (Nat.pow_le_pow_right (by decide : 0 < 2) (by decide : 4 ≤ 60))

/-- A run that does not use up its depth is the run of the interpreter. -/
theorem Interpreter.run_of_within
    {depth : Nat}
    {statements : List Statement}
    {machine : Machine}
    (deep : depth ≤ Evaluator.depthLimit)
    (ended : ∀ after,
      (Evaluator.within depth).execBlock statements .none machine ≠ .error .exhausted after) :
    Interpreter.run statements machine =
      (Evaluator.within depth).execBlock statements .none machine := by
  rcases (Evaluator.within_refines deep).execBlock statements .none machine with
    ⟨after, exhausted⟩ | same
  · exact absurd exhausted (ended after)
  · exact same.symm

end PatternMachine
