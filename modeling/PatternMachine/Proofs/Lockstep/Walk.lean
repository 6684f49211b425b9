import PatternMachine.Proofs.Lockstep.Call

/-!
# Evaluation keeps step

Evaluation is gone through kind by kind. The circle of evaluation and matching
is closed by induction on its depth: both keep step at every depth.
-/

namespace PatternMachine
namespace Evaluator

open PatternMachine.Action (InStep)

variable {base : Nat} {self : Evaluator}

theorem walkAll_inStep
    (inStep : self.IsInStep base)
    {sites : List Site} :
    InStep base (self.walkAll sites) := by
  induction sites with
  | nil => exact .pure
  | cons site rest inductionHypothesis =>
      refine InStep.find.bind fun term => ?_
      exact (inStep.walk term).bind fun _ => inductionHypothesis.bind fun _ => .pure

theorem walkBound_inStep
    (inStep : self.IsInStep base)
    {what : String}
    {term : Term} :
    InStep base (self.walkBound what term) := by
  refine (inStep.walk term).bind fun value => ?_
  split
  · exact .pure
  · exact .raise

theorem newIntegers_inStep {values : List Int64} : InStep base (newIntegers values) := by
  induction values with
  | nil => exact .pure
  | cons value rest inductionHypothesis =>
      exact InStep.newInteger.bind fun _ => inductionHypothesis.bind fun _ => .pure

theorem walkRange_inStep
    (inStep : self.IsInStep base)
    {start stop stride : Term} :
    InStep base (self.walkRange start stop stride) := by
  refine (walkBound_inStep inStep).bind fun first => ?_
  refine (walkBound_inStep inStep).bind fun last => ?_
  have listed : ∀ step : Int64, InStep base
      (if step == 0 then Action.raise .valueError "range stride cannot be zero"
      else newIntegers (rangeMembers first last step) >>= fun members =>
        Action.newList members) :=
    fun _ => .ite .raise (newIntegers_inStep.bind fun _ => .newList)
  exact .ite (listed 1) ((walkBound_inStep inStep).bind fun step => listed step)

theorem walkHeadTail_inStep
    (inStep : self.IsInStep base)
    {head tail : Term} :
    InStep base (self.walkHeadTail head tail) := by
  refine (inStep.walk head).bind fun first => ?_
  refine (inStep.walk tail).bind fun rest => ?_
  split
  · exact .store_bind (fun _ _ => rfl) fun _ => .newList
  · exact .raise

theorem walkConditional_inStep
    (inStep : self.IsInStep base)
    {condition consequent alternative : Term} :
    InStep base (self.walkConditional condition consequent alternative) := by
  refine (inStep.walk condition).bind fun verdict => ?_
  refine .store_bind (fun _ _ => by simp) fun store => ?_
  exact .ite (inStep.walk consequent) (.ite .pure (inStep.walk alternative))

theorem walkIsMatch_inStep
    (inStep : self.IsInStep base)
    {subject pattern : Term} :
    InStep base (self.walkIsMatch subject pattern) := by
  refine (inStep.walk subject).bind fun value => ?_
  refine (inStep.unify .binding value pattern).orNoMatch.bind fun found => ?_
  cases found with
  | none => exact .pure
  | some bindings => exact (declareAll_inStep inStep).bind fun _ => .pure

theorem walkMembership_inStep
    (inStep : self.IsInStep base)
    {element container : Term} :
    InStep base (self.walkMembership element container) := by
  refine (inStep.walk element).bind fun value => ?_
  refine (inStep.walk container).bind fun sequence => ?_
  refine .store_bind (fun _ _ => by simp) fun store => ?_
  split
  · exact (InStep.finitely fun _ _ => by simp).bind fun _ => .pure
  · exact .raise

/-- Quotes are transparent in both runs while a term is evaluated. -/
theorem walkEvaluation_inStep
    (inStep : self.IsInStep base)
    {expression : Term} :
    InStep base (self.walkEvaluation expression) := by
  refine .get_bind (fun _ _ => rfl) fun machine => ?_
  intro before other alongside
  refine InStep.ensuring (?_ : InStep base _) ?_ ?_
  · refine (inStep.walk expression).bind fun value => ?_
    split
    · exact inStep.walk _
    · exact .pure
  · exact alongside.change (fun machine => { machine with ignoreQuote := true })
      (fun _ _ => rfl) (fun _ => rfl) fun _ => rfl
  · intro along
    exact along.change (fun inner => { inner with ignoreQuote := machine.ignoreQuote })
      (fun _ _ => rfl) (fun _ => rfl) fun _ => rfl

theorem walkIdentifier_inStep {name : String} : InStep base (walkIdentifier name) := by
  refine InStep.lookup?.bind fun found => ?_
  split
  · exact .pure
  · exact .get_bind (fun _ _ => by simp) fun _ => .raise

/-- One step of evaluation keeps step. -/
theorem walkStep_inStep
    (inStep : self.IsInStep base)
    {term : Term} :
    InStep base (self.walkStep term) := by
  cases term with
  | absent => exact .raise
  | integer => exact .pure
  | real => exact .pure
  | boolean => exact .pure
  | text => exact .pure
  | none => exact .pure
  | nil => exact .pure
  | object => exact .pure
  | foreign => exact .pure
  | method => exact .pure
  | closure => exact .pure
  | struct => exact .pure
  | lineMark => exact setPosition_inStep.bind fun _ => .pure
  | list cell =>
      exact .store_bind (fun _ _ => rfl) fun _ => (walkAll_inStep inStep).bind fun _ => .newList
  | tuple cell =>
      exact .store_bind (fun _ _ => rfl) fun _ => (walkAll_inStep inStep).bind fun _ => .newTuple
  | pair first second =>
      exact (inStep.walk first).bind fun _ => (inStep.walk second).bind fun _ => .newPair
  | sequence mark first second =>
      exact (inStep.walk first).bind fun _ => (inStep.walk second).bind fun _ => .newSequence
  | range => exact walkRange_inStep inStep
  | headTail => exact walkHeadTail_inStep inStep
  | function => exact InStep.capture.bind fun _ => .newClosure
  | apply => exact walkApply_inStep inStep
  | index => exact walkIndex_inStep inStep
  | conditional => exact walkConditional_inStep inStep
  | isMatch => exact walkIsMatch_inStep inStep
  | membership => exact walkMembership_inStep inStep
  | evaluation => exact walkEvaluation_inStep inStep
  | escape => exact walkEscape_inStep inStep
  | quote expression => exact .get_bind (fun _ _ => rfl) fun _ => .ite (inStep.walk _) .pure
  | deref => exact inStep.walk _
  | identifier => exact walkIdentifier_inStep
  | named => exact .display_raise
  | typeMatch => exact .display_raise
  | constraint => exact .display_raise
  | dataMember => exact .raise
  | initMember => exact .raise

/-- Evaluation and matching keep step at every depth. -/
theorem within_inStep (depth : Nat) : (within depth).IsInStep base := by
  induction depth with
  | zero =>
      exact
        { lawful := within_lawful 0
          walk := fun _ => .throw
          unify := fun _ _ _ => .throw }
  | succ depth inductionHypothesis =>
      exact
        { lawful := within_lawful (depth + 1)
          walk := fun _ => walkStep_inStep inductionHypothesis
          unify := fun _ _ _ => unifyStep_inStep inductionHypothesis }

end Evaluator
end PatternMachine
