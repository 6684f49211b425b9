import PatternMachine.Interpreter
import PatternMachine.Proofs.Lawful.Call

/-!
# Evaluation is lawful

Evaluation is gone through kind by kind. The circle of evaluation and matching
is closed by induction on its depth: both are lawful at every depth.
-/

namespace PatternMachine
namespace Evaluator

open PatternMachine.Action (Lawful)

variable {property : StackProperty} {self : Evaluator}

theorem walkAll_lawful
    (lawful : self.IsLawful property)
    {sites : List Site}
    (respects : ∀ site ∈ sites, site.Respects property) :
    Lawful property (self.walkAll sites) fun values =>
      ∀ value ∈ values, value.Respects property := by
  induction sites with
  | nil => exact .pure (by simp)
  | cons site rest inductionHypothesis =>
      obtain ⟨siteRespects, restRespect⟩ := List.forall_mem_cons.mp respects
      refine (Lawful.find siteRespects).bind fun term termRespects => ?_
      refine (lawful.walk term termRespects).bind fun value valueRespects => ?_
      refine (inductionHypothesis restRespect).bind fun values valuesRespect => ?_
      exact .pure (List.forall_mem_cons.mpr ⟨valueRespects, valuesRespect⟩)

theorem walkBound_lawful
    (lawful : self.IsLawful property)
    {what : String}
    {term : Term}
    (respects : term.Respects property) :
    Lawful property (self.walkBound what term) fun _ => True := by
  refine (lawful.walk term respects).bind fun value _ => ?_
  split
  · exact .pure trivial
  · exact .raise

theorem newIntegers_lawful {values : List Int64} :
    Lawful property (newIntegers values) fun terms =>
      ∀ term ∈ terms, term.Respects property := by
  induction values with
  | nil => exact .pure (by simp)
  | cons value rest inductionHypothesis =>
      refine Lawful.newInteger.bind fun term termRespects => ?_
      refine inductionHypothesis.bind fun terms termsRespect => ?_
      exact .pure (List.forall_mem_cons.mpr ⟨termRespects, termsRespect⟩)

theorem walkRange_lawful
    (lawful : self.IsLawful property)
    {start stop stride : Term}
    (startRespects : start.Respects property)
    (stopRespects : stop.Respects property)
    (strideRespects : stride.Respects property) :
    Lawful property (self.walkRange start stop stride) (Term.Respects property) := by
  refine (walkBound_lawful lawful startRespects).bind fun first _ => ?_
  refine (walkBound_lawful lawful stopRespects).bind fun last _ => ?_
  have listed : ∀ step : Int64, Lawful property
      (if step == 0 then Action.raise .valueError "range stride cannot be zero"
      else newIntegers (rangeMembers first last step) >>= fun members =>
        Action.newList members)
      (Term.Respects property) := by
    intro step
    refine .ite (fun _ => .raise) fun _ => ?_
    exact newIntegers_lawful.bind fun _ membersRespect => .newList membersRespect
  refine .ite (fun _ => listed 1) fun _ => ?_
  exact (walkBound_lawful lawful strideRespects).bind fun step _ => listed step

theorem walkHeadTail_lawful
    (lawful : self.IsLawful property)
    {head tail : Term}
    (headRespects : head.Respects property)
    (tailRespects : tail.Respects property) :
    Lawful property (self.walkHeadTail head tail) (Term.Respects property) := by
  refine (lawful.walk head headRespects).bind fun first firstRespects => ?_
  refine (lawful.walk tail tailRespects).bind fun rest _ => ?_
  split
  · refine Lawful.store.bind fun store storeRespects => .newList ?_
    exact List.forall_mem_cons.mpr ⟨firstRespects, storeRespects.elements _⟩
  · exact .raise

theorem walkConditional_lawful
    (lawful : self.IsLawful property)
    {condition consequent alternative : Term}
    (conditionRespects : condition.Respects property)
    (consequentRespects : consequent.Respects property)
    (alternativeRespects : alternative.Respects property) :
    Lawful property (self.walkConditional condition consequent alternative)
      (Term.Respects property) := by
  refine (lawful.walk condition conditionRespects).bind fun verdict _ => ?_
  refine Lawful.store.bind fun store _ => ?_
  refine .ite (fun _ => lawful.walk consequent consequentRespects) fun _ => ?_
  exact .ite (fun _ => .pure trivial) fun _ => lawful.walk alternative alternativeRespects

theorem walkIsMatch_lawful
    (lawful : self.IsLawful property)
    {subject pattern : Term}
    (subjectRespects : subject.Respects property)
    (patternRespects : pattern.Respects property) :
    Lawful property (self.walkIsMatch subject pattern) (Term.Respects property) := by
  refine (lawful.walk subject subjectRespects).bind fun value valueRespects => ?_
  have matched := (lawful.unify .binding value pattern valueRespects patternRespects).orNoMatch
  refine matched.bind fun found foundRespects => ?_
  cases found with
  | none => exact .pure trivial
  | some bindings =>
      exact (declareAll_lawful lawful (foundRespects bindings rfl)).bind fun _ _ =>
        .pure trivial

theorem walkMembership_lawful
    (lawful : self.IsLawful property)
    {element container : Term}
    (elementRespects : element.Respects property)
    (containerRespects : container.Respects property) :
    Lawful property (self.walkMembership element container) (Term.Respects property) := by
  refine (lawful.walk element elementRespects).bind fun value _ => ?_
  refine (lawful.walk container containerRespects).bind fun sequence _ => ?_
  refine Lawful.store.bind fun store _ => ?_
  split
  · exact Lawful.look.bind fun _ _ => .pure trivial
  · exact .raise

/-- Quotes are transparent while a term is evaluated, and as before afterwards. -/
theorem walkEvaluation_lawful
    (lawful : self.IsLawful property)
    {expression : Term}
    (respects : expression.Respects property) :
    Lawful property (self.walkEvaluation expression) (Term.Respects property) := by
  intro machine machineRespects
  refine Lawful.ensuring ?_
    ⟨machineRespects.store, machineRespects.dispatch, machineRespects.stack⟩ rfl
    fun _ inside => .inEvaluation inside
  refine (lawful.walk expression respects).bind fun value valueRespects => ?_
  split
  · exact lawful.walk _ valueRespects
  · exact .pure valueRespects

theorem walkIdentifier_lawful {name : String} :
    Lawful property (walkIdentifier name) (Term.Respects property) := by
  refine Lawful.lookup?.bind fun found foundRespects => ?_
  split
  · exact .pure (foundRespects _ rfl)
  · exact Lawful.get.bind fun _ _ => .raise

/-- One step of evaluation is lawful. -/
theorem walkStep_lawful
    (lawful : self.IsLawful property)
    {term : Term}
    (respects : term.Respects property) :
    Lawful property (self.walkStep term) (Term.Respects property) := by
  cases term with
  | absent => exact .raise
  | integer => exact .pure respects
  | real => exact .pure respects
  | boolean => exact .pure respects
  | text => exact .pure respects
  | none => exact .pure respects
  | nil => exact .pure respects
  | object => exact .pure respects
  | foreign => exact .pure respects
  | method => exact .pure respects
  | closure => exact .pure respects
  | struct => exact .pure respects
  | lineMark => exact Lawful.setPosition.bind fun _ _ => .pure trivial
  | list cell =>
      refine Lawful.store.bind fun store storeRespects => ?_
      exact (walkAll_lawful lawful (store.sites_respect respects)).bind fun _ => .newList
  | tuple cell =>
      refine Lawful.store.bind fun store storeRespects => ?_
      exact (walkAll_lawful lawful (store.sites_respect respects)).bind fun _ => .newTuple
  | pair first second =>
      refine (lawful.walk first respects.1).bind fun _ firstRespects => ?_
      exact (lawful.walk second respects.2).bind fun _ => .newPair firstRespects
  | sequence mark first second =>
      refine (lawful.walk first respects.1).bind fun _ firstRespects => ?_
      exact (lawful.walk second respects.2).bind fun _ => .newSequence firstRespects
  | range => exact walkRange_lawful lawful respects.1 respects.2.1 respects.2.2
  | headTail => exact walkHeadTail_lawful lawful respects.1 respects.2
  | function => exact Lawful.capture.bind fun _ => .newClosure
  | apply => exact walkApply_lawful lawful respects.1 respects.2
  | index => exact walkIndex_lawful lawful respects.1 respects.2
  | conditional => exact walkConditional_lawful lawful respects.1 respects.2.1 respects.2.2
  | isMatch => exact walkIsMatch_lawful lawful respects.1 respects.2
  | membership => exact walkMembership_lawful lawful respects.1 respects.2
  | evaluation => exact walkEvaluation_lawful lawful respects
  | escape => exact walkEscape_lawful lawful
  | quote expression =>
      refine Lawful.get.bind fun machine _ => ?_
      exact .ite (fun _ => lawful.walk expression respects) fun _ => .pure respects
  | deref => exact lawful.walk _ respects
  | identifier => exact walkIdentifier_lawful
  | named => exact Lawful.display.bind_raise
  | typeMatch => exact Lawful.display.bind_raise
  | constraint => exact Lawful.display.bind_raise
  | dataMember => exact .raise
  | initMember => exact .raise

/-- Evaluation and matching are lawful at every depth. -/
theorem within_lawful (depth : Nat) : (within depth).IsLawful property := by
  induction depth with
  | zero =>
      exact
        { walk := fun _ _ => .exhausted
          unify := fun _ _ _ _ _ => .exhausted }
  | succ depth inductionHypothesis =>
      exact
        { walk := fun _ respects => walkStep_lawful inductionHypothesis respects
          unify := fun _ _ _ termRespects patternRespects =>
            unifyStep_lawful inductionHypothesis termRespects patternRespects }

/-- The evaluator the interpreter runs with is lawful. -/
theorem standard_lawful : standard.IsLawful property := by
  unfold standard
  exact within_lawful depthLimit

end Evaluator
end PatternMachine
