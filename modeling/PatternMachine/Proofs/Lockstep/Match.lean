import PatternMachine.Proofs.Lockstep.Access
import PatternMachine.Proofs.Operation

/-!
# Matching keeps step

The rules of matching are gone through in the order in which they are tried.
-/

namespace PatternMachine
namespace Evaluator

open PatternMachine.Action (InStep)

variable {base : Nat} {self : Evaluator} {mode : Mode} {term pattern : Term}

/-- A mismatch whose wording shows two terms. -/
theorem display_display_raise_inStep
    {α : Type}
    {first second : Term}
    {kind : ErrorKind}
    {message : String -> String -> String} :
    InStep base
      (do Action.raise kind (message (← Action.display first) (← Action.display second)) :
        Action α) :=
  InStep.display.bind fun _ => .display_raise

theorem checkLinear_inStep {bindings : List Binding} :
    InStep base (checkLinear mode bindings) := by
  refine .get_bind (fun _ _ => rfl) fun machine => .ite ?_ .pure
  split
  · exact .raise
  · exact .pure

theorem unifyEach_inStep
    (inStep : self.IsInStep base)
    {pairs : List (Site × Site)} :
    InStep base (self.unifyEach mode pairs) := by
  induction pairs with
  | nil => exact .pure
  | cons pair rest inductionHypothesis =>
      refine InStep.find.bind fun term => InStep.find.bind fun pattern => ?_
      exact (inStep.unify mode term pattern).bind fun _ =>
        inductionHypothesis.bind fun _ => .pure

theorem unifyLinear_inStep
    (inStep : self.IsInStep base)
    {terms patterns : List Site} :
    InStep base (self.unifyLinear mode terms patterns) :=
  (unifyEach_inStep inStep).bind fun _ => checkLinear_inStep

theorem dereference_inStep
    (inStep : self.IsInStep base)
    {expression : Term} :
    InStep base (self.dereference expression) := by
  refine (inStep.walk expression).bind fun value => ?_
  split
  · exact .pure
  · exact .pure

theorem unifyText_inStep {text regex : String} : InStep base (unifyText text regex) := by
  unfold unifyText
  split
  · exact .raise
  · exact .ite .pure .raise

theorem unifyRegex_inStep {regex : String} : InStep base (unifyRegex mode term regex) := by
  unfold unifyRegex
  split
  · exact unifyText_inStep
  · exact InStep.display.bind fun _ => .ite .raise (InStep.count.bind fun _ => unifyText_inStep)

theorem unifyType_inStep {typeName : String} :
    InStep base (unifyType mode term typeName) := by
  unfold unifyType
  dsimp only
  split
  · exact .ite .pure .raise
  · refine .ite ?_ (.ite ?_ (.ite (.ite .pure .raise) ?_))
    · split
      · exact .pure
      · exact .pure
      · exact .raise
    · split
      · exact .pure
      · exact .raise
    · refine InStep.lookup?.bind fun found => ?_
      split
      · exact .ite .pure .raise
      · exact .raise

theorem warnGuard_inStep : InStep base warnGuard := by
  refine .get_bind (fun _ _ => rfl) fun machine => .ite .pure ?_
  have warned : InStep base (modify fun machine => { machine with guardWarned := true }) :=
    .change (fun _ _ => rfl) (fun _ => rfl) fun _ => rfl
  exact warned.bind fun _ => .record

/-- An action in a scope of its own keeps step: it leaves the innermost set of
global names that was there before. -/
theorem inFreshScope_inStep
    {α : Type}
    {action : Action α}
    {answer : α -> Prop}
    (lawful : Action.Lawful .trivial action answer)
    (inStep : InStep base action) :
    InStep base (inFreshScope action) := by
  intro machine other alongside
  refine inStep.ensuring alongside.pushScope fun along => along.popScope ?_
  have frame := (lawful.evolves machine.pushScope.respects_trivial).sameFrame
  rw [frame.globals]
  simpa using alongside.innermost

theorem unifyGuarded_inStep
    (inStep : self.IsInStep base)
    {mark : Mark}
    {condition consequent alternative : Term} :
    InStep base (self.unifyGuarded mode term mark condition consequent alternative) := by
  unfold unifyGuarded
  refine .ite .raise ?_
  split
  · exact warnGuard_inStep.bind fun _ => .raise
  · exact display_display_raise_inStep
  · refine (inStep.unify .binding term consequent).bind fun bindings => ?_
    have lawful : Action.Lawful .trivial
        (self.declareAll bindings >>= fun _ => self.walk condition) fun _ => True :=
      (declareAll_lawful inStep.lawful fun _ _ => ⟨Term.respects_trivial _,
        Term.respects_trivial _⟩).bind fun _ _ =>
        (inStep.lawful.walk condition condition.respects_trivial).mono fun _ _ => trivial
    have judged : InStep base (self.declareAll bindings >>= fun _ => self.walk condition) :=
      (declareAll_inStep inStep).bind fun _ => inStep.walk condition
    refine (inFreshScope_inStep lawful judged).bind fun verdict => ?_
    exact .store_bind (fun _ _ => by simp) fun _ => .ite .pure .display_raise

theorem unifyHeadTail_inStep
    (inStep : self.IsInStep base)
    {head tail : Term} :
    InStep base (self.unifyHeadTail mode term head tail) := by
  unfold unifyHeadTail
  split
  · refine .store_bind (fun _ _ => rfl) fun store => ?_
    split
    · exact .raise
    · exact InStep.newList.bind fun _ => unifyLinear_inStep inStep
  · exact .raise
  · exact unifyLinear_inStep inStep
  · exact .raise

theorem unifyConstructor_inStep
    (inStep : self.IsInStep base)
    {owner : Option Template}
    {memory : CellRef}
    {callee argument : Term} :
    InStep base (self.unifyConstructor mode owner memory callee argument) := by
  unfold unifyConstructor
  split
  · refine .ite .raise ?_
    split
    · exact .raise
    · refine .store_bind (fun _ _ => by simp) fun store => ?_
      dsimp only
      split
      · exact .ite .raise (unifyLinear_inStep inStep)
      · split
        · exact .raise
        · exact inStep.unify mode _ _
  · exact .display_raise

theorem unifyApplications_inStep
    (inStep : self.IsInStep base)
    {termCallee termArgument callee argument : Term} :
    InStep base (self.unifyApplications termCallee termArgument callee argument) := by
  unfold unifyApplications
  dsimp only
  split
  · exact .ite (inStep.unify .covering _ _) display_display_raise_inStep
  · exact display_display_raise_inStep

theorem unifyEqual_inStep : InStep base (unifyEqual term pattern) :=
  InStep.bind (.ite .equal .pure) fun _ => .ite .pure display_display_raise_inStep

theorem unifyCompound_inStep (inStep : self.IsInStep base) :
    InStep base (self.unifyCompound mode term pattern) := by
  refine .store_bind (fun _ _ => by simp) fun store => ?_
  split
  · exact .ite .raise (unifyLinear_inStep inStep)
  · split
    · exact unifyConstructor_inStep inStep
    · exact unifyApplications_inStep inStep
    · exact unifyEqual_inStep

theorem unifyLists_inStep (inStep : self.IsInStep base) :
    InStep base (self.unifyLists mode term pattern) := by
  unfold unifyLists
  dsimp only
  split
  · exact .store_bind (fun _ _ => rfl) fun _ => .ite .raise (unifyLinear_inStep inStep)
  · exact .raise
  · exact .raise
  · exact unifyCompound_inStep inStep

/-- A constraint is counted in both runs while it is matched. -/
theorem unifyConstraint_inStep
    (inStep : self.IsInStep base)
    {inner : Term} :
    InStep base
      (do
        modify fun machine => { machine with constraintDepth := machine.constraintDepth + 1 }
        let _ ← Action.ensuring (self.unify mode term inner) fun machine =>
          { machine with constraintDepth := machine.constraintDepth - 1 }
        return ([] : List Binding)) := by
  have counted : InStep base
      (do
        modify fun machine => { machine with constraintDepth := machine.constraintDepth + 1 }
        Action.ensuring (self.unify mode term inner) fun machine =>
          { machine with constraintDepth := machine.constraintDepth - 1 }) := by
    intro machine other alongside
    refine (inStep.unify mode term inner).ensuring ?_ ?_
    · exact alongside.change
        (fun machine => { machine with constraintDepth := machine.constraintDepth + 1 })
        (fun _ _ => rfl) (fun _ => rfl) fun _ => rfl
    · intro along
      exact along.change
        (fun machine => { machine with constraintDepth := machine.constraintDepth - 1 })
        (fun _ _ => rfl) (fun _ => rfl) fun _ => rfl
  have dropped := counted.bind fun _ => (.pure : InStep base (pure ([] : List Binding)))
  rwa [bind_assoc] at dropped

theorem unifyIndirect_inStep (inStep : self.IsInStep base) :
    InStep base (self.unifyIndirect mode term pattern) := by
  unfold unifyIndirect
  split
  · exact unifyHeadTail_inStep inStep
  · split
    · exact .pure
    · exact (inStep.walk _).bind fun _ => inStep.unify _ _ _
  · exact (dereference_inStep inStep).bind fun _ => inStep.unify _ _ _
  · exact unifyConstraint_inStep inStep
  · exact unifyLists_inStep inStep

theorem unifyQuoted_inStep (inStep : self.IsInStep base) :
    InStep base (self.unifyQuoted mode term pattern) := by
  unfold unifyQuoted
  split
  · exact inStep.unify mode _ _
  · exact inStep.unify mode _ _
  · exact unifyIndirect_inStep inStep
  · exact unifyIndirect_inStep inStep
  · exact inStep.unify mode _ _
  · exact unifyIndirect_inStep inStep

theorem unifyLiteral_inStep (inStep : self.IsInStep base) :
    InStep base (self.unifyLiteral mode term pattern) := by
  unfold unifyLiteral
  split
  · exact .pure
  · exact display_display_raise_inStep
  · split
    · exact .pure
    · exact .pure
    · exact unifyQuoted_inStep inStep

theorem unifyDecorated_inStep (inStep : self.IsInStep base) :
    InStep base (self.unifyDecorated mode term pattern) := by
  unfold unifyDecorated
  split
  · exact (inStep.unify mode _ _).bind fun _ =>
      InStep.newIdentifier.bind fun _ => checkLinear_inStep
  · exact unifyType_inStep
  · exact unifyGuarded_inStep inStep
  · split
    · exact inStep.unify _ _ _
    · exact unifyLiteral_inStep inStep

theorem unifyObjects_inStep (inStep : self.IsInStep base) :
    InStep base (self.unifyObjects mode term pattern) := by
  unfold unifyObjects
  split
  · exact .store_bind (fun _ _ => rfl) fun _ =>
      .ite .raise (.ite .raise (unifyLinear_inStep inStep))
  · exact unifyRegex_inStep
  · exact unifyDecorated_inStep inStep

/-- One step of matching keeps step. -/
theorem unifyStep_inStep (inStep : self.IsInStep base) :
    InStep base (self.unifyStep mode term pattern) := by
  unfold unifyStep
  refine .ite .raise ?_
  split
  · exact .pure
  · split
    · exact inStep.unify _ _ _
    · exact (dereference_inStep inStep).bind fun _ => inStep.unify _ _ _
    · unfold unifyAllowed
      exact .ite .raise (.ite .raise (unifyObjects_inStep inStep))

end Evaluator
end PatternMachine
