import PatternMachine.Proofs.Lawful.Access
import PatternMachine.Proofs.Lockstep

/-!
# Operators, indexing and committing bindings keep step

Each construct keeps step as soon as the two recursive calls do.
-/

namespace PatternMachine

/-- The two recursive calls keep step. They are lawful as well, so that each of
them gives back the scopes it found. -/
structure Evaluator.IsInStep (base : Nat) (evaluator : Evaluator) : Prop where
  lawful : evaluator.IsLawful .trivial
  walk : ∀ term : Term, Action.InStep base (evaluator.walk term)
  unify : ∀ mode, ∀ term pattern : Term, Action.InStep base (evaluator.unify mode term pattern)

namespace Evaluator

open PatternMachine.Action (InStep)

variable {base : Nat} {self : Evaluator}

/-! ## Operators -/

theorem numericOperands_inStep {sign : String} {left right : Term} :
    InStep base (numericOperands sign left right) := by
  unfold numericOperands
  split
  · exact .pure
  · exact .raise
  · exact .raise

theorem arithmetic_inStep
    {sign : String}
    {left right : Term}
    {exactly : Int64 -> Int64 -> Int64}
    {approximately : Float -> Float -> Float} :
    InStep base (arithmetic sign left right exactly approximately) := by
  refine numericOperands_inStep.bind fun operands => ?_
  split
  · exact .newInteger
  · exact .newReal

theorem add_inStep {left right : Term} : InStep base (add left right) := by
  unfold add
  split
  · exact InStep.display.bind fun _ => InStep.display.bind fun _ => .newText
  · exact InStep.display.bind fun _ => InStep.display.bind fun _ => .newText
  · exact .store_bind (fun _ _ => rfl) fun _ => .newList
  · exact .raise
  · exact arithmetic_inStep

theorem divide_inStep {left right : Term} : InStep base (divide left right) := by
  refine numericOperands_inStep.bind fun operands => ?_
  split
  · exact .ite .raise (.ite .raise .newInteger)
  · exact .ite .raise .newReal

theorem compareWith_inStep {accept : Ordering -> Bool} {left right : Term} :
    InStep base (compareWith accept left right) := by
  have ordered : InStep base (order left right) := by
    unfold order
    split
    · exact .pure
    · exact .raise
    · exact numericOperands_inStep.bind fun _ => .pure
  exact ordered.bind fun _ => .pure

theorem negateNumber_inStep {operand : Term} : InStep base (negateNumber operand) := by
  cases operand with
  | integer value => exact .newInteger
  | real value => exact .newReal
  | _ => exact .raise

/-- A truth value that is read off the store. -/
theorem judge_inStep
    (judge : Store -> Bool)
    (blind : ∀ store sets, judge (Store.withSets store sets) = judge store) :
    InStep base (do return Term.boolean (judge (← Action.store))) :=
  .store_bind (fun store sets => by rw [blind]) fun _ => .pure

theorem applyBinary_inStep {operator : Operator} {left right : Term} :
    InStep base (applyBinary operator left right) := by
  cases operator with
  | plus => exact add_inStep
  | minus => exact arithmetic_inStep
  | times => exact arithmetic_inStep
  | divide => exact divide_inStep
  | disjunction =>
      exact judge_inStep (fun store => store.truthy left || store.truthy right)
        fun _ _ => by simp
  | conjunction =>
      exact judge_inStep (fun store => store.truthy left && store.truthy right)
        fun _ _ => by simp
  | equals => exact InStep.equal.bind fun _ => .pure
  | differs => exact InStep.equal.bind fun _ => .pure
  | below => exact compareWith_inStep
  | atMost => exact compareWith_inStep
  | above => exact compareWith_inStep
  | atLeast => exact compareWith_inStep
  | negate => exact negateNumber_inStep
  | complement => exact judge_inStep (fun store => !store.truthy left) fun _ _ => by simp

theorem applyOperator_inStep {operator : Operator} {argument : Term} :
    InStep base (applyOperator operator argument) := by
  unfold applyOperator
  split
  · exact negateNumber_inStep
  · exact judge_inStep (fun store => !store.truthy argument) fun _ _ => by simp
  · refine .store_bind (fun _ _ => by simp) fun store => ?_
    split
    · exact applyBinary_inStep
    · exact .display_raise

/-! ## Indexing -/

theorem positionOrRaise_inStep {index : Int64} {length : Nat} :
    InStep base (positionOrRaise index length) := by
  unfold positionOrRaise
  split
  · exact .pure
  · exact .raise

theorem positionsOrRaise_inStep {subject : String} {length : Nat} {indices : List Term} :
    InStep base (positionsOrRaise subject length indices) := by
  induction indices with
  | nil => exact .pure
  | cons index rest inductionHypothesis =>
      cases index with
      | integer value =>
          exact positionOrRaise_inStep.bind fun _ => inductionHypothesis.bind fun _ => .pure
      | _ => exact .raise

theorem selectElements_inStep
    {elements : List Term}
    {rebuild : List Term -> Action Term}
    {index : Term}
    (rebuilt : ∀ chosen : List Term, InStep base (rebuild chosen)) :
    InStep base (selectElements elements rebuild index) := by
  unfold selectElements
  split
  · refine positionOrRaise_inStep.bind fun place => ?_
    split
    · exact rebuilt []
    · exact .pure
  · exact .store_bind (fun _ _ => rfl) fun _ =>
      positionsOrRaise_inStep.bind fun _ => rebuilt _
  · exact .raise

theorem selectClusters_inStep {text : String} {index : Term} :
    InStep base (selectClusters text index) := by
  unfold selectClusters
  split
  · exact positionOrRaise_inStep.bind fun _ => .newText
  · exact .store_bind (fun _ _ => rfl) fun _ => positionsOrRaise_inStep.bind fun _ => .newText
  · exact .raise

theorem memberName_inStep
    (inStep : self.IsInStep base)
    {selector : Term} :
    InStep base (self.memberName selector) := by
  unfold memberName
  split
  · exact .pure
  · refine (inStep.walk _).bind fun value => ?_
    split
    · exact .pure
    · exact .raise

theorem readMember_inStep
    (inStep : self.IsInStep base)
    {template : Option Template}
    {memory : CellRef}
    {selector : Term} :
    InStep base (self.readMember template memory selector) := by
  refine (memberName_inStep inStep).bind fun name => ?_
  refine .store_bind (fun _ _ => rfl) fun store => ?_
  split
  · exact .raise
  · exact .newMethod
  · exact .pure

theorem readIndex_inStep
    (inStep : self.IsInStep base)
    {subject selector : Term} :
    InStep base (self.readIndex subject selector) := by
  unfold readIndex
  split
  · exact readMember_inStep inStep
  · refine (inStep.walk selector).bind fun index => ?_
    split
    · exact .store_bind (fun _ _ => rfl) fun _ => selectElements_inStep fun _ => .newList
    · exact .store_bind (fun _ _ => rfl) fun _ => selectElements_inStep fun _ => .newTuple
    · exact selectClusters_inStep
    · exact .raise

theorem walkIndex_inStep
    (inStep : self.IsInStep base)
    {subject selector : Term} :
    InStep base (self.walkIndex subject selector) :=
  (inStep.walk subject).bind fun _ => readIndex_inStep inStep

theorem writeElement_inStep
    (inStep : self.IsInStep base)
    {cell : CellRef}
    {selector value : Term} :
    InStep base (self.writeElement cell selector value) := by
  refine (inStep.walk selector).bind fun index => ?_
  split
  · refine .store_bind (fun _ _ => rfl) fun store => ?_
    refine positionOrRaise_inStep.bind fun place => ?_
    exact .change (fun _ _ => rfl) (fun _ => rfl) fun _ => rfl
  · exact .raise

theorem writeMember_inStep
    (inStep : self.IsInStep base)
    {template : Option Template}
    {memory : CellRef}
    {selector value : Term} :
    InStep base (self.writeMember template memory selector value) := by
  refine (memberName_inStep inStep).bind fun name => ?_
  -- The store is read and put back changed, so both steps are looked at together.
  intro machine other alongside
  have known := alongside.known
  have count := alongside.count
  have declared := alongside.declared
  have innermost := alongside.innermost
  obtain ⟨sets, rfl⟩ : ∃ sets, other = machine.withSets sets := ⟨_, alongside.eq⟩
  have written := machine.store.writeMember?_withSets sets template memory name value
  rw [Action.bind_apply, Action.bind_apply, Action.store_apply, Action.store_apply]
  dsimp only [Machine.withSets]
  rw [written]
  cases writes : machine.store.writeMember? template memory name value with
  | none => exact ⟨rfl, alongside⟩
  | some store =>
      have same := machine.store.globals_of_writeMember? writes
      refine ⟨rfl, ⟨rfl, ?_, ?_, ?_, innermost⟩⟩
      · exact same ▸ known
      · exact same ▸ count
      · intro ref young
        simp only [Store.globalNames, same]
        exact declared ref young

theorem writeIndex_inStep
    (inStep : self.IsInStep base)
    {subject selector value : Term} :
    InStep base (self.writeIndex subject selector value) := by
  refine (inStep.walk subject).bind fun target => ?_
  split
  · exact writeMember_inStep inStep
  · exact writeElement_inStep inStep
  · exact writeElement_inStep inStep
  · exact .raise
  · exact .raise

/-! ## Committing bindings -/

theorem declare_inStep
    (inStep : self.IsInStep base)
    {binding : Binding} :
    InStep base (self.declare binding) := by
  obtain ⟨target, value⟩ := binding
  cases target with
  | identifier name => exact .ite .pure (.ite .raise .bindName)
  | index mark subject selector => exact writeIndex_inStep inStep
  | _ => exact .raise

theorem declareAll_inStep
    (inStep : self.IsInStep base)
    {bindings : List Binding} :
    InStep base (self.declareAll bindings) := by
  induction bindings with
  | nil => exact .pure
  | cons binding rest inductionHypothesis =>
      exact (declare_inStep inStep).bind fun _ => inductionHypothesis

end Evaluator
end PatternMachine
