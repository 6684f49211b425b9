import PatternMachine.Indexing
import PatternMachine.Operator
import PatternMachine.Proofs.Lawful

/-!
# Operators, indexing and committing bindings are lawful

Each construct is lawful as soon as the two recursive calls are.
-/

namespace PatternMachine

/-- The two recursive calls are lawful on terms that respect the property. -/
structure Evaluator.IsLawful (property : StackProperty) (evaluator : Evaluator) : Prop where
  walk : ∀ term : Term, term.Respects property ->
    Action.Lawful property (evaluator.walk term) (Term.Respects property)
  unify : ∀ mode, ∀ term pattern : Term, term.Respects property ->
    pattern.Respects property ->
    Action.Lawful property (evaluator.unify mode term pattern) fun bindings =>
      ∀ binding ∈ bindings, binding.Respects property

namespace Evaluator

open PatternMachine.Action (Lawful)

variable {property : StackProperty} {self : Evaluator}

/-! ## Operators -/

theorem numericOperands_lawful {sign : String} {left right : Term} :
    Lawful property (numericOperands sign left right) fun _ => True := by
  unfold numericOperands
  split
  · exact .pure trivial
  · exact .raise
  · exact .raise

theorem arithmetic_lawful
    {sign : String}
    {left right : Term}
    {exactly : Int64 -> Int64 -> Int64}
    {approximately : Float -> Float -> Float} :
    Lawful property (arithmetic sign left right exactly approximately)
      (Term.Respects property) := by
  refine numericOperands_lawful.bind fun operands _ => ?_
  split
  · exact .newInteger
  · exact .newReal

theorem add_lawful {left right : Term} :
    Lawful property (add left right) (Term.Respects property) := by
  unfold add
  split
  · exact Lawful.display.bind fun _ _ => Lawful.display.bind fun _ _ => .newText
  · exact Lawful.display.bind fun _ _ => Lawful.display.bind fun _ _ => .newText
  · refine Lawful.store.bind fun store respects => .newList fun element member => ?_
    rcases List.mem_append.mp member with inLeft | inRight
    · exact respects.elements _ element inLeft
    · exact respects.elements _ element inRight
  · exact .raise
  · exact arithmetic_lawful

theorem divide_lawful {left right : Term} :
    Lawful property (divide left right) (Term.Respects property) := by
  refine numericOperands_lawful.bind fun operands _ => ?_
  split
  · exact .ite (fun _ => .raise) fun _ => .ite (fun _ => .raise) fun _ => .newInteger
  · exact .ite (fun _ => .raise) fun _ => .newReal

theorem compareWith_lawful {accept : Ordering -> Bool} {left right : Term} :
    Lawful property (compareWith accept left right) (Term.Respects property) := by
  have ordered : Lawful property (order left right) fun _ => True := by
    unfold order
    split
    · exact .pure trivial
    · exact .raise
    · exact numericOperands_lawful.bind fun _ _ => .pure trivial
  exact ordered.bind fun _ _ => .pure trivial

theorem negateNumber_lawful {operand : Term} :
    Lawful property (negateNumber operand) (Term.Respects property) := by
  cases operand with
  | integer value => exact .newInteger
  | real value => exact .newReal
  | _ => exact .raise

theorem applyBinary_lawful {operator : Operator} {left right : Term} :
    Lawful property (applyBinary operator left right) (Term.Respects property) := by
  cases operator with
  | plus => exact add_lawful
  | minus => exact arithmetic_lawful
  | times => exact arithmetic_lawful
  | divide => exact divide_lawful
  | disjunction => exact Lawful.store.bind fun _ _ => .pure trivial
  | conjunction => exact Lawful.store.bind fun _ _ => .pure trivial
  | equals => exact Lawful.equal.bind fun _ _ => .pure trivial
  | differs => exact Lawful.equal.bind fun _ _ => .pure trivial
  | below => exact compareWith_lawful
  | atMost => exact compareWith_lawful
  | above => exact compareWith_lawful
  | atLeast => exact compareWith_lawful
  | negate => exact negateNumber_lawful
  | complement => exact Lawful.store.bind fun _ _ => .pure trivial

theorem applyOperator_lawful {operator : Operator} {argument : Term} :
    Lawful property (applyOperator operator argument) (Term.Respects property) := by
  unfold applyOperator
  split
  · exact negateNumber_lawful
  · exact Lawful.store.bind fun _ _ => .pure trivial
  · refine Lawful.store.bind fun store _ => ?_
    split
    · exact applyBinary_lawful
    · exact Lawful.display.bind_raise

/-! ## Indexing -/

theorem positionOrRaise_lawful {index : Int64} {length : Nat} :
    Lawful property (positionOrRaise index length) fun _ => True := by
  unfold positionOrRaise
  split
  · exact .pure trivial
  · exact .raise

theorem positionsOrRaise_lawful {subject : String} {length : Nat} {indices : List Term} :
    Lawful property (positionsOrRaise subject length indices) fun _ => True := by
  induction indices with
  | nil => exact .pure trivial
  | cons index rest inductionHypothesis =>
      cases index with
      | integer value =>
          refine positionOrRaise_lawful.bind fun _ _ => ?_
          exact inductionHypothesis.bind fun _ _ => .pure trivial
      | _ => exact .raise

/-- A place in a list holds a term that respects the property; so does the
missing term that stands in for a place outside the list. -/
theorem respects_getD
    {elements : List Term}
    (respects : ∀ element ∈ elements, element.Respects property)
    (place : Nat) :
    (elements[place]?.getD .absent).Respects property := by
  cases held : elements[place]? with
  | none => trivial
  | some element => exact respects element (List.mem_of_getElem? held)

theorem selectElements_lawful
    {elements : List Term}
    {rebuild : List Term -> Action Term}
    {index : Term}
    (respects : ∀ element ∈ elements, element.Respects property)
    (rebuilt : ∀ chosen : List Term, (∀ element ∈ chosen, element.Respects property) ->
      Lawful property (rebuild chosen) (Term.Respects property)) :
    Lawful property (selectElements elements rebuild index) (Term.Respects property) := by
  unfold selectElements
  split
  · refine positionOrRaise_lawful.bind fun place _ => ?_
    have elementRespects := respects_getD respects place
    revert elementRespects
    generalize elements[place]?.getD .absent = element
    intro elementRespects
    split
    · exact rebuilt [] (by simp)
    · exact .pure elementRespects
  · refine Lawful.store.bind fun store _ => ?_
    refine positionsOrRaise_lawful.bind fun places _ => ?_
    refine rebuilt _ fun element member => ?_
    obtain ⟨place, _, rfl⟩ := List.mem_map.mp member
    exact respects_getD respects place
  · exact .raise

theorem selectClusters_lawful {text : String} {index : Term} :
    Lawful property (selectClusters text index) (Term.Respects property) := by
  unfold selectClusters
  split
  · exact positionOrRaise_lawful.bind fun _ _ => .newText
  · refine Lawful.store.bind fun store _ => ?_
    exact positionsOrRaise_lawful.bind fun _ _ => .newText
  · exact .raise

theorem memberName_lawful
    (lawful : self.IsLawful property)
    {selector : Term}
    (respects : selector.Respects property) :
    Lawful property (self.memberName selector) fun _ => True := by
  unfold memberName
  split
  · exact .pure trivial
  · refine (lawful.walk _ respects).bind fun value _ => ?_
    split
    · exact .pure trivial
    · exact .raise

theorem readMember_lawful
    (lawful : self.IsLawful property)
    {template : Option Template}
    {memory : CellRef}
    {selector : Term}
    (respects : selector.Respects property) :
    Lawful property (self.readMember template memory selector)
      (Term.Respects property) := by
  refine (memberName_lawful lawful respects).bind fun name _ => ?_
  refine Lawful.store.bind fun store storeRespects => ?_
  split
  · exact .raise
  · rename_i body captured found
    exact .newMethod trivial (storeRespects.member found)
  · rename_i value found
    exact .pure (storeRespects.member found)

theorem readIndex_lawful
    (lawful : self.IsLawful property)
    {subject selector : Term}
    (respects : selector.Respects property) :
    Lawful property (self.readIndex subject selector) (Term.Respects property) := by
  unfold readIndex
  split
  · exact readMember_lawful lawful respects
  · refine (lawful.walk selector respects).bind fun index _ => ?_
    split
    · refine Lawful.store.bind fun store storeRespects => ?_
      exact selectElements_lawful (storeRespects.elements _) fun _ => .newList
    · refine Lawful.store.bind fun store storeRespects => ?_
      exact selectElements_lawful (storeRespects.elements _) fun _ => .newTuple
    · exact selectClusters_lawful
    · exact .raise

theorem walkIndex_lawful
    (lawful : self.IsLawful property)
    {subject selector : Term}
    (subjectRespects : subject.Respects property)
    (selectorRespects : selector.Respects property) :
    Lawful property (self.walkIndex subject selector) (Term.Respects property) :=
  (lawful.walk subject subjectRespects).bind fun _ _ =>
    readIndex_lawful lawful selectorRespects

theorem writeElement_lawful
    (lawful : self.IsLawful property)
    {cell : CellRef}
    {selector value : Term}
    (selectorRespects : selector.Respects property)
    (valueRespects : value.Respects property) :
    Lawful property (self.writeElement cell selector value) fun _ => True := by
  refine (lawful.walk selector selectorRespects).bind fun index _ => ?_
  split
  · refine Lawful.store.bind fun store _ => ?_
    refine positionOrRaise_lawful.bind fun place _ => ?_
    exact .update fun machine _ => .writeElement machine cell place valueRespects
  · exact .raise

theorem writeMember_lawful
    (lawful : self.IsLawful property)
    {template : Option Template}
    {memory : CellRef}
    {selector value : Term}
    (selectorRespects : selector.Respects property)
    (valueRespects : value.Respects property) :
    Lawful property (self.writeMember template memory selector value) fun _ => True := by
  refine (memberName_lawful lawful selectorRespects).bind fun name _ => ?_
  -- The store is read and put back changed, so both steps are looked at together.
  intro machine _
  rw [Action.bind_apply, Action.store_apply]
  dsimp only
  cases written : machine.store.writeMember? template memory name value with
  | none => exact ⟨.refl machine, trivial⟩
  | some store =>
      simp only [Store.writeMember?, Option.bind_eq_bind, Option.bind_eq_some_iff] at written
      obtain ⟨_, _, place, _, written⟩ := written
      split at written
      · obtain rfl := Option.some.inj written
        exact ⟨.writeElement machine memory place valueRespects, trivial⟩
      · simp at written

theorem writeIndex_lawful
    (lawful : self.IsLawful property)
    {subject selector value : Term}
    (subjectRespects : subject.Respects property)
    (selectorRespects : selector.Respects property)
    (valueRespects : value.Respects property) :
    Lawful property (self.writeIndex subject selector value) fun _ => True := by
  refine (lawful.walk subject subjectRespects).bind fun target _ => ?_
  split
  · exact writeMember_lawful lawful selectorRespects valueRespects
  · exact writeElement_lawful lawful selectorRespects valueRespects
  · exact writeElement_lawful lawful selectorRespects valueRespects
  · exact .raise
  · exact .raise

/-! ## Committing bindings -/

theorem declare_lawful
    (lawful : self.IsLawful property)
    {binding : Binding}
    (respects : binding.Respects property) :
    Lawful property (self.declare binding) fun _ => True := by
  obtain ⟨target, value⟩ := binding
  obtain ⟨targetRespects, valueRespects⟩ := respects
  cases target with
  | identifier name =>
      exact .ite (fun _ => .pure trivial) fun _ =>
        .ite (fun _ => .raise) fun _ => .bindName valueRespects
  | index mark subject selector =>
      exact writeIndex_lawful lawful targetRespects.1 targetRespects.2 valueRespects
  | _ => exact .raise

theorem declareAll_lawful
    (lawful : self.IsLawful property)
    {bindings : List Binding}
    (respects : ∀ binding ∈ bindings, binding.Respects property) :
    Lawful property (self.declareAll bindings) fun _ => True := by
  induction bindings with
  | nil => exact .pure trivial
  | cons binding rest inductionHypothesis =>
      obtain ⟨bindingRespects, restRespects⟩ := List.forall_mem_cons.mp respects
      refine (declare_lawful lawful bindingRespects).bind fun _ _ => ?_
      exact inductionHypothesis restRespects

end Evaluator
end PatternMachine
