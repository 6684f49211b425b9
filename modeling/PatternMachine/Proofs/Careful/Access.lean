import PatternMachine.Indexing
import PatternMachine.Operator
import PatternMachine.Proofs.Careful

/-!
# Operators, indexing and committing bindings are careful

Each construct is careful as soon as the two recursive calls are.
-/

namespace PatternMachine

/-- A term that can be matched. In binding mode its parts may be bound to names, so
it is data; in covering mode it is a pattern itself. -/
def Term.IsSubject (quoting : Bool) (ledger : Ledger) : Mode -> Term -> Prop
  | .binding, term => term.IsData quoting ledger
  | .covering, term => term.IsCode quoting ledger

/-- A match in binding mode yields bindings of data; in covering mode nothing is
asked of its bindings, which are dropped. -/
def BindingsSound (quoting : Bool) (mode : Mode) (ledger : Ledger)
    (bindings : List Binding) : Prop :=
  mode = .binding -> ∀ binding ∈ bindings,
    binding.target.IsCode quoting ledger ∧ binding.value.IsData quoting ledger

/-- The two recursive calls are careful: evaluation makes data of code, and matching
in binding mode takes data apart. The calls of the evaluators that are told a ledger
do the same, if it is the right one. -/
structure Evaluator.IsCareful (quoting : Bool) (told : Ledger -> Evaluator)
    (evaluator : Evaluator) : Prop where
  walk : ∀ {ledger : Ledger} {term : Term}, term.IsCode quoting ledger ->
    Action.ForetoldData quoting ledger (evaluator.walk term)
      (fun future => (told future).walk term)
  unify : ∀ {ledger : Ledger} (mode : Mode) {term pattern : Term},
    term.IsSubject quoting ledger mode -> pattern.IsCode quoting ledger ->
    Action.Foretold quoting ledger (evaluator.unify mode term pattern)
      (fun future => (told future).unify mode term pattern) (BindingsSound quoting mode)

namespace Evaluator

open PatternMachine.Action (Careful Foretold ForetoldData YieldsData)

variable {quoting : Bool} {ledger : Ledger} {told : Ledger -> Evaluator} {self : Evaluator}

/-! ## Operators -/

theorem numericOperands_careful {sign : String} {left right : Term} :
    Careful quoting ledger (numericOperands sign left right) fun _ _ => True := by
  unfold numericOperands
  split
  · exact .pure fun _ _ => trivial
  · exact .raise
  · exact .raise

theorem arithmetic_careful
    {sign : String}
    {left right : Term}
    {exactly : Int64 -> Int64 -> Int64}
    {approximately : Float -> Float -> Float} :
    YieldsData quoting ledger (arithmetic sign left right exactly approximately) := by
  refine numericOperands_careful.bind fun _ operands _ _ => ?_
  split
  · exact .newInteger
  · exact .newReal

theorem add_careful
    {left right : Term}
    (leftData : left.IsData quoting ledger)
    (rightData : right.IsData quoting ledger) :
    YieldsData quoting ledger (add left right) := by
  unfold add
  split
  · exact Foretold.display.bind fun _ _ _ _ => Foretold.display.bind fun _ _ _ _ => .newText
  · exact Foretold.display.bind fun _ _ _ _ => Foretold.display.bind fun _ _ _ _ => .newText
  · refine .store_bind fun later store grows sound => .newList fun element member => ?_
    rcases List.mem_append.mp member with inLeft | inRight
    · exact sound.dataElements ⟨_, leftData.mono grows⟩ element inLeft
    · exact sound.dataElements ⟨_, rightData.mono grows⟩ element inRight
  · exact .raise
  · exact arithmetic_careful

theorem divide_careful {left right : Term} :
    YieldsData quoting ledger (divide left right) := by
  refine numericOperands_careful.bind fun _ operands _ _ => ?_
  split
  · exact .ite (fun _ => .raise) fun _ => .ite (fun _ => .raise) fun _ => .newInteger
  · exact .ite (fun _ => .raise) fun _ => .newReal

theorem compareWith_careful {accept : Ordering -> Bool} {left right : Term} :
    YieldsData quoting ledger (compareWith accept left right) := by
  have ordered : Careful quoting ledger (order left right) fun _ _ => True := by
    unfold order
    split
    · exact .pure fun _ _ => trivial
    · exact .raise
    · exact numericOperands_careful.bind fun _ _ _ _ => .pure fun _ _ => trivial
  exact ordered.bind fun _ _ _ _ => .pureData trivial

theorem negateNumber_careful {operand : Term} :
    YieldsData quoting ledger (negateNumber operand) := by
  cases operand with
  | integer value => exact .newInteger
  | real value => exact .newReal
  | _ => exact .raise

/-- A truth value that is read off the store. -/
theorem judge_careful (judge : Store -> Bool) :
    YieldsData quoting ledger (do return Term.boolean (judge (← Action.store))) :=
  .store_bind fun _ _ _ _ => .pureData trivial

theorem applyBinary_careful
    {operator : Operator}
    {left right : Term}
    (leftData : left.IsData quoting ledger)
    (rightData : right.IsData quoting ledger) :
    YieldsData quoting ledger (applyBinary operator left right) := by
  cases operator with
  | plus => exact add_careful leftData rightData
  | minus => exact arithmetic_careful
  | times => exact arithmetic_careful
  | divide => exact divide_careful
  | disjunction =>
      exact judge_careful (fun store => store.truthy left || store.truthy right)
  | conjunction =>
      exact judge_careful (fun store => store.truthy left && store.truthy right)
  | equals => exact Foretold.equal.bind fun _ _ _ _ => .pureData trivial
  | differs => exact Foretold.equal.bind fun _ _ _ _ => .pureData trivial
  | below => exact compareWith_careful
  | atMost => exact compareWith_careful
  | above => exact compareWith_careful
  | atLeast => exact compareWith_careful
  | negate => exact negateNumber_careful
  | complement => exact judge_careful (fun store => !store.truthy left)

theorem applyOperator_careful
    {operator : Operator}
    {argument : Term}
    (data : argument.IsData quoting ledger) :
    YieldsData quoting ledger (applyOperator operator argument) := by
  unfold applyOperator
  split
  · exact negateNumber_careful
  · exact judge_careful (fun store => !store.truthy argument)
  · refine .store_bind fun later store grows sound => ?_
    split
    · rename_i left right found
      have operands := sound.tupleElements (data.mono grows) found
      exact applyBinary_careful (operands left (by simp)) (operands right (by simp))
    · exact .display_raise

/-! ## Indexing -/

/-- A place that an index denotes is inside the sequence. -/
theorem lt_of_position?
    {index : Int64}
    {length place : Nat}
    (found : position? index length = some place) :
    place < length := by
  unfold position? at found
  generalize (if index.toInt < 0 then index.toInt + length else index.toInt) = denoted at found
  dsimp only at found
  split at found
  · simp at found
  · rename_i inside
    obtain rfl := Option.some.inj found
    simp only [Bool.or_eq_true, decide_eq_true_eq] at inside
    omega

theorem positionOrRaise_careful {index : Int64} {length : Nat} :
    Careful quoting ledger (positionOrRaise index length) fun _ place => place < length := by
  unfold positionOrRaise
  split
  · rename_i place found
    exact .pure fun _ _ => lt_of_position? found
  · exact .raise

theorem positionsOrRaise_careful {subject : String} {length : Nat} {indices : List Term} :
    Careful quoting ledger (positionsOrRaise subject length indices) fun _ places =>
      ∀ place ∈ places, place < length := by
  induction indices with
  | nil => exact .pure fun _ _ => by simp
  | cons index rest inductionHypothesis =>
      cases index with
      | integer value =>
          refine positionOrRaise_careful.bind fun _ place grows inside => ?_
          refine (inductionHypothesis.later grows).bind fun _ places _ allInside => ?_
          exact .pure fun _ _ => List.forall_mem_cons.mpr ⟨inside, allInside⟩
      | _ => exact .raise

/-- A place inside a list of data holds data. -/
theorem isData_getD
    {elements : List Term}
    (data : ∀ element ∈ elements, element.IsData quoting ledger)
    {place : Nat}
    (inside : place < elements.length) :
    (elements[place]?.getD .absent).IsData quoting ledger := by
  rw [List.getElem?_eq_getElem inside]
  exact data _ (List.getElem_mem inside)

theorem selectElements_careful
    {elements : List Term}
    {rebuild : List Term -> Action Term}
    {index : Term}
    (data : ∀ element ∈ elements, element.IsData quoting ledger)
    (rebuilt : ∀ {later : Ledger} {chosen : List Term},
      (∀ element ∈ chosen, element.IsData quoting later) ->
      YieldsData quoting later (rebuild chosen)) :
    YieldsData quoting ledger (selectElements elements rebuild index) := by
  unfold selectElements
  split
  · refine positionOrRaise_careful.bind fun later place grows inside => ?_
    have elementData := (isData_getD data inside).mono grows
    revert elementData
    generalize elements[place]?.getD .absent = element
    intro elementData
    split
    · exact rebuilt (by simp)
    · exact .pureData elementData
  · refine .store_bind fun _ store storeGrows _ => ?_
    refine positionsOrRaise_careful.bind fun _ places grows inside => rebuilt ?_
    intro element member
    obtain ⟨place, chosen, rfl⟩ := List.mem_map.mp member
    exact (isData_getD data (inside place chosen)).mono (storeGrows.trans grows)
  · exact .raise

theorem selectClusters_careful {text : String} {index : Term} :
    YieldsData quoting ledger (selectClusters text index) := by
  unfold selectClusters
  split
  · exact positionOrRaise_careful.bind fun _ _ _ _ => .newText
  · exact .store_bind fun _ _ _ _ => positionsOrRaise_careful.bind fun _ _ _ _ => .newText
  · exact .raise

theorem memberName_careful
    (careful : self.IsCareful quoting told)
    {selector : Term}
    (code : selector.IsCode quoting ledger) :
    Foretold quoting ledger (self.memberName selector)
      (fun future => (told future).memberName selector) fun _ _ => True := by
  unfold memberName
  split
  · exact .pure fun _ _ => trivial
  · refine (careful.walk code).bind fun _ value _ _ => ?_
    split
    · exact .pure fun _ _ => trivial
    · exact .raise

theorem readMember_careful
    (careful : self.IsCareful quoting told)
    {template : Option Template}
    {memory : CellRef}
    {selector : Term}
    (data : (Term.object template memory).IsData quoting ledger)
    (code : selector.IsCode quoting ledger) :
    ForetoldData quoting ledger (self.readMember template memory selector)
      (fun future => (told future).readMember template memory selector) := by
  refine (memberName_careful careful code).bind fun _ name grows _ => ?_
  refine .store_bind fun later store storeGrows sound => ?_
  have objectData := (data.mono grows).mono storeGrows
  split
  · exact .raise
  · exact .newMethod objectData trivial
  · rename_i value found
    exact .pureData (sound.member objectData found)

theorem readIndex_careful
    (careful : self.IsCareful quoting told)
    {subject selector : Term}
    (data : subject.IsData quoting ledger)
    (code : selector.IsCode quoting ledger) :
    ForetoldData quoting ledger (self.readIndex subject selector)
      (fun future => (told future).readIndex subject selector) := by
  unfold readIndex
  split
  · exact readMember_careful careful data code
  · refine (careful.walk code).bind fun _ index grows _ => ?_
    split
    · refine .store_bind fun _ store storeGrows sound => ?_
      exact selectElements_careful (sound.dataElements ⟨_, (data.mono grows).mono storeGrows⟩)
        .newList
    · refine .store_bind fun _ store storeGrows sound => ?_
      exact selectElements_careful (sound.dataElements ⟨_, (data.mono grows).mono storeGrows⟩)
        .newTuple
    · exact selectClusters_careful
    · exact .raise

theorem walkIndex_careful
    (careful : self.IsCareful quoting told)
    {subject selector : Term}
    (subjectCode : subject.IsCode quoting ledger)
    (selectorCode : selector.IsCode quoting ledger) :
    ForetoldData quoting ledger (self.walkIndex subject selector)
      (fun future => (told future).walkIndex subject selector) :=
  (careful.walk subjectCode).bind fun _ _ grows data =>
    readIndex_careful careful data (selectorCode.mono grows)

theorem writeElement_careful
    (careful : self.IsCareful quoting told)
    {cell : CellRef}
    {selector value : Term}
    (cellData : ledger.IsData cell)
    (selectorCode : selector.IsCode quoting ledger)
    (valueData : value.IsData quoting ledger) :
    Foretold quoting ledger (self.writeElement cell selector value)
      (fun future => (told future).writeElement cell selector value) fun _ _ => True := by
  refine (careful.walk selectorCode).bind fun _ index grows _ => ?_
  split
  · refine .store_bind fun _ store storeGrows _ => ?_
    refine positionOrRaise_careful.bind fun _ place placeGrows _ => ?_
    refine .update fun last machine lastGrows sound => ?_
    have all := ((grows.trans storeGrows).trans placeGrows).trans lastGrows
    exact .writeElement sound (cellData.mono all) place (valueData.mono all)
  · exact .raise

theorem writeMember_careful
    (careful : self.IsCareful quoting told)
    {template : Option Template}
    {memory : CellRef}
    {selector value : Term}
    (objectData : (Term.object template memory).IsData quoting ledger)
    (selectorCode : selector.IsCode quoting ledger)
    (valueData : value.IsData quoting ledger) :
    Foretold quoting ledger (self.writeMember template memory selector value)
      (fun future => (told future).writeMember template memory selector value)
      fun _ _ => True := by
  refine (memberName_careful careful selectorCode).bind fun _ name grows _ => ?_
  -- The store is read and put back changed, so both steps are looked at together.
  refine .alone fun later machine laterGrows sound => ?_
  rw [Action.bind_apply, Action.store_apply]
  dsimp only
  cases written : machine.store.writeMember? template memory name value with
  | none => exact ⟨later, .refl sound, trivial⟩
  | some store =>
      cases template with
      | none => exact objectData.elim
      | some template =>
          simp only [Store.writeMember?, Option.bind_eq_bind, Option.bind_eq_some_iff] at written
          obtain ⟨_, _, place, _, written⟩ := written
          have all := grows.trans laterGrows
          split at written
          · obtain rfl := Option.some.inj written
            exact ⟨later,
              .writeElement sound ⟨_, all _ _ objectData.1⟩ place (valueData.mono all), trivial⟩
          · simp at written

theorem writeIndex_careful
    (careful : self.IsCareful quoting told)
    {subject selector value : Term}
    (subjectCode : subject.IsCode quoting ledger)
    (selectorCode : selector.IsCode quoting ledger)
    (valueData : value.IsData quoting ledger) :
    Foretold quoting ledger (self.writeIndex subject selector value)
      (fun future => (told future).writeIndex subject selector value) fun _ _ => True := by
  refine (careful.walk subjectCode).bind fun _ target grows data => ?_
  have selectorLater := selectorCode.mono grows
  have valueLater := valueData.mono grows
  split
  · exact writeMember_careful careful data selectorLater valueLater
  · exact writeElement_careful careful ⟨_, data⟩ selectorLater valueLater
  · exact writeElement_careful careful ⟨_, data⟩ selectorLater valueLater
  · exact .raise
  · exact .raise

/-! ## Committing bindings -/

theorem declare_careful
    (careful : self.IsCareful quoting told)
    {binding : Binding}
    (targetCode : binding.target.IsCode quoting ledger)
    (valueData : binding.value.IsData quoting ledger) :
    Foretold quoting ledger (self.declare binding)
      (fun future => (told future).declare binding) fun _ _ => True := by
  obtain ⟨target, value⟩ := binding
  cases target with
  | identifier name =>
      exact .ite (fun _ => .pure fun _ _ => trivial) fun _ =>
        .ite (fun _ => .raise) fun _ => .bindName valueData
  | index mark subject selector =>
      exact writeIndex_careful careful targetCode.1 targetCode.2 valueData
  | _ => exact .raise

theorem declareAll_careful
    (careful : self.IsCareful quoting told)
    {bindings : List Binding}
    (sound : BindingsSound quoting .binding ledger bindings) :
    Foretold quoting ledger (self.declareAll bindings)
      (fun future => (told future).declareAll bindings) fun _ _ => True := by
  induction bindings generalizing ledger with
  | nil => exact .pure fun _ _ => trivial
  | cons binding rest inductionHypothesis =>
      obtain ⟨first, others⟩ := List.forall_mem_cons.mp (sound rfl)
      refine (declare_careful careful first.1 first.2).bind fun _ _ grows _ => ?_
      refine inductionHypothesis fun _ other member => ?_
      exact ⟨(others other member).1.mono grows, (others other member).2.mono grows⟩

end Evaluator
end PatternMachine
