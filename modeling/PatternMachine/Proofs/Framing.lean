import PatternMachine.Interpreter
import PatternMachine.Proofs.Scope

/-!
# What an action may do to the machine

A frame says what may become of a machine. Every frame allows cells to be
added, because no value can be made without. Operators, and reading from a
value, do nothing else, and the values they make hold nothing but what their
operands hold.
-/

namespace PatternMachine

/-- Nothing but the store and the counters has changed, and cells were added to the
store at most. -/
structure Machine.Adds (machine after : Machine) : Prop where
  rest : after = { machine with store := after.store, tally := after.tally }
  scopes : after.store.scopes = machine.store.scopes
  globals : after.store.globals = machine.store.globals
  keeps : machine.store.Keeps after.store

namespace Machine.Adds

theorem refl (machine : Machine) : machine.Adds machine :=
  ⟨rfl, rfl, rfl, .refl _⟩

theorem trans
    {first second third : Machine}
    (earlier : first.Adds second)
    (later : second.Adds third) :
    first.Adds third where
  rest := by rw [later.rest, earlier.rest]
  scopes := later.scopes.trans earlier.scopes
  globals := later.globals.trans earlier.globals
  keeps := earlier.keeps.trans later.keeps

/-- All names are bound to what they were bound to. -/
theorem lookup?
    {machine after : Machine}
    (adds : machine.Adds after)
    (name : String) :
    after.lookup? name = machine.lookup? name :=
  Machine.lookup?_congr machine after (by rw [adds.rest]) adds.scopes name

end Machine.Adds

/-- A literal, or a list or a tuple of terms from `source`. -/
def Store.Gathers (store : Store) (source : Term -> Prop) : Term -> Prop
  | .integer _ => True
  | .real _ => True
  | .boolean _ => True
  | .text _ => True
  | .list cell =>
      cell.place < store.cells.size ∧ ∀ element ∈ store.elements cell, source element
  | .tuple cell =>
      cell.place < store.cells.size ∧ ∀ element ∈ store.elements cell, source element
  | _ => False

/-- What may become of a machine. -/
structure Frame where
  /-- The machines a machine may become. -/
  allows : Machine -> Machine -> Prop
  /-- One thing may happen after the other. -/
  trans : ∀ {first second third}, allows first second -> allows second third -> allows first third
  /-- Cells may be added. -/
  adds : ∀ {machine after : Machine}, machine.Adds after -> allows machine after

/-- Only cells may be added. -/
def Frame.adding : Frame where
  allows := Machine.Adds
  trans := .trans
  adds := id

namespace Action

variable {α β : Type} {frame : Frame} {machine : Machine}

/-- Run on the machine, the action does what the frame allows, and what it yields
satisfies `answer` on the machine it leaves behind. -/
def Heeds (frame : Frame) (machine : Machine) (action : Action α)
    (answer : Machine -> α -> Prop) : Prop :=
  match action machine with
  | .ok value after => frame.allows machine after ∧ answer after value
  | .error _ after => frame.allows machine after

namespace Heeds

/-- What the action does is allowed, whether it yields a result or stops. -/
theorem after
    {action : Action α}
    {answer : Machine -> α -> Prop}
    (heeds : Heeds frame machine action answer) :
    frame.allows machine (action.after machine) := by
  unfold Heeds at heeds
  cases run : action machine with
  | ok value final =>
      rw [run] at heeds
      rw [after_ok run]
      exact heeds.1
  | error stop final =>
      rw [run] at heeds
      rw [after_error run]
      exact heeds

theorem pure
    {value : α}
    {answer : Machine -> α -> Prop}
    (holds : answer machine value) :
    Heeds frame machine (Pure.pure value) answer :=
  ⟨frame.adds (.refl machine), holds⟩

theorem throw
    {stop : Stop}
    {answer : Machine -> α -> Prop} :
    Heeds frame machine (MonadExcept.throw stop : Action α) answer :=
  frame.adds (.refl machine)

theorem raise
    {kind : ErrorKind}
    {message : String}
    {answer : Machine -> α -> Prop} :
    Heeds frame machine (Action.raise kind message) answer :=
  frame.adds (.refl machine)

theorem bind
    {action : Action α}
    {next : α -> Action β}
    {middle : Machine -> α -> Prop}
    {answer : Machine -> β -> Prop}
    (first : Heeds frame machine action middle)
    (second : ∀ after value, frame.allows machine after -> middle after value ->
      Heeds frame after (next value) answer) :
    Heeds frame machine (action >>= next) answer := by
  unfold Heeds at first ⊢
  rw [bind_apply]
  cases run : action machine with
  | error stop after =>
      rw [run] at first
      exact first
  | ok value after =>
      rw [run] at first
      have outcome := second after value first.1 first.2
      unfold Heeds at outcome
      revert outcome
      dsimp only
      cases next value after with
      | ok result final => exact fun outcome => ⟨frame.trans first.1 outcome.1, outcome.2⟩
      | error stop final => exact fun outcome => frame.trans first.1 outcome

/-- A wider frame allows it as well, and less may be asked of the answer. -/
theorem widen
    {wider : Frame}
    {action : Action α}
    {middle answer : Machine -> α -> Prop}
    (heeds : Heeds frame machine action middle)
    (allowed : ∀ {after}, frame.allows machine after -> wider.allows machine after)
    (implies : ∀ after value, frame.allows machine after -> middle after value ->
      answer after value) :
    Heeds wider machine action answer := by
  unfold Heeds at heeds ⊢
  revert heeds
  cases action machine with
  | ok value after =>
      exact fun outcome => ⟨allowed outcome.1, implies after value outcome.1 outcome.2⟩
  | error stop after => exact allowed

theorem mono
    {action : Action α}
    {middle answer : Machine -> α -> Prop}
    (heeds : Heeds frame machine action middle)
    (implies : ∀ after value, frame.allows machine after -> middle after value ->
      answer after value) :
    Heeds frame machine action answer :=
  heeds.widen id implies

theorem ite
    {condition : Prop}
    [Decidable condition]
    {first second : Action α}
    {answer : Machine -> α -> Prop}
    (whenTrue : condition -> Heeds frame machine first answer)
    (whenFalse : ¬ condition -> Heeds frame machine second answer) :
    Heeds frame machine (if condition then first else second) answer := by
  by_cases decided : condition
  · rw [if_pos decided]
    exact whenTrue decided
  · rw [if_neg decided]
    exact whenFalse decided

theorem get_bind
    {next : Machine -> Action β}
    {answer : Machine -> β -> Prop}
    (heeds : Heeds frame machine (next machine) answer) :
    Heeds frame machine (get >>= next) answer :=
  heeds

theorem store_bind
    {next : Store -> Action β}
    {answer : Machine -> β -> Prop}
    (heeds : Heeds frame machine (next machine.store) answer) :
    Heeds frame machine (Action.store >>= next) answer :=
  heeds

theorem find_bind
    {site : Site}
    {next : Term -> Action β}
    {answer : Machine -> β -> Prop}
    (heeds : Heeds frame machine (next (machine.store.find site)) answer) :
    Heeds frame machine (Action.find site >>= next) answer :=
  heeds

/-- A look at the store finds something on the machine as it is, or gives up there. -/
theorem finitely_bind
    {look : Store -> Option α}
    {next : α -> Action β}
    {answer : Machine -> β -> Prop}
    (heeds : ∀ found, look machine.store = some found ->
      Heeds frame machine (next found) answer) :
    Heeds frame machine (Action.finitely look >>= next) answer := by
  unfold Heeds
  rw [bind_apply, finitely_apply]
  cases found : look machine.store with
  | none => exact frame.adds (.refl machine)
  | some value => exact heeds value found

theorem display_bind
    {term : Term}
    {next : String -> Action β}
    {answer : Machine -> β -> Prop}
    (heeds : ∀ shown, Heeds frame machine (next shown) answer) :
    Heeds frame machine (Action.display term >>= next) answer :=
  finitely_bind fun shown _ => heeds shown

theorem equal_bind
    {left right : Term}
    {next : Bool -> Action β}
    {answer : Machine -> β -> Prop}
    (heeds : ∀ same, Heeds frame machine (next same) answer) :
    Heeds frame machine (Action.equal left right >>= next) answer :=
  finitely_bind fun same _ => heeds same

theorem equal {left right : Term} :
    Heeds frame machine (Action.equal left right) fun _ _ => True := by
  have compared : Heeds frame machine (Action.equal left right >>= Pure.pure) fun _ _ => True :=
    equal_bind fun _ => .pure trivial
  rwa [bind_pure] at compared

theorem lookup?_bind
    {name : String}
    {next : Option Term -> Action β}
    {answer : Machine -> β -> Prop}
    (heeds : Heeds frame machine (next (machine.lookup? name)) answer) :
    Heeds frame machine (Action.lookup? name >>= next) answer :=
  heeds

/-- An action that does something to the store and the counters, and never stops. -/
theorem of_adds
    {action : Action α}
    {answer : Machine -> α -> Prop}
    {value : α}
    {final : Machine}
    (run : action machine = .ok value final)
    (adds : machine.Adds final)
    (holds : answer final value) :
    Heeds frame machine action answer := by
  unfold Heeds
  rw [run]
  exact ⟨frame.adds adds, holds⟩

/-! ## Making values -/

theorem count {kind : Kind} : Heeds frame machine (Action.count kind) fun _ _ => True :=
  of_adds rfl ⟨rfl, rfl, rfl, .refl _⟩ trivial

theorem freshMark : Heeds frame machine Action.freshMark fun _ _ => True :=
  of_adds rfl ⟨rfl, rfl, rfl, ⟨Nat.le_refl _, fun _ _ => rfl⟩⟩ trivial

theorem newCell {elements : List Term} :
    Heeds frame machine (Action.newCell elements) fun after cell =>
      cell.place < after.store.cells.size ∧ after.store.elements cell = elements.toArray :=
  of_adds rfl ⟨rfl, rfl, rfl, .newCell machine.store elements.toArray⟩
    ⟨machine.store.newCell_known elements.toArray,
      machine.store.elements_newCell_self elements.toArray⟩

theorem newIdentifier {name : String} :
    Heeds frame machine (Action.newIdentifier name) fun _ value => value = .identifier name :=
  count.bind fun _ _ _ _ => pure rfl

theorem newPair {first second : Term} :
    Heeds frame machine (Action.newPair first second) fun _ value => value = .pair first second :=
  count.bind fun _ _ _ _ => pure rfl

theorem newSequence {first second : Term} :
    Heeds frame machine (Action.newSequence first second) fun _ value =>
      ∃ mark, value = .sequence mark first second :=
  count.bind fun _ _ _ _ => freshMark.bind fun _ mark _ _ => pure ⟨mark, rfl⟩

theorem newClosure {body : String} {captured : Closure} :
    Heeds frame machine (Action.newClosure body captured) fun _ value =>
      value = .closure body (some captured) :=
  count.bind fun _ _ _ _ => pure rfl

theorem newMethod {receiver body : Term} :
    Heeds frame machine (Action.newMethod receiver body) fun _ value =>
      ∃ mark, value = .method mark receiver body :=
  count.bind fun _ _ _ _ => freshMark.bind fun _ mark _ _ => pure ⟨mark, rfl⟩

variable {source : Term -> Prop}

theorem newInteger {value : Int64} :
    Heeds frame machine (Action.newInteger value) fun after => after.store.Gathers source := by
  unfold Action.newInteger
  exact ite (fun _ => pure trivial) fun _ => count.bind fun _ _ _ _ => pure trivial

theorem newReal {value : Float} :
    Heeds frame machine (Action.newReal value) fun after => after.store.Gathers source :=
  count.bind fun _ _ _ _ => pure trivial

theorem newText {value : String} :
    Heeds frame machine (Action.newText value) fun after => after.store.Gathers source :=
  count.bind fun _ _ _ _ => pure trivial

theorem newList
    {elements : List Term}
    (held : ∀ element ∈ elements, source element) :
    Heeds frame machine (Action.newList elements) fun after => after.store.Gathers source := by
  refine count.bind fun _ _ _ _ => newCell.bind fun after cell _ made => pure ⟨made.1, ?_⟩
  simpa [made.2] using held

theorem newTuple
    {elements : List Term}
    (held : ∀ element ∈ elements, source element) :
    Heeds frame machine (Action.newTuple elements) fun after => after.store.Gathers source := by
  refine count.bind fun _ _ _ _ => newCell.bind fun after cell _ made => pure ⟨made.1, ?_⟩
  simpa [made.2] using held

end Heeds
end Action

namespace Evaluator

open PatternMachine.Action (Heeds)

variable {frame : Frame} {machine : Machine} {source : Term -> Prop}

/-! ## Operators -/

theorem numericOperands_heeds {sign : String} {left right : Term} :
    Heeds frame machine (numericOperands sign left right) fun _ _ => True := by
  unfold numericOperands
  split
  · exact .pure trivial
  · exact .raise
  · exact .raise

theorem arithmetic_heeds
    {sign : String}
    {left right : Term}
    {exactly : Int64 -> Int64 -> Int64}
    {approximately : Float -> Float -> Float} :
    Heeds frame machine (arithmetic sign left right exactly approximately) fun after =>
      after.store.Gathers source := by
  refine numericOperands_heeds.bind fun after operands _ _ => ?_
  split
  · exact .newInteger
  · exact .newReal

/-- The elements of two lists end up in one list. -/
theorem add_heeds
    {left right : Term}
    (listed : ∀ cell, .list cell ∈ [left, right] ->
      ∀ element ∈ machine.store.elements cell, source element) :
    Heeds frame machine (add left right) fun after => after.store.Gathers source := by
  unfold add
  split
  · exact .display_bind fun _ => .display_bind fun _ => .newText
  · exact .display_bind fun _ => .display_bind fun _ => .newText
  · rename_i leftCell rightCell
    refine .store_bind (.newList ?_)
    simp only [List.mem_append, Array.mem_toList_iff]
    rintro element (held | held)
    · exact listed leftCell (by simp) element held
    · exact listed rightCell (by simp) element held
  · exact .raise
  · exact arithmetic_heeds

theorem divide_heeds {left right : Term} :
    Heeds frame machine (divide left right) fun after => after.store.Gathers source := by
  refine numericOperands_heeds.bind fun after operands _ _ => ?_
  split
  · exact .ite (fun _ => .raise) fun _ => .ite (fun _ => .raise) fun _ => .newInteger
  · exact .ite (fun _ => .raise) fun _ => .newReal

theorem compareWith_heeds {accept : Ordering -> Bool} {left right : Term} :
    Heeds frame machine (compareWith accept left right) fun after =>
      after.store.Gathers source := by
  have ordered : Heeds frame machine (order left right) fun _ _ => True := by
    unfold order
    split
    · exact .pure trivial
    · exact .raise
    · exact numericOperands_heeds.bind fun _ _ _ _ => .pure trivial
  exact ordered.bind fun _ _ _ _ => .pure trivial

theorem negateNumber_heeds {operand : Term} :
    Heeds frame machine (negateNumber operand) fun after => after.store.Gathers source := by
  cases operand with
  | integer value => exact .newInteger
  | real value => exact .newReal
  | _ => exact .raise

/-- A truth value that is read off the store. -/
theorem judge_heeds (judge : Store -> Bool) :
    Heeds frame machine (do return Term.boolean (judge (← Action.store))) fun after =>
      after.store.Gathers source :=
  .store_bind (.pure trivial)

theorem applyBinary_heeds
    {operator : Operator}
    {left right : Term}
    (listed : ∀ cell, .list cell ∈ [left, right] ->
      ∀ element ∈ machine.store.elements cell, source element) :
    Heeds frame machine (applyBinary operator left right) fun after =>
      after.store.Gathers source := by
  cases operator with
  | plus => exact add_heeds listed
  | minus => exact arithmetic_heeds
  | times => exact arithmetic_heeds
  | divide => exact divide_heeds
  | disjunction => exact judge_heeds fun store => store.truthy left || store.truthy right
  | conjunction => exact judge_heeds fun store => store.truthy left && store.truthy right
  | equals => exact .equal_bind fun _ => .pure trivial
  | differs => exact .equal_bind fun _ => .pure trivial
  | below => exact compareWith_heeds
  | atMost => exact compareWith_heeds
  | above => exact compareWith_heeds
  | atLeast => exact compareWith_heeds
  | negate => exact negateNumber_heeds
  | complement => exact judge_heeds fun store => !store.truthy left

/-- An operator that is applied to lists takes their elements at most. -/
theorem applyOperator_heeds
    {operator : Operator}
    {argument : Term}
    (listed : ∀ operands, machine.store.tupleElements? argument = some operands ->
      ∀ cell, .list cell ∈ operands -> ∀ element ∈ machine.store.elements cell, source element) :
    Heeds frame machine (applyOperator operator argument) fun after =>
      after.store.Gathers source := by
  unfold applyOperator
  split
  · exact negateNumber_heeds
  · exact judge_heeds fun store => !store.truthy argument
  · refine .store_bind ?_
    split
    · rename_i left right pair
      exact applyBinary_heeds (listed [left, right] pair)
    · exact .display_bind fun _ => .raise

/-! ## Reading from a value -/

theorem positionOrRaise_heeds {index : Int64} {length : Nat} :
    Heeds frame machine (positionOrRaise index length) fun _ _ => True := by
  unfold positionOrRaise
  split
  · exact .pure trivial
  · exact .raise

theorem positionsOrRaise_heeds {subject : String} {length : Nat} {indices : List Term} :
    Heeds frame machine (positionsOrRaise subject length indices) fun _ _ => True := by
  induction indices generalizing machine with
  | nil => exact .pure trivial
  | cons index rest inductionHypothesis =>
      cases index with
      | integer value =>
          exact positionOrRaise_heeds.bind fun _ _ _ _ =>
            inductionHypothesis.bind fun _ _ _ _ => .pure trivial
      | _ => exact .raise

/-- What is selected is one of the elements, or a sequence of some of them. An
element that is not there is read as a missing term. -/
theorem selectElements_heeds
    {elements : List Term}
    {rebuild : List Term -> Action Term}
    {index : Term}
    (rebuilds : ∀ machine selected,
      (∀ element ∈ selected, element ∈ elements ∨ element = .absent) ->
      Heeds frame machine (rebuild selected) fun after => after.store.Gathers source) :
    Heeds frame machine (selectElements elements rebuild index) fun after value =>
      value ∈ elements ∨ after.store.Gathers source value := by
  have element : ∀ place : Nat,
      elements[place]?.getD .absent ∈ elements ∨ elements[place]?.getD .absent = .absent := by
    intro place
    cases found : elements[place]? with
    | none => exact .inr rfl
    | some element => exact .inl (List.mem_of_getElem? found)
  unfold selectElements
  split
  · refine positionOrRaise_heeds.bind fun after place _ _ => ?_
    split
    · exact (rebuilds after [] (by simp)).mono fun _ _ _ => .inr
    · rename_i missing
      exact .pure (.inl ((element place).resolve_right missing))
  · refine .store_bind (positionsOrRaise_heeds.bind fun after places _ _ => ?_)
    refine (rebuilds after _ fun selected held => ?_).mono fun _ _ _ => .inr
    obtain ⟨place, _, rfl⟩ := List.mem_map.mp held
    exact element place
  · exact .raise

theorem selectClusters_heeds {text : String} {index : Term} :
    Heeds frame machine (selectClusters text index) fun after => after.store.Gathers source := by
  unfold selectClusters
  split
  · exact positionOrRaise_heeds.bind fun _ _ _ _ => .newText
  · exact .store_bind (positionsOrRaise_heeds.bind fun _ _ _ _ => .newText)
  · exact .raise

end Evaluator
end PatternMachine
