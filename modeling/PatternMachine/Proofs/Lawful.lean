import PatternMachine.Proofs.Evolution

/-!
# Lawful actions

An action is lawful when all it does to a machine is an evolution, and it gives
up for no other reason than the limit on calls. Lawfulness is closed under every
way of putting actions together, so that it is shown for a construct by
following its definition.
-/

namespace PatternMachine

/-- A machine with the given settings may stop like this. It gives up only if there
is a limit on calls, or if the property is no help because even the empty stack,
which no function can run under, has it. -/
def StackProperty.Allows (property : StackProperty) (settings : Settings) : Stop -> Prop
  | .fatal _ => 0 < settings.maxDepth ∨ property.holds #[]
  | _ => True

namespace Action

/-- On every machine that respects the property the action makes an evolution,
and what it yields satisfies `answer`. -/
def Lawful {α : Type} (property : StackProperty) (action : Action α)
    (answer : α -> Prop) : Prop :=
  ∀ machine, machine.Respects property ->
    match action machine with
    | .ok value after => machine.Evolves property after ∧ answer value
    | .error stop after =>
        machine.Evolves property after ∧ property.Allows machine.settings stop

variable {α β : Type} {property : StackProperty}

namespace Lawful

/-- A lawful action makes an evolution, however it ends. -/
theorem evolves
    {action : Action α}
    {answer : α -> Prop}
    (lawful : Lawful property action answer)
    {machine : Machine}
    (respects : machine.Respects property) :
    machine.Evolves property (action.after machine) := by
  have outcome := lawful machine respects
  unfold after
  cases run : action machine with
  | ok value final =>
      rw [run] at outcome
      exact outcome.1
  | error stop final =>
      rw [run] at outcome
      exact outcome.1

theorem pure
    {value : α}
    {answer : α -> Prop}
    (holds : answer value) :
    Lawful property (Pure.pure value) answer :=
  fun machine _ => ⟨.refl machine, holds⟩

theorem bind
    {action : Action α}
    {next : α -> Action β}
    {middle : α -> Prop}
    {answer : β -> Prop}
    (first : Lawful property action middle)
    (second : ∀ value, middle value -> Lawful property (next value) answer) :
    Lawful property (action >>= next) answer := by
  intro machine respects
  have firstOutcome := first machine respects
  rw [bind_apply]
  cases run : action machine with
  | error stop after =>
      rw [run] at firstOutcome
      exact firstOutcome
  | ok value after =>
      rw [run] at firstOutcome
      have secondOutcome := second value firstOutcome.2 after
        (firstOutcome.1.respects respects)
      rw [firstOutcome.1.sameFrame.settings] at secondOutcome
      revert secondOutcome
      dsimp only
      cases next value after with
      | ok result final => exact fun outcome => ⟨firstOutcome.1.trans outcome.1, outcome.2⟩
      | error stop final => exact fun outcome => ⟨firstOutcome.1.trans outcome.1, outcome.2⟩

theorem mono
    {action : Action α}
    {middle answer : α -> Prop}
    (lawful : Lawful property action middle)
    (implies : ∀ value, middle value -> answer value) :
    Lawful property action answer := by
  intro machine respects
  have outcome := lawful machine respects
  revert outcome
  cases action machine with
  | ok value after => exact fun outcome => ⟨outcome.1, implies value outcome.2⟩
  | error stop after => exact fun outcome => outcome

/-- Running out of depth. -/
theorem exhausted {answer : α -> Prop} : Lawful property (throw .exhausted) answer :=
  fun machine _ => ⟨.refl machine, trivial⟩

theorem raise
    {kind : ErrorKind}
    {message : String}
    {answer : α -> Prop} :
    Lawful property (Action.raise kind message) answer :=
  fun machine _ => ⟨.refl machine, trivial⟩

/-- Raising an error whose wording is made up first. -/
theorem bind_raise
    {action : Action β}
    {middle : β -> Prop}
    {kind : ErrorKind}
    {message : β -> String}
    {answer : α -> Prop}
    (lawful : Lawful property action middle) :
    Lawful property (action >>= fun value => Action.raise kind (message value)) answer :=
  lawful.bind fun _ _ => raise

theorem get : Lawful property MonadState.get (Machine.Respects property) :=
  fun machine respects => ⟨.refl machine, respects⟩

theorem update
    {change : Machine -> Machine}
    (evolves : ∀ machine : Machine, machine.Respects property ->
      machine.Evolves property (change machine)) :
    Lawful property (modify change) fun _ => True :=
  fun machine respects => ⟨evolves machine respects, trivial⟩

theorem store : Lawful property Action.store (Store.Respects property) :=
  fun machine respects => ⟨.refl machine, respects.store⟩

/-- What a look at the store finds is found in a store that respects the property. -/
theorem finitely
    {look : Store -> Option α}
    {answer : α -> Prop}
    (holds : ∀ store : Store, store.Respects property -> ∀ found, look store = some found ->
      answer found) :
    Lawful property (Action.finitely look) answer := by
  refine store.bind fun store respects => ?_
  cases found : look store with
  | none => exact exhausted
  | some value => exact pure (holds store respects value found)

theorem look {look : Store -> Option α} :
    Lawful property (Action.finitely look) fun _ => True :=
  finitely fun _ _ _ _ => trivial

theorem display {term : Term} : Lawful property (Action.display term) fun _ => True :=
  look

theorem equal {left right : Term} : Lawful property (Action.equal left right) fun _ => True :=
  look

theorem caption {term : Term} : Lawful property (Action.caption term) fun _ => True :=
  fun machine _ => ⟨.refl machine, trivial⟩

theorem count {kind : Kind} : Lawful property (Action.count kind) fun _ => True :=
  update fun machine _ => .record machine _ _ _ _ _

theorem write {text : String} : Lawful property (Action.write text) fun _ => True :=
  update fun machine _ => .record machine _ _ _ _ _

theorem record {event : TraceEvent} :
    Lawful property (Action.record event) fun _ => True := by
  refine update fun machine _ => ?_
  split
  · exact .record machine _ _ _ _ _
  · exact .refl machine

theorem setPosition {position : Position} :
    Lawful property (modify fun machine => { machine with position := position })
      fun _ => True :=
  update fun machine _ => .record machine _ _ _ _ _

theorem freshMark : Lawful property Action.freshMark fun _ => True :=
  fun machine _ => ⟨.freshMark machine, trivial⟩

theorem newCell
    {elements : List Term}
    (respects : ∀ element ∈ elements, element.Respects property) :
    Lawful property (Action.newCell elements) fun _ => True :=
  fun machine _ => ⟨.newCell machine (by simpa using respects), trivial⟩

theorem bindName
    {name : String}
    {value : Term}
    (respects : value.Respects property) :
    Lawful property (Action.bindName name value) fun _ => True :=
  update fun machine _ => .bindName machine name respects

theorem follows {body : String} : Lawful property (Action.follows body) fun _ => True :=
  fun machine _ => ⟨.refl machine, trivial⟩

theorem lookup?
    {name : String} :
    Lawful property (Action.lookup? name) fun found =>
      ∀ value, found = some value -> value.Respects property := by
  intro machine respects
  refine ⟨.refl machine, ?_⟩
  intro value found
  simp only [Machine.lookup?, Option.bind_eq_bind, Option.bind_eq_some_iff] at found
  obtain ⟨_, _, ref, _, bound⟩ := found
  exact respects.store.scopes ref _ (Namespace.mem_entries_of_get? bound)

theorem capture :
    Lawful property Action.capture fun captured => property.holds captured.scopes := by
  refine freshMark.bind fun mark _ => ?_
  refine get.bind fun machine respects => ?_
  exact pure respects.stack

/-- Recording where an error leaves an action changes nothing else. -/
theorem located
    {action : Action α}
    {answer : α -> Prop}
    (lawful : Lawful property action answer) :
    Lawful property (Action.located action) answer := by
  intro machine respects
  have outcome := lawful machine respects
  unfold Action.located
  revert outcome
  cases action machine with
  | ok value after => exact fun outcome => outcome
  | error stop after => cases stop <;> exact fun outcome => outcome

/-- A failed match that is taken as an answer changes nothing else. -/
theorem orNoMatch
    {action : Action α}
    {answer : α -> Prop}
    (lawful : Lawful property action answer) :
    Lawful property (Action.orNoMatch action) fun found =>
      ∀ value, found = some value -> answer value := by
  intro machine respects
  have outcome := lawful machine respects
  unfold Action.orNoMatch
  revert outcome
  cases action machine with
  | ok value after =>
      intro outcome
      refine ⟨outcome.1, ?_⟩
      intro other same
      obtain rfl : value = other := by simpa using same
      exact outcome.2
  | error stop after =>
      cases stop with
      | raised exception =>
          intro outcome
          dsimp only
          by_cases failed : after.store.isMatchFailure exception.payload
          · rw [if_pos failed]
            exact ⟨outcome.1, by simp⟩
          · rw [if_neg failed]
            exact outcome
      | fatal message => exact fun outcome => outcome
      | exhausted => exact fun outcome => outcome

/-- An action that runs on a changed machine, with the change undone afterwards,
is lawful when the whole of it is an evolution. -/
theorem ensuring
    {action : Action α}
    {answer : α -> Prop}
    {cleanup : Machine -> Machine}
    {machine changed : Machine}
    (lawful : Lawful property action answer)
    (respects : changed.Respects property)
    (settings : changed.settings = machine.settings)
    (undone : ∀ after, changed.Evolves property after ->
      machine.Evolves property (cleanup after)) :
    match Action.ensuring action cleanup changed with
    | .ok value after => machine.Evolves property after ∧ answer value
    | .error stop after =>
        machine.Evolves property after ∧ property.Allows machine.settings stop := by
  have outcome := lawful changed respects
  rw [settings] at outcome
  unfold Action.ensuring
  revert outcome
  cases action changed with
  | ok value after => exact fun outcome => ⟨undone after outcome.1, outcome.2⟩
  | error stop after => exact fun outcome => ⟨undone after outcome.1, outcome.2⟩

/-- Of two actions one is chosen. -/
theorem ite
    {condition : Prop}
    [Decidable condition]
    {first second : Action α}
    {answer : α -> Prop}
    (whenTrue : condition -> Lawful property first answer)
    (whenFalse : ¬ condition -> Lawful property second answer) :
    Lawful property (if condition then first else second) answer := by
  by_cases decided : condition
  · rw [if_pos decided]
    exact whenTrue decided
  · rw [if_neg decided]
    exact whenFalse decided

/-! ## Making values -/

theorem newInteger {value : Int64} :
    Lawful property (Action.newInteger value) (Term.Respects property) := by
  unfold Action.newInteger
  exact ite (fun _ => pure trivial) (fun _ => count.bind fun _ _ => pure trivial)

theorem newReal {value : Float} :
    Lawful property (Action.newReal value) (Term.Respects property) :=
  count.bind fun _ _ => pure trivial

theorem newText {value : String} :
    Lawful property (Action.newText value) (Term.Respects property) :=
  count.bind fun _ _ => pure trivial

theorem newList
    {elements : List Term}
    (respects : ∀ element ∈ elements, element.Respects property) :
    Lawful property (Action.newList elements) (Term.Respects property) :=
  count.bind fun _ _ => (newCell respects).bind fun _ _ => pure trivial

theorem newTuple
    {elements : List Term}
    (respects : ∀ element ∈ elements, element.Respects property) :
    Lawful property (Action.newTuple elements) (Term.Respects property) :=
  count.bind fun _ _ => (newCell respects).bind fun _ _ => pure trivial

theorem newPair
    {first second : Term}
    (firstRespects : first.Respects property)
    (secondRespects : second.Respects property) :
    Lawful property (Action.newPair first second) (Term.Respects property) :=
  count.bind fun _ _ => pure ⟨firstRespects, secondRespects⟩

theorem newSequence
    {first second : Term}
    (firstRespects : first.Respects property)
    (secondRespects : second.Respects property) :
    Lawful property (Action.newSequence first second) (Term.Respects property) :=
  count.bind fun _ _ => freshMark.bind fun _ _ => pure ⟨firstRespects, secondRespects⟩

theorem newIdentifier {name : String} :
    Lawful property (Action.newIdentifier name) (Term.Respects property) :=
  count.bind fun _ _ => pure trivial

theorem newClosure
    {body : String}
    {captured : Closure}
    (respects : property.holds captured.scopes) :
    Lawful property (Action.newClosure body captured) (Term.Respects property) :=
  count.bind fun _ _ => pure respects

theorem newMethod
    {receiver body : Term}
    (receiverRespects : receiver.Respects property)
    (bodyRespects : body.Respects property) :
    Lawful property (Action.newMethod receiver body) (Term.Respects property) :=
  count.bind fun _ _ => freshMark.bind fun _ _ => pure ⟨receiverRespects, bodyRespects⟩

theorem newStruct
    {name : String}
    {members : List String}
    {initial : List Term}
    (respects : ∀ value ∈ initial, value.Respects property) :
    Lawful property (Action.newStruct name members initial) fun _ => True :=
  count.bind fun _ _ => count.bind fun _ _ => freshMark.bind fun _ _ =>
    (newCell respects).bind fun _ _ => pure trivial

theorem newObject {template : Template} :
    Lawful property (Action.newObject template) fun _ => True := by
  refine count.bind fun _ _ => count.bind fun _ _ => store.bind fun current respects => ?_
  exact newCell (by simpa using respects.cells template.memory)

end Lawful
end Action

namespace Store

variable {property : StackProperty} {store : Store}

theorem Respects.elements
    (respects : store.Respects property)
    (cell : CellRef) :
    ∀ element ∈ (store.elements cell).toList, element.Respects property := by
  simpa using respects.cells cell

/-- A place in a cell holds a term that respects the property; so does the
missing term that stands in for a place outside the cell. -/
theorem Respects.element
    (respects : store.Respects property)
    (cell : CellRef)
    (place : Nat) :
    ((store.elements cell)[place]?.getD .absent).Respects property := by
  cases held : (store.elements cell)[place]? with
  | none => trivial
  | some element => exact respects.cells cell element (Array.mem_of_getElem? held)

/-- What is found at a site respects the property. -/
theorem Respects.find
    (respects : store.Respects property)
    {site : Site}
    (siteRespects : site.Respects property) :
    (store.find site).Respects property := by
  cases site with
  | given term => exact siteRespects
  | element cell place =>
      rcases store.find_element cell place with held | missing
      · exact respects.elements cell _ held
      · rw [missing]
        trivial

theorem Respects.tupleElements
    (respects : store.Respects property)
    {term : Term}
    (termRespects : term.Respects property)
    {elements : List Term}
    (found : store.tupleElements? term = some elements) :
    ∀ element ∈ elements, element.Respects property := by
  cases term with
  | tuple cell =>
      obtain rfl : (store.elements cell).toList = elements := by
        simpa [tupleElements?] using found
      exact respects.elements cell
  | pair first second =>
      obtain rfl : [first, second] = elements := by simpa [tupleElements?] using found
      simpa using termRespects
  | _ => simp [tupleElements?] at found

theorem Respects.sequenceElements
    (respects : store.Respects property)
    {term : Term}
    {elements : List Term}
    (found : store.sequenceElements? term = some elements) :
    ∀ element ∈ elements, element.Respects property := by
  cases term with
  | list cell =>
      obtain rfl : (store.elements cell).toList = elements := by
        simpa [sequenceElements?] using found
      exact respects.elements cell
  | tuple cell =>
      obtain rfl : (store.elements cell).toList = elements := by
        simpa [sequenceElements?] using found
      exact respects.elements cell
  | _ => simp [sequenceElements?] at found

theorem Respects.member
    (respects : store.Respects property)
    {template : Option Template}
    {memory : CellRef}
    {name : String}
    {value : Term}
    (found : store.member? template memory name = some value) :
    value.Respects property := by
  simp only [member?, Option.bind_eq_bind, Option.bind_eq_some_iff] at found
  obtain ⟨_, _, _, _, held⟩ := found
  exact respects.cells memory value (Array.mem_of_getElem? held)

end Store

namespace Action.Lawful

/-- What is found at a site respects the property. -/
theorem find
    {property : StackProperty}
    {site : Site}
    (respects : site.Respects property) :
    Lawful property (Action.find site) (Term.Respects property) :=
  store.bind fun _ storeRespects => pure (storeRespects.find respects)

end Action.Lawful

/-- The elements of a term that respects the property stand at sites that do. -/
theorem Store.sites_respect
    {property : StackProperty}
    (store : Store)
    {term : Term}
    (respects : term.Respects property) :
    ∀ site ∈ store.sites term, site.Respects property := by
  have places : ∀ cell, ∀ site ∈ store.places cell, site.Respects property :=
    fun _ => forall_mem_places fun _ => trivial
  cases term with
  | list cell => exact places cell
  | tuple cell => exact places cell
  | pair first second => simpa [sites] using respects
  | object owner memory => exact places memory
  | _ => simp [sites]

/-- Registered code respects the property. -/
theorem Machine.Respects.code
    {property : StackProperty}
    {machine : Machine}
    (respects : machine.Respects property)
    {name : String}
    {code : Code}
    (registered : machine.dispatch.get? name = some code) :
    code.Respects property := by
  obtain ⟨before, after, same, _⟩ := List.lookup_eq_some_iff.mp registered
  exact respects.dispatch (name, code) (by simp [same])

end PatternMachine
