import PatternMachine.Machine

/-!
# Running actions

What each way of building an action does when it is run on a machine.
-/

namespace PatternMachine

/-- A stop with the position recorded where it is left, if it is an error. -/
def Stop.locate (position : Position) : Stop -> Stop
  | .raised exception => .raised (exception.locate position)
  | stop => stop

/-- Whether a stop says that a pattern did not match. -/
def Stop.isMatchFailure (store : Store) : Stop -> Bool
  | .raised exception => store.isMatchFailure exception.payload
  | _ => false

namespace Action

variable {α β : Type}

@[simp] theorem pure_apply (value : α) (machine : Machine) :
    (pure value : Action α) machine = .ok value machine := rfl

/-- A sequence of two actions stops where its first action stops. -/
theorem bind_apply
    (action : Action α)
    (next : α -> Action β)
    (machine : Machine) :
    (action >>= next) machine =
      match action machine with
      | .ok value after => next value after
      | .error stop after => .error stop after := by
  change EStateM.bind action next machine = _
  unfold EStateM.bind
  split <;> simp_all

/-- A sequence of two actions comes to an end if both of them do. -/
theorem bind_eq_ok
    {action : Action α}
    {next : α -> Action β}
    {machine after : Machine}
    {result : β} :
    (action >>= next) machine = .ok result after ↔
      ∃ value middle, action machine = .ok value middle ∧ next value middle = .ok result after := by
  rw [bind_apply]
  cases action machine with
  | ok value middle =>
      refine ⟨fun run => ⟨value, middle, rfl, run⟩, ?_⟩
      rintro ⟨_, _, started, run⟩
      cases started
      exact run
  | error stop middle => simp

@[simp] theorem get_apply (machine : Machine) :
    (get : Action Machine) machine = .ok machine machine := rfl

@[simp] theorem modify_apply (change : Machine -> Machine) (machine : Machine) :
    (modify change : Action Unit) machine = .ok () (change machine) := rfl

@[simp] theorem modifyGet_apply
    (change : Machine -> α × Machine)
    (machine : Machine) :
    (modifyGet change : Action α) machine =
      .ok (change machine).1 (change machine).2 := rfl

@[simp] theorem throw_apply (stop : Stop) (machine : Machine) :
    (throw stop : Action α) machine = .error stop machine := rfl

@[simp] theorem raise_apply
    (kind : ErrorKind)
    (message : String)
    (machine : Machine) :
    (raise kind message : Action α) machine =
      .error (.raised ⟨⟨.standard kind message, none⟩, machine.position⟩) machine := rfl

@[simp] theorem store_apply (machine : Machine) :
    store machine = .ok machine.store machine := rfl

theorem find_apply (site : Site) (machine : Machine) :
    Action.find site machine = .ok (machine.store.find site) machine := rfl

/-- A term at hand need not be looked up. -/
@[simp] theorem find_given (term : Term) : Action.find (.given term) = pure term := rfl

theorem finitely_apply (look : Store -> Option α) (machine : Machine) :
    finitely look machine =
      match look machine.store with
      | some answer => .ok answer machine
      | none => .error .exhausted machine := by
  unfold finitely
  rw [bind_apply, store_apply]
  dsimp only
  cases look machine.store <;> rfl

@[simp] theorem caption_apply (term : Term) (machine : Machine) :
    caption term machine = .ok (machine.store.display term) machine := rfl

theorem newIdentifier_apply (name : String) (machine : Machine) :
    newIdentifier name machine =
      .ok (.identifier name) { machine with tally := machine.tally.count .identifier } := rfl

/-- Making an integer changes the counts of allocations only. -/
theorem newInteger_counts (value : Int64) (machine : Machine) :
    ∃ tally, newInteger value machine = .ok (.integer value) { machine with tally := tally } := by
  unfold newInteger
  split
  · exact ⟨machine.tally, rfl⟩
  · exact ⟨_, rfl⟩

theorem newInteger_apply (value : Int64) (machine : Machine) :
    ∃ after, newInteger value machine = .ok (.integer value) after := by
  obtain ⟨_, made⟩ := newInteger_counts value machine
  exact ⟨_, made⟩

/-- Making a text changes the counts of allocations only. -/
theorem newText_apply (value : String) (machine : Machine) :
    newText value machine =
      .ok (.text value) { machine with tally := machine.tally.count .text } := rfl

theorem newList_apply (elements : List Term) (machine : Machine) :
    newList elements machine =
      .ok (.list (machine.store.newCell elements.toArray).1)
        { machine with
          tally := machine.tally.count .list
          store := (machine.store.newCell elements.toArray).2 } := rfl

theorem ensuring_apply
    (action : Action α)
    (cleanup : Machine -> Machine)
    (machine : Machine) :
    ensuring action cleanup machine =
      match action machine with
      | .ok value after => .ok value (cleanup after)
      | .error stop after => .error stop (cleanup after) := rfl

theorem located_apply (action : Action α) (machine : Machine) :
    located action machine =
      match action machine with
      | .ok value after => .ok value after
      | .error stop after => .error (stop.locate after.position) after := by
  unfold located
  cases action machine with
  | ok value after => rfl
  | error stop after => cases stop <;> rfl

theorem orNoMatch_apply (action : Action α) (machine : Machine) :
    orNoMatch action machine =
      match action machine with
      | .ok value after => .ok (some value) after
      | .error stop after =>
          if stop.isMatchFailure after.store then .ok none after else .error stop after := by
  unfold orNoMatch
  cases action machine with
  | ok value after => rfl
  | error stop after => cases stop <;> rfl

/-- Run an action and use its result; an error that was raised is an answer. -/
def rescue (action : Action α) (handle : Raised -> β) (next : α -> Action β) : Action β :=
  fun machine =>
    match action machine with
    | .ok value after => next value after
    | .error (.raised exception) after => .ok (handle exception) after
    | .error stop after => .error stop after

/-- Run an action; an error that was raised is an answer. -/
def attempt (action : Action α) : Action (Except Raised α) := fun machine =>
  match action machine with
  | .ok value after => .ok (.ok value) after
  | .error (.raised exception) after => .ok (.error exception) after
  | .error stop after => .error stop after

/-- What is done after an attempt depends on its answer. -/
theorem rescue_eq
    (action : Action α)
    (handle : Raised -> β)
    (next : α -> Action β) :
    action.rescue handle next =
      action.attempt >>= fun
        | .ok value => next value
        | .error exception => pure (handle exception) := by
  funext machine
  rw [bind_apply]
  unfold rescue attempt
  cases action machine with
  | ok value after => rfl
  | error stop after => cases stop <;> rfl

/-- The machine an action leaves behind, whether it yields a result or stops. -/
def after (action : Action α) (machine : Machine) : Machine :=
  match action machine with
  | .ok _ final => final
  | .error _ final => final

theorem after_ok
    {action : Action α}
    {machine final : Machine}
    {value : α}
    (run : action machine = .ok value final) :
    action.after machine = final := by
  simp [after, run]

theorem after_error
    {action : Action α}
    {machine final : Machine}
    {stop : Stop}
    (run : action machine = .error stop final) :
    action.after machine = final := by
  simp [after, run]

theorem after_bind
    (action : Action α)
    (next : α -> Action β)
    (machine : Machine) :
    (action >>= next).after machine =
      match action machine with
      | .ok value middle => (next value).after middle
      | .error _ middle => middle := by
  unfold after
  rw [bind_apply]
  cases action machine <;> rfl

/-- A look at the store leaves the machine as it is, whatever it finds. -/
theorem after_finitely (look : Store -> Option α) (machine : Machine) :
    (finitely look).after machine = machine := by
  unfold after
  rw [finitely_apply]
  cases look machine.store <;> rfl

theorem after_attempt (action : Action α) (machine : Machine) :
    action.attempt.after machine = action.after machine := by
  unfold after attempt
  cases action machine with
  | ok value final => rfl
  | error stop final => cases stop <;> rfl

theorem after_ensuring
    (action : Action α)
    (cleanup : Machine -> Machine)
    (machine : Machine) :
    (ensuring action cleanup).after machine = cleanup (action.after machine) := by
  unfold after
  rw [ensuring_apply]
  cases action machine <;> rfl

theorem after_located (action : Action α) (machine : Machine) :
    (located action).after machine = action.after machine := by
  unfold after
  rw [located_apply]
  cases action machine <;> rfl

theorem after_orNoMatch (action : Action α) (machine : Machine) :
    (orNoMatch action).after machine = action.after machine := by
  unfold after
  rw [orNoMatch_apply]
  cases action machine with
  | ok value final => rfl
  | error stop final =>
      dsimp only
      split <;>
      · rename_i same
        split at same <;> cases same
        rfl

/-- A failed match leaves the machine as the attempt left it. -/
theorem after_of_orNoMatch_none
    {action : Action α}
    {machine final : Machine}
    (failed : orNoMatch action machine = .ok none final) :
    action.after machine = final := by
  rw [← after_orNoMatch, after_ok failed]

end Action
end PatternMachine
