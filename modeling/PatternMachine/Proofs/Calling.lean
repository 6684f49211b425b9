import PatternMachine.Proofs.Congruence

/-!
# What a call does step by step

A call is counted, and then refused if too many are in progress. A function is entered
by a plain change of the machine, unless it captured nothing to enter. Its code is run
between two notes in the trace, one of the call and one of its return. An error that
leaves the code is noted instead of a return.
-/

namespace PatternMachine

/-- There is a limit on calls, and more are in progress. -/
def Machine.ExceedsDepth (machine : Machine) : Prop :=
  0 < machine.settings.maxDepth ∧ machine.settings.maxDepth < machine.callDepth

/-- The machine with an event in its trace, if the event is recorded. -/
def Machine.noting (machine : Machine) (event : TraceEvent) : Machine :=
  if machine.tracer.records event then { machine with trace := machine.trace.push event }
  else machine

theorem Machine.noting_of_records
    {machine : Machine}
    {event : TraceEvent}
    (recorded : machine.tracer.records event = true) :
    machine.noting event = { machine with trace := machine.trace.push event } :=
  if_pos recorded

theorem Machine.noting_of_not_records
    {machine : Machine}
    {event : TraceEvent}
    (unrecorded : machine.tracer.records event = false) :
    machine.noting event = machine :=
  if_neg (by simp [unrecorded])

/-- What is traced is the same after a note. -/
theorem Machine.tracer_noting (machine : Machine) (event : TraceEvent) :
    (machine.noting event).tracer = machine.tracer := by
  unfold noting
  split <;> rfl

/-- The machine with a note of an error that leaves a body. -/
def Machine.notingStop (machine : Machine) (body : String) : Stop -> Machine
  | .raised exception =>
      machine.noting (.raised body (machine.store.errorText exception.payload))
  | _ => machine

namespace Action

variable {α β : Type}

/-- The action always comes to an end, and has nothing to do with what the machine holds
about the run. -/
def IsPlain (action : Action α) : Prop :=
  ∀ machine, ∃ value after, action machine = .ok value after ∧
    ∀ side, action (machine.aside side) = .ok value (after.aside side)

namespace IsPlain

theorem update {change : Machine -> α × Machine} (plain : Plain change) :
    IsPlain (modifyGet change) := by
  intro machine
  refine ⟨_, _, modifyGet_apply change machine, fun side => ?_⟩
  rw [modifyGet_apply, plain]

theorem pure {value : α} : IsPlain (Pure.pure value) :=
  fun machine => ⟨value, machine, rfl, fun _ => rfl⟩

theorem bind
    {action : Action α}
    {next : α -> Action β}
    (first : IsPlain action)
    (second : ∀ value, IsPlain (next value)) :
    IsPlain (action >>= next) := by
  intro machine
  obtain ⟨value, middle, run, aside⟩ := first machine
  obtain ⟨result, after, nextRun, nextAside⟩ := second value middle
  refine ⟨result, after, ?_, fun side => ?_⟩
  · rw [bind_apply, run]
    exact nextRun
  · rw [bind_apply, aside]
    exact nextAside side

theorem ite
    {condition : Prop}
    [Decidable condition]
    {first second : Action α}
    (whenTrue : IsPlain first)
    (whenFalse : IsPlain second) :
    IsPlain (if condition then first else second) := by
  split
  · exact whenTrue
  · exact whenFalse

/-- What the machine holds about the run is the same afterwards. -/
theorem side
    {action : Action α}
    (plain : IsPlain action)
    {machine after : Machine}
    {value : α}
    (run : action machine = .ok value after) :
    after.side = machine.side := by
  obtain ⟨_, final, ended, aside⟩ := plain machine
  obtain ⟨rfl, rfl⟩ := EStateM.Result.ok.inj (run.symm.trans ended)
  obtain ⟨_, same⟩ := EStateM.Result.ok.inj (run.symm.trans (aside machine.side))
  rw [same]
  rfl

end IsPlain

/-- Run an action; note an error that leaves it. -/
def recordRaised (body : String) (action : Action Term) : Action Term := fun machine =>
  match action machine with
  | .ok value after => .ok value after
  | .error stop after => .error stop (after.notingStop body stop)

theorem recordRaised_apply
    (body : String)
    (action : Action Term)
    (machine : Machine) :
    recordRaised body action machine =
      match action machine with
      | .ok value after => .ok value after
      | .error stop after => .error stop (after.notingStop body stop) := rfl

/-- Note a call. -/
def recordCalled (body : String) (argument : Term) : Action Unit := do
  Action.record (.called body (← Action.caption argument) (← get).position)

/-- Note the return from a call. -/
def recordReturned (body : String) (result : Term) : Action Unit :=
  (if result.isAbsent then pure "none" else Action.caption result) >>= fun shown =>
    Action.record (.returned body shown)

/-- Make a note if calls of the body are traced. -/
def whenFollowed (followed : Bool) (note : Action Unit) : Action Unit :=
  if followed then note else pure ()

end Action

namespace Evaluator

open PatternMachine.Action (IsPlain whenFollowed recordCalled recordRaised recordReturned)

variable {self : Evaluator}

/-! ## Calling and entering a function -/

/-- What a call does once it is counted: the body runs in the captured scopes,
and the caller gets its scopes and its position back. -/
def runFunction (self : Evaluator) (caller : Machine) (receiver : Term) (body : String)
    (code : Code) (captured : Closure) (argument : Term) : Action Term :=
  checkDepth body >>= fun _ =>
    Action.ensuring
      (enterFunction captured receiver >>= fun _ => self.runTraced body code argument)
      fun machine =>
        { machine with
          scopes := caller.scopes
          globals := caller.globals
          position := caller.position }

/-- A call of registered code is counted while the function runs. The stack it
runs on makes no difference. -/
theorem call_apply
    {machine : Machine}
    {body : String}
    {code : Code}
    (registered : machine.dispatch.get? body = some code)
    (receiver : Term)
    (captured : Closure)
    (argument : Term) :
    self.call receiver body (some captured) argument machine =
      Action.ensuring
        (self.runFunction machine.beginCall receiver body code captured argument)
        Machine.endCall machine.beginCall := by
  unfold call
  rw [Action.bind_apply, Action.get_apply]
  simp only [registered]
  rw [Action.bind_apply, Action.modify_apply]
  dsimp only
  rw [Action.bind_apply, Action.get_apply]
  dsimp only
  cases machine.beginCall.callDepth % callsPerStack == 0 <;> rfl

/-- Checking the depth of a call leaves the machine alone. It is refused when there is
a limit and more calls are in progress. -/
theorem checkDepth_apply
    (body : String)
    (machine : Machine) :
    (¬ machine.ExceedsDepth ∧ checkDepth body machine = .ok () machine) ∨
      machine.ExceedsDepth ∧
        ∃ message, checkDepth body machine = .error (.fatal message) machine := by
  unfold checkDepth Machine.ExceedsDepth
  rw [Action.bind_apply, Action.get_apply]
  dsimp only
  split
  · rename_i exceeds
    exact .inr ⟨by simpa using exceeds, _, rfl⟩
  · rename_i within
    exact .inl ⟨by simpa using within, rfl⟩

/-- Whether a call is nested too deeply is told by the limit and the calls in progress,
and what is said then by the position. -/
theorem checkDepth_congr
    (machine other : Machine)
    (limit : other.settings.maxDepth = machine.settings.maxDepth)
    (depth : other.callDepth = machine.callDepth)
    (position : other.position = machine.position)
    (body : String) :
    checkDepth body other =
      match checkDepth body machine with
      | .ok value _ => .ok value other
      | .error stop _ => .error stop other := by
  unfold checkDepth
  simp only [Action.bind_apply, Action.get_apply, limit, depth, position]
  split <;> rfl

theorem enterFunction_bind
    {α : Type}
    (captured : Closure)
    (receiver : Term)
    (next : Action α) :
    (enterFunction captured receiver >>= fun _ => next) =
      Action.install captured >>= fun _ =>
        modify Machine.pushScope >>= fun _ =>
          (if receiver.isAbsent then pure () else Action.bindName "this" receiver) >>= fun _ =>
            next := by
  simp only [enterFunction, bind_assoc]

/-- A call of what is not registered, or captured nothing, is an error. Any other call
is counted while the function runs. Which it is depends on the registered code. -/
theorem call_cases
    (dispatch : Dispatch)
    (receiver : Term)
    (body : String)
    (captured : Option Closure)
    (argument : Term) :
    (∃ message, ∀ (self : Evaluator) (machine : Machine), machine.dispatch = dispatch ->
      self.call receiver body captured argument machine =
        Action.raise .machineError message machine) ∨
    ∃ code closure, ∀ (self : Evaluator) (machine : Machine), machine.dispatch = dispatch ->
      self.call receiver body captured argument machine =
        Action.ensuring (self.runFunction machine.beginCall receiver body code closure argument)
          Machine.endCall machine.beginCall := by
  cases registered : dispatch.get? body with
  | none =>
      refine .inl ⟨"no implementation registered for function " ++ Text.quoted body, ?_⟩
      rintro self machine rfl
      unfold call
      rw [Action.bind_apply, Action.get_apply]
      simp only [registered]
  | some code =>
      cases captured with
      | none =>
          refine .inl ⟨"function " ++ Text.quoted body ++ " has no closure", ?_⟩
          rintro self machine rfl
          unfold call
          rw [Action.bind_apply, Action.get_apply]
          simp only [registered]
      | some closure =>
          refine .inr ⟨code, closure, ?_⟩
          rintro self machine rfl
          exact call_apply registered receiver closure argument

/-- A function is entered by a plain change of the machine, unless it captured no
scopes. -/
theorem enterFunction_isPlain
    (captured : Closure)
    (receiver : Term) :
    (∃ message, enterFunction captured receiver = throw (.fatal message)) ∨
      Action.IsPlain (enterFunction captured receiver) := by
  have entered : Action.IsPlain
      (modify Machine.pushScope >>= fun _ =>
        if receiver.isAbsent then pure () else Action.bindName "this" receiver) :=
    (IsPlain.update fun _ _ => rfl).bind fun _ => .ite .pure (.update (.bindName _ _))
  unfold enterFunction Action.install
  by_cases empty : captured.scopes.isEmpty
  · rw [if_pos empty]
    exact .inl ⟨_, rfl⟩
  · rw [if_neg empty]
    have aligned : ∀ size, Action.IsPlain
        (Action.alignGlobals size captured.globals.toList) :=
      fun _ => .update fun _ _ => rfl
    exact .inr (((aligned _).bind fun _ => .update fun _ _ => rfl).bind fun _ => entered)

/-! ## Running code -/

/-- The note of a call is made if calls of the body are traced. -/
theorem recordCalled_apply
    (body : String)
    (argument : Term)
    (machine : Machine) :
    whenFollowed (machine.tracer.follows body) (recordCalled body argument) machine =
      .ok () (machine.noting (.called body (machine.store.display argument) machine.position)) := by
  have begun : machine.tracer.records
      (.called body (machine.store.display argument) machine.position) =
      machine.tracer.follows body := rfl
  cases followed : machine.tracer.follows body with
  | true => rfl
  | false =>
      rw [Machine.noting_of_not_records (begun.trans followed)]
      rfl

/-- So is the note of a return. -/
theorem recordReturned_apply
    (body : String)
    (result : Term)
    (machine : Machine) :
    ∃ shown,
      whenFollowed (machine.tracer.follows body) (recordReturned body result) machine =
        .ok () (machine.noting (.returned body shown)) := by
  cases followed : machine.tracer.follows body with
  | true =>
      refine ⟨if result.isAbsent then "none" else machine.store.display result, ?_⟩
      unfold whenFollowed recordReturned
      cases result.isAbsent <;> rfl
  | false =>
      have ended : machine.tracer.records (.returned body "") = false := followed
      refine ⟨"", ?_⟩
      rw [Machine.noting_of_not_records ended]
      rfl

/-- An error is noted on its way out, as `runTraced` does it. -/
theorem recordRaised_eq (body : String) (action : Action Term) :
    recordRaised body action = fun machine =>
      match action machine with
      | .error (.raised exception) after =>
          let text := after.store.errorText exception.payload
          match Action.record (.raised body text) after with
          | .ok _ after => .error (.raised exception) after
          | .error stop after => .error stop after
      | outcome => outcome := by
  funext machine
  unfold recordRaised
  cases action machine with
  | ok value after => rfl
  | error stop after => cases stop <;> rfl

/-- Code for a call is run between a note of the call and a note of the return. -/
theorem runTraced_eq
    (self : Evaluator)
    (body : String)
    (code : Code)
    (argument : Term) :
    self.runTraced body code argument =
      Action.follows body >>= fun followed =>
        whenFollowed followed (recordCalled body argument) >>= fun _ =>
          recordRaised body (Action.located (self.runCode code argument)) >>= fun result =>
            whenFollowed followed (recordReturned body result) >>= fun _ => pure result := by
  rw [recordRaised_eq]
  refine bind_congr fun followed => ?_
  cases followed with
  | false => rfl
  | true =>
      simp only [whenFollowed, recordCalled, recordReturned, if_true, bind_assoc]
      refine bind_congr fun shown => bind_congr fun machine => bind_congr fun _ => ?_
      refine bind_congr fun result => ?_
      cases result.isAbsent <;> rfl

end Evaluator
end PatternMachine
