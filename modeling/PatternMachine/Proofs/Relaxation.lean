import PatternMachine.Proofs.Congruence.Evaluation
import PatternMachine.Proofs.Lawful.Match
import PatternMachine.Proofs.Calling

/-!
# Runs under looser settings

The same actions are run twice, under strict settings and under looser ones. As long as
the strict settings do not cut the run short, both runs do the same and leave machines
that differ in their settings only. Nothing in a program swallows such a cut, and that
the looser run went beyond the strict settings can still be seen when it ends.
-/

namespace PatternMachine

/-! ## The most calls in progress at once -/

namespace Action

variable {α β : Type}

/-- However the action ends, it does not lower the most calls that have been in progress
at once. -/
def Deepens (action : Action α) : Prop :=
  ∀ machine, machine.deepest ≤ (action.after machine).deepest

namespace Deepens

/-- What leaves the number alone does not lower it. -/
theorem of_eq
    {action : Action α}
    (same : ∀ machine, (action.after machine).deepest = machine.deepest) :
    Deepens action :=
  fun machine => Nat.le_of_eq (same machine).symm

/-- What is done next does not lower it either. -/
theorem after_le
    {action : Action α}
    {next : α -> Action β}
    (deepens : ∀ value, Deepens (next value))
    (machine : Machine) :
    (action.after machine).deepest ≤ ((action >>= next).after machine).deepest := by
  rw [after_bind]
  unfold after
  cases action machine with
  | ok value middle => exact deepens value middle
  | error stop middle => exact Nat.le_refl _

theorem bind
    {action : Action α}
    {next : α -> Action β}
    (first : Deepens action)
    (second : ∀ value, Deepens (next value)) :
    Deepens (action >>= next) :=
  fun machine => Nat.le_trans (first machine) (after_le second machine)

theorem ensuring
    {action : Action α}
    {cleanup : Machine -> Machine}
    (deepens : Deepens action)
    (kept : ∀ machine, (cleanup machine).deepest = machine.deepest) :
    Deepens (Action.ensuring action cleanup) := by
  intro machine
  rw [after_ensuring, kept]
  exact deepens machine

end Deepens
end Action

/-! ## Comparing the two runs -/

/-- Looser settings, and what becomes of a run that the strict ones cut short. -/
structure Relaxation where
  /-- The looser settings. -/
  loosen : Settings -> Settings
  /-- What holds of the machine while the run is not cut short. -/
  strict : Machine -> Prop
  /-- How the run can be cut short. -/
  cuts : Stop -> Prop
  /-- What is seen of the looser run if the strict one was cut short. -/
  exceeded : Machine -> Prop
  strict_of_eq : ∀ {machine after : Machine}, after.settings = machine.settings ->
    after.deepest = machine.deepest -> strict machine -> strict after
  exceeded_of_le : ∀ {machine after : Machine}, machine.deepest ≤ after.deepest ->
    exceeded machine -> exceeded after
  cuts_locate : ∀ {stop : Stop} (position : Position), cuts stop -> cuts (stop.locate position)
  not_isMatchFailure : ∀ {stop : Stop} (store : Store), cuts stop ->
    stop.isMatchFailure store = false

namespace Relaxation

variable {α β : Type} {relaxation : Relaxation}

/-- What a machine holds about the run, with the looser settings. -/
def looseSide (relaxation : Relaxation) (side : Machine.Side) : Machine.Side :=
  { side with settings := relaxation.loosen side.settings }

/-- The machine under the looser settings. -/
def loose (relaxation : Relaxation) (machine : Machine) : Machine :=
  machine.aside (relaxation.looseSide machine.side)

/-- How a run and the looser one end, from the given machine on: they end alike, or the
run was cut short. -/
inductive Compares (relaxation : Relaxation) (action other : Action α) (machine : Machine) :
    Prop
  | ok {value : α} {after : Machine}
      (run : action machine = .ok value after)
      (otherRun : other (relaxation.loose machine) = .ok value (relaxation.loose after))
      (strict : relaxation.strict after)
  | error {stop : Stop} {after : Machine}
      (run : action machine = .error stop after)
      (otherRun : other (relaxation.loose machine) = .error stop (relaxation.loose after))
      (strict : relaxation.strict after)
  | cut {stop : Stop} {after : Machine}
      (run : action machine = .error stop after)
      (cuts : relaxation.cuts stop)
      (exceeded : relaxation.exceeded (other.after (relaxation.loose machine)))

/-- The actions are the same under the looser settings, unless they are cut short. -/
structure Relates (relaxation : Relaxation) (action other : Action α) : Prop where
  deepens : other.Deepens
  compares : ∀ machine, relaxation.strict machine -> relaxation.Compares action other machine

/-- What is seen of an action is seen of one that goes at least as deep. -/
theorem exceeded_of_after_le
    {first : Action α}
    {second : Action β}
    {machine : Machine}
    (exceeded : relaxation.exceeded (first.after machine))
    (deeper : (first.after machine).deepest ≤ (second.after machine).deepest) :
    relaxation.exceeded (second.after machine) :=
  relaxation.exceeded_of_le deeper exceeded

namespace Compares

theorem bind
    {action other : Action α}
    {next otherNext : α -> Action β}
    {machine : Machine}
    (first : relaxation.Compares action other machine)
    (second : ∀ value, relaxation.Relates (next value) (otherNext value)) :
    relaxation.Compares (action >>= next) (other >>= otherNext) machine := by
  cases first with
  | error run otherRun strict =>
      exact .error (by rw [Action.bind_apply, run]) (by rw [Action.bind_apply, otherRun]) strict
  | cut run cuts exceeded =>
      -- What the looser run does next cannot hide that it went further.
      have deeper : (other.after (relaxation.loose machine)).deepest ≤
          ((other >>= otherNext).after (relaxation.loose machine)).deepest :=
        Action.Deepens.after_le (fun value => (second value).deepens) _
      exact .cut (by rw [Action.bind_apply, run]) cuts (exceeded_of_after_le exceeded deeper)
  | @ok value after run otherRun strict =>
      have started : (action >>= next) machine = next value after := by
        rw [Action.bind_apply, run]
      have otherStarted : (other >>= otherNext) (relaxation.loose machine) =
          otherNext value (relaxation.loose after) := by
        rw [Action.bind_apply, otherRun]
      cases (second value).compares after strict with
      | ok run otherRun strict =>
          exact .ok (started.trans run) (otherStarted.trans otherRun) strict
      | error run otherRun strict =>
          exact .error (started.trans run) (otherStarted.trans otherRun) strict
      | cut run cuts exceeded =>
          refine .cut (started.trans run) cuts ?_
          rw [Action.after_bind, otherRun]
          exact exceeded

/-- Cleaning up touches neither the settings nor the most calls in progress at once. -/
theorem ensuring
    {action other : Action α}
    {cleanup : Machine -> Machine}
    {machine : Machine}
    (compares : relaxation.Compares action other machine)
    (loosened : ∀ machine, cleanup (relaxation.loose machine) =
      relaxation.loose (cleanup machine))
    (settings : ∀ machine, (cleanup machine).settings = machine.settings)
    (deepest : ∀ machine, (cleanup machine).deepest = machine.deepest) :
    relaxation.Compares (Action.ensuring action cleanup) (Action.ensuring other cleanup)
      machine := by
  have kept : ∀ {after}, relaxation.strict after -> relaxation.strict (cleanup after) :=
    fun {after} => relaxation.strict_of_eq (settings after) (deepest after)
  cases compares with
  | ok run otherRun strict =>
      refine .ok (by rw [Action.ensuring_apply, run]) ?_ (kept strict)
      rw [Action.ensuring_apply, otherRun, ← loosened]
  | error run otherRun strict =>
      refine .error (by rw [Action.ensuring_apply, run]) ?_ (kept strict)
      rw [Action.ensuring_apply, otherRun, ← loosened]
  | cut run cuts exceeded =>
      refine .cut (by rw [Action.ensuring_apply, run]) cuts (exceeded_of_after_le exceeded ?_)
      exact Nat.le_of_eq (by rw [Action.after_ensuring, deepest])

/-- A run that is not cut short is the looser run. -/
theorem eq_of_not_cuts
    {action other : Action α}
    {machine : Machine}
    (compares : relaxation.Compares action other machine)
    (finished : ∀ stop after, action machine = .error stop after -> ¬ relaxation.cuts stop) :
    other (relaxation.loose machine) = Action.ensuring action relaxation.loose machine := by
  rw [Action.ensuring_apply]
  cases compares with
  | ok run otherRun => rw [run, otherRun]
  | error run otherRun => rw [run, otherRun]
  | cut run cuts => exact absurd cuts (finished _ _ run)

end Compares

namespace Relates

/-- A plain action is the same under the looser settings. -/
theorem plain
    {action : Action α}
    (plain : Action.IsPlain action) :
    relaxation.Relates action action where
  deepens := .of_eq fun machine => by
    obtain ⟨value, after, run, _⟩ := plain machine
    rw [Action.after_ok run]
    exact congrArg Machine.Side.deepest (plain.side run)
  compares machine strict := by
    obtain ⟨value, after, run, aside⟩ := plain machine
    have same := plain.side run
    refine .ok run ?_ (relaxation.strict_of_eq (congrArg Machine.Side.settings same)
      (congrArg Machine.Side.deepest same) strict)
    rw [loose, aside, loose, same]

/-- The machine is looked at, but not its settings. -/
theorem look
    {action : Action α}
    (view : Machine -> α)
    (looks : ∀ machine, action machine = .ok (view machine) machine)
    (same : ∀ machine, view (relaxation.loose machine) = view machine) :
    relaxation.Relates action action where
  deepens := .of_eq fun machine => by rw [Action.after_ok (looks machine)]
  compares machine strict := .ok (looks machine) (by rw [looks, same]) strict

theorem pure (value : α) : relaxation.Relates (Pure.pure value) (Pure.pure value) :=
  plain .pure

theorem follows (body : String) :
    relaxation.Relates (Action.follows body) (Action.follows body) :=
  look (fun machine => machine.tracer.follows body) (fun _ => rfl) fun _ => rfl

theorem seesQuotes : relaxation.Relates Action.ignoresQuotes Action.ignoresQuotes :=
  look (fun machine => machine.ignoreQuote) (fun _ => rfl) fun _ => rfl

theorem setsQuotes (ignored : Bool) :
    relaxation.Relates (modify fun machine => { machine with ignoreQuote := ignored })
      (modify fun machine => { machine with ignoreQuote := ignored }) where
  deepens := .of_eq fun _ => rfl
  compares _ strict := .ok rfl rfl (relaxation.strict_of_eq (by rfl) (by rfl) strict)

theorem throw (stop : Stop) :
    relaxation.Relates (MonadExcept.throw stop : Action α) (MonadExcept.throw stop) where
  deepens := .of_eq fun _ => rfl
  compares _ strict := .error rfl rfl strict

theorem raise (payload : Payload) :
    relaxation.Relates (Action.raisePayload payload : Action α)
      (Action.raisePayload payload) where
  deepens := .of_eq fun _ => rfl
  compares _ strict := .error rfl rfl strict

theorem bind
    {action other : Action α}
    {next otherNext : α -> Action β}
    (first : relaxation.Relates action other)
    (second : ∀ value, relaxation.Relates (next value) (otherNext value)) :
    relaxation.Relates (action >>= next) (other >>= otherNext) where
  deepens := first.deepens.bind fun value => (second value).deepens
  compares machine strict := (first.compares machine strict).bind second

theorem ite
    {condition : Prop}
    [Decidable condition]
    {first second firstOther secondOther : Action α}
    (whenTrue : relaxation.Relates first firstOther)
    (whenFalse : relaxation.Relates second secondOther) :
    relaxation.Relates (if condition then first else second)
      (if condition then firstOther else secondOther) := by
  by_cases decided : condition
  · simpa only [if_pos decided] using whenTrue
  · simpa only [if_neg decided] using whenFalse

theorem ensuring
    {action other : Action α}
    {cleanup : Machine -> Machine}
    (related : relaxation.Relates action other)
    (loosened : ∀ machine, cleanup (relaxation.loose machine) =
      relaxation.loose (cleanup machine))
    (settings : ∀ machine, (cleanup machine).settings = machine.settings)
    (deepest : ∀ machine, (cleanup machine).deepest = machine.deepest) :
    relaxation.Relates (Action.ensuring action cleanup) (Action.ensuring other cleanup) where
  deepens := related.deepens.ensuring deepest
  compares machine strict :=
    (related.compares machine strict).ensuring loosened settings deepest

theorem located
    {action other : Action α}
    (related : relaxation.Relates action other) :
    relaxation.Relates (Action.located action) (Action.located other) where
  deepens machine := by
    rw [Action.after_located]
    exact related.deepens machine
  compares machine strict := by
    cases related.compares machine strict with
    | ok run otherRun strict =>
        exact .ok (by rw [Action.located_apply, run]) (by rw [Action.located_apply, otherRun])
          strict
    | @error stop after run otherRun strict =>
        have located : Action.located action machine =
            .error (stop.locate after.position) after := by
          rw [Action.located_apply, run]
        have otherLocated : Action.located other (relaxation.loose machine) =
            .error (stop.locate after.position) (relaxation.loose after) := by
          rw [Action.located_apply, otherRun]
          rfl
        exact .error located otherLocated strict
    | @cut stop after run cuts exceeded =>
        refine .cut (by rw [Action.located_apply, run]) (relaxation.cuts_locate _ cuts) ?_
        rwa [Action.after_located]

/-- A run that is cut short does not look like a failed match. -/
theorem orNoMatch
    {action other : Action α}
    (related : relaxation.Relates action other) :
    relaxation.Relates (Action.orNoMatch action) (Action.orNoMatch other) where
  deepens machine := by
    rw [Action.after_orNoMatch]
    exact related.deepens machine
  compares machine strict := by
    cases related.compares machine strict with
    | ok run otherRun strict =>
        exact .ok (by rw [Action.orNoMatch_apply, run])
          (by rw [Action.orNoMatch_apply, otherRun]) strict
    | @error stop after run otherRun strict =>
        have same : (relaxation.loose after).store = after.store := rfl
        cases failed : stop.isMatchFailure after.store with
        | true =>
            have unmatched : Action.orNoMatch action machine = .ok none after := by
              simp only [Action.orNoMatch_apply, run, failed, if_true]
            have otherUnmatched : Action.orNoMatch other (relaxation.loose machine) =
                .ok none (relaxation.loose after) := by
              simp only [Action.orNoMatch_apply, otherRun, same, failed, if_true]
            exact .ok unmatched otherUnmatched strict
        | false =>
            have passed : Action.orNoMatch action machine = .error stop after := by
              simp [Action.orNoMatch_apply, run, failed]
            have otherPassed : Action.orNoMatch other (relaxation.loose machine) =
                .error stop (relaxation.loose after) := by
              simp [Action.orNoMatch_apply, otherRun, same, failed]
            exact .error passed otherPassed strict
    | @cut stop after run cuts exceeded =>
        have failed := relaxation.not_isMatchFailure after.store cuts
        have passed : Action.orNoMatch action machine = .error stop after := by
          simp [Action.orNoMatch_apply, run, failed]
        exact .cut passed cuts (by rwa [Action.after_orNoMatch])

/-- Whether patterns may bind a name twice is the same under the looser settings. -/
theorem checkLinear
    (same : ∀ settings,
      (relaxation.loosen settings).allowNonLinear = settings.allowNonLinear)
    (mode : Mode)
    (bindings : List Binding) :
    relaxation.Relates (Evaluator.checkLinear mode bindings)
      (Evaluator.checkLinear mode bindings) where
  deepens := .of_eq fun machine => by
    rcases Evaluator.checkLinear_apply mode bindings machine with passed | ⟨message, refused⟩
    · rw [Action.after_ok passed]
    · rw [Action.after_error refused]
  compares machine strict := by
    have loosely := Evaluator.checkLinear_congr machine (relaxation.loose machine)
      (same machine.settings) rfl mode bindings
    rcases Evaluator.checkLinear_apply mode bindings machine with passed | ⟨message, refused⟩
    · rw [passed] at loosely
      exact .ok passed loosely strict
    · rw [refused] at loosely
      exact .error refused loosely strict

/-! ## Calls -/

theorem deepest_noting (machine : Machine) (event : TraceEvent) :
    (machine.noting event).deepest = machine.deepest := by
  unfold Machine.noting
  split <;> rfl

theorem settings_noting (machine : Machine) (event : TraceEvent) :
    (machine.noting event).settings = machine.settings := by
  unfold Machine.noting
  split <;> rfl

theorem noting_loose (machine : Machine) (event : TraceEvent) :
    (relaxation.loose machine).noting event = relaxation.loose (machine.noting event) := by
  unfold Machine.noting
  split <;> rename_i recorded
  · rw [if_pos (show machine.tracer.records event = true from recorded)]
    rfl
  · rw [if_neg (show ¬ machine.tracer.records event = true from recorded)]

theorem deepest_notingStop (machine : Machine) (body : String) (stop : Stop) :
    (machine.notingStop body stop).deepest = machine.deepest := by
  cases stop with
  | raised exception => exact deepest_noting _ _
  | fatal message => rfl
  | exhausted => rfl

theorem settings_notingStop (machine : Machine) (body : String) (stop : Stop) :
    (machine.notingStop body stop).settings = machine.settings := by
  cases stop with
  | raised exception => exact settings_noting _ _
  | fatal message => rfl
  | exhausted => rfl

theorem notingStop_loose (machine : Machine) (body : String) (stop : Stop) :
    (relaxation.loose machine).notingStop body stop =
      relaxation.loose (machine.notingStop body stop) := by
  cases stop with
  | raised exception => exact noting_loose _ _
  | fatal message => rfl
  | exhausted => rfl

/-- A note that does not depend on the settings. -/
theorem note
    {action : Action Unit}
    (event : Machine -> TraceEvent)
    (notes : ∀ machine, action machine = .ok () (machine.noting (event machine)))
    (same : ∀ machine, event (relaxation.loose machine) = event machine) :
    relaxation.Relates action action where
  deepens := .of_eq fun machine => by rw [Action.after_ok (notes machine), deepest_noting]
  compares machine strict := by
    refine .ok (notes machine) ?_ ?_
    · rw [notes, same, noting_loose]
    · exact relaxation.strict_of_eq (settings_noting _ _) (deepest_noting _ _) strict

theorem recordRaised
    {action other : Action Term}
    (related : relaxation.Relates action other)
    (body : String) :
    relaxation.Relates (Action.recordRaised body action) (Action.recordRaised body other) where
  deepens machine := by
    refine Nat.le_trans (related.deepens machine) ?_
    unfold Action.after Action.recordRaised
    cases other machine with
    | ok value after => exact Nat.le_refl _
    | error stop after => exact Nat.le_of_eq (deepest_notingStop after body stop).symm
  compares machine strict := by
    cases related.compares machine strict with
    | ok run otherRun strict =>
        exact .ok (by rw [Action.recordRaised, run]) (by rw [Action.recordRaised, otherRun])
          strict
    | @error stop after run otherRun strict =>
        have recorded : Action.recordRaised body action machine =
            .error stop (after.notingStop body stop) := by
          rw [Action.recordRaised, run]
        have otherRecorded : Action.recordRaised body other (relaxation.loose machine) =
            .error stop (relaxation.loose (after.notingStop body stop)) := by
          rw [Action.recordRaised, otherRun]
          exact congrArg (EStateM.Result.error stop) (notingStop_loose after body stop)
        exact .error recorded otherRecorded (relaxation.strict_of_eq (settings_notingStop _ _ _)
          (deepest_notingStop _ _ _) strict)
    | cut run cuts exceeded =>
        refine .cut (by rw [Action.recordRaised, run]) cuts (exceeded_of_after_le exceeded ?_)
        unfold Action.after Action.recordRaised
        cases other (relaxation.loose machine) with
        | ok value after => exact Nat.le_refl _
        | error stop after => exact Nat.le_of_eq (deepest_notingStop after body stop).symm

theorem whenFollowed
    {note : Action Unit}
    (followed : Bool)
    (related : relaxation.Relates note note) :
    relaxation.Relates (Action.whenFollowed followed note)
      (Action.whenFollowed followed note) :=
  .ite related (.pure ())

theorem runTraced
    {self other : Evaluator}
    {code : Code}
    {argument : Term}
    (related : relaxation.Relates (self.runCode code argument) (other.runCode code argument))
    (body : String) :
    relaxation.Relates (self.runTraced body code argument)
      (other.runTraced body code argument) := by
  rw [Evaluator.runTraced_eq, Evaluator.runTraced_eq]
  have called : relaxation.Relates (Action.recordCalled body argument)
      (Action.recordCalled body argument) :=
    note (fun machine => .called body (machine.store.display argument) machine.position)
      (fun _ => rfl) fun _ => rfl
  have returned : ∀ result, relaxation.Relates (Action.recordReturned body result)
      (Action.recordReturned body result) := by
    intro result
    refine note (fun machine =>
      .returned body (if result.isAbsent then "none" else machine.store.display result))
      (fun machine => ?_) fun _ => rfl
    unfold Action.recordReturned
    cases result.isAbsent <;> rfl
  refine (follows body).bind fun followed => (called.whenFollowed followed).bind fun _ => ?_
  refine (related.located.recordRaised body).bind fun result => ?_
  exact ((returned result).whenFollowed followed).bind fun _ => .pure result

theorem enterFunction (captured : Closure) (receiver : Term) :
    relaxation.Relates (Evaluator.enterFunction captured receiver)
      (Evaluator.enterFunction captured receiver) := by
  rcases Evaluator.enterFunction_isPlain captured receiver with ⟨message, fails⟩ | entered
  · rw [fails]
    exact .throw _
  · exact .plain entered

end Relates

/-- What a relaxation says about the two places that consult the settings during a run. -/
structure Sound (relaxation : Relaxation) : Prop where
  checkLinear : ∀ mode bindings, relaxation.Relates (Evaluator.checkLinear mode bindings)
    (Evaluator.checkLinear mode bindings)
  checkDepth : ∀ body machine, relaxation.strict machine ->
    relaxation.Compares (Evaluator.checkDepth body) (Evaluator.checkDepth body)
      machine.beginCall

/-- What a function does once its call is admitted is the same under the looser
settings. -/
theorem Relates.admitted
    {self other : Evaluator}
    {code : Code}
    {argument : Term}
    (related : relaxation.Relates (self.runCode code argument) (other.runCode code argument))
    (caller : Machine)
    (receiver : Term)
    (body : String)
    (closure : Closure) :
    relaxation.Relates
      (Action.ensuring
        (Evaluator.enterFunction closure receiver >>= fun _ =>
          self.runTraced body code argument)
        fun machine => { machine with
          scopes := caller.scopes
          globals := caller.globals
          position := caller.position })
      (Action.ensuring
        (Evaluator.enterFunction closure receiver >>= fun _ =>
          other.runTraced body code argument)
        fun machine => { machine with
          scopes := caller.scopes
          globals := caller.globals
          position := caller.position }) :=
  ((enterFunction closure receiver).bind fun _ => runTraced related body).ensuring
    (fun _ => rfl) (fun _ => rfl) fun _ => rfl

theorem deepens_checkDepth (body : String) : (Evaluator.checkDepth body).Deepens := by
  refine .of_eq fun machine => ?_
  rcases Evaluator.checkDepth_apply body machine with ⟨_, passed⟩ | ⟨_, message, refused⟩
  · rw [Action.after_ok passed]
  · rw [Action.after_error refused]

/-- A call is counted, and the count taken back, under either settings. -/
theorem Sound.call
    (sound : relaxation.Sound)
    {self other : Evaluator}
    {argument : Term}
    (related : ∀ code : Code,
      relaxation.Relates (self.runCode code argument) (other.runCode code argument))
    (receiver : Term)
    (body : String)
    (captured : Option Closure) :
    relaxation.Relates (self.call receiver body captured argument)
      (other.call receiver body captured argument) where
  deepens machine := by
    rcases Evaluator.call_cases machine.dispatch receiver body captured argument with
      ⟨message, refused⟩ | ⟨code, closure, called⟩
    · exact Nat.le_of_eq (by rw [Action.after_error (refused other machine rfl)])
    · have ran : Action.Deepens
          (other.runFunction machine.beginCall receiver body code closure argument) :=
        (deepens_checkDepth body).bind fun _ =>
          (Relates.admitted (related code) machine.beginCall receiver body closure).deepens
      have counted : machine.deepest ≤ machine.beginCall.deepest := Nat.le_max_left _ _
      refine Nat.le_trans counted (Nat.le_trans (ran machine.beginCall) ?_)
      unfold Action.after
      rw [called other machine rfl, Action.ensuring_apply]
      cases other.runFunction machine.beginCall receiver body code closure argument
        machine.beginCall <;> exact Nat.le_refl _
  compares machine strict := by
    rcases Evaluator.call_cases machine.dispatch receiver body captured argument with
      ⟨message, refused⟩ | ⟨code, closure, called⟩
    · exact .error (refused self machine rfl) (refused other _ rfl) strict
    · have admitted := (sound.checkDepth body machine strict).bind fun _ =>
        Relates.admitted (related code) machine.beginCall receiver body closure
      have counted : relaxation.Compares
          (Action.ensuring (self.runFunction machine.beginCall receiver body code closure argument)
            Machine.endCall)
          (Action.ensuring (other.runFunction machine.beginCall receiver body code closure argument)
            Machine.endCall) machine.beginCall :=
        admitted.ensuring (fun _ => rfl) (fun _ => rfl) fun _ => rfl
      have otherCalled := called other (relaxation.loose machine) rfl
      cases counted with
      | ok run otherRun strict =>
          exact .ok ((called self machine rfl).trans run) (otherCalled.trans otherRun) strict
      | error run otherRun strict =>
          exact .error ((called self machine rfl).trans run) (otherCalled.trans otherRun) strict
      | cut run cuts exceeded =>
          refine .cut ((called self machine rfl).trans run) cuts ?_
          unfold Action.after at exceeded ⊢
          rw [otherCalled]
          exact exceeded

/-- Whatever is put together from actions that are the same under the looser settings is
the same under them. -/
def congruence (relaxation : Relaxation) (sound : relaxation.Sound) : Congruence where
  Relates := relaxation.Relates
  pure value := .pure value
  bind first second := first.bind second
  raise payload := .raise payload
  exhausted := .throw .exhausted
  update plain := .plain (.update plain)
  follows body := .follows body
  remark {event} _ := .note (fun _ => event) (fun _ => rfl) fun _ => rfl
  ensuring related tidy := related.ensuring
    (fun machine => by rw [loose, tidy.plain, loose, tidy.side])
    (fun machine => congrArg Machine.Side.settings (tidy.side machine))
    fun machine => congrArg Machine.Side.deepest (tidy.side machine)
  ignoringQuotes related :=
    (Relates.seesQuotes).bind fun _ => (Relates.setsQuotes true).bind fun _ =>
      related.ensuring (fun _ => rfl) (fun _ => rfl) fun _ => rfl
  located related := related.located
  orNoMatch related := related.orNoMatch
  checkLinear mode bindings := sound.checkLinear mode bindings
  call receiver body captured _ related := sound.call related receiver body captured

/-- Whatever is evaluated is the same under the looser settings. -/
theorem Sound.within
    (sound : relaxation.Sound)
    (depth : Nat) :
    Evaluator.Related (relaxation.congruence sound) (.within depth) (.within depth) :=
  Evaluator.within_related Relates.seesQuotes depth

end Relaxation
end PatternMachine
