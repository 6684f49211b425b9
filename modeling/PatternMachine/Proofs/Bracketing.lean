import PatternMachine.Proofs.ProgramRun
import PatternMachine.Proofs.Calling

/-!
# Traces are well bracketed

Every call in a trace is closed by one later return from the same body, or by one error
that leaves it, and what is traced in between is well bracketed again. Whether a body is
traced depends on its name and on the tracer alone, and no run changes the tracer: so
the two ends of a call are traced both, or neither of them. An error that is turned into
an answer has by then closed all the calls it left.
-/

namespace PatternMachine

/-- Whether the event ends a call of the body. -/
def TraceEvent.Closes (body : String) : TraceEvent -> Prop
  | returned other _ => other = body
  | raised other _ => other = body
  | _ => False

/-- What closes a call is recorded if the call is. -/
theorem TraceEvent.Closes.records
    {tracer : Tracer}
    {event : TraceEvent}
    {body : String}
    (closes : event.Closes body) :
    tracer.records event = tracer.follows body := by
  cases event with
  | returned other _ => exact congrArg tracer.follows closes
  | raised other _ => exact congrArg tracer.follows closes
  | called _ _ _ => exact closes.elim
  | tried _ _ _ _ => exact closes.elim
  | warned _ => exact closes.elim

namespace Trace

/-- Calls are closed by later events of the same body, innermost first; none is left
open, and nothing is closed that is not open. Remarks may stand anywhere. -/
inductive WellBracketed : List TraceEvent -> Prop
  | nil : WellBracketed []
  | remark {event : TraceEvent} {rest : List TraceEvent}
      (isRemark : event.IsRemark)
      (after : WellBracketed rest) :
      WellBracketed (event :: rest)
  | call {body argument : String} {position : Position} {inside rest : List TraceEvent}
      {closing : TraceEvent}
      (within : WellBracketed inside)
      (closes : closing.Closes body)
      (after : WellBracketed rest) :
      WellBracketed (.called body argument position :: (inside ++ closing :: rest))

theorem WellBracketed.append
    {first second : List TraceEvent}
    (firstBracketed : WellBracketed first)
    (secondBracketed : WellBracketed second) :
    WellBracketed (first ++ second) := by
  induction firstBracketed with
  | nil => exact secondBracketed
  | remark isRemark _ inductionHypothesis => exact .remark isRemark inductionHypothesis
  | call within closes _ _ inductionHypothesis =>
      rw [List.cons_append, List.append_assoc, List.cons_append]
      exact .call within closes inductionHypothesis

/-! ## Checking a trace from left to right -/

/-- The open calls, innermost first, once a call of the body is closed; nothing if that
is not the innermost one. -/
def closeCall (body : String) : List String -> Option (List String)
  | [] => none
  | innermost :: outer => if innermost = body then some outer else none

/-- The calls that are open after the events, if every event closes the innermost one. -/
def openCalls : List TraceEvent -> List String -> Option (List String)
  | [], opened => some opened
  | .called body _ _ :: rest, opened => openCalls rest (body :: opened)
  | .returned body _ :: rest, opened => (closeCall body opened).bind (openCalls rest)
  | .raised body _ :: rest, opened => (closeCall body opened).bind (openCalls rest)
  | .tried _ _ _ _ :: rest, opened => openCalls rest opened
  | .warned _ :: rest, opened => openCalls rest opened

theorem closeCall_self (body : String) (outer : List String) :
    closeCall body (body :: outer) = some outer :=
  if_pos rfl

theorem eq_cons_of_closeCall
    {body : String}
    {opened outer : List String}
    (closed : closeCall body opened = some outer) :
    opened = body :: outer := by
  cases opened with
  | nil => cases closed
  | cons innermost rest =>
      rw [closeCall] at closed
      split at closed
      · rename_i same
        rw [same, Option.some.inj closed]
      · cases closed

theorem openCalls_remark
    {event : TraceEvent}
    (isRemark : event.IsRemark)
    (rest : List TraceEvent) :
    openCalls (event :: rest) = openCalls rest := by
  cases event with
  | tried _ _ _ _ => rfl
  | warned _ => rfl
  | called _ _ _ => exact isRemark.elim
  | returned _ _ => exact isRemark.elim
  | raised _ _ => exact isRemark.elim

theorem openCalls_closing
    {event : TraceEvent}
    {body : String}
    (closes : event.Closes body)
    (rest : List TraceEvent)
    (opened : List String) :
    openCalls (event :: rest) opened = (closeCall body opened).bind (openCalls rest) := by
  cases event with
  | returned other _ => obtain rfl : other = body := closes; rfl
  | raised other _ => obtain rfl : other = body := closes; rfl
  | called _ _ _ => exact closes.elim
  | tried _ _ _ _ => exact closes.elim
  | warned _ => exact closes.elim

theorem openCalls_append
    (first second : List TraceEvent)
    (opened : List String) :
    openCalls (first ++ second) opened = (openCalls first opened).bind (openCalls second) := by
  induction first generalizing opened with
  | nil => rfl
  | cons event rest inductionHypothesis =>
      have popped : ∀ outer : Option (List String), outer.bind (openCalls (rest ++ second)) =
          (outer.bind (openCalls rest)).bind (openCalls second) := by
        intro outer
        rw [Option.bind_assoc]
        exact congrArg _ (funext inductionHypothesis)
      cases event with
      | called body _ _ => exact inductionHypothesis (body :: opened)
      | returned body _ => exact popped (closeCall body opened)
      | raised body _ => exact popped (closeCall body opened)
      | tried _ _ _ _ => exact inductionHypothesis opened
      | warned _ => exact inductionHypothesis opened

/-- A well bracketed trace leaves the same calls open that were open before it. -/
theorem WellBracketed.openCalls_eq
    {events : List TraceEvent}
    (bracketed : WellBracketed events)
    (opened : List String) :
    openCalls events opened = some opened := by
  induction bracketed generalizing opened with
  | nil => rfl
  | remark isRemark _ inductionHypothesis =>
      rw [openCalls_remark isRemark, inductionHypothesis]
  | @call body argument position inside rest closing _ closes _ insideHypothesis restHypothesis =>
      change openCalls (inside ++ closing :: rest) (body :: opened) = some opened
      rw [openCalls_append, insideHypothesis, Option.bind_some, openCalls_closing closes,
        closeCall_self, Option.bind_some, restHypothesis]

/-- The events close the open calls one after the other, and are well bracketed in
between. -/
def ClosesAll : List String -> List TraceEvent -> Prop
  | [], events => WellBracketed events
  | body :: outer, events => ∃ inside closing rest, WellBracketed inside ∧
      TraceEvent.Closes body closing ∧ ClosesAll outer rest ∧ events = inside ++ closing :: rest

theorem ClosesAll.prepend
    {opened : List String}
    {before events : List TraceEvent}
    (bracketed : WellBracketed before)
    (closes : ClosesAll opened events) :
    ClosesAll opened (before ++ events) := by
  cases opened with
  | nil => exact bracketed.append closes
  | cons body outer =>
      obtain ⟨inside, closing, rest, insideBracketed, closesBody, restCloses, rfl⟩ := closes
      exact ⟨before ++ inside, closing, rest, bracketed.append insideBracketed, closesBody,
        restCloses, (List.append_assoc _ _ _).symm⟩

theorem closesAll_of_openCalls
    {events : List TraceEvent}
    {opened : List String}
    (closed : openCalls events opened = some []) :
    ClosesAll opened events := by
  induction events generalizing opened with
  | nil =>
      obtain rfl := Option.some.inj closed
      exact .nil
  | cons event rest inductionHypothesis =>
      -- An event that closes a call closes the innermost one, with nothing in between.
      have closing : ∀ body, TraceEvent.Closes body event -> ClosesAll opened (event :: rest) := by
        intro body closes
        rw [openCalls_closing closes] at closed
        obtain ⟨outer, popped, restClosed⟩ := Option.bind_eq_some_iff.mp closed
        obtain rfl := eq_cons_of_closeCall popped
        exact ⟨[], event, rest, .nil, closes, inductionHypothesis restClosed, rfl⟩
      have remark : event.IsRemark -> openCalls rest opened = some [] ->
          ClosesAll opened (event :: rest) := fun isRemark restClosed =>
        .prepend (.remark isRemark .nil) (inductionHypothesis restClosed)
      cases event with
      | returned body _ => exact closing body rfl
      | raised body _ => exact closing body rfl
      | tried _ _ _ _ => exact remark trivial closed
      | warned _ => exact remark trivial closed
      | called body argument position =>
          obtain ⟨inside, last, after, bracketed, closes, afterCloses, rfl⟩ :=
            inductionHypothesis closed
          have enclosed : WellBracketed (.called body argument position :: (inside ++ [last])) :=
            .call bracketed closes .nil
          simpa using ClosesAll.prepend enclosed afterCloses

/-- A trace is well bracketed if no call is left open by it, and nothing is closed in it
that is not open. -/
theorem wellBracketed_iff {events : List TraceEvent} :
    WellBracketed events ↔ openCalls events [] = some [] :=
  ⟨fun bracketed => bracketed.openCalls_eq [], closesAll_of_openCalls⟩

instance (events : List TraceEvent) : Decidable (WellBracketed events) :=
  decidable_of_iff _ wellBracketed_iff.symm

/-- The calls of two functions are not nested here. -/
example : ¬ WellBracketed
    [.called "f" "1" {}, .called "g" "2" {}, .returned "f" "3", .raised "g" "failed"] := by
  decide

end Trace

namespace Machine

/-- What was traced in between is well bracketed, and the tracer is the same. -/
structure Traces (machine after : Machine) : Prop where
  tracer : after.tracer = machine.tracer
  trace : ∃ events, Trace.WellBracketed events ∧
    after.trace.toList = machine.trace.toList ++ events

namespace Traces

/-- What leaves the trace and the tracer alone traces nothing. -/
theorem ofSide
    {machine after : Machine}
    (same : after.side = machine.side) :
    machine.Traces after where
  tracer := congrArg Side.tracer same
  trace := by
    have unchanged : after.trace = machine.trace := congrArg Side.trace same
    exact ⟨[], .nil, by rw [unchanged, List.append_nil]⟩

theorem refl (machine : Machine) : machine.Traces machine :=
  .ofSide rfl

theorem trans
    {first second third : Machine}
    (earlier : first.Traces second)
    (later : second.Traces third) :
    first.Traces third := by
  obtain ⟨firstEvents, firstBracketed, extended⟩ := earlier.trace
  obtain ⟨secondEvents, secondBracketed, extendedAgain⟩ := later.trace
  refine ⟨later.tracer.trans earlier.tracer, _, firstBracketed.append secondBracketed, ?_⟩
  rw [extendedAgain, extended, List.append_assoc]

theorem remark
    (machine : Machine)
    {event : TraceEvent}
    (isRemark : event.IsRemark) :
    machine.Traces (machine.noting event) := by
  cases recorded : machine.tracer.records event with
  | false =>
      rw [noting_of_not_records recorded]
      exact .refl machine
  | true =>
      rw [noting_of_records recorded]
      exact ⟨rfl, [event], .remark isRemark .nil, Array.toList_push⟩

/-- Both ends of a call are traced, or neither of them. -/
theorem closed
    {machine after : Machine}
    {body argument : String}
    {position : Position}
    {closing : TraceEvent}
    (inside : (machine.noting (.called body argument position)).Traces after)
    (closes : closing.Closes body) :
    machine.Traces (after.noting closing) := by
  have tracer : after.tracer = machine.tracer := inside.tracer.trans (tracer_noting _ _)
  have begun : machine.tracer.records (.called body argument position) =
      machine.tracer.follows body := rfl
  have closed : after.tracer.records closing = machine.tracer.follows body := by
    rw [tracer, closes.records]
  cases followed : machine.tracer.follows body with
  | false =>
      rw [followed] at begun closed
      rw [noting_of_not_records begun] at inside
      rw [noting_of_not_records closed]
      exact inside
  | true =>
      rw [followed] at begun closed
      rw [noting_of_records begun] at inside
      rw [noting_of_records closed]
      obtain ⟨events, bracketed, extended⟩ := inside.trace
      refine ⟨tracer, .called body argument position :: (events ++ [closing]),
        .call bracketed closes .nil, ?_⟩
      rw [Array.toList_push, extended, Array.toList_push]
      simp only [List.append_assoc, List.cons_append, List.nil_append]

end Traces
end Machine

/-- An error was raised, that is, the machine did not give up. -/
def Stop.IsRaised : Stop -> Prop
  | .raised _ => True
  | _ => False

namespace Action

variable {α β : Type}

/-- However the action ends, unless the machine gives up, what it traced is well
bracketed. -/
def Brackets (action : Action α) : Prop :=
  ∀ machine,
    match action machine with
    | .ok _ after => machine.Traces after
    | .error stop after => stop.IsRaised -> machine.Traces after

namespace Brackets

/-- An action that always comes to an end. -/
theorem ends
    {action : Action α}
    (ends : ∀ machine, ∃ value after, action machine = .ok value after ∧ machine.Traces after) :
    Brackets action := by
  intro machine
  obtain ⟨value, after, run, traces⟩ := ends machine
  rw [run]
  exact traces

theorem plain {action : Action α} (plain : IsPlain action) : Brackets action := by
  refine .ends fun machine => ?_
  obtain ⟨value, after, run, _⟩ := plain machine
  exact ⟨value, after, run, .ofSide (plain.side run)⟩

theorem ignoresQuotes : Brackets Action.ignoresQuotes :=
  .ends fun machine => ⟨_, _, rfl, .refl machine⟩

/-- A stop that leaves the machine as it is. -/
theorem throw (stop : Stop) : Brackets (MonadExcept.throw stop : Action α) :=
  fun machine _ => .refl machine

theorem raise (payload : Payload) : Brackets (raisePayload payload : Action α) :=
  fun machine _ => .refl machine

theorem bind
    {action : Action α}
    {next : α -> Action β}
    (first : Brackets action)
    (second : ∀ value, Brackets (next value)) :
    Brackets (action >>= next) := by
  intro machine
  have earlier := first machine
  rw [bind_apply]
  revert earlier
  cases action machine with
  | error stop middle => exact id
  | ok value middle =>
      intro earlier
      have later := second value middle
      revert later
      dsimp only
      cases next value middle with
      | ok result after => exact fun later => earlier.trans later
      | error stop after => exact fun later raised => earlier.trans (later raised)

theorem ensuring
    {action : Action α}
    {cleanup : Machine -> Machine}
    (brackets : Brackets action)
    (kept : ∀ machine : Machine, machine.Traces (cleanup machine)) :
    Brackets (Action.ensuring action cleanup) := by
  intro machine
  have outcome := brackets machine
  rw [ensuring_apply]
  revert outcome
  cases action machine with
  | ok value after => exact fun outcome => outcome.trans (kept after)
  | error stop after => exact fun outcome raised => (outcome raised).trans (kept after)

theorem located
    {action : Action α}
    (brackets : Brackets action) :
    Brackets (Action.located action) := by
  intro machine
  have outcome := brackets machine
  rw [located_apply]
  revert outcome
  cases action machine with
  | ok value after => exact id
  | error stop after => cases stop <;> exact id

theorem attempt
    {action : Action α}
    (brackets : Brackets action) :
    Brackets action.attempt := by
  intro machine
  have outcome := brackets machine
  unfold Action.attempt
  revert outcome
  cases action machine with
  | ok value after => exact id
  | error stop after =>
      cases stop with
      | raised exception => exact fun outcome => outcome trivial
      | fatal message => exact id
      | exhausted => exact id

theorem orNoMatch
    {action : Action α}
    (brackets : Brackets action) :
    Brackets (Action.orNoMatch action) := by
  intro machine
  have outcome := brackets machine
  rw [orNoMatch_apply]
  revert outcome
  cases action machine with
  | ok value after => exact id
  | error stop after =>
      intro outcome
      cases failed : stop.isMatchFailure after.store with
      | false => simpa [failed] using outcome
      | true =>
          have raised : stop.IsRaised := by cases stop <;> trivial
          simpa [failed] using outcome raised

end Brackets
end Action

namespace Evaluator

open PatternMachine.Action (Brackets recordRaised)

variable {self : Evaluator}

/-- What a body traces stands between the two ends of its call. -/
theorem runTraced_brackets
    {code : Code}
    {argument : Term}
    (brackets : Brackets (self.runCode code argument))
    (body : String) :
    Brackets (self.runTraced body code argument) := by
  intro machine
  let begun :=
    machine.noting (.called body (machine.store.display argument) machine.position)
  have follows : Action.follows body machine = .ok (machine.tracer.follows body) machine := rfl
  have inside := brackets.located begun
  rw [runTraced_eq, Action.bind_apply, follows]
  dsimp only
  rw [Action.bind_apply, recordCalled_apply]
  dsimp only
  rw [Action.bind_apply, recordRaised]
  revert inside
  cases Action.located (self.runCode code argument) begun with
  | ok result after =>
      intro inside
      obtain ⟨shown, returned⟩ := recordReturned_apply body result after
      have tracer : after.tracer = machine.tracer :=
        inside.tracer.trans (Machine.tracer_noting _ _)
      rw [tracer] at returned
      dsimp only
      rw [Action.bind_apply, returned]
      exact inside.closed rfl
  | error stop after =>
      intro inside raised
      cases stop with
      | raised exception => exact (inside trivial).closed rfl
      | fatal message => exact raised.elim
      | exhausted => exact raised.elim

/-- Nothing is traced on the way into a function and out of it. -/
theorem runFunction_brackets
    {code : Code}
    {argument : Term}
    (brackets : Brackets (self.runCode code argument))
    (caller : Machine)
    (receiver : Term)
    (body : String)
    (captured : Closure) :
    Brackets (self.runFunction caller receiver body code captured argument) := by
  have checked : Brackets (checkDepth body) := by
    intro machine
    rcases checkDepth_apply body machine with ⟨_, passed⟩ | ⟨_, message, refused⟩
    · rw [passed]
      exact .refl machine
    · rw [refused]
      exact fun raised => raised.elim
  have entered : Brackets (enterFunction captured receiver) := by
    rcases enterFunction_isPlain captured receiver with ⟨message, fails⟩ | entered
    · rw [fails]
      exact .throw _
    · exact .plain entered
  exact checked.bind fun _ =>
    (entered.bind fun _ => runTraced_brackets brackets body).ensuring fun _ => .ofSide rfl

theorem call_brackets
    {argument : Term}
    (brackets : ∀ code : Code, Brackets (self.runCode code argument))
    (receiver : Term)
    (body : String)
    (captured : Option Closure) :
    Brackets (self.call receiver body captured argument) := by
  intro machine
  rcases call_cases machine.dispatch receiver body captured argument with
    ⟨message, refused⟩ | ⟨code, closure, called⟩
  · rw [refused self machine rfl]
    exact fun _ => .refl machine
  · -- The count of calls is no part of what is traced.
    have counted : ∀ caller : Machine, caller.Traces caller.endCall := fun caller =>
      ⟨rfl, [], .nil, (List.append_nil _).symm⟩
    have outcome := ((runFunction_brackets (brackets code) machine.beginCall receiver body
      closure).ensuring counted) machine.beginCall
    rw [called self machine rfl]
    revert outcome
    cases Action.ensuring
        (self.runFunction machine.beginCall receiver body code closure argument)
        Machine.endCall machine.beginCall with
    | ok value after => exact fun outcome => ⟨outcome.tracer, outcome.trace⟩
    | error stop after =>
        exact fun outcome raised => ⟨(outcome raised).tracer, (outcome raised).trace⟩

end Evaluator

/-- Whatever is put together from actions with well bracketed traces has a well bracketed
trace. -/
def bracketing : Congruence where
  Relates action _ := Action.Brackets action
  pure _ := .plain .pure
  bind first second := first.bind second
  raise payload := .raise payload
  exhausted := .throw _
  update plain := .plain (.update plain)
  follows _ := .ends fun machine => ⟨_, machine, rfl, .refl machine⟩
  remark isRemark := .ends fun machine => ⟨(), _, rfl, .remark machine isRemark⟩
  ensuring brackets tidy := brackets.ensuring fun machine => .ofSide (tidy.side machine)
  ignoringQuotes brackets :=
    Action.Brackets.ignoresQuotes.bind fun _ =>
      Action.Brackets.bind (.ends fun machine => ⟨(), _, rfl, ⟨rfl, [], .nil, by simp⟩⟩) fun _ =>
        brackets.ensuring fun _ => ⟨rfl, [], .nil, by simp⟩
  located brackets := brackets.located
  orNoMatch brackets := brackets.orNoMatch
  checkLinear mode bindings := by
    intro machine
    rcases Evaluator.checkLinear_apply mode bindings machine with passed | ⟨message, refused⟩
    · rw [passed]
      exact .refl machine
    · rw [refused]
      exact fun _ => .refl machine
  call receiver body captured _ brackets :=
    Evaluator.call_brackets brackets receiver body captured

theorem bracketing_total : bracketing.Total where
  attempt brackets := Action.Brackets.attempt brackets
  checksRedundancy := by
    have asked : Action.Brackets (do return (← get).settings.checkRedundancy) :=
      .ends fun machine => ⟨_, machine, rfl, .refl machine⟩
    exact asked

namespace Program

/-- What a run of a program adds to the trace is well bracketed, whichever functions are
traced, unless the machine gives up. The trace is written as one line for each of these
events, `TraceEvent.line`, in their order. -/
theorem run_wellBracketed
    {program : Program}
    {machine after : Machine}
    {outcome : Outcome}
    (run : program.run machine = .ok outcome after) :
    ∃ events, Trace.WellBracketed events ∧
      after.trace.toList = machine.trace.toList ++ events := by
  have related : Evaluator.Related bracketing .standard .standard :=
    Evaluator.within_related Action.Brackets.ignoresQuotes _
  have brackets : Action.Brackets (Evaluator.standard.runProgram program) :=
    related.runProgram bracketing_total program
  have traces := brackets machine
  rw [Evaluator.runProgram_standard, run] at traces
  exact traces.trace

/-- A program in which `first` calls `middle`, and that calls `fails`, which no argument
but zero matches. -/
def failingCalls : Program where
  name := "failing"
  functions :=
    [⟨"first", [⟨.identifier "x",
        [.evaluate (.apply 1 (.identifier "middle") (.identifier "x")) .absent]⟩]⟩,
      ⟨"middle", [⟨.identifier "x",
        [.evaluate (.apply 2 (.identifier "fails") (.identifier "x")) .absent]⟩]⟩,
      ⟨"fails", [⟨.integer 0, [.evaluate (.integer 0) .absent]⟩]⟩]
  statements :=
    [.evaluate (.function 3 "first") (.identifier "first"),
      .evaluate (.function 4 "middle") (.identifier "middle"),
      .evaluate (.function 5 "fails") (.identifier "fails"),
      .evaluate (.apply 6 (.identifier "first") (.integer 1)) .absent]

/-- An error leaves three calls, of which `middle` is not traced. -/
theorem run_wellBracketed_of_failingCalls :
    ∃ outcome after,
      failingCalls.run
        (.prepared Store.initial {} { enabled := true, filters := ["f*"] } false) =
        .ok outcome after ∧
      (after.trace.map TraceEvent.body? ==
        #[some "first", some "first", some "fails", some "fails", some "fails", some "first"]) =
        true ∧
      ∃ events, Trace.WellBracketed events ∧ after.trace.toList = [] ++ events := by
  have ends : Evaluator.endsWithin 12 failingCalls
      (.prepared Store.initial {} { enabled := true, filters := ["f*"] } false)
      (fun _ after => after.trace.map TraceEvent.body? ==
        #[some "first", some "first", some "fails", some "fails", some "fails", some "first"]) =
      true := by
    decide +kernel
  obtain ⟨outcome, after, run, traced⟩ := Evaluator.run_of_endsWithin (by decide) ends
  exact ⟨outcome, after, run, traced, run_wellBracketed run⟩

end Program
end PatternMachine
