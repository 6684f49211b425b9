import PatternMachine.Proofs.Lawful.Call
import PatternMachine.Proofs.Refinement

/-!
# Uncaught errors are reported where they were raised

An error gets its position when it first leaves a statement or a call, and a call
puts the position of its caller back on the same way out. An error that is on its way
is therefore either placed already, or the machine still stands where it was raised;
and it is placed before any call forgets where that was.
-/

namespace PatternMachine
namespace Raised

/-- The position that was recorded is that of the machine when the error was raised. -/
def IsPlaced (raised : Raised) : Prop :=
  raised.position = some raised.origin

/-- The error is placed, or will be if its position is recorded now. -/
def IsPlaceable (raised : Raised) (after : Machine) : Prop :=
  raised.IsPlaced ∨ raised.position = none ∧ after.position = raised.origin

theorem IsPlaceable.locate
    {raised : Raised}
    {after : Machine}
    (placeable : raised.IsPlaceable after) :
    (raised.locate after.position).IsPlaced := by
  rcases placeable with placed | ⟨unplaced, stands⟩
  · change raised.position.or _ = _
    rw [placed]
    rfl
  · change raised.position.or _ = _
    rw [unplaced, stands]
    rfl

end Raised

namespace Action

variable {α β : Type} {holds : Raised -> Machine -> Prop}

/-- What is said holds of every error that the action raises, and of the machine it
leaves behind. -/
def RaisesOnly (holds : Raised -> Machine -> Prop) (action : Action α) : Prop :=
  ∀ machine raised after, action machine = .error (.raised raised) after -> holds raised after

namespace RaisesOnly

/-- An action that always comes to an end raises nothing. -/
theorem ends
    {action : Action α}
    (ends : ∀ machine, ∃ value after, action machine = .ok value after) :
    RaisesOnly holds action := by
  intro machine raised after run
  obtain ⟨value, final, ended⟩ := ends machine
  rw [ended] at run
  cases run

/-- Nor does giving up. -/
theorem halts (halt : Halt) : RaisesOnly holds (throw halt.stop : Action α) := by
  intro machine raised after run
  cases halt <;> cases run

theorem bind
    {action : Action α}
    {next : α -> Action β}
    (first : RaisesOnly holds action)
    (second : ∀ value, RaisesOnly holds (next value)) :
    RaisesOnly holds (action >>= next) := by
  intro machine raised after run
  rw [bind_apply] at run
  cases started : action machine with
  | ok value middle =>
      rw [started] at run
      exact second value middle raised after run
  | error stop middle =>
      rw [started] at run
      obtain ⟨rfl, rfl⟩ := EStateM.Result.error.inj run
      exact first machine raised middle started

theorem ite
    {condition : Prop}
    [Decidable condition]
    {first second : Action α}
    (whenTrue : RaisesOnly holds first)
    (whenFalse : RaisesOnly holds second) :
    RaisesOnly holds (if condition then first else second) := by
  split
  · exact whenTrue
  · exact whenFalse

/-- Cleaning up afterwards changes the machine that is left behind. -/
theorem ensuring
    {cleaned : Raised -> Machine -> Prop}
    {action : Action α}
    {cleanup : Machine -> Machine}
    (raises : RaisesOnly holds action)
    (keeps : ∀ raised after, holds raised after -> cleaned raised (cleanup after)) :
    RaisesOnly cleaned (Action.ensuring action cleanup) := by
  intro machine raised after run
  rw [ensuring_apply] at run
  cases started : action machine with
  | ok value middle => simp [started] at run
  | error stop middle =>
      rw [started] at run
      obtain ⟨rfl, rfl⟩ := EStateM.Result.error.inj run
      exact keeps raised middle (raises machine raised middle started)

/-- An error is recorded on its way out, and stays the same error. -/
theorem recordRaised
    {placed : Raised -> Prop}
    {action : Action Term}
    (raises : RaisesOnly (fun raised _ => placed raised) action)
    (body : String) :
    RaisesOnly (fun raised _ => placed raised) (Action.recordRaised body action) := by
  intro machine raised after run
  unfold Action.recordRaised at run
  cases started : action machine with
  | ok value middle => simp [started] at run
  | error stop middle =>
      rw [started] at run
      obtain ⟨rfl, _⟩ := EStateM.Result.error.inj run
      exact raises machine raised middle started

end RaisesOnly

/-- Recording where an error leaves an action places it. -/
theorem located_places
    {action : Action α}
    (raises : RaisesOnly Raised.IsPlaceable action) :
    RaisesOnly (fun raised _ => raised.IsPlaced) (located action) := by
  intro machine raised after run
  unfold located at run
  cases started : action machine with
  | ok value middle => simp [started] at run
  | error stop middle =>
      cases stop with
      | raised exception =>
          rw [started] at run
          obtain ⟨same, rfl⟩ := EStateM.Result.error.inj run
          obtain rfl := Stop.raised.inj same
          exact (raises machine exception middle started).locate
      | fatal message => simp [started] at run
      | exhausted => simp [started] at run

theorem orNoMatch_raises
    {action : Action α}
    (raises : RaisesOnly holds action) :
    RaisesOnly holds (orNoMatch action) := by
  intro machine raised after run
  unfold orNoMatch at run
  cases started : action machine with
  | ok value middle => simp [started] at run
  | error stop middle =>
      cases stop with
      | raised exception =>
          rw [started] at run
          dsimp only at run
          split at run
          · simp at run
          · obtain ⟨same, rfl⟩ := EStateM.Result.error.inj run
            obtain rfl := Stop.raised.inj same
            exact raises machine exception middle started
      | fatal message => simp [started] at run
      | exhausted => simp [started] at run

/-- An error that is raised here can be placed here. -/
theorem raisePayload_places
    (payload : Payload) :
    RaisesOnly Raised.IsPlaceable (raisePayload payload : Action α) := by
  intro machine raised after run
  obtain ⟨same, rfl⟩ := EStateM.Result.error.inj run
  obtain rfl := Stop.raised.inj same
  exact .inr ⟨rfl, rfl⟩

end Action

namespace Evaluator

open PatternMachine.Action (RaisesOnly)

variable {self : Evaluator} {holds : Raised -> Machine -> Prop}

/-- A body is run to its end or to an error that is placed. -/
theorem runTraced_places
    {code : Code}
    {argument : Term}
    (raises : RaisesOnly Raised.IsPlaceable (self.runCode code argument))
    (body : String) :
    RaisesOnly (fun raised _ => raised.IsPlaced) (self.runTraced body code argument) := by
  have begun : ∀ followed, RaisesOnly (fun raised _ => raised.IsPlaced)
      (Action.whenFollowed followed (Action.recordCalled body argument)) :=
    fun _ => .ite (.ends fun _ => ⟨_, _, rfl⟩) (.ends fun _ => ⟨_, _, rfl⟩)
  have finished : ∀ followed result, RaisesOnly (fun raised _ => raised.IsPlaced)
      (Action.whenFollowed followed (Action.recordReturned body result)) := by
    intro followed result
    refine .ite ?_ (.ends fun _ => ⟨_, _, rfl⟩)
    unfold Action.recordReturned
    cases result.isAbsent <;> exact .ends fun _ => ⟨_, _, rfl⟩
  rw [runTraced_eq]
  refine RaisesOnly.bind (.ends fun _ => ⟨_, _, rfl⟩) fun followed => ?_
  refine (begun followed).bind fun _ => ?_
  refine ((Action.located_places raises).recordRaised body).bind fun result => ?_
  exact (finished followed result).bind fun _ => .ends fun _ => ⟨_, _, rfl⟩

/-- An error that leaves a call is placed: whatever raised it did so in the body, and
the body was left before the position of the caller came back. -/
theorem call_places
    {argument : Term}
    (raises : ∀ code : Code, RaisesOnly Raised.IsPlaceable (self.runCode code argument))
    (receiver : Term)
    (body : String)
    (captured : Option Closure) :
    RaisesOnly Raised.IsPlaceable (self.call receiver body captured argument) := by
  have checked : RaisesOnly (fun raised _ => raised.IsPlaced) (checkDepth body) :=
    RaisesOnly.bind (.ends fun _ => ⟨_, _, rfl⟩) fun _ =>
      .ite (.halts (.fatal _)) (.ends fun _ => ⟨_, _, rfl⟩)
  have entered : ∀ closure, RaisesOnly (fun raised _ => raised.IsPlaced)
      (enterFunction closure receiver) := by
    intro closure
    rcases enterFunction_isPlain closure receiver with ⟨message, fails⟩ | plain
    · rw [fails]
      exact .halts (.fatal message)
    · refine .ends fun machine => ?_
      obtain ⟨value, after, run, _⟩ := plain machine
      exact ⟨value, after, run⟩
  have framed : ∀ (caller : Machine) (code : Code) (closure : Closure),
      RaisesOnly (fun raised _ => raised.IsPlaced)
        (self.runFunction caller receiver body code closure argument) := fun caller code closure =>
    checked.bind fun _ =>
      ((entered closure).bind fun _ => runTraced_places (raises code) body).ensuring
        fun _ _ placed => placed
  intro machine raised after run
  rcases call_cases machine.dispatch receiver body captured argument with
    ⟨message, refused⟩ | ⟨code, closure, called⟩
  · rw [refused self machine rfl] at run
    exact Action.raisePayload_places _ machine raised after run
  · rw [called self machine rfl] at run
    exact ((framed _ code closure).ensuring fun _ _ placed => .inl placed) _ raised after run

end Evaluator

/-- Whatever is put together from actions whose errors can be placed has errors that
can be placed. -/
def placing : Congruence where
  Relates action _ := Action.RaisesOnly Raised.IsPlaceable action
  pure _ := .ends fun _ => ⟨_, _, rfl⟩
  bind first second := first.bind second
  raise payload := Action.raisePayload_places payload
  exhausted := Action.RaisesOnly.halts .exhausted
  update _ := .ends fun _ => ⟨_, _, rfl⟩
  follows _ := .ends fun _ => ⟨_, _, rfl⟩
  remark _ := .ends fun _ => ⟨_, _, rfl⟩
  ensuring raises tidy := raises.ensuring fun _ after placeable =>
    placeable.imp_right fun ⟨unplaced, stands⟩ => ⟨unplaced, (tidy.position after).trans stands⟩
  ignoringQuotes raises :=
    Action.RaisesOnly.bind (.ends fun _ => ⟨_, _, rfl⟩) fun _ =>
      Action.RaisesOnly.bind (.ends fun _ => ⟨_, _, rfl⟩) fun _ =>
        raises.ensuring fun _ _ placeable => placeable
  located raises := fun machine raised after run =>
    .inl (Action.located_places raises machine raised after run)
  orNoMatch raises := Action.orNoMatch_raises raises
  checkLinear mode bindings := by
    refine Action.RaisesOnly.bind (.ends fun _ => ⟨_, _, rfl⟩) fun _ => .ite ?_ ?_
    · split
      · exact Action.raisePayload_places _
      · exact .ends fun _ => ⟨_, _, rfl⟩
    · exact .ends fun _ => ⟨_, _, rfl⟩
  call receiver body captured _ raises := Evaluator.call_places raises receiver body captured

namespace Evaluator

theorem within_places (depth : Nat) : Related placing (within depth) (within depth) :=
  within_related (Action.RaisesOnly.ends fun _ => ⟨_, _, rfl⟩) depth

/-- An error that ends a block was placed when it left its statement. -/
theorem execBlock_places
    (depth : Nat)
    (statements : List Statement)
    (value : Term) :
    Action.RaisesOnly (fun raised _ => raised.IsPlaced)
      ((within depth).execBlock statements value) := by
  induction statements generalizing value with
  | nil => exact .ends fun _ => ⟨_, _, rfl⟩
  | cons statement rest inductionHypothesis =>
      have executed : Action.RaisesOnly Raised.IsPlaceable ((within depth).exec statement) :=
        (within_places depth).exec statement
      exact (Action.located_places executed).bind inductionHypothesis

end Evaluator

namespace Interpreter

/-- An error that ends a run carries a position, and that is where the machine stood
when the error was raised. -/
theorem uncaught_error_position
    {statements : List Statement}
    {machine after : Machine}
    {raised : Raised}
    (run : Interpreter.run statements machine = .error (.raised raised) after) :
    raised.position = some raised.origin :=
  Evaluator.execBlock_places _ statements .none machine raised after run

/-- A machine with a function `share` that divides one by its argument on line 7, and a
function `total` that adds the shares of two and of zero on line 4. -/
def sharingMachine : Machine :=
  let share : Closure := { mark := 1, scopes := #[⟨0⟩], globals := #[⟨0⟩], level := 0 }
  let line (number : Int) : Statement := .evaluate (.lineMark 2 ⟨"main", number⟩) .absent
  let shareOf (argument : Int64) : Term := .apply 3 (.identifier "share") (.integer argument)
  let machine := (Machine.fresh Store.initial).bindName "share" (.closure "share" (some share))
  { machine.bindName "total" (.closure "total" (some share)) with
    dispatch := ⟨[("share", .clauses "share" [⟨.identifier "x",
        [line 7, .evaluate (.apply 4 (.identifier "__divide__")
          (.pair (.integer 1) (.identifier "x"))) .absent]⟩]),
      ("total", .clauses "total" [⟨.identifier "_",
        [line 4, .evaluate (.apply 5 (.identifier "__plus__")
          (.pair (shareOf 2) (shareOf 0))) .absent]⟩])]⟩ }

/-- The program that calls `total` on line 1. -/
def sharingStatements : List Statement :=
  [.evaluate (.lineMark 2 ⟨"main", 1⟩) .absent,
    .evaluate (.apply 6 (.identifier "total") .none) .absent]

/-- The share of zero is no number, after that of two was worked out. The error comes
from line 7, and the run ends back on line 1. -/
theorem uncaught_error_position_of_sharing :
    ∃ raised after,
      Interpreter.run sharingStatements sharingMachine = .error (.raised raised) after ∧
      after.position = ⟨"main", 1⟩ ∧
      raised.position = some ⟨"main", 7⟩ ∧
      raised.position = some raised.origin := by
  have shallow : ∃ raised after,
      (Evaluator.within 12).execBlock sharingStatements .none sharingMachine =
        .error (.raised raised) after ∧
      after.position = ⟨"main", 1⟩ ∧ raised.position = some ⟨"main", 7⟩ :=
    ⟨_, _, rfl, rfl, rfl⟩
  obtain ⟨raised, after, run, position, line⟩ := shallow
  -- A run that does not use up its depth is the same with all the depth there is.
  have deep : 12 ≤ Evaluator.depthLimit :=
    Nat.le_trans (by decide) (Nat.pow_le_pow_right (by decide : 0 < 2) (by decide : 4 ≤ 60))
  rcases (Evaluator.within_refines deep).execBlock sharingStatements .none sharingMachine with
    ⟨final, exhausted⟩ | same
  · simp [run, Halt.stop] at exhausted
  · have whole : Interpreter.run sharingStatements sharingMachine =
        .error (.raised raised) after := same.symm.trans run
    exact ⟨raised, after, whole, position, line, uncaught_error_position whole⟩

end Interpreter
end PatternMachine
