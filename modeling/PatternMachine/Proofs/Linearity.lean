import PatternMachine.Proofs.Refinement
import PatternMachine.Proofs.Relaxation

/-!
# Patterns that bind a name twice

A pattern may bind a name more than once only if the settings allow it. Refusing such
patterns is conservative: a run in which none is refused is the same when they are
allowed. No match takes the refusal for a failed match, so that nothing swallows it.
-/

namespace PatternMachine

/-- The machine with patterns that bind a name twice allowed, or refused. -/
def Machine.permitting (machine : Machine) (allowed : Bool) : Machine :=
  { machine with settings := { machine.settings with allowNonLinear := allowed } }

/-- An error that a pattern binds a name twice. -/
def Stop.IsNonLinear : Stop -> Prop
  | .raised exception => ∃ message, exception.payload = .standard .nonLinearPattern message
  | _ => False

namespace Evaluator

theorem checkLinear_permitted
    (mode : Mode)
    (bindings : List Binding)
    {machine : Machine}
    (allowed : machine.settings.allowNonLinear = true) :
    checkLinear mode bindings machine = .ok bindings machine := by
  unfold checkLinear
  rw [Action.bind_apply, Action.get_apply]
  simp [allowed]

end Evaluator

/-- Patterns that bind a name twice are allowed; refusing one cuts a run short. -/
def permission : Relaxation where
  loosen settings := { settings with allowNonLinear := true }
  strict _ := True
  cuts := Stop.IsNonLinear
  exceeded _ := True
  strict_of_eq _ _ strict := strict
  exceeded_of_le _ exceeded := exceeded
  cuts_locate {stop} position cuts := by
    cases stop with
    | raised exception => exact cuts
    | fatal message => exact cuts
    | exhausted => exact cuts
  not_isMatchFailure {stop} store cuts := by
    cases stop with
    | raised exception =>
        obtain ⟨message, payload⟩ := cuts
        simp only [Stop.isMatchFailure, payload]
        rfl
    | fatal message => rfl
    | exhausted => rfl

theorem permission_sound : permission.Sound where
  checkLinear mode bindings :=
    { deepens := .of_eq fun machine => by
        rcases Evaluator.checkLinear_apply mode bindings machine with passed | ⟨message, refused⟩
        · rw [Action.after_ok passed]
        · rw [Action.after_error refused]
      compares := fun machine _ => by
        have otherRun : Evaluator.checkLinear mode bindings (permission.loose machine) =
            .ok bindings (permission.loose machine) :=
          Evaluator.checkLinear_permitted mode bindings rfl
        rcases Evaluator.checkLinear_apply mode bindings machine with passed | ⟨message, refused⟩
        · exact .ok passed otherRun trivial
        · exact .cut refused ⟨message, rfl⟩ trivial }
  checkDepth body machine _ := by
    have same := Evaluator.checkDepth_congr machine.beginCall
      (permission.loose machine.beginCall) rfl rfl rfl body
    rcases Evaluator.checkDepth_apply body machine.beginCall with
      ⟨_, passed⟩ | ⟨_, message, refused⟩
    · exact .ok passed (same.trans (by rw [passed])) trivial
    · exact .error refused (same.trans (by rw [refused])) trivial

namespace Interpreter

/-- A run in which no pattern is refused for binding a name twice is the same run when
such patterns are allowed: it ends in the same way, with the same output, and leaves
the same machine but for the settings. -/
theorem run_permitting
    {statements : List Statement}
    {machine : Machine}
    (linear : ∀ raised after,
      Interpreter.run statements (machine.permitting false) = .error (.raised raised) after ->
        ∀ message, raised.payload ≠ .standard .nonLinearPattern message) :
    Interpreter.run statements (machine.permitting true) =
      Action.ensuring (Interpreter.run statements) (Machine.permitting · true)
        (machine.permitting false) := by
  have related : permission.Relates (Interpreter.run statements) (Interpreter.run statements) :=
    (permission_sound.within Evaluator.depthLimit).execBlock statements .none
  refine (related.compares (machine.permitting false) trivial).eq_of_not_cuts ?_
  intro stop after run nonLinear
  cases stop with
  | raised exception =>
      obtain ⟨message, payload⟩ := nonLinear
      exact linear exception after run message payload
  | fatal message => exact nonLinear
  | exhausted => exact nonLinear

/-- A machine with a function `swap` for pairs. -/
def swapMachine : Machine :=
  let captured : Closure := { mark := 1, scopes := #[⟨0⟩], globals := #[⟨0⟩], level := 0 }
  { (Machine.fresh Store.initial).bindName "swap" (.closure "swap" (some captured)) with
    dispatch := ⟨[("swap", .clauses "swap" [⟨.pair (.identifier "x") (.identifier "y"),
      [.evaluate (.pair (.identifier "y") (.identifier "x")) .absent]⟩])]⟩ }

/-- The program that swaps one and two. -/
def swapStatements : List Statement :=
  [.evaluate (.apply 2 (.identifier "swap") (.pair (.integer 1) (.integer 2))) .absent]

/-- No pattern of `swap` binds a name twice. -/
theorem run_permitting_of_swap :
    (∃ after, Interpreter.run swapStatements (swapMachine.permitting false) =
      .ok (.pair (.integer 2) (.integer 1)) after) ∧
    Interpreter.run swapStatements (swapMachine.permitting true) =
      Action.ensuring (Interpreter.run swapStatements) (Machine.permitting · true)
        (swapMachine.permitting false) := by
  obtain ⟨after, shallow⟩ : ∃ after,
      (Evaluator.within 8).execBlock swapStatements .none (swapMachine.permitting false) =
        .ok (.pair (.integer 2) (.integer 1)) after :=
    ⟨_, rfl⟩
  have run : Interpreter.run swapStatements (swapMachine.permitting false) =
      .ok (.pair (.integer 2) (.integer 1)) after :=
    (run_of_within (Evaluator.le_depthLimit (by decide)) (by simp [shallow])).trans shallow
  refine ⟨⟨after, run⟩, run_permitting fun raised final ended => ?_⟩
  rw [run] at ended
  cases ended

/-- A pattern that binds a name twice does make a difference. -/
example : ∃ raised after message,
    (Evaluator.within 4).execBlock
      [.evaluate (.pair (.integer 1) (.integer 2)) (.pair (.identifier "x") (.identifier "x"))]
      .none (swapMachine.permitting false) = .error (.raised raised) after ∧
    raised.payload = .standard .nonLinearPattern message :=
  ⟨_, _, _, rfl, rfl⟩

end Interpreter
end PatternMachine
