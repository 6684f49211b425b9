import PatternMachine.Proofs.ProgramRun
import PatternMachine.Proofs.Reachable
import PatternMachine.Proofs.Relaxation

/-!
# The limit on calls

The limit on calls makes a run give up, and does nothing else: a run that does not give
up is the same run under every higher limit, and without one. It gives up exactly when
more calls than the limit allows would be in progress at some moment of the run without
a limit. A call is counted before it is checked, and the count is taken back however the
call ends.
-/

namespace PatternMachine

/-- The machine with another limit on calls. -/
def Machine.limited (machine : Machine) (limit : Int) : Machine :=
  { machine with settings := { machine.settings with maxDepth := limit } }

/-- The machine with no call in progress, and none counted so far, and a limit on calls. -/
def Machine.atRest (machine : Machine) (limit : Int) : Machine :=
  { machine.limited limit with callDepth := 0, deepest := 0 }

/-- From the given machine on, the action ends with the machine giving up. -/
def Action.Aborts {α : Type} (action : Action α) (machine : Machine) : Prop :=
  ∃ message after, action machine = .error (.fatal message) after

/-! ## Programs under looser settings -/

namespace Relaxation

variable {α β : Type} {relaxation : Relaxation}

/-- An error is an answer under either settings, unless it cuts the run short. -/
theorem Relates.attempt
    {action other : Action α}
    (uncut : ∀ raised, ¬ relaxation.cuts (.raised raised))
    (related : relaxation.Relates action other) :
    relaxation.Relates action.attempt other.attempt where
  deepens machine := by
    rw [Action.after_attempt]
    exact related.deepens machine
  compares machine strict := by
    cases related.compares machine strict with
    | ok run otherRun strict =>
        exact .ok (by rw [Action.attempt, run]) (by rw [Action.attempt, otherRun]) strict
    | @error stop after run otherRun strict =>
        cases stop with
        | raised exception =>
            exact .ok (by rw [Action.attempt, run]) (by rw [Action.attempt, otherRun]) strict
        | fatal message =>
            exact .error (by rw [Action.attempt, run]) (by rw [Action.attempt, otherRun]) strict
        | exhausted =>
            exact .error (by rw [Action.attempt, run]) (by rw [Action.attempt, otherRun]) strict
    | @cut stop after run cuts exceeded =>
        rw [← Action.after_attempt] at exceeded
        cases stop with
        | raised exception => exact absurd cuts (uncut exception)
        | fatal message => exact .cut (by rw [Action.attempt, run]) cuts exceeded
        | exhausted => exact .cut (by rw [Action.attempt, run]) cuts exceeded

/-- A relaxation that says nothing about the redundancy check, and under which no error
cuts a run short, reaches as far as whole programs. -/
theorem congruence_total
    (sound : relaxation.Sound)
    (uncut : ∀ raised, ¬ relaxation.cuts (.raised raised))
    (checked : ∀ settings,
      (relaxation.loosen settings).checkRedundancy = settings.checkRedundancy) :
    (relaxation.congruence sound).Total where
  attempt related := Relates.attempt uncut related
  checksRedundancy := Relates.look (fun machine => machine.settings.checkRedundancy)
    (fun _ => rfl) fun machine => checked machine.settings

end Relaxation

/-! ## A higher limit -/

/-- Another limit on calls. Giving up cuts a run short, and then more calls than the
limit allows are in progress at some moment of the other run. -/
def deepening (limit other : Int) : Relaxation where
  loosen settings := { settings with maxDepth := other }
  strict machine := machine.settings.maxDepth = limit ∧ (machine.deepest : Int) ≤ limit
  cuts stop := ∃ message, stop = .fatal message
  exceeded machine := limit < machine.deepest
  strict_of_eq settings deepest strict := by rwa [settings, deepest]
  exceeded_of_le deeper exceeded := by omega
  cuts_locate position cuts := by
    obtain ⟨message, rfl⟩ := cuts
    exact ⟨message, rfl⟩
  not_isMatchFailure store cuts := by
    obtain ⟨message, rfl⟩ := cuts
    rfl

theorem Machine.exceedsDepth_beginCall (machine : Machine) :
    machine.beginCall.ExceedsDepth ↔
      0 < machine.settings.maxDepth ∧ machine.settings.maxDepth ≤ machine.callDepth := by
  simp only [ExceedsDepth, beginCall]
  omega

/-- A call that the lower limit admits is admitted by the higher one. -/
theorem deepening_sound
    {limit other : Int}
    (positive : 0 < limit)
    (higher : other ≤ 0 ∨ limit ≤ other) :
    (deepening limit other).Sound where
  checkLinear mode bindings := .checkLinear (fun _ => rfl) mode bindings
  checkDepth body machine strict := by
    obtain ⟨rfl, bounded⟩ := strict
    let loose := (deepening machine.settings.maxDepth other).loose machine
    have looseExceeds : loose.beginCall.ExceedsDepth ↔ 0 < other ∧ other ≤ machine.callDepth :=
      loose.exceedsDepth_beginCall
    have counted : machine.beginCall.deepest = max machine.deepest (machine.callDepth + 1) := rfl
    rcases Evaluator.checkDepth_apply body machine.beginCall with
      ⟨admitted, passed⟩ | ⟨exceeds, message, refused⟩
    · rw [machine.exceedsDepth_beginCall] at admitted
      rcases Evaluator.checkDepth_apply body loose.beginCall with
        ⟨_, otherPassed⟩ | ⟨otherExceeds, _⟩
      · exact .ok passed otherPassed ⟨rfl, by omega⟩
      · rw [looseExceeds] at otherExceeds
        omega
    · -- The call was counted before it was refused, and so it is in the other run.
      rw [machine.exceedsDepth_beginCall] at exceeds
      refine .cut refused ⟨message, rfl⟩ ?_
      refine Relaxation.exceeded_of_le _ (Relaxation.deepens_checkDepth body _) ?_
      change machine.settings.maxDepth < ((machine.beginCall.deepest : Nat) : Int)
      omega

/-! ## Runs that never give up -/

namespace Evaluator

open PatternMachine.Action (Keeps)

variable {property : StackProperty}

theorem defineAll_keeps
    {definitions : List Program.FunctionDefinition}
    (respects : ∀ definition ∈ definitions, ∀ clause ∈ definition.clauses,
      clause.Respects property) :
    Keeps property (standard.defineAll definitions) fun _ => True := by
  induction definitions with
  | nil => exact .ofLawful (.pure trivial)
  | cons definition rest inductionHypothesis =>
      obtain ⟨clausesRespect, restRespect⟩ := List.forall_mem_cons.mp respects
      rw [defineAll_cons, defineFunction_standard]
      exact (Interpreter.defineFunction_keeps clausesRespect).rescue
        fun _ _ => inductionHypothesis restRespect

/-- A program gives up for no other reason than the limit on calls. -/
theorem runProgram_keeps
    {program : Program}
    (respects : ∀ term ∈ program.terms, term.Respects property) :
    Keeps property (standard.runProgram program) fun _ => True := by
  have functions : ∀ definition ∈ program.functions, ∀ clause ∈ definition.clauses,
      clause.Respects property := by
    intro definition inTable clause inDefinition
    refine Machine.clauseRespects_iff.mpr fun term inside => respects term ?_
    have inClauses := List.mem_flatMap.mpr ⟨clause, inDefinition, inside⟩
    exact List.mem_append_left _ (List.mem_flatMap.mpr ⟨definition, inTable, inClauses⟩)
  have statements : ∀ statement ∈ program.statements, statement.Respects property := by
    intro statement inProgram
    refine Operation.statementRespects_iff.mpr fun term inside => respects term ?_
    exact List.mem_append_right _ (List.mem_flatMap.mpr ⟨statement, inProgram, inside⟩)
  rw [runProgram_eq]
  refine (defineAll_keeps functions).bind fun refused _ => ?_
  cases refused with
  | some error => exact .ofLawful (.pure trivial)
  | none =>
      exact Keeps.rescue (.ofLawful (execBlock_lawful standard_lawful statements trivial))
        fun _ _ => .ofLawful (.pure trivial)

end Evaluator

namespace Program

/-- Without a limit on calls no program makes a machine give up that programs led to. -/
theorem not_aborts_of_unlimited
    {program : Program}
    {machine : Machine}
    {hand : List Term}
    {unlimited : Int}
    (lifted : unlimited ≤ 0)
    (reachable : machine.Reachable hand)
    (held : ∀ term ∈ program.terms, term ∈ hand) :
    ¬ program.run.Aborts (machine.atRest unlimited) := by
  rintro ⟨message, after, aborted⟩
  obtain ⟨root, rooted, handRespects⟩ := reachable.rooted
  have keeps := Evaluator.runProgram_keeps fun term inside => handRespects term (held term inside)
  have outcome := keeps (machine.atRest unlimited)
    ⟨rooted.respects.store, rooted.respects.dispatch, rooted.respects.stack⟩
  rw [Evaluator.runProgram_standard, aborted] at outcome
  rcases outcome.2 with limits | empty
  · exact absurd limits (Int.not_lt.mpr lifted)
  · cases empty

/-! ## What the limit does -/

/-- From a machine at rest, a program runs in the same way under both limits, or it
gives up under the lower one and goes beyond it under the other. -/
theorem compares_limits
    (program : Program)
    (machine : Machine)
    {limit other : Int}
    (positive : 0 < limit)
    (higher : other ≤ 0 ∨ limit ≤ other) :
    (deepening limit other).Compares program.run program.run (machine.atRest limit) := by
  have sound := deepening_sound positive higher
  have total := Relaxation.congruence_total sound (by rintro _ ⟨_, impossible⟩; cases impossible)
    fun _ => rfl
  have related : (deepening limit other).Relates (Evaluator.standard.runProgram program)
      (Evaluator.standard.runProgram program) :=
    Evaluator.Related.runProgram (sound.within _) total program
  rw [Evaluator.runProgram_standard] at related
  exact related.compares _ ⟨rfl, Int.le_of_lt positive⟩

/-- A run that does not give up is the same run under a higher limit. -/
theorem run_eq_of_not_aborts
    {program : Program}
    {machine : Machine}
    {limit other : Int}
    (positive : 0 < limit)
    (higher : other ≤ 0 ∨ limit ≤ other)
    (finished : ¬ program.run.Aborts (machine.atRest limit)) :
    program.run (machine.atRest other) =
      Action.ensuring program.run (Machine.limited · other) (machine.atRest limit) := by
  refine (program.compares_limits machine positive higher).eq_of_not_cuts ?_
  rintro stop after run ⟨message, rfl⟩
  exact finished ⟨message, after, run⟩

/-- A run gives up exactly if it goes beyond the limit when there is none, or gives up
even then. -/
theorem aborts_iff
    (program : Program)
    (machine : Machine)
    {limit unlimited : Int}
    (positive : 0 < limit)
    (lifted : unlimited ≤ 0) :
    program.run.Aborts (machine.atRest limit) ↔
      limit < (program.run.after (machine.atRest unlimited)).deepest ∨
        program.run.Aborts (machine.atRest unlimited) := by
  have compared := program.compares_limits machine positive (.inl lifted)
  have loosely : (deepening limit unlimited).loose (machine.atRest limit) =
      machine.atRest unlimited := rfl
  cases compared with
  | @ok value after run otherRun strict =>
      rw [loosely] at otherRun
      have within : ¬ limit < ((deepening limit unlimited).loose after).deepest :=
        Int.not_lt.mpr strict.2
      simp [Action.Aborts, run, otherRun, Action.after_ok otherRun, within]
  | @error stop after run otherRun strict =>
      rw [loosely] at otherRun
      have within : ¬ limit < ((deepening limit unlimited).loose after).deepest :=
        Int.not_lt.mpr strict.2
      simp [Action.Aborts, run, otherRun, Action.after_error otherRun, within]
  | cut run cuts exceeded =>
      obtain ⟨message, rfl⟩ := cuts
      exact iff_of_true ⟨message, _, run⟩ (.inl exceeded)

/-- The limit on calls makes a run give up, and does nothing else. A run that does not
give up ends in the same way, with the same machine but for the settings, under every
higher limit and without one. And a run gives up exactly if more calls than the limit
allows are in progress at some moment of the run without a limit; a machine that no
program leads to may have another reason, and has it then without a limit too. -/
theorem limit_only_aborts
    (program : Program)
    (machine : Machine)
    {limit : Int}
    (positive : 0 < limit) :
    (¬ program.run.Aborts (machine.atRest limit) ->
      ∀ other : Int, other ≤ 0 ∨ limit ≤ other ->
        program.run (machine.atRest other) =
          Action.ensuring program.run (Machine.limited · other) (machine.atRest limit)) ∧
    ∀ unlimited : Int, unlimited ≤ 0 ->
      (program.run.Aborts (machine.atRest limit) ↔
        limit < (program.run.after (machine.atRest unlimited)).deepest ∨
          program.run.Aborts (machine.atRest unlimited)) ∧
      ∀ hand, machine.Reachable hand -> (∀ term ∈ program.terms, term ∈ hand) ->
        (program.run.Aborts (machine.atRest limit) ↔
          limit < (program.run.after (machine.atRest unlimited)).deepest) := by
  refine ⟨fun finished other higher => run_eq_of_not_aborts positive higher finished, ?_⟩
  intro unlimited lifted
  have exactly := program.aborts_iff machine positive lifted
  refine ⟨exactly, fun hand reachable held => exactly.trans (or_iff_left ?_)⟩
  exact not_aborts_of_unlimited lifted reachable held

/-- A function that counts down to zero, and a call that makes it count down from two. -/
def countdown : Program where
  name := "countdown"
  functions :=
    [⟨"down",
      [⟨.integer 0, [.evaluate (.integer 0) .absent]⟩,
        ⟨.identifier "n",
          [.evaluate
            (.apply 1 (.identifier "down")
              (.apply 2 (.identifier "__minus__") (.pair (.identifier "n") (.integer 1))))
            .absent]⟩]⟩]
  statements :=
    [.evaluate (.function 3 "down") (.identifier "down"),
      .evaluate (.apply 4 (.identifier "down") (.integer 2)) .absent]

/-- Three calls are in progress when the countdown has come to zero. -/
theorem countdown_deepest :
    (countdown.run.after ((Machine.prepared Store.initial {} {} false).atRest 0)).deepest = 3 := by
  have ends : Evaluator.endsWithin 9 countdown
      ((Machine.prepared Store.initial {} {} false).atRest 0)
      (fun _ after => after.deepest == 3) = true := by
    decide +kernel
  obtain ⟨outcome, after, run, deepest⟩ := Evaluator.run_of_endsWithin (by decide) ends
  rw [Action.after_ok run]
  exact eq_of_beq deepest

/-- The countdown needs three calls at once: a limit of two makes it give up, and under
a limit of nine it runs as it does under a limit of three. -/
theorem limit_only_aborts_of_countdown :
    let machine := Machine.prepared Store.initial {} {} false
    countdown.run.Aborts (machine.atRest 2) ∧
    ¬ countdown.run.Aborts (machine.atRest 3) ∧
    countdown.run (machine.atRest 9) =
      Action.ensuring countdown.run (Machine.limited · 9) (machine.atRest 3) := by
  intro machine
  have plain : ∀ term ∈ countdown.terms, term.Plain := by
    intro term member property
    simp only [countdown, terms, Clause.terms, Statement.terms, List.flatMap_cons,
      List.flatMap_nil, List.cons_append, List.append_nil, List.nil_append, List.mem_cons,
      List.not_mem_nil, or_false] at member
    rcases member with rfl | rfl | rfl | rfl | rfl | rfl | rfl | rfl | rfl | rfl <;> trivial
  have reachable := (Machine.Reachable.boot {} {} false).literals plain
  have held : ∀ term ∈ countdown.terms, term ∈ countdown.terms ++ [] := by simp
  obtain ⟨_, two⟩ := limit_only_aborts countdown machine (by decide : (0 : Int) < 2)
  obtain ⟨same, three⟩ := limit_only_aborts countdown machine (by decide : (0 : Int) < 3)
  have finished : ¬ countdown.run.Aborts (machine.atRest 3) := by
    rw [(three 0 (by decide)).2 _ reachable held, countdown_deepest]
    decide
  refine ⟨((two 0 (by decide)).2 _ reachable held).mpr ?_, finished,
    same finished 9 (.inr (by decide))⟩
  rw [countdown_deepest]
  decide

end Program
end PatternMachine
