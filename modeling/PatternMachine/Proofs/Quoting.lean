import PatternMachine.Proofs.Operation
import PatternMachine.Proofs.Refinement

/-!
# Evaluating with quotes ignored

While a term is evaluated once more, quotes are ignored, in whatever is called as well.
Only where a quote is evaluated does that make a difference. An evaluator that gives up
there does the same whether quotes are ignored or not, so that a call that evaluates no
quote can be made in an evaluation or outside of it.
-/

namespace PatternMachine

/-- The machine with quotes ignored. -/
def Machine.transparent (machine : Machine) : Machine :=
  machine.aside { machine.side with ignoreQuote := true }

/-- What is noted does not depend on how quotes are treated. -/
theorem Machine.noting_transparent
    (machine : Machine)
    (event : TraceEvent) :
    machine.transparent.noting event = (machine.noting event).transparent := by
  unfold Machine.noting
  have same : machine.transparent.tracer = machine.tracer := rfl
  rw [same]
  split <;> rfl

namespace Action

variable {α β : Type}

/-- On every machine the first action gives up, or the second one does the same with
quotes ignored. -/
def Disregards (action other : Action α) : Prop :=
  ∀ machine, (∃ after, action machine = .error .exhausted after) ∨
    other machine.transparent = ensuring action Machine.transparent machine

namespace Disregards

/-! ## Actions that do not look at quotes -/

theorem pure (value : α) : Disregards (Pure.pure value) (Pure.pure value) :=
  fun _ => .inr rfl

theorem throw (stop : Stop) :
    Disregards (MonadExcept.throw stop : Action α) (MonadExcept.throw stop) :=
  fun _ => .inr rfl

theorem raise (payload : Payload) :
    Disregards (raisePayload payload : Action α) (raisePayload payload) :=
  fun _ => .inr rfl

/-- A plain action has nothing to do with quotes. -/
theorem plain {action : Action α} (plain : IsPlain action) : Disregards action action := by
  intro machine
  obtain ⟨value, after, run, aside⟩ := plain machine
  refine .inr ?_
  rw [ensuring_apply, run, Machine.transparent, aside, ← plain.side run]
  rfl

/-- A change of the machine that quotes make no difference to. -/
theorem change
    {change : Machine -> Machine}
    (blind : ∀ machine, change machine.transparent = (change machine).transparent) :
    Disregards (modify change) (modify change) := by
  intro machine
  refine .inr ?_
  rw [ensuring_apply, modify_apply, modify_apply, blind]

theorem remark (event : TraceEvent) : Disregards (record event) (record event) := by
  refine change fun machine => ?_
  have same : machine.transparent.tracer = machine.tracer := rfl
  rw [same]
  split <;> rfl

/-! ## Putting actions together -/

theorem bind
    {action other : Action α}
    {next otherNext : α -> Action β}
    (first : Disregards action other)
    (second : ∀ value, Disregards (next value) (otherNext value)) :
    Disregards (action >>= next) (other >>= otherNext) := by
  intro machine
  rcases first machine with ⟨after, halted⟩ | same
  · exact .inl ⟨after, by rw [bind_apply, halted]⟩
  · simp only [bind_apply, ensuring_apply, same]
    cases action machine with
    | ok value after => exact second value after
    | error stop after => exact .inr rfl

/-- The machine is looked at, but not whether it ignores quotes. -/
theorem get_bind
    {next otherNext : Machine -> Action β}
    (blind : ∀ machine, otherNext machine.transparent = otherNext machine)
    (each : ∀ machine, Disregards (next machine) (otherNext machine)) :
    Disregards (get >>= next) (get >>= otherNext) := by
  intro machine
  rw [bind_apply, ensuring_apply, bind_apply, get_apply, get_apply]
  dsimp only
  rw [blind]
  exact each machine machine

theorem ite
    {condition : Prop}
    [Decidable condition]
    {first second firstOther secondOther : Action α}
    (whenTrue : Disregards first firstOther)
    (whenFalse : Disregards second secondOther) :
    Disregards (if condition then first else second)
      (if condition then firstOther else secondOther) := by
  by_cases decided : condition
  · simpa only [if_pos decided] using whenTrue
  · simpa only [if_neg decided] using whenFalse

theorem ensuring
    {action other : Action α}
    {cleanup otherCleanup : Machine -> Machine}
    (disregards : Disregards action other)
    (blind : ∀ machine, otherCleanup machine.transparent = (cleanup machine).transparent) :
    Disregards (Action.ensuring action cleanup) (Action.ensuring other otherCleanup) := by
  intro machine
  simp only [ensuring_apply]
  rcases disregards machine with ⟨after, halted⟩ | same
  · exact .inl ⟨cleanup after, by rw [halted]⟩
  · rw [same, ensuring_apply]
    refine .inr ?_
    cases action machine <;> simp only [blind]

/-- While quotes are ignored it makes no difference how they were treated before. -/
theorem ignoringQuotes
    {action other : Action α}
    (disregards : Disregards action other) :
    Disregards (Action.ignoringQuotes action) (Action.ignoringQuotes other) := by
  intro machine
  have inside : Disregards
      (Action.ensuring action fun after => { after with ignoreQuote := machine.ignoreQuote })
      (Action.ensuring other fun after => { after with ignoreQuote := true }) :=
    disregards.ensuring fun _ => rfl
  exact inside machine.transparent

theorem located
    {action other : Action α}
    (disregards : Disregards action other) :
    Disregards (Action.located action) (Action.located other) := by
  intro machine
  rcases disregards machine with ⟨after, halted⟩ | same
  · exact .inl ⟨after, by rw [located_apply, halted]; rfl⟩
  · refine .inr ?_
    rw [located_apply, same, ensuring_apply, ensuring_apply, located_apply]
    cases action machine <;> rfl

theorem orNoMatch
    {action other : Action α}
    (disregards : Disregards action other) :
    Disregards (Action.orNoMatch action) (Action.orNoMatch other) := by
  intro machine
  rcases disregards machine with ⟨after, halted⟩ | same
  · exact .inl ⟨after, by rw [orNoMatch_apply, halted]; rfl⟩
  · refine .inr ?_
    rw [orNoMatch_apply, same, ensuring_apply, ensuring_apply, orNoMatch_apply]
    cases action machine with
    | ok value after => rfl
    | error stop after =>
        have kept : after.transparent.store = after.store := rfl
        simp only [kept]
        split <;> rfl

/-- An exception is noted on its way out. -/
theorem recordRaised
    {action other : Action Term}
    (disregards : Disregards action other)
    (body : String) :
    Disregards (Action.recordRaised body action) (Action.recordRaised body other) := by
  intro machine
  rcases disregards machine with ⟨after, halted⟩ | same
  · exact .inl ⟨after, by rw [recordRaised_apply, halted]; rfl⟩
  · refine .inr ?_
    simp only [recordRaised_apply, same, ensuring_apply]
    cases action machine with
    | ok value after => rfl
    | error stop after =>
        have noted : after.transparent.notingStop body stop =
            (after.notingStop body stop).transparent := by
          unfold Machine.notingStop
          cases stop with
          | raised exception => exact Machine.noting_transparent _ _
          | _ => rfl
        exact congrArg (EStateM.Result.error stop) noted

/-! ## Calls -/

theorem whenFollowed
    {note : Action Unit}
    (followed : Bool)
    (disregards : Disregards note note) :
    Disregards (Action.whenFollowed followed note) (Action.whenFollowed followed note) := by
  unfold Action.whenFollowed
  exact .ite disregards (.pure ())

end Disregards
end Action

namespace Evaluator

open PatternMachine.Action (Disregards)

variable {self other : Evaluator}

theorem runTraced_disregards
    {code : Code}
    {argument : Term}
    (disregards : Disregards (self.runCode code argument) (other.runCode code argument))
    (body : String) :
    Disregards (self.runTraced body code argument) (other.runTraced body code argument) := by
  have shown : ∀ term, Disregards (Action.caption term) (Action.caption term) :=
    fun term => .get_bind (fun _ => rfl) fun _ => .pure _
  rw [runTraced_eq, runTraced_eq]
  refine Disregards.bind (fun _ => .inr rfl) fun followed => ?_
  refine Disregards.bind (.whenFollowed followed ?_) fun _ => ?_
  · exact (shown argument).bind fun _ => .get_bind (fun _ => rfl) fun _ => .remark _
  · refine (disregards.located.recordRaised body).bind fun result => ?_
    refine Disregards.bind (.whenFollowed followed ?_) fun _ => .pure result
    exact Disregards.bind (.ite (.pure _) (shown result)) fun _ => .remark _

theorem checkDepth_disregards (body : String) :
    Disregards (checkDepth body) (checkDepth body) := by
  intro machine
  refine .inr ?_
  rw [Action.ensuring_apply, checkDepth_congr machine machine.transparent rfl rfl rfl body]
  rcases checkDepth_apply body machine with ⟨_, passed⟩ | ⟨_, message, refused⟩
  · rw [passed]
  · rw [refused]

theorem enterFunction_disregards
    (captured : Closure)
    (receiver : Term) :
    Disregards (enterFunction captured receiver) (enterFunction captured receiver) := by
  rcases enterFunction_isPlain captured receiver with ⟨message, gaveUp⟩ | plain
  · rw [gaveUp]
    exact .throw _
  · exact .plain plain

theorem runFunction_disregards
    {code : Code}
    {argument : Term}
    (disregards : Disregards (self.runCode code argument) (other.runCode code argument))
    (caller : Machine)
    (receiver : Term)
    (body : String)
    (captured : Closure) :
    Disregards (self.runFunction caller receiver body code captured argument)
      (other.runFunction caller receiver body code captured argument) := by
  refine (checkDepth_disregards body).bind fun _ => Disregards.ensuring ?_ fun _ => rfl
  exact (enterFunction_disregards captured receiver).bind fun _ =>
    runTraced_disregards disregards body

/-- A call counts and runs the same whether quotes are ignored or not. -/
theorem call_disregards
    {argument : Term}
    (disregards : ∀ code : Code,
      Disregards (self.runCode code argument) (other.runCode code argument))
    (receiver : Term)
    (body : String)
    (captured : Option Closure) :
    Disregards (self.call receiver body captured argument)
      (other.call receiver body captured argument) := by
  intro machine
  rcases call_cases machine.dispatch receiver body captured argument with
    ⟨message, refused⟩ | ⟨code, closure, called⟩
  · refine .inr ?_
    rw [Action.ensuring_apply, refused self machine rfl, refused other machine.transparent rfl]
    rfl
  · have counted : Disregards
        (Action.ensuring (self.runFunction machine.beginCall receiver body code closure argument)
          Machine.endCall)
        (Action.ensuring (other.runFunction machine.beginCall receiver body code closure argument)
          Machine.endCall) :=
      (runFunction_disregards (disregards code) _ _ _ _).ensuring fun _ => rfl
    rw [Action.ensuring_apply, called self machine rfl, called other machine.transparent rfl]
    exact counted machine.beginCall

/-- The check for names bound twice has nothing to do with quotes. -/
theorem checkLinear_disregards
    (mode : Mode)
    (bindings : List Binding) :
    Disregards (checkLinear mode bindings) (checkLinear mode bindings) := by
  refine .get_bind (fun _ => rfl) fun machine => .ite ?_ (.pure bindings)
  split
  · exact .raise _
  · exact .pure bindings

end Evaluator

/-- Doing the same whether quotes are ignored or not is a congruence. -/
def disregarding : Congruence where
  Relates := Action.Disregards
  pure := .pure
  bind first second := first.bind second
  raise := .raise
  exhausted := fun machine => .inl ⟨machine, rfl⟩
  update plain := .plain (.update plain)
  follows _ := fun _ => .inr rfl
  remark {event} _ := .remark event
  ensuring disregards tidy := disregards.ensuring fun machine => by
    rw [Machine.transparent, tidy.plain, ← tidy.side]
    rfl
  ignoringQuotes disregards := disregards.ignoringQuotes
  located disregards := disregards.located
  orNoMatch disregards := disregards.orNoMatch
  checkLinear := Evaluator.checkLinear_disregards
  call receiver body captured _ disregards :=
    Evaluator.call_disregards disregards receiver body captured

/-! ## Evaluation without quotes -/

namespace Evaluator

/-- Evaluate as at a depth, but give up where a quote is evaluated that is not ignored. -/
def quoteless : Nat -> Evaluator
  | 0 => within 0
  | depth + 1 =>
      { walk := fun term =>
          match term with
          | .quote expression =>
              Action.ignoresQuotes >>= fun ignored =>
                if ignored then (quoteless depth).walk expression else throw .exhausted
          | term => (quoteless depth).walkStep term
        unify := (quoteless depth).unifyStep }

/-- Where no quote is evaluated, it makes no difference whether quotes are ignored. -/
theorem quoteless_disregards (depth : Nat) :
    Related disregarding (quoteless depth) (within depth) := by
  induction depth with
  | zero => exact ⟨fun _ machine => .inl ⟨machine, rfl⟩, fun _ _ _ machine => .inl ⟨machine, rfl⟩⟩
  | succ depth inductionHypothesis =>
      refine ⟨fun term => ?_, inductionHypothesis.unifyStep⟩
      by_cases quoted : ∃ expression, term = .quote expression
      · obtain ⟨expression, rfl⟩ := quoted
        intro machine
        have looked : (quoteless (depth + 1)).walk (.quote expression) machine =
            (if machine.ignoreQuote then (quoteless depth).walk expression
              else throw .exhausted) machine := rfl
        rw [Action.ensuring_apply, looked]
        cases machine.ignoreQuote with
        | false => exact .inl ⟨machine, rfl⟩
        | true => exact inductionHypothesis.walk expression machine
      · have step : (quoteless (depth + 1)).walk term = (quoteless depth).walkStep term := by
          cases term <;> first | rfl | exact absurd ⟨_, rfl⟩ quoted
        rw [step]
        exact inductionHypothesis.walkStep fun expression same => absurd ⟨expression, same⟩ quoted

/-- What yields no quote with quotes ignored has the same effect and result in an
evaluation, which then treats quotes as before. -/
theorem walkEvaluation_eq_ok
    {self : Evaluator}
    {machine after : Machine}
    {expression value : Term}
    (run : self.walk expression machine.transparent = .ok value after)
    (unquoted : ∀ inner, value ≠ .quote inner) :
    self.walkEvaluation expression machine =
      .ok value { after with ignoreQuote := machine.ignoreQuote } := by
  have inside : (self.walk expression >>= fun result =>
      match result with
      | .quote inner => self.walk inner
      | value => pure value) machine.transparent = .ok value after := by
    rw [Action.bind_apply, run]
    cases value with
    | quote inner => exact absurd rfl (unquoted inner)
    | _ => rfl
  have whole : self.walkEvaluation expression machine =
      Action.ensuring (self.walk expression >>= fun result =>
        match result with
        | .quote inner => self.walk inner
        | value => pure value)
        (fun final => { final with ignoreQuote := machine.ignoreQuote }) machine.transparent := rfl
  rw [whole, Action.ensuring_apply, inside]

/-- A call that evaluates no quote has the same effect and result in an evaluation, unless
the result is a quote. -/
theorem evaluation_of_call
    {depth deeper : Nat}
    {machine after : Machine}
    {mark callMark : Mark}
    {function argument value : Term}
    (called : (within depth).walk (.apply callMark function argument) machine = .ok value after)
    (unquoting : (quoteless depth).walk (.apply callMark function argument) machine =
      (within depth).walk (.apply callMark function argument) machine)
    (unquoted : ∀ inner, value ≠ .quote inner)
    (deep : depth < deeper) :
    (within deeper).walk (.evaluation mark (.apply callMark function argument)) machine =
      .ok value after := by
  have restored : after.ignoreQuote = machine.ignoreQuote := by
    have evolves := (within_lawful depth).walk (.apply callMark function argument)
      (Term.respects_trivial _) machine machine.respects_trivial
    rw [called] at evolves
    exact evolves.1.sameFrame.ignoreQuote
  -- The call does the same with quotes ignored.
  have ignored : (within depth).walk (.apply callMark function argument) machine.transparent =
      .ok value after.transparent := by
    rcases (quoteless_disregards depth).walk (.apply callMark function argument) machine with
      ⟨stopped, halted⟩ | same
    · rw [unquoting, called] at halted
      cases halted
    · rw [same, Action.ensuring_apply, unquoting, called]
  have evaluated : (within (depth + 1)).walk
      (.evaluation mark (.apply callMark function argument)) machine = .ok value after := by
    have run := walkEvaluation_eq_ok ignored unquoted
    rw [← restored] at run
    exact run
  exact walk_eq_ok_of_le deep evaluated

/-- A machine on which `f` is defined by one clause. -/
def definedHome (clause : Clause) : Machine where
  store := { cells := #[], scopes := #[{}], globals := #[[]], nextMark := 5 }
  scopes := #[⟨0⟩]
  globals := #[⟨0⟩]
  dispatch := ⟨[("f", .clauses "f" [clause])]⟩

/-- The function `f` as a value. -/
def definedFunction : Term :=
  .closure "f" (some { mark := 1, scopes := #[⟨0⟩], globals := #[⟨0⟩], level := 0 })

/-- A clause that evaluates a quoted name once more, with quotes ignored. -/
def evaluatingClause : Clause where
  pattern := .identifier "x"
  body := [.evaluate (.evaluation 3 (.quote (.identifier "x"))) .absent]

/-- The function yields its argument, in an evaluation as well. -/
theorem evaluation_of_call_of_argument :
    ∃ after,
      (within 9).walk (.apply 1 definedFunction (.integer 7)) (definedHome evaluatingClause) =
          .ok (.integer 7) after ∧
        (within 10).walk (.evaluation 2 (.apply 1 definedFunction (.integer 7)))
          (definedHome evaluatingClause) = .ok (.integer 7) after := by
  obtain ⟨after, called, unquoting⟩ : ∃ after,
      (within 9).walk (.apply 1 definedFunction (.integer 7)) (definedHome evaluatingClause) =
          .ok (.integer 7) after ∧
        (quoteless 9).walk (.apply 1 definedFunction (.integer 7)) (definedHome evaluatingClause) =
          .ok (.integer 7) after := ⟨_, rfl, rfl⟩
  exact ⟨after, called,
    evaluation_of_call called (unquoting.trans called.symm) (by simp) (Nat.lt_succ_self 9)⟩

/-- A clause that yields whether a quoted number is a pattern. -/
def quotingClause : Clause where
  pattern := .identifier "_"
  body := [.evaluate (.isMatch 3 (.quote (.integer 1)) (.typeMatch 4 "pattern")) .absent]

/-- The quoted number is a pattern when the function is called, and a number when the call
is evaluated once more. -/
theorem evaluation_of_quoting_call :
    (definedHome quotingClause).ignoreQuote = false ∧
      (∃ after, standard.walk (.apply 1 definedFunction (.integer 0))
        (definedHome quotingClause) = .ok (.boolean true) after) ∧
      ∃ after, standard.walk (.evaluation 2 (.apply 1 definedFunction (.integer 0)))
        (definedHome quotingClause) = .ok (.boolean false) after := by
  have small : 9 ≤ depthLimit := le_depthLimit (by decide)
  obtain ⟨afterCall, called⟩ : ∃ after,
      (within 9).walk (.apply 1 definedFunction (.integer 0)) (definedHome quotingClause) =
        .ok (.boolean true) after := ⟨_, rfl⟩
  obtain ⟨afterEvaluation, evaluated⟩ : ∃ after,
      (within 9).walk (.evaluation 2 (.apply 1 definedFunction (.integer 0)))
        (definedHome quotingClause) = .ok (.boolean false) after := ⟨_, rfl⟩
  exact ⟨rfl, ⟨afterCall, walk_eq_ok_of_le small called⟩,
    ⟨afterEvaluation, walk_eq_ok_of_le small evaluated⟩⟩

end Evaluator
end PatternMachine
