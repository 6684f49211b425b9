import PatternMachine.Proofs.Ledger.Loading
import PatternMachine.Proofs.Refinement

/-!
# Supervised runs

A supervised run checks a condition whenever a term is about to be evaluated or
matched, and again when that returns or raises an error; it gives up as soon as
the condition fails, and rings a bell that no run rings by itself and that nothing
stops. So a condition holds at every moment of a run when the supervised run is the
run itself: it would make no difference what else was done where the condition fails.
That is the case for every condition that a sound machine satisfies. The condition
may refer to the ledger at the end of the run: its entries serve for all moments,
because entries are never changed.
-/

namespace PatternMachine

/-- The terms that a raised error carries. -/
def Exception.terms (exception : Exception) : List Term :=
  match exception.payload with
  | .standard _ _ => []
  | .value term => [term]

/-- The terms that are carried to where a stop is noticed. -/
def Stop.terms : Stop -> List Term
  | .raised exception => exception.terms
  | _ => []

/-- The terms of a match that are in hand: in covering mode patterns are compared
with each other, and nothing is. -/
def Mode.hand : Mode -> List Term -> List Term
  | .binding, terms => terms
  | .covering, _ => []

open Classical in
/-- An action that gives up where the condition fails, of the machine and the terms
in hand, before the action or after it. -/
noncomputable def Action.supervised {α : Type} (condition : Machine -> List Term -> Prop)
    (hand : List Term) (results : α -> List Term) (action : Action α) : Action α :=
  fun machine =>
    if condition machine hand then
      match action machine with
      | .ok value after =>
          if condition after (results value) then .ok value after
          else .error (.fatal bell) after
      | .error stop after =>
          if condition after stop.terms then .error stop after
          else .error (.fatal bell) after
    else .error (.fatal bell) machine

namespace Evaluator

/-- The evaluator that allows a given depth of recursion, under supervision. -/
noncomputable def supervised (condition : Machine -> List Term -> Prop) : Nat -> Evaluator
  | 0 => within 0
  | depth + 1 =>
      { walk := fun term =>
          ((supervised condition depth).walkStep term).supervised condition [] fun value =>
            [value]
        unify := fun mode term pattern =>
          ((supervised condition depth).unifyStep mode term pattern).supervised condition
            (mode.hand [term]) fun bindings => mode.hand (bindings.map Binding.value) }

end Evaluator

/-! ## A check that fails is noticed -/

open Classical in
/-- An action that is checked like a supervised one, and does something else where the
condition fails. -/
noncomputable def Action.checked {α : Type} (condition : Machine -> List Term -> Prop)
    (hand : List Term) (results : α -> List Term) (action otherwise : Action α) : Action α :=
  fun machine =>
    if condition machine hand then
      match action machine with
      | .ok value after =>
          if condition after (results value) then .ok value after else otherwise after
      | .error stop after =>
          if condition after stop.terms then .error stop after else otherwise after
    else otherwise machine

/-- An action under supervision rings the bell, or does the same whatever is done where the
condition fails. -/
theorem Action.supervised_refines
    {α : Type}
    {condition : Machine -> List Term -> Prop}
    {action other : Action α}
    (refines : Action.Refines (.fatal bell) action other)
    (hand : List Term)
    (results : α -> List Term)
    (otherwise : Action α) :
    Action.Refines (.fatal bell) (action.supervised condition hand results)
      (other.checked condition hand results otherwise) := by
  intro machine
  unfold Action.supervised Action.checked
  by_cases before : condition machine hand
  · rw [if_pos before, if_pos before]
    rcases refines machine with ⟨after, rings⟩ | same
    · rw [rings]
      exact .inl ⟨after, ite_self _⟩
    · rw [same]
      cases other machine with
      | ok value after =>
          by_cases afterwards : condition after (results value)
          · exact .inr (by simp only [if_pos afterwards])
          · exact .inl ⟨after, if_neg afterwards⟩
      | error stop after =>
          by_cases afterwards : condition after stop.terms
          · exact .inr (by simp only [if_pos afterwards])
          · exact .inl ⟨after, if_neg afterwards⟩
  · exact .inl ⟨machine, if_neg before⟩

namespace Evaluator

/-- The evaluator that allows a given depth of recursion and does something else where the
condition fails. -/
noncomputable def checked (value : Action Term) (bindings : Action (List Binding))
    (condition : Machine -> List Term -> Prop) : Nat -> Evaluator
  | 0 => within 0
  | depth + 1 =>
      { walk := fun term =>
          ((checked value bindings condition depth).walkStep term).checked condition []
            (fun value => [value]) value
        unify := fun mode term pattern =>
          ((checked value bindings condition depth).unifyStep mode term pattern).checked condition
            (mode.hand [term]) (fun bindings => mode.hand (bindings.map Binding.value)) bindings }

/-- The bell is rung in a supervised run, or it makes no difference what is done where the
condition fails. -/
theorem supervised_refines
    (value : Action Term)
    (bindings : Action (List Binding))
    (condition : Machine -> List Term -> Prop)
    (depth : Nat) :
    Evaluator.Refines (.fatal bell) (supervised condition depth)
      (checked value bindings condition depth) := by
  induction depth with
  | zero => exact ⟨fun _ => .refl _, fun _ _ _ => .refl _⟩
  | succ depth inductionHypothesis =>
      exact
        { walk := fun _ => Action.supervised_refines
            (inductionHypothesis.walkStep fun _ _ => inductionHypothesis.walkQuote (.refl _) _)
              _ _ _
          unify := fun _ _ _ => Action.supervised_refines
            (inductionHypothesis.unifyStep _ _ _) _ _ _ }

/-! ## Supervision by a condition that sound machines satisfy -/

/-- Whatever is sound satisfies the condition, which may look at any ledger that has
the entries there are. -/
def IsSafe (quoting : Bool) (condition : Ledger -> Machine -> List Term -> Prop) : Prop :=
  ∀ future ledger machine hand, ledger.Grows future -> machine.Sound quoting ledger ->
    (∀ term ∈ hand, term.IsData quoting ledger) -> condition future machine hand

variable {quoting : Bool} {ledger : Ledger} {condition : Ledger -> Machine -> List Term -> Prop}

theorem stop_isData
    {stop : Stop}
    (sound : stop.IsSound quoting ledger) :
    ∀ term ∈ stop.terms, term.IsData quoting ledger := by
  cases stop with
  | raised exception =>
      obtain ⟨⟨payload, position⟩, origin⟩ := exception
      cases payload with
      | standard kind message => simp [Stop.terms, Exception.terms]
      | value term => exact List.forall_mem_singleton.mpr sound
  | fatal message => simp [Stop.terms]
  | exhausted => simp [Stop.terms]

/-- Supervision by a safe condition that is told the right ledger never gives up. -/
theorem supervised_careful_action
    {α : Type}
    {hand : List Term}
    {results : α -> List Term}
    {action : Action α}
    {told : Ledger -> Action α}
    {answer : Ledger -> α -> Prop}
    (safe : IsSafe quoting condition)
    (handData : ∀ term ∈ hand, term.IsData quoting ledger)
    (resultsData : ∀ later value, answer later value ->
      ∀ term ∈ results value, term.IsData quoting later)
    (careful : Action.Foretold quoting ledger action told answer) :
    Action.Foretold quoting ledger action
      (fun future => (told future).supervised (condition future) hand results) answer := by
  intro later machine grows sound
  have before : ∀ {final future : Ledger}, later.Grows final -> final.Grows future ->
      condition future machine hand := fun growing known =>
    safe _ later machine hand (growing.trans known) sound
      fun term inside => (handData term inside).mono grows
  have outcome := careful later machine grows sound
  revert outcome
  unfold Action.supervised
  cases action machine with
  | ok value after =>
      rintro ⟨final, leads, holds, same⟩
      refine ⟨final, leads, holds, fun future known => ?_⟩
      have afterwards := safe future final after _ known leads.sound (resultsData final value holds)
      simp only [if_pos (before (leads.grows sound) known), same future known, if_pos afterwards]
  | error stop after =>
      rintro ⟨final, leads, stopped, same⟩
      refine ⟨final, leads, stopped, fun future known => ?_⟩
      have afterwards := safe future final after _ known leads.sound (stop_isData stopped)
      simp only [if_pos (before (leads.grows sound) known), same future known, if_pos afterwards]

theorem hand_isData
    {mode : Mode}
    {bindings : List Binding}
    (sound : BindingsSound quoting mode ledger bindings) :
    ∀ term ∈ mode.hand (bindings.map Binding.value), term.IsData quoting ledger := by
  cases mode with
  | binding =>
      intro term member
      obtain ⟨binding, bound, rfl⟩ := List.mem_map.mp member
      exact (sound rfl binding bound).2
  | covering => simp [Mode.hand]

/-- Evaluation is careful, and under supervision by a safe condition it is the same. -/
theorem supervised_careful
    (safe : IsSafe quoting condition)
    (depth : Nat) :
    (within depth).IsCareful quoting fun future => supervised (condition future) depth := by
  induction depth with
  | zero => exact within_careful 0
  | succ depth inductionHypothesis =>
      exact
        { walk := fun code =>
            supervised_careful_action safe (by simp)
              (fun _ _ data => List.forall_mem_singleton.mpr data)
              (walkStep_careful inductionHypothesis code)
          unify := fun mode term pattern subject code => by
            refine supervised_careful_action safe ?_ (fun _ _ sound => hand_isData sound)
              (unifyStep_careful inductionHypothesis subject code)
            cases mode with
            | binding => exact List.forall_mem_singleton.mpr subject
            | covering => simp [Mode.hand] }

end Evaluator
end PatternMachine
