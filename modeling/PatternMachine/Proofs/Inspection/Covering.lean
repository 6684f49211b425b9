import PatternMachine.Proofs.Inspection

/-!
# Comparing patterns disturbs nothing

A comparison of patterns binds nothing, opens no scope and evaluates no guard.
All it does to the machine by itself is to give the warning that guarded clauses
cannot be compared, and it gives it once. So the redundancy check leaves the
machine as it was whenever the expressions that it evaluates are passive.
-/

namespace PatternMachine
namespace Machine

/-- The machine after the warning about guarded clauses. -/
def warned (machine : Machine) : Machine :=
  { machine with
    guardWarned := true
    trace :=
      if machine.tracer.records (.warned Evaluator.guardWarning) then
        machine.trace.push (.warned Evaluator.guardWarning)
      else machine.trace }

/-- The warning about guarded clauses was given at most, if it had not been given, and
cells were added at most. -/
def Undisturbed (machine after : Machine) : Prop :=
  machine.Adds after ∨ machine.guardWarned = false ∧ machine.warned.Adds after

variable {machine after : Machine}

/-- Cells may as well be added after the warning as before it. -/
theorem Adds.warned (adds : machine.Adds after) : machine.warned.Adds after.warned where
  rest := by
    rw [adds.rest]
    rfl
  scopes := adds.scopes
  globals := adds.globals
  keeps := adds.keeps

namespace Undisturbed

theorem trans
    {first second third : Machine}
    (earlier : first.Undisturbed second)
    (later : second.Undisturbed third) :
    first.Undisturbed third := by
  rcases earlier with added | ⟨unwarned, added⟩
  · rcases later with adds | ⟨unwarned, adds⟩
    · exact .inl (added.trans adds)
    · rw [added.rest] at unwarned
      exact .inr ⟨unwarned, added.warned.trans adds⟩
  · rcases later with adds | ⟨again, adds⟩
    · exact .inr ⟨unwarned, added.trans adds⟩
    · -- The warning is not given a second time.
      rw [added.rest] at again
      cases again

theorem retains (undisturbed : machine.Undisturbed after) : machine.Retains after := by
  rcases undisturbed with adds | ⟨_, adds⟩
  · exact adds.retains
  · exact
      { keeps := adds.keeps
        names := fun name => by
          rw [adds.lookup? name]
          exact Machine.lookup?_congr machine machine.warned rfl rfl name
        quotes := by
          rw [adds.rest]
          rfl }

/-- A constraint is counted while it is compared, and no longer. -/
theorem uncounted
    (undisturbed :
      Undisturbed { machine with constraintDepth := machine.constraintDepth + 1 } after) :
    machine.Undisturbed { after with constraintDepth := after.constraintDepth - 1 } := by
  rcases undisturbed with adds | ⟨unwarned, adds⟩
  · refine .inl ⟨?_, adds.scopes, adds.globals, adds.keeps⟩
    rw [adds.rest]
    rfl
  · refine .inr ⟨unwarned, ?_, adds.scopes, adds.globals, adds.keeps⟩
    rw [adds.rest]
    rfl

end Undisturbed
end Machine

/-- Nothing is disturbed. -/
def Frame.undisturbed : Frame where
  allows := Machine.Undisturbed
  trans := .trans
  adds := .inl

/-- Run on the machine, the action disturbs nothing. -/
abbrev Action.Spectates {α : Type} (machine : Machine) (action : Action α) : Prop :=
  Action.Heeds .undisturbed machine action fun _ _ => True

/-- Adding cells disturbs nothing. -/
theorem Action.Heeds.undisturbing
    {α : Type}
    {machine : Machine}
    {action : Action α}
    {answer : Machine -> α -> Prop}
    (heeds : Action.Heeds .adding machine action answer) :
    Action.Heeds .undisturbed machine action answer :=
  heeds.widen .inl fun _ _ _ => id

namespace Evaluator

open PatternMachine.Action (Heeds Spectates)

variable {machine : Machine} {self : Evaluator} {term pattern : Term}

/-- Evaluating inert terms adds cells at most, and comparing inert patterns disturbs
nothing. -/
structure ComparesInertly (evaluator : Evaluator) : Prop where
  walk : evaluator.EvaluatesInertly
  unify : ∀ machine term pattern, machine.Inert .compared term ->
    machine.Inert .compared pattern ->
    Spectates machine (evaluator.unify .covering term pattern)

theorem unifyLinear_inert
    (compares : self.ComparesInertly)
    {terms patterns : List Site}
    (termsInert : ∀ site ∈ terms, machine.InertAt .compared site)
    (patternsInert : ∀ site ∈ patterns, machine.InertAt .compared site) :
    Spectates machine (self.unifyLinear .covering terms patterns) := by
  have each : ∀ (machine : Machine) (pairs : List (Site × Site)),
      (∀ pair ∈ pairs, machine.InertAt .compared pair.1 ∧ machine.InertAt .compared pair.2) ->
      Spectates machine (self.unifyEach .covering pairs) := by
    intro machine pairs inert
    induction pairs generalizing machine with
    | nil => exact .pure trivial
    | cons pair rest inductionHypothesis =>
        obtain ⟨pairInert, restInert⟩ := List.forall_mem_cons.mp inert
        refine .find_bind (.find_bind ?_)
        refine (compares.unify machine _ _ pairInert.1.now pairInert.2.now).bind
          fun after _ undisturbed _ => ?_
        refine (inductionHypothesis after fun other held => ?_).bind fun _ _ _ _ => .pure trivial
        obtain ⟨termInert, patternInert⟩ := restInert other held
        exact ⟨termInert.retained undisturbed.retains, patternInert.retained undisturbed.retains⟩
  refine (each machine (terms.zip patterns) fun pair held => ?_).bind fun after bindings _ _ => ?_
  · obtain ⟨termHeld, patternHeld⟩ := List.of_mem_zip held
    exact ⟨termsInert pair.1 termHeld, patternsInert pair.2 patternHeld⟩
  · exact .get_bind (.pure trivial)

/-- What has been found without a disturbance is compared. -/
theorem then_compares
    {action : Action Term}
    {next : Term -> Action (List Binding)}
    (found : Heeds .adding machine action fun after value => after.Inert .compared value)
    (compared : ∀ after value, machine.Retains after -> after.Inert .compared value ->
      Spectates after (next value)) :
    Spectates machine (action >>= next) :=
  found.undisturbing.bind fun after value undisturbed inert =>
    compared after value undisturbed.retains inert

/-- The pattern a reference stands for can be compared. -/
theorem dereference_inert
    (evaluates : self.EvaluatesInertly)
    {expression : Term}
    (inert : machine.Inert .evaluated expression) :
    Heeds .adding machine (self.dereference expression) fun after value =>
      after.Inert .compared value := by
  refine (evaluates machine expression inert).bind fun after value _ valueInert => ?_
  split
  · exact .pure (valueInert.subpattern (by simp [Term.subpatterns, Term.yielding]))
  · exact .pure valueInert

/-! ## Rules that look at the term alone -/

theorem unifyText_spectates {text regex : String} :
    Spectates machine (unifyText text regex) := by
  unfold unifyText
  split
  · exact .raise
  · exact .ite (fun _ => .pure trivial) fun _ => .raise

theorem unifyRegex_spectates {regex : String} :
    Spectates machine (unifyRegex .covering term regex) := by
  unfold unifyRegex
  split
  · exact unifyText_spectates
  · refine .display_bind fun shown => .ite (fun _ => .raise) fun _ => ?_
    exact Heeds.count.bind fun _ _ _ _ => unifyText_spectates

theorem unifyType_spectates {typeName : String} :
    Spectates machine (unifyType .covering term typeName) := by
  unfold unifyType
  split
  · exact .ite (fun _ => .pure trivial) fun _ => .raise
  · refine .ite (fun _ => ?_) fun _ => .ite (fun _ => ?_) fun _ => .ite (fun _ => ?_) fun _ => ?_
    · split
      · exact .pure trivial
      · exact .pure trivial
      · exact .raise
    · split
      · exact .pure trivial
      · exact .raise
    · exact .ite (fun _ => .pure trivial) fun _ => .raise
    · refine .lookup?_bind ?_
      split
      · exact .ite (fun _ => .pure trivial) fun _ => .raise
      · exact .raise

/-- The warning is given if it has not been given. -/
theorem warnGuard_apply (machine : Machine) :
    warnGuard machine = .ok () (if machine.guardWarned then machine else machine.warned) := by
  unfold warnGuard
  rw [Action.bind_apply, Action.get_apply]
  dsimp only
  by_cases given : machine.guardWarned = true
  · rw [if_pos given, if_pos given, Action.pure_apply]
  · rw [if_neg given, if_neg given, Action.bind_apply, Action.modify_apply]
    unfold Action.record Machine.warned
    dsimp only
    rw [Action.modify_apply]
    by_cases recorded : machine.tracer.records (.warned guardWarning) = true
    · rw [if_pos recorded, if_pos recorded]
    · rw [if_neg recorded, if_neg recorded]

theorem warnGuard_spectates : Spectates machine warnGuard := by
  unfold Spectates Heeds
  rw [warnGuard_apply]
  refine ⟨?_, trivial⟩
  cases given : machine.guardWarned with
  | true => exact .inl (.refl machine)
  | false => exact .inr ⟨given, .refl machine.warned⟩

/-- A guard is never evaluated. -/
theorem unifyGuarded_spectates
    {mark : Mark}
    {condition consequent alternative : Term} :
    Spectates machine
      (self.unifyGuarded .covering term mark condition consequent alternative) := by
  refine .ite (fun _ => .raise) fun _ => ?_
  split
  · exact warnGuard_spectates.bind fun _ _ _ _ => .raise
  · exact .display_bind fun _ => .display_bind fun _ => .raise
  · contradiction

theorem unifyEqual_spectates : Spectates machine (unifyEqual term pattern) := by
  have compared : Spectates machine (agrees term pattern) :=
    .ite (fun _ => .equal) fun _ => .pure trivial
  refine compared.bind fun _ _ _ _ => .ite (fun _ => .pure trivial) fun _ => ?_
  exact .display_bind fun _ => .display_bind fun _ => .raise

/-! ## Rules that go on with parts -/

theorem unifyHeadTail_inert
    (compares : self.ComparesInertly)
    {raw : Bool}
    {mark : Mark}
    {head tail : Term}
    (termInert : machine.Inert .compared term)
    (patternInert : machine.Inert .compared (.headTail raw mark head tail)) :
    Spectates machine (self.unifyHeadTail .covering term head tail) := by
  have given : ∀ {machine : Machine} {first second : Term}, machine.Inert .compared first ->
      machine.Inert .compared second ->
      ∀ site ∈ [Site.given first, .given second], machine.InertAt .compared site :=
    fun firstInert secondInert => by simpa using ⟨fun _ _ => firstInert, fun _ _ => secondInert⟩
  have headInert : machine.Inert .compared head :=
    patternInert.subpattern (by simp [Term.subpatterns, Term.yielding])
  have tailInert : machine.Inert .compared tail :=
    patternInert.subpattern (by simp [Term.subpatterns, Term.yielding])
  unfold unifyHeadTail
  split
  · rename_i cell
    refine .store_bind ?_
    split
    · exact .raise
    · rename_i first rest spelled
      have elements : ∀ part ∈ first :: rest, machine.Inert .compared part :=
        fun part held => termInert.subpattern (show part ∈ (machine.store.elements cell).toList from
          spelled ▸ held)
      obtain ⟨firstInert, restInert⟩ := List.forall_mem_cons.mp elements
      refine then_compares (gathers_inert (.newList restInert))
        fun after remainder retains remainderInert => ?_
      exact unifyLinear_inert compares (given (firstInert.retained retains) remainderInert)
        (given (headInert.retained retains) (tailInert.retained retains))
  · contradiction
  · refine unifyLinear_inert compares (given (termInert.subpattern ?_)
      (termInert.subpattern ?_)) (given headInert tailInert)
    · simp [Term.subpatterns, Term.yielding]
    · simp [Term.subpatterns, Term.yielding]
  · exact .raise

theorem unifyConstructor_inert
    (compares : self.ComparesInertly)
    {owner : Option Template}
    {memory : CellRef}
    {callee argument : Term}
    (objectInert : machine.Inert .compared (.object owner memory))
    (argumentInert : machine.Inert .compared argument) :
    Spectates machine (self.unifyConstructor .covering owner memory callee argument) := by
  have member : ∀ slot : Nat, machine.Inert .compared
      ((machine.store.elements memory)[slot]?.getD .absent) := by
    intro slot
    cases found : (machine.store.elements memory)[slot]? with
    | none => exact .leaf rfl rfl
    | some value =>
        exact objectInert.subpattern (Array.mem_toList_iff.mpr (Array.mem_of_getElem? found))
  unfold unifyConstructor
  split
  · refine .ite (fun _ => .raise) fun _ => ?_
    split
    · exact .raise
    · refine .store_bind ?_
      dsimp only
      split
      · rename_i patterns spread
        refine .ite (fun _ => .raise) fun _ => ?_
        refine unifyLinear_inert compares (fun site held => ?_) (.subpatterns argumentInert)
        obtain ⟨slot, _, rfl⟩ := List.mem_map.mp held
        exact fun _ _ => member slot
      · split
        · exact .raise
        · exact compares.unify _ _ _ (member _) argumentInert
  · exact .display_bind fun _ => .raise

theorem unifyApplications_inert
    (compares : self.ComparesInertly)
    {termCallee termArgument callee argument : Term}
    (termInert : machine.Inert .compared termArgument)
    (argumentInert : machine.Inert .compared argument) :
    Spectates machine (self.unifyApplications termCallee termArgument callee argument) := by
  have apart : ∀ message : String -> String -> String, Spectates machine
      (do mismatch (message (← Action.display callee) (← Action.display termCallee)) :
        Action (List Binding)) :=
    fun _ => .display_bind fun _ => .display_bind fun _ => .raise
  unfold unifyApplications
  dsimp only
  split
  · exact .ite (fun _ => compares.unify _ _ _ termInert argumentInert) fun _ => apart _
  · exact apart _

theorem unifyCompound_inert
    (compares : self.ComparesInertly)
    (termInert : machine.Inert .compared term)
    (patternInert : machine.Inert .compared pattern) :
    Spectates machine (self.unifyCompound .covering term pattern) := by
  refine .store_bind ?_
  split
  · rename_i terms patterns termSpread patternSpread
    refine .ite (fun _ => .raise) fun _ => ?_
    exact unifyLinear_inert compares (.subpatterns termInert) (.subpatterns patternInert)
  · split
    · exact unifyConstructor_inert compares termInert
        (patternInert.subpattern (by simp [Term.subpatterns, Term.yielding]))
    · exact unifyApplications_inert compares
        (termInert.subpattern (by simp [Term.subpatterns, Term.yielding]))
        (patternInert.subpattern (by simp [Term.subpatterns, Term.yielding]))
    · exact unifyEqual_spectates

theorem unifyLists_inert
    (compares : self.ComparesInertly)
    (termInert : machine.Inert .compared term)
    (patternInert : machine.Inert .compared pattern) :
    Spectates machine (self.unifyLists .covering term pattern) := by
  unfold unifyLists
  dsimp only
  split
  · refine .store_bind (.ite (fun _ => .raise) fun _ => ?_)
    exact unifyLinear_inert compares (.subpatterns termInert) (.subpatterns patternInert)
  · exact .raise
  · exact .raise
  · exact unifyCompound_inert compares termInert patternInert

/-- A constraint is counted while the pattern inside is compared. -/
theorem constraint_inert
    (compares : self.ComparesInertly)
    {inner : Term}
    (termInert : machine.Inert .compared term)
    (innerInert : machine.Inert .compared inner) :
    Spectates machine (do
      modify fun machine => { machine with constraintDepth := machine.constraintDepth + 1 }
      let _ ← Action.ensuring (self.unify .covering term inner) fun machine =>
        { machine with constraintDepth := machine.constraintDepth - 1 }
      return ([] : List Binding)) := by
  have counted : machine.Retains
      { machine with constraintDepth := machine.constraintDepth + 1 } :=
    ⟨.refl _, Machine.lookup?_congr machine _ rfl rfl, rfl⟩
  have compared := (compares.unify _ term inner (termInert.retained counted)
    (innerInert.retained counted)).after
  unfold Spectates Heeds
  unfold Action.after at compared
  rw [Action.bind_apply, Action.modify_apply]
  dsimp only
  rw [Action.bind_apply, Action.ensuring_apply]
  revert compared
  cases self.unify .covering term inner
      { machine with constraintDepth := machine.constraintDepth + 1 } with
  | ok bindings after => exact fun compared => ⟨compared.uncounted, trivial⟩
  | error stop after => exact fun compared => compared.uncounted

theorem unifyIndirect_inert
    (compares : self.ComparesInertly)
    (termInert : machine.Inert .compared term)
    (patternInert : machine.Inert .compared pattern) :
    Spectates machine (self.unifyIndirect .covering term pattern) := by
  unfold unifyIndirect
  split
  · exact unifyHeadTail_inert compares termInert patternInert
  · refine then_compares (compares.walk _ _ (patternInert.onwards (by simp [Machine.consulted])))
      fun after value retains valueInert => ?_
    exact compares.unify _ _ _ (termInert.retained retains) valueInert
  · refine then_compares
      (dereference_inert compares.walk (patternInert.onwards (by simp [Machine.consulted])))
      fun after value retains valueInert => ?_
    exact compares.unify _ _ _ (termInert.retained retains) valueInert
  · exact constraint_inert compares termInert
      (patternInert.subpattern (by simp [Term.subpatterns]))
  · exact unifyLists_inert compares termInert patternInert

/-! ## Rules that look through the term or the pattern -/

theorem unifyQuoted_inert
    (compares : self.ComparesInertly)
    (termInert : machine.Inert .compared term)
    (patternInert : machine.Inert .compared pattern) :
    Spectates machine (self.unifyQuoted .covering term pattern) := by
  have through : ∀ {inner : Term}, machine.Inert .compared (.quote inner) ->
      machine.Inert .compared inner :=
    fun inert => inert.subpattern (by simp [Term.subpatterns, Term.yielding])
  unfold unifyQuoted
  split
  · exact compares.unify _ _ _ (through termInert) (through patternInert)
  · exact compares.unify _ _ _ termInert (through patternInert)
  · exact unifyIndirect_inert compares termInert patternInert
  · exact unifyIndirect_inert compares termInert patternInert
  · exact compares.unify _ _ _ (through termInert) patternInert
  · exact unifyIndirect_inert compares termInert patternInert

theorem unifyLiteral_inert
    (compares : self.ComparesInertly)
    (termInert : machine.Inert .compared term)
    (patternInert : machine.Inert .compared pattern) :
    Spectates machine (self.unifyLiteral .covering term pattern) := by
  unfold unifyLiteral
  split
  · exact .pure trivial
  · exact .display_bind fun _ => .display_bind fun _ => .raise
  · split
    · exact .pure trivial
    · exact .pure trivial
    · exact unifyQuoted_inert compares termInert patternInert

theorem unifyDecorated_inert
    (compares : self.ComparesInertly)
    (termInert : machine.Inert .compared term)
    (patternInert : machine.Inert .compared pattern) :
    Spectates machine (self.unifyDecorated .covering term pattern) := by
  unfold unifyDecorated
  split
  · rename_i mark name inner
    have innerInert : machine.Inert .compared inner :=
      patternInert.subpattern (by simp [Term.subpatterns, Term.yielding])
    refine (compares.unify _ _ _ termInert innerInert).bind fun _ bindings _ _ => ?_
    refine Heeds.newIdentifier.bind fun _ target _ _ => ?_
    exact .get_bind (.pure trivial)
  · exact unifyType_spectates
  · exact unifyGuarded_spectates
  · split
    · exact compares.unify _ _ _
        (termInert.subpattern (by simp [Term.subpatterns, Term.yielding])) patternInert
    · exact unifyLiteral_inert compares termInert patternInert

theorem unifyObjects_inert
    (compares : self.ComparesInertly)
    (termInert : machine.Inert .compared term)
    (patternInert : machine.Inert .compared pattern) :
    Spectates machine (self.unifyObjects .covering term pattern) := by
  unfold unifyObjects
  split
  · refine .store_bind ?_
    dsimp only
    refine .ite (fun _ => .raise) fun _ => .ite (fun _ => .raise) fun _ => ?_
    exact unifyLinear_inert compares (.subpatterns termInert) (.subpatterns patternInert)
  · exact unifyRegex_spectates
  · exact unifyDecorated_inert compares termInert patternInert

/-- One step of comparing inert patterns disturbs nothing. -/
theorem unifyStep_inert
    (compares : self.ComparesInertly)
    (termInert : machine.Inert .compared term)
    (patternInert : machine.Inert .compared pattern) :
    Spectates machine (self.unifyStep .covering term pattern) := by
  refine .ite (fun _ => .raise) fun _ => ?_
  split
  · exact .pure trivial
  · split
    · exact compares.unify _ _ _
        (termInert.subpattern (by simp [Term.subpatterns, Term.yielding])) patternInert
    · refine then_compares
        (dereference_inert compares.walk (termInert.onwards (by simp [Machine.consulted])))
        fun after value retains valueInert => ?_
      exact compares.unify _ _ _ valueInert (patternInert.retained retains)
    · refine .ite (fun _ => .raise) fun _ => .ite (fun _ => .raise) fun _ => ?_
      exact unifyObjects_inert compares termInert patternInert

/-- Comparing inert patterns disturbs nothing at every depth. -/
theorem within_comparesInertly (depth : Nat) : (within depth).ComparesInertly := by
  induction depth with
  | zero => exact ⟨within_evaluatesInertly 0, fun _ _ _ _ _ => .throw⟩
  | succ depth inductionHypothesis =>
      exact
        { walk := within_evaluatesInertly (depth + 1)
          unify := fun _ _ _ termInert patternInert =>
            unifyStep_inert inductionHypothesis termInert patternInert }

end Evaluator

namespace Interpreter

open PatternMachine.Action (Heeds Spectates)

variable {machine : Machine}

/-! ## The redundancy check -/

theorem covers_spectates
    {later earlier : Term}
    (laterInert : machine.Inert .compared later)
    (earlierInert : machine.Inert .compared earlier) :
    Spectates machine (covers later earlier) := by
  have compared : Spectates machine (unify .covering later earlier) :=
    (Evaluator.within_comparesInertly Evaluator.depthLimit).unify machine later earlier
      laterInert earlierInert
  unfold Spectates Heeds covers
  unfold Spectates Heeds at compared
  revert compared
  cases unify .covering later earlier machine with
  | ok bindings after => exact fun compared => ⟨compared.1, trivial⟩
  | error stop after =>
      cases stop with
      | raised exception => exact fun compared => ⟨compared, trivial⟩
      | fatal message => exact id
      | exhausted => exact id

theorem checkAgainst_spectates
    (name : String)
    {later : Nat × Clause}
    {earlier : List (Nat × Clause)}
    (laterInert : machine.Inert .compared later.2.pattern)
    (earlierInert : ∀ clause ∈ earlier, machine.Inert .compared clause.2.pattern) :
    Spectates machine (checkAgainst name later earlier) := by
  induction earlier generalizing machine with
  | nil => exact .pure trivial
  | cons clause rest inductionHypothesis =>
      obtain ⟨clauseInert, restInert⟩ := List.forall_mem_cons.mp earlierInert
      refine (covers_spectates laterInert clauseInert).bind fun after covered undisturbed _ => ?_
      have onwards := inductionHypothesis (laterInert.retained undisturbed.retains)
        fun clause held => (restInert clause held).retained undisturbed.retains
      have refused : Heeds .undisturbed after (redundant name later clause) fun _ _ => False :=
        .display_bind fun _ => .display_bind fun _ => .raise
      exact .ite (fun _ => refused.bind fun _ _ _ no => no.elim) fun _ => onwards

theorem checkFrom_spectates
    (name : String)
    {before clauses : List (Nat × Clause)}
    (beforeInert : ∀ clause ∈ before, machine.Inert .compared clause.2.pattern)
    (clausesInert : ∀ clause ∈ clauses, machine.Inert .compared clause.2.pattern) :
    Spectates machine (checkFrom name before clauses) := by
  induction clauses generalizing machine before with
  | nil => exact .pure trivial
  | cons clause rest inductionHypothesis =>
      obtain ⟨clauseInert, restInert⟩ := List.forall_mem_cons.mp clausesInert
      refine (checkAgainst_spectates name clauseInert beforeInert).bind
        fun after _ undisturbed _ => inductionHypothesis ?_ ?_
      · intro former held
        rcases List.mem_append.mp held with inside | inside
        · exact (beforeInert former inside).retained undisturbed.retains
        · rw [List.mem_singleton.mp inside]
          exact clauseInert.retained undisturbed.retains
      · exact fun later held => (restInert later held).retained undisturbed.retains

/-- The redundancy check has no side effects of its own. Whether one pattern covers
another is found out without a change to any namespace, to any cell that is there,
to the functions, the position, the output or anything else but the counters and the
warning about guarded clauses, as long as the expressions that have to be evaluated for
it are passive. So is whether a clause of a function is redundant. -/
theorem redundancy_check_disturbs_nothing (machine : Machine) :
    (∀ depth later earlier, machine.Inert .compared later -> machine.Inert .compared earlier ->
      machine.Undisturbed
        (((Evaluator.within depth).unify .covering later earlier).after machine)) ∧
      ∀ name clauses, (∀ clause ∈ clauses, machine.Inert .compared clause.pattern) ->
        machine.Undisturbed ((checkClauses name clauses).after machine) := by
  refine ⟨fun depth later earlier laterInert earlierInert => ?_, fun name clauses inert => ?_⟩
  · exact ((Evaluator.within_comparesInertly depth).unify machine later earlier laterInert
      earlierInert).after
  · refine (checkFrom_spectates name (by simp) fun clause held => ?_).after
    obtain ⟨⟨original, place⟩, indexed, rfl⟩ := List.mem_map.mp held
    exact inert original (List.fst_mem_of_mem_zipIdx indexed)

/-- A machine on which `xs` is the list of one and two, and `p` is a pattern of the
integers. The second cell is the pattern of such an integer, of the first element of
`xs` and of an `x` under a guard that would bind `z`. The third is a pattern that is
covered in its first two elements, and guarded in the last. -/
def comparedMachine : Machine :=
  ((Machine.fresh
    { Store.initial with
      cells := #[#[.none, .none], #[.integer 1, .integer 2],
        #[.deref 1 (.identifier "p"), .index 2 (.identifier "xs") (.integer 0),
          .conditional 3 (.isMatch 4 (.integer 5) (.identifier "z")) (.identifier "x") .absent],
        #[.integer 7, .integer 1,
          .conditional 5 (.boolean true) (.identifier "y") .absent]]
      nextMark := 7 }).bindName "xs" (.list ⟨1⟩)).bindName "p" (.quote (.typeMatch 6 "integer"))

theorem comparedMachine_elements :
    comparedMachine.store.elements ⟨2⟩ =
      #[.deref 1 (.identifier "p"), .index 2 (.identifier "xs") (.integer 0),
        .conditional 3 (.isMatch 4 (.integer 5) (.identifier "z")) (.identifier "x") .absent] :=
  rfl

theorem comparedMachine_names :
    comparedMachine.lookup? "p" = some (.quote (.typeMatch 6 "integer")) ∧
      comparedMachine.lookup? "xs" = some (.list ⟨1⟩) :=
  ⟨rfl, rfl⟩

/-- The reference leads to `p`, and the index expression to `xs`; the guard is left
out. -/
theorem comparedMachine_earlier : comparedMachine.Inert .compared (.tuple ⟨2⟩) := by
  have named : ∀ name value, comparedMachine.lookup? name = some value ->
      comparedMachine.Inert .compared value ->
      comparedMachine.Inert .evaluated (.identifier name) :=
    fun name value bound inert =>
      .of_consulted rfl (fun _ => rfl) (by simpa [Machine.consulted, bound] using inert)
  have integers : comparedMachine.Inert .compared (.quote (.typeMatch 6 "integer")) :=
    .of_subpatterns rfl rfl (List.forall_mem_singleton.mpr (.leaf rfl rfl))
  have list : comparedMachine.Inert .compared (.list ⟨1⟩) :=
    .of_subpatterns rfl rfl (List.forall_mem_cons.mpr
      ⟨.leaf rfl rfl, List.forall_mem_singleton.mpr (.leaf rfl rfl)⟩)
  have reference : comparedMachine.Inert .compared (.deref 1 (.identifier "p")) :=
    .of_consulted rfl (fun no => by cases no)
      (List.forall_mem_singleton.mpr (named "p" _ comparedMachine_names.1 integers))
  have place : comparedMachine.Inert .evaluated (.integer 0) :=
    .of_consulted rfl (fun _ => rfl) (by simp [Machine.consulted, Term.parts])
  have index : comparedMachine.Inert .evaluated (.index 2 (.identifier "xs") (.integer 0)) :=
    .of_consulted rfl (fun _ => rfl)
      (List.forall_mem_cons.mpr
      ⟨named "xs" _ comparedMachine_names.2 list, List.forall_mem_singleton.mpr place⟩)
  refine .of_subpatterns rfl rfl ?_
  simp only [Term.subpatterns, Term.yielding, comparedMachine_elements, List.forall_mem_cons]
  refine ⟨reference, ?_, ?_, by simp⟩
  · exact .of_consulted rfl (fun no => by cases no) (List.forall_mem_singleton.mpr index)
  · exact .of_subpatterns rfl rfl (List.forall_mem_singleton.mpr (.leaf rfl rfl))

/-- Nothing at all is evaluated for the later pattern. -/
theorem comparedMachine_later : comparedMachine.Inert .compared (.tuple ⟨3⟩) := by
  have elements : comparedMachine.store.elements ⟨3⟩ =
      #[.integer 7, .integer 1, .conditional 5 (.boolean true) (.identifier "y") .absent] := rfl
  have inside : ∀ part, Term.Reaches (Term.subpatterns comparedMachine.store) (.tuple ⟨3⟩) part ->
      part ∈ [Term.tuple ⟨3⟩, .integer 7, .integer 1,
        .conditional 5 (.boolean true) (.identifier "y") .absent, .identifier "y"] :=
    fun part reaches => reaches.mem_of_closed _
      (by simp [Term.subpatterns, Term.yielding, elements]) List.mem_cons_self
  refine .of_direct (fun part reaches => ?_) (fun mark expression reaches => ?_)
    fun mark subject selector reaches => ?_
  · have listed := inside part reaches
    simp only [List.mem_cons, List.not_mem_nil, or_false] at listed
    rcases listed with rfl | rfl | rfl | rfl | rfl <;> rfl
  · simpa using inside _ reaches
  · simpa using inside _ reaches

/-- The comparison ends with the warning about the guards. Nothing is disturbed, and
`z` is not bound. -/
theorem redundancy_check_disturbs_nothing_of_guards :
    let attempt := (Evaluator.within 9).unify .covering (.tuple ⟨3⟩) (.tuple ⟨2⟩)
    (match attempt comparedMachine with
      | .ok _ _ => false
      | .error _ after => after.guardWarned && (after.lookup? "z").isNone) = true ∧
      comparedMachine.Undisturbed (attempt.after comparedMachine) ∧
      comparedMachine.Undisturbed
        ((checkClauses "f" [⟨.tuple ⟨2⟩, []⟩, ⟨.tuple ⟨3⟩, []⟩]).after comparedMachine) := by
  refine ⟨by decide +kernel, ?_, ?_⟩
  · exact (redundancy_check_disturbs_nothing comparedMachine).1 9 _ _ comparedMachine_later
      comparedMachine_earlier
  · refine (redundancy_check_disturbs_nothing comparedMachine).2 "f" _ ?_
    simp only [List.forall_mem_cons]
    exact ⟨comparedMachine_earlier, comparedMachine_later, by simp⟩

end Interpreter
end PatternMachine
