import PatternMachine.Proofs.Pattern.Comparison
import PatternMachine.Proofs.Tree

/-!
# Clauses reported as unreachable

A function is refused when one of its clauses is covered by an earlier one. The
report is right where the earlier pattern is an identifier, and where the
patterns read by their outlines, or as texts or types that are not the earlier
one: then no argument that the earlier pattern heeds ever gets to the body of the
later clause.
-/

namespace PatternMachine
namespace Interpreter

/-! ## What a report says -/

/-- The error that the clause at one place is covered by that at another. -/
def IsRedundancy (name : String) (later earlier : Nat) (exception : Exception) : Prop :=
  ∃ laterShown earlierShown : String,
    exception = ⟨.standard .redundantPattern
      ("function " ++ name ++ ": clause " ++ toString later ++ " (" ++ laterShown ++
        ") is unreachable, clause " ++ toString earlier ++ " (" ++ earlierShown ++
        ") already matches it"), none⟩

/-- A report is raised, unless the text of a pattern in it never comes to an end. -/
theorem redundant_apply
    (name : String)
    (later earlier : Nat × Clause)
    (machine : Machine) :
    redundant name later earlier machine = .error .exhausted machine ∨
      ∃ exception, redundant name later earlier machine = .error (.raised exception) machine ∧
        IsRedundancy name later.1 earlier.1 exception := by
  simp only [redundant, Action.display, Action.bind_apply, Action.finitely_apply]
  cases machine.store.display? later.2.pattern with
  | none => exact .inl rfl
  | some laterShown =>
      dsimp only
      cases machine.store.display? earlier.2.pattern with
      | none => exact .inl rfl
      | some earlierShown => exact .inr ⟨_, rfl, laterShown, earlierShown, rfl⟩

/-- A comparison that comes to an answer keeps a property of machines. -/
def Compares (property : Machine -> Prop) (later earlier : Clause) : Prop :=
  ∀ machine verdict after, property machine ->
    covers later.pattern earlier.pattern machine = .ok verdict after -> property after

/-- A comparison of the two clauses succeeded, on a machine with every property
that the machine had before and that comparisons keep. -/
def Covered (machine : Machine) (laters earliers : List Clause) (later earlier : Clause) : Prop :=
  ∀ property : Machine -> Prop, property machine ->
    (∀ other ∈ laters, ∀ former ∈ earliers, Compares property other former) ->
    ∃ during final, property during ∧
      covers later.pattern earlier.pattern during = .ok true final

theorem checkAgainst_ok
    {name : String}
    {later : Nat × Clause}
    {earliers : List (Nat × Clause)}
    {machine after : Machine}
    {property : Machine -> Prop}
    (holds : property machine)
    (compares : ∀ former ∈ earliers.map Prod.snd, Compares property later.2 former)
    (run : checkAgainst name later earliers machine = .ok () after) :
    property after := by
  induction earliers generalizing machine with
  | nil =>
      obtain ⟨_, rfl⟩ := EStateM.Result.ok.inj run
      exact holds
  | cons earlier rest inductionHypothesis =>
      unfold checkAgainst at run
      rw [Action.bind_apply] at run
      cases compared : covers later.2.pattern earlier.2.pattern machine with
      | error stop middle => simp [compared] at run
      | ok verdict middle =>
          rw [compared] at run
          have kept := compares earlier.2 List.mem_cons_self machine verdict middle holds compared
          cases verdict with
          | true =>
              rcases redundant_apply name later earlier middle with endless | ⟨_, raised, _⟩
              · simp [Action.bind_apply, endless] at run
              · simp [Action.bind_apply, raised] at run
          | false =>
              exact inductionHypothesis kept
                (fun former member => compares former (List.mem_cons_of_mem _ member)) run

theorem checkAgainst_raised
    {name : String}
    {later : Nat × Clause}
    {earliers : List (Nat × Clause)}
    {machine after : Machine}
    {exception : Raised}
    (run : checkAgainst name later earliers machine = .error (.raised exception) after) :
    ∃ earlier ∈ earliers, IsRedundancy name later.1 earlier.1 exception ∧
      Covered machine [later.2] (earliers.map Prod.snd) later.2 earlier.2 := by
  induction earliers generalizing machine with
  | nil => simp [checkAgainst] at run
  | cons earlier rest inductionHypothesis =>
      unfold checkAgainst at run
      rw [Action.bind_apply] at run
      cases compared : covers later.2.pattern earlier.2.pattern machine with
      | error stop middle =>
          -- A comparison never raises: errors count as an answer.
          rw [compared] at run
          unfold covers at compared
          cases result : unify .covering later.2.pattern earlier.2.pattern machine with
          | ok bindings final => simp [result] at compared
          | error stop final =>
              rw [result] at compared
              cases stop <;> simp_all
      | ok verdict middle =>
          rw [compared] at run
          cases verdict with
          | true =>
              refine ⟨earlier, List.mem_cons_self, ?_, ?_⟩
              · rcases redundant_apply name later earlier middle with
                  endless | ⟨other, raised, report⟩
                · simp [Action.bind_apply, endless] at run
                · simp only [if_true, Action.bind_apply, raised, EStateM.Result.error.injEq,
                    Stop.raised.injEq] at run
                  rwa [← run.1]
              · intro property holds _
                exact ⟨machine, middle, holds, compared⟩
          | false =>
              obtain ⟨found, member, report, covered⟩ := inductionHypothesis run
              refine ⟨found, List.mem_cons_of_mem _ member, report, ?_⟩
              intro property holds compares
              refine covered property ?_ fun other otherMember former formerMember =>
                compares other otherMember former (List.mem_cons_of_mem _ formerMember)
              exact compares later.2 List.mem_cons_self earlier.2 List.mem_cons_self machine false
                middle holds compared

/-- A report names a clause and an earlier one whose comparison succeeded. -/
theorem checkFrom_raised
    {name : String}
    {before clauses : List (Nat × Clause)}
    {machine after : Machine}
    {exception : Raised}
    (run : checkFrom name before clauses machine = .error (.raised exception) after) :
    ∃ passed later remaining earlier, clauses = passed ++ later :: remaining ∧
      earlier ∈ before ++ passed ∧ IsRedundancy name later.1 earlier.1 exception ∧
      Covered machine ((passed ++ [later]).map Prod.snd) ((before ++ passed).map Prod.snd)
        later.2 earlier.2 := by
  induction clauses generalizing before machine with
  | nil => simp [checkFrom] at run
  | cons clause rest inductionHypothesis =>
      unfold checkFrom at run
      rw [Action.bind_apply] at run
      cases checked : checkAgainst name clause before machine with
      | error stop middle =>
          rw [checked] at run
          obtain ⟨rfl, rfl⟩ := EStateM.Result.error.inj run
          obtain ⟨earlier, member, report, covered⟩ := checkAgainst_raised checked
          exact ⟨[], clause, rest, earlier, rfl, by simpa using member, report, by simpa using covered⟩
      | ok value middle =>
          rw [checked] at run
          obtain ⟨passed, later, remaining, earlier, rfl, member, report, covered⟩ :=
            inductionHypothesis run
          rw [List.append_assoc, List.singleton_append] at member covered
          refine ⟨clause :: passed, later, remaining, earlier, rfl, member, report, ?_⟩
          intro property holds compares
          refine covered property (checkAgainst_ok holds ?_ checked) ?_
          · intro former formerMember
            refine compares clause.2 List.mem_cons_self former ?_
            rw [List.map_append]
            exact List.mem_append_left _ formerMember
          · intro other otherMember
            exact compares other (List.mem_cons_of_mem _ otherMember)

/-- A report names the places of two clauses whose comparison succeeded. -/
theorem checkClauses_raised
    {name : String}
    {clauses : List Clause}
    {machine after : Machine}
    {exception : Raised}
    (run : checkClauses name clauses machine = .error (.raised exception) after) :
    ∃ before later rest place earlier, clauses = before ++ later :: rest ∧
      before[place]? = some earlier ∧ IsRedundancy name before.length place exception ∧
      Covered machine (before ++ [later]) before later earlier := by
  unfold checkClauses at run
  obtain ⟨passed, later, remaining, earlier, split, member, report, covered⟩ :=
    checkFrom_raised run
  rw [List.nil_append] at member covered
  have clausesSplit : clauses = passed.map Prod.snd ++ later.2 :: remaining.map Prod.snd := by
    have mapped := congrArg (List.map Prod.snd) split
    rw [List.map_map, List.map_append, List.map_cons] at mapped
    rw [← mapped]
    exact (List.zipIdx_map_fst 0 clauses).symm
  have places : ∀ (place : Nat) (clause : Nat × Clause),
      (passed ++ later :: remaining)[place]? = some clause -> clause.1 = place := by
    intro place clause found
    rw [← split, List.getElem?_map, List.getElem?_zipIdx] at found
    cases held : clauses[place]? with
    | none => simp [held] at found
    | some original =>
        simp only [held, Option.map_some, Option.some.injEq] at found
        rw [← found]
        simp
  have laterPlace : later.1 = passed.length :=
    places passed.length later (by simp)
  obtain ⟨place, found⟩ := List.mem_iff_getElem?.mp member
  have earlierPlace : earlier.1 = place := by
    refine places place earlier ?_
    rw [List.getElem?_append_left (List.getElem?_eq_some_iff.mp found).1]
    exact found
  refine ⟨passed.map Prod.snd, later.2, remaining.map Prod.snd, place, earlier.2, clausesSplit,
    ?_, ?_, ?_⟩
  · rw [List.getElem?_map, found]
    rfl
  · rw [List.length_map, ← laterPlace, ← earlierPlace]
    exact report
  · rw [List.map_append] at covered
    exact covered

end Interpreter

/-! ## Trying clauses in order -/

/-- Of the standard errors, only a failed match lets the next clause be tried. -/
theorem Store.isMatchFailure_standard
    (store : Store)
    (kind : ErrorKind)
    (message : String) :
    store.isMatchFailure (.standard kind message) = (kind == .patternMatchFailed) := by
  have found : ErrorKind.ofLabel? kind.label = some kind := by cases kind <;> decide
  change (ErrorKind.ofLabel? kind.label == some .patternMatchFailed) = _
  rw [found]
  rfl

namespace Evaluator

variable {self : Evaluator} {name : String} {argument : Term} {machine : Machine}

theorem tryClauses_cons_apply
    (place : Nat)
    (clause : Clause)
    (rest : List Clause) :
    self.tryClauses name argument place (clause :: rest) machine =
      match self.unify .binding argument clause.pattern machine with
      | .ok bindings after =>
          (do
            recordClause name place clause.pattern true
            self.declareAll bindings
            self.execBlock clause.body .none) after
      | .error (.raised exception) after =>
          if after.store.isMatchFailure exception.payload then
            (do
              recordClause name place clause.pattern false
              self.tryClauses name argument (place + 1) rest) after
          else .error (.raised exception) after
      | .error stop after => .error stop after := by
  rw [tryClauses.eq_2, Action.bind_apply]
  unfold Action.orNoMatch
  cases self.unify .binding argument clause.pattern machine with
  | ok bindings after => rfl
  | error stop after =>
      cases stop with
      | raised exception =>
          dsimp only
          cases after.store.isMatchFailure exception.payload <;> rfl
      | _ => rfl

/-- Recording a trial changes no cell. -/
theorem recordClause_apply
    (name : String)
    (place : Nat)
    (pattern : Term)
    (matched : Bool)
    (machine : Machine) :
    ∃ after, recordClause name place pattern matched machine = .ok () after ∧
      after.store = machine.store := by
  unfold recordClause
  rw [Action.bind_apply]
  simp only [Action.follows, Action.bind_apply, Action.get_apply, Action.pure_apply]
  split
  · simp only [Action.bind_apply, Action.caption_apply, Action.record, Action.modify_apply]
    refine ⟨_, rfl, ?_⟩
    split <;> rfl
  · exact ⟨machine, rfl, rfl⟩

/-- A match of a guarded pattern first matches the pattern under the guard. -/
theorem unify_of_guarded
    {term consequent condition alternative : Term}
    {mark : Mark}
    {after : Machine}
    {bindings : List Binding}
    (run : self.unifyStep .binding term (.conditional mark condition consequent alternative) machine =
      .ok bindings after) :
    ∃ inner middle, self.unify .binding term consequent machine = .ok inner middle := by
  have guarded : self.unifyGuarded .binding term mark condition consequent alternative machine =
      .ok bindings after := by
    unfold unifyStep at run
    split at run
    · simp at run
    · unfold unifyAllowed at run
      dsimp only at run
      split at run
      · simp [mismatch] at run
      · split at run
        · simp [mismatch] at run
        · cases term <;> exact run
  unfold unifyGuarded at guarded
  split at guarded
  · simp at guarded
  · dsimp only at guarded
    rw [Action.bind_apply] at guarded
    cases inner : self.unify .binding term consequent machine with
    | ok bindings middle => exact ⟨bindings, middle, rfl⟩
    | error stop middle => simp [inner] at guarded

/-- What is matched by any pattern is there. -/
theorem present_of_unify
    {term pattern : Term}
    {depth : Nat}
    {bindings : List Binding}
    {after : Machine}
    (run : (within depth).unify .binding term pattern machine = .ok bindings after) :
    term.isAbsent = false := by
  cases depth with
  | zero => simp [within, unifyWithin] at run
  | succ depth =>
      change (within depth).unifyStep .binding term pattern machine = .ok bindings after at run
      cases absent : term.isAbsent with
      | false => rfl
      | true =>
          obtain ⟨stop, refused, _⟩ : ((within depth).unifyStep .binding term pattern).Refuses
              machine := unifyStep_absent absent
          rw [refused] at run
          simp at run

/-- A pattern, guarded or not, matches only what its form admits. -/
theorem admits_of_unify
    {form : Form}
    {pattern : Term}
    {start : Store}
    {depth : Nat}
    {bindings : List Binding}
    {after : Machine}
    (closed : start.Closed)
    (holds : start.Holds argument)
    (reads : form.Reads start pattern.unguarded)
    (kept : start.Keeps machine.store)
    (closedNow : machine.store.Closed)
    (run : (within depth).unify .binding argument pattern machine = .ok bindings after) :
    form.admits start (.term argument) = true := by
  have present := present_of_unify run
  cases form with
  | closed =>
      change (!argument.isAbsent) = true
      rw [present]
      rfl
  | outlined outline =>
      -- The pattern under the guard matches too, with one level less.
      obtain ⟨level, inner, middle, innerRun⟩ : ∃ level inner middle,
          (within level).unify .binding argument pattern.unguarded machine = .ok inner middle := by
        cases pattern with
        | conditional mark condition consequent alternative =>
            cases depth with
            | zero => simp [within, unifyWithin] at run
            | succ depth => exact ⟨depth, unify_of_guarded run⟩
        | _ => exact ⟨depth, bindings, after, run⟩
      have sound : (Subject.term argument).Sound start := holds
      obtain ⟨least, outcomes⟩ := decides .binding outline start _ closed sound
      have outcome := outcomes machine kept closedNow argument _ ⟨.inl rfl, rfl⟩
        (reads.keeps kept) level
      rw [innerRun] at outcome
      exact outcome.1

/-- A trial that fails only adds cells, and fails for a pattern whose outline does
not accept the argument. -/
theorem trial_fails
    {form : Form}
    {pattern : Term}
    {start : Store}
    {depth : Nat}
    {exception : Raised}
    {after : Machine}
    (closed : start.Closed)
    (holds : start.Holds argument)
    (reads : form.Reads start pattern)
    (kept : start.Keeps machine.store)
    (closedNow : machine.store.Closed)
    (run : (within depth).unify .binding argument pattern machine =
      .error (.raised exception) after)
    (failed : after.store.isMatchFailure exception.payload = true) :
    start.Keeps after.store ∧ after.store.Closed ∧
      ∀ outline : Outline, outline.Spells start pattern ->
        outline.accepts start (.term argument) = false := by
  have outcomeOf (outline : Outline) (spells : outline.Spells start pattern) :
      outline.accepts start (.term argument) = false ∧ machine.store.Keeps after.store ∧
        after.store.Closed := by
    have sound : (Subject.term argument).Sound start := holds
    obtain ⟨least, outcomes⟩ := decides .binding outline start _ closed sound
    have outcome := outcomes machine kept closedNow argument pattern ⟨.inl rfl, rfl⟩
      (spells.keeps kept) depth
    rw [run] at outcome
    obtain ⟨no | ⟨_, _, message, repeated⟩, keeps, closedAfter⟩ := outcome
    · exact ⟨no, keeps, closedAfter⟩
    · -- That a name is bound twice is no failure to match.
      rw [repeated, Store.isMatchFailure_standard] at failed
      simp at failed
  refine and_assoc.mp ⟨?_, fun outline spells => (outcomeOf outline spells).1⟩
  cases form with
  | outlined outline =>
      obtain ⟨_, keeps, closedAfter⟩ := outcomeOf outline reads
      exact ⟨kept.trans keeps, closedAfter⟩
  | closed =>
      have spared : after.store = machine.store := by
        cases depth with
        | zero => simp [within, unifyWithin] at run
        | succ depth =>
            have same : ((within depth).unifyStep .binding argument pattern).after machine =
                after := Action.after_error run
            rw [← same]
            exact unifyStep_sealed reads rfl machine
      rw [spared]
      exact ⟨kept, closedNow⟩

/-- What comes after a clause that fails decides what comes of both lists. -/
theorem tryClauses_cons_congr
    {clause other : Clause}
    {rest others : List Clause}
    {place : Nat}
    (samePattern : clause.pattern = other.pattern)
    (matched : ∀ bindings after, self.unify .binding argument clause.pattern machine =
      .ok bindings after -> clause = other)
    (continued : ∀ exception after middle,
      self.unify .binding argument clause.pattern machine = .error (.raised exception) after ->
      after.store.isMatchFailure exception.payload = true -> middle.store = after.store ->
      self.tryClauses name argument (place + 1) rest middle =
        self.tryClauses name argument (place + 1) others middle) :
    self.tryClauses name argument place (clause :: rest) machine =
      self.tryClauses name argument place (other :: others) machine := by
  rw [tryClauses_cons_apply, tryClauses_cons_apply, ← samePattern]
  cases run : self.unify .binding argument clause.pattern machine with
  | ok bindings after =>
      obtain rfl := matched bindings after run
      rfl
  | error stop after =>
      cases stop with
      | raised exception =>
          dsimp only
          split
          · rename_i failed
            obtain ⟨middle, recorded, same⟩ :=
              recordClause_apply name place clause.pattern false after
            rw [Action.bind_apply, Action.bind_apply, recorded]
            exact continued exception after middle run failed same
          · rfl
      | _ => rfl

/-- No clause is tried after one whose pattern is an identifier. -/
theorem tryClauses_identifier
    {depth place : Nat}
    {before rest others : List Clause}
    {clause : Clause}
    {target : String}
    (pattern : clause.pattern = .identifier target) :
    (within depth).tryClauses name argument place (before ++ clause :: rest) machine =
      (within depth).tryClauses name argument place (before ++ clause :: others) machine := by
  induction before generalizing place machine with
  | nil =>
      refine tryClauses_cons_congr rfl (fun _ _ _ => rfl) ?_
      intro exception after middle run failed
      exfalso
      rw [pattern] at run
      cases depth with
      | zero => simp [within, unifyWithin] at run
      | succ depth =>
          change (within depth).unifyStep .binding argument (.identifier target) machine = _ at run
          cases absent : argument.isAbsent with
          | false => simp [unifyStep_identifier absent] at run
          | true =>
              simp only [unifyStep, absent, Bool.true_or, if_true, Action.raise_apply,
                EStateM.Result.error.injEq, Stop.raised.injEq] at run
              obtain ⟨rfl, rfl⟩ := run
              rw [Store.isMatchFailure_standard] at failed
              simp at failed
  | cons first before inductionHypothesis =>
      exact tryClauses_cons_congr rfl (fun _ _ _ => rfl) fun _ _ _ _ _ _ => inductionHypothesis

/-- The body of a clause does not matter for an argument that an earlier clause
accepts whenever the clause may match it. -/
theorem tryClauses_covered
    {depth place : Nat}
    {before rest : List Clause}
    {later : Clause}
    {laterForm : Form}
    {start : Store}
    (closed : start.Closed)
    (holds : start.Holds argument)
    (reads : ∀ clause ∈ before, ∃ form : Form, form.Reads start clause.pattern)
    (laterReads : laterForm.Reads start later.pattern.unguarded)
    (covered : laterForm.admits start (.term argument) = true -> ∃ clause ∈ before,
      ∃ outline : Outline, outline.Spells start clause.pattern ∧
        outline.accepts start (.term argument) = true)
    (kept : start.Keeps machine.store)
    (closedNow : machine.store.Closed)
    (body : List Statement) :
    (within depth).tryClauses name argument place (before ++ later :: rest) machine =
      (within depth).tryClauses name argument place
        (before ++ { later with body := body } :: rest) machine := by
  induction before generalizing place machine with
  | nil =>
      refine tryClauses_cons_congr rfl ?_ fun _ _ _ _ _ _ => rfl
      intro bindings after run
      obtain ⟨clause, member, _⟩ :=
        covered (admits_of_unify closed holds laterReads kept closedNow run)
      simp at member
  | cons clause before inductionHypothesis =>
      refine tryClauses_cons_congr rfl (fun _ _ _ => rfl) ?_
      intro exception after middle run failed same
      obtain ⟨form, formReads⟩ := reads clause List.mem_cons_self
      obtain ⟨keptAfter, closedAfter, refused⟩ :=
        trial_fails closed holds formReads kept closedNow run failed
      rw [← same] at keptAfter closedAfter
      refine inductionHypothesis
        (fun other member => reads other (List.mem_cons_of_mem _ member)) ?_ keptAfter closedAfter
      -- The clause that accepts the argument is still to come.
      intro admitted
      obtain ⟨other, member, outline, spells, accepted⟩ := covered admitted
      rcases List.mem_cons.mp member with rfl | inside
      · rw [refused outline spells] at accepted
        simp at accepted
      · exact ⟨other, inside, outline, spells, accepted⟩

end Evaluator

/-! ## What a report is worth -/

namespace Interpreter

/-- The clause at a place takes every argument. -/
def IsCatchAll (clauses : List Clause) (place : Nat) : Prop :=
  ∃ clause target, clauses[place]? = some clause ∧ clause.pattern = .identifier target

/-- Where a report that one clause covers a later one can be relied on for an
argument. All patterns up to the later one read the same when they are checked
and when the argument is matched, the earlier one by an outline that heeds the
argument. Only the later pattern may stand under a guard: the guard of a clause
before it might change the argument. -/
structure Reliable (checked now : Store) (clauses : List Clause) (earlier later : Nat)
    (argument : Term) : Prop where
  closed : checked.Closed
  closedNow : now.Closed
  holds : now.Holds argument
  before : ∀ place clause, place < later -> clauses[place]? = some clause ->
    ∃ form : Form, form.Reads checked clause.pattern ∧ form.Reads now clause.pattern
  covering : ∀ clause, clauses[earlier]? = some clause ->
    ∃ outline : Outline, outline.Spells checked clause.pattern ∧
      outline.Spells now clause.pattern ∧ outline.heeds now (.term argument) = true
  covered : ∀ clause, clauses[later]? = some clause ->
    ∃ form : Form, form.Reads checked clause.pattern.unguarded ∧
      form.Reads now clause.pattern.unguarded

/-- Comparing patterns that can be read only adds cells. -/
theorem compares_reads
    {store : Store}
    {before : List Clause}
    {later : Clause}
    {laterForm : Form}
    (reads : ∀ clause ∈ before, ∃ form : Form, form.Reads store clause.pattern)
    (laterReads : laterForm.Reads store later.pattern.unguarded) :
    ∀ clause ∈ before ++ [later], ∀ former ∈ before,
      Compares (fun during => store.Keeps during.store ∧ during.store.Closed) clause former := by
  intro clause member former formerMember during verdict after ⟨kept, closed⟩ compared
  obtain ⟨formerForm, formerReads⟩ := reads former formerMember
  obtain ⟨form, clauseReads⟩ : ∃ form : Form, form.Reads store clause.pattern.unguarded := by
    rcases List.mem_append.mp member with inside | last
    · obtain ⟨form, clauseReads⟩ := reads clause inside
      exact ⟨form, by rwa [clauseReads.unguarded]⟩
    · obtain rfl := List.mem_singleton.mp last
      exact ⟨laterForm, laterReads⟩
  obtain ⟨keptAfter, closedAfter, _⟩ :=
    covers_compares closed (clauseReads.keeps kept) (formerReads.keeps kept) compared
  exact ⟨kept.trans keptAfter, closedAfter⟩

/-- A clause that is reported as unreachable is: its body does not matter for any
argument for which the report can be relied on. -/
theorem reported_clause_unreachable
    {name : String}
    {clauses : List Clause}
    {machine after : Machine}
    {exception : Raised}
    (refused : checkClauses name clauses machine = .error (.raised exception) after) :
    ∃ earlier later, earlier < later ∧ later < clauses.length ∧
      IsRedundancy name later earlier exception ∧
      ∀ (now : Machine) (argument : Term),
        IsCatchAll clauses earlier ∨
          Reliable machine.store now.store clauses earlier later argument ->
        ∀ (depth : Nat) (body : List Statement),
          (Evaluator.within depth).tryClauses name argument 0 clauses now =
            (Evaluator.within depth).tryClauses name argument 0
              (clauses.modify later fun clause => { clause with body := body }) now := by
  obtain ⟨before, later, rest, place, earlier, rfl, found, report, covered⟩ :=
    checkClauses_raised refused
  have inside : place < before.length := (List.getElem?_eq_some_iff.mp found).1
  refine ⟨place, before.length, inside, by simp, report, ?_⟩
  intro now argument reliable depth body
  have modified : (before ++ later :: rest).modify before.length
      (fun clause => { clause with body := body }) =
      before ++ { later with body := body } :: rest := by
    rw [List.modify_eq_take_drop]
    simp
  have earlierFound : (before ++ later :: rest)[place]? = some earlier := by
    rw [List.getElem?_append_left inside, found]
  rw [modified]
  rcases reliable with ⟨clause, target, held, identifier⟩ | reliable
  · obtain rfl := Option.some.inj (earlierFound.symm.trans held)
    obtain ⟨first, others, rfl⟩ := List.append_of_mem (List.mem_of_getElem? found)
    rw [List.append_assoc, List.append_assoc, List.cons_append, List.cons_append]
    exact Evaluator.tryClauses_identifier identifier
  · obtain ⟨outline, checkedSpells, nowSpells, heeded⟩ := reliable.covering earlier earlierFound
    obtain ⟨form, checkedReads, nowReads⟩ := reliable.covered later (by simp)
    have reads : ∀ clause ∈ before, ∃ form : Form,
        form.Reads machine.store clause.pattern ∧ form.Reads now.store clause.pattern := by
      intro clause member
      obtain ⟨index, held⟩ := List.mem_iff_getElem?.mp member
      have bound : index < before.length := (List.getElem?_eq_some_iff.mp held).1
      refine reliable.before index clause bound ?_
      rw [List.getElem?_append_left bound, held]
    -- The comparisons only added cells to those the patterns were read from.
    obtain ⟨during, final, ⟨kept, closedDuring⟩, compared⟩ := covered
      (fun during => machine.store.Keeps during.store ∧ during.store.Closed)
      ⟨.refl _, reliable.closed⟩ (compares_reads
        (fun clause member => (reads clause member).imp fun _ both => both.1) checkedReads)
    obtain ⟨_, _, accepted⟩ := covers_compares closedDuring (checkedReads.keeps kept)
      (show (Form.outlined outline).Reads _ _ from checkedSpells.keeps kept) compared
    refine Evaluator.tryClauses_covered reliable.closedNow reliable.holds
      (fun clause member => (reads clause member).imp fun _ both => both.2) nowReads ?_
      (.refl _) reliable.closedNow body
    intro admitted
    exact ⟨earlier, List.mem_of_getElem? found, outline, nowSpells,
      Form.accepts_of_admits (checkedReads.keeps kept) (accepted rfl outline rfl) admitted heeded⟩

/-! ## A list of a number after a list of anything -/

/-- A store with the patterns `[x]` and `[1]`. -/
def clauseStore : Store :=
  { Store.initial with
    cells := #[#[.none, .none], #[.identifier "x"], #[.integer 1]]
    nextMark := 1 }

/-- Clauses for `[x]` and `[1]`, in this order. -/
def listClauses : List Clause :=
  [⟨.list ⟨1⟩, []⟩, ⟨.list ⟨2⟩, []⟩]

theorem listClauses_refused : ∃ exception after,
    checkClauses "f" listClauses (.fresh clauseStore) = .error (.raised exception) after := by
  have compared : covers (.list ⟨2⟩) (.list ⟨1⟩) (.fresh clauseStore) =
      .ok true (.fresh clauseStore) := by
    -- The comparison needs two levels of the depth there is.
    have deep : 2 ≤ Evaluator.depthLimit :=
      Nat.pow_le_pow_right (by decide : 0 < 2) (by decide : 1 ≤ 60)
    unfold covers unify Evaluator.standard
    rw [← Nat.sub_add_cancel deep]
    rfl
  have shown := Store.display?_of_expand
    (show (Machine.fresh clauseStore).store.expand false 2 (.list ⟨1⟩) = some _ from rfl)
  have laterShown := Store.display?_of_expand
    (show (Machine.fresh clauseStore).store.expand false 2 (.list ⟨2⟩) = some _ from rfl)
  simp only [checkClauses, listClauses, List.zipIdx_cons, List.zipIdx_nil, List.map_cons,
    List.map_nil, checkFrom, checkAgainst, List.nil_append, Action.bind_apply, Action.pure_apply,
    compared, if_true, redundant, Action.display, Action.finitely_apply, shown,
    laterShown, Action.raise_apply]
  exact ⟨_, _, rfl⟩

theorem listClauses_reliable :
    Reliable (Machine.fresh clauseStore).store (Machine.fresh clauseStore).store listClauses 0 1
      (.list ⟨2⟩) := by
  have closed : (Machine.fresh clauseStore).store.Closed := Store.closed_of_cells (by decide)
  have earlierSpells : (Outline.list [.identifier "x"]).Spells (Machine.fresh clauseStore).store
      (.list ⟨1⟩) :=
    ⟨_, rfl, by decide, _, _, rfl, rfl, rfl⟩
  have laterSpells : (Outline.list [.number 1]).Spells (Machine.fresh clauseStore).store
      (.list ⟨2⟩) :=
    ⟨_, rfl, by decide, _, _, rfl, ⟨rfl, rfl⟩, rfl⟩
  refine ⟨closed, closed, by decide, ?_, ?_, ?_⟩
  · intro place clause bound found
    obtain rfl : place = 0 := by omega
    obtain rfl := Option.some.inj found
    exact ⟨.outlined (.list [.identifier "x"]), earlierSpells, earlierSpells⟩
  · intro clause found
    obtain rfl := Option.some.inj found
    exact ⟨_, earlierSpells, earlierSpells, rfl⟩
  · intro clause found
    obtain rfl := Option.some.inj found
    exact ⟨.outlined (.list [.number 1]), laterSpells, laterSpells⟩

/-- The clauses for `[x]` and `[1]` are refused, and the body of the second does
not matter for the list of the number one. -/
theorem reported_clause_unreachable_of_lists :
    (∃ exception after,
      checkClauses "f" listClauses (.fresh clauseStore) = .error (.raised exception) after) ∧
    ∀ (depth : Nat) (body : List Statement),
      (Evaluator.within depth).tryClauses "f" (.list ⟨2⟩) 0 listClauses (.fresh clauseStore) =
        (Evaluator.within depth).tryClauses "f" (.list ⟨2⟩) 0
          (listClauses.modify 1 fun clause => { clause with body := body })
          (.fresh clauseStore) := by
  refine ⟨listClauses_refused, ?_⟩
  obtain ⟨exception, after, refused⟩ := listClauses_refused
  obtain ⟨earlier, later, before, bound, _, unreachable⟩ := reported_clause_unreachable refused
  obtain rfl : later = 1 := by
    have : listClauses.length = 2 := rfl
    omega
  obtain rfl : earlier = 0 := by omega
  exact unreachable (.fresh clauseStore) (.list ⟨2⟩) (.inr listClauses_reliable)

end Interpreter
end PatternMachine
