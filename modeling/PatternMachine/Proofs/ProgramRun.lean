import PatternMachine.Proofs.Supervision

/-!
# Running a program with a given evaluator

A program is run by checking and registering its functions and running its
statements. All of that works with any evaluator; the machine itself uses the
standard one. A run with a careful evaluator keeps code and data apart, and one
with an evaluator that gives up earlier gives up or is the same run.
-/

namespace PatternMachine

/-- The terms that the outcome of a run carries. -/
def Program.Outcome.terms : Program.Outcome -> List Term
  | .finished value => [value]
  | .refused error => error.exception.terms
  | .raised exception => exception.terms

namespace Evaluator

/-- Whether an earlier pattern covers a later one, as `Interpreter.covers` finds. -/
def covers (self : Evaluator) (later earlier : Term) : Action Bool := fun machine =>
  match self.unify .covering later earlier machine with
  | .ok _ after => .ok true after
  | .error (.raised _) after => .ok false after
  | .error stop after => .error stop after

/-- Compare a clause with the earlier ones. -/
def checkAgainst (self : Evaluator) (name : String) (later : Nat × Clause) :
    List (Nat × Clause) -> Action Unit
  | [] => return ()
  | earlier :: rest => do
      if ← self.covers later.2.pattern earlier.2.pattern then
        Interpreter.redundant name later earlier
      self.checkAgainst name later rest

/-- Compare every clause with all earlier ones, which are given in `before`. -/
def checkFrom (self : Evaluator) (name : String) :
    List (Nat × Clause) -> List (Nat × Clause) -> Action Unit
  | _, [] => return ()
  | before, clause :: rest => do
      self.checkAgainst name clause before
      self.checkFrom name (before ++ [clause]) rest

/-- Register a function. -/
def defineFunction (self : Evaluator) (name : String) (clauses : List Clause) :
    Action Unit := do
  if (← get).settings.checkRedundancy then
    self.checkFrom name [] (clauses.zipIdx.map fun (clause, place) => (place, clause))
  modify fun machine =>
    { machine with dispatch := machine.dispatch.insert name (.clauses name clauses) }

/-- Register functions in order, up to the first that is refused. -/
def defineAll (self : Evaluator) :
    List Program.FunctionDefinition -> Action (Option Program.DefinitionError)
  | [] => return none
  | definition :: rest => fun machine =>
      match self.defineFunction definition.name definition.clauses machine with
      | .ok _ after => self.defineAll rest after
      | .error (.raised exception) after => .ok (some ⟨definition.name, exception⟩) after
      | .error stop after => .error stop after

/-- Run a program. -/
def runProgram (self : Evaluator) (program : Program) : Action Program.Outcome :=
  fun machine =>
    match self.defineAll program.functions machine with
    | .ok (some error) after => .ok (.refused error) after
    | .ok none after =>
        match self.execBlock program.statements .none after with
        | .ok value last => .ok (.finished value) last
        | .error (.raised exception) last => .ok (.raised exception) last
        | .error stop last => .error stop last
    | .error stop after => .error stop after

/-! ## Errors that are answers -/

theorem covers_eq (self : Evaluator) (later earlier : Term) :
    self.covers later earlier =
      (self.unify .covering later earlier).rescue (fun _ => false) fun _ => pure true := by
  funext machine
  unfold covers Action.rescue
  cases self.unify .covering later earlier machine with
  | ok bindings after => rfl
  | error stop after => cases stop <;> rfl

theorem defineAll_cons
    (self : Evaluator)
    (definition : Program.FunctionDefinition)
    (rest : List Program.FunctionDefinition) :
    self.defineAll (definition :: rest) =
      (self.defineFunction definition.name definition.clauses).rescue
        (fun exception => some ⟨definition.name, exception⟩) fun _ => self.defineAll rest := by
  funext machine
  rw [defineAll]
  unfold Action.rescue
  dsimp only
  cases self.defineFunction definition.name definition.clauses machine with
  | ok value after => rfl
  | error stop after => cases stop <;> rfl

/-- The statements of a program are run once its functions are registered. -/
theorem runProgram_eq (self : Evaluator) (program : Program) :
    self.runProgram program = self.defineAll program.functions >>= fun
      | some error => pure (.refused error)
      | none =>
          (self.execBlock program.statements .none).rescue (fun exception => .raised exception)
            fun value => pure (.finished value) := by
  funext machine
  rw [Action.bind_apply]
  unfold runProgram
  cases self.defineAll program.functions machine with
  | error stop after => rfl
  | ok refused after =>
      cases refused with
      | some error => rfl
      | none =>
          unfold Action.rescue
          dsimp only
          cases self.execBlock program.statements .none after with
          | ok value last => rfl
          | error stop last => cases stop <;> rfl

/-! ## Running a program with the standard evaluator -/

theorem checkAgainst_standard
    (name : String)
    (later : Nat × Clause)
    (earlier : List (Nat × Clause)) :
    standard.checkAgainst name later earlier = Interpreter.checkAgainst name later earlier := by
  induction earlier with
  | nil => rfl
  | cons clause rest inductionHypothesis =>
      simp only [checkAgainst, Interpreter.checkAgainst, inductionHypothesis]
      rfl

theorem checkFrom_standard
    (name : String)
    (before clauses : List (Nat × Clause)) :
    standard.checkFrom name before clauses = Interpreter.checkFrom name before clauses := by
  induction clauses generalizing before with
  | nil => rfl
  | cons clause rest inductionHypothesis =>
      simp only [checkFrom, Interpreter.checkFrom, checkAgainst_standard, inductionHypothesis]

theorem defineFunction_standard (name : String) (clauses : List Clause) :
    standard.defineFunction name clauses = Interpreter.defineFunction name clauses := by
  simp only [defineFunction, Interpreter.defineFunction, Interpreter.checkClauses,
    checkFrom_standard]

theorem defineAll_standard (definitions : List Program.FunctionDefinition) :
    standard.defineAll definitions = Program.defineAll definitions := by
  induction definitions with
  | nil => rfl
  | cons definition rest inductionHypothesis =>
      funext machine
      unfold defineAll Program.defineAll
      rewrite [defineFunction_standard, inductionHypothesis]
      rfl

/-- A program is run with the standard evaluator. -/
theorem runProgram_standard (program : Program) : standard.runProgram program = program.run := by
  funext machine
  unfold runProgram Program.run Program.define Interpreter.run
  rewrite [defineAll_standard]
  rfl

/-! ## Running a program with related evaluators -/

end Evaluator

/-- A congruence reaches as far as whole programs when it respects that errors are
answers, and that the settings are asked whether functions are checked. -/
structure Congruence.Total (congruence : Congruence) : Prop where
  attempt : ∀ {α : Type} {action other : Action α}, congruence.Relates action other ->
    congruence.Relates action.attempt other.attempt
  checksRedundancy :
    congruence.Fixes (do return (← get).settings.checkRedundancy)

namespace Evaluator.Related

open Congruence (Relates)

variable {congruence : Congruence} {self other : Evaluator}

theorem rescue
    {α β : Type}
    {action otherAction : Action α}
    {handle : Raised -> β}
    {next otherNext : α -> Action β}
    (total : congruence.Total)
    (first : congruence.Relates action otherAction)
    (second : ∀ value, congruence.Relates (next value) (otherNext value)) :
    congruence.Relates (action.rescue handle next) (otherAction.rescue handle otherNext) := by
  rw [Action.rescue_eq, Action.rescue_eq]
  refine (total.attempt first).bind fun answer => ?_
  cases answer with
  | ok value => exact second value
  | error exception => exact .pure

theorem checkAgainst
    (related : Related congruence self other)
    (total : congruence.Total)
    (name : String)
    (later : Nat × Clause)
    (earlier : List (Nat × Clause)) :
    congruence.Relates (self.checkAgainst name later earlier)
      (other.checkAgainst name later earlier) := by
  have covers : ∀ second first, congruence.Relates (self.covers second first)
      (other.covers second first) := by
    intro second first
    rw [covers_eq, covers_eq]
    exact rescue total (related.unify .covering second first) fun _ => .pure
  induction earlier with
  | nil => exact .pure
  | cons clause rest inductionHypothesis =>
      refine (covers _ _).bind fun _ => .ite ?_ inductionHypothesis
      exact Relates.display_display_raise.bind fun _ => inductionHypothesis

theorem checkFrom
    (related : Related congruence self other)
    (total : congruence.Total)
    (name : String)
    (before clauses : List (Nat × Clause)) :
    congruence.Relates (self.checkFrom name before clauses)
      (other.checkFrom name before clauses) := by
  induction clauses generalizing before with
  | nil => exact .pure
  | cons clause rest inductionHypothesis =>
      exact (related.checkAgainst total _ _ _).bind fun _ => inductionHypothesis _

theorem defineFunction
    (related : Related congruence self other)
    (total : congruence.Total)
    (name : String)
    (clauses : List Clause) :
    congruence.Relates (self.defineFunction name clauses)
      (other.defineFunction name clauses) := by
  let register : Action Unit := modify fun machine =>
    { machine with dispatch := machine.dispatch.insert name (.clauses name clauses) }
  have registered : congruence.Fixes register := .change fun _ _ => rfl
  have asked : ∀ evaluator : Evaluator, evaluator.defineFunction name clauses =
      (do return (← get).settings.checkRedundancy) >>= fun checked : Bool =>
        if checked then
          evaluator.checkFrom name [] (clauses.zipIdx.map fun (clause, place) => (place, clause))
            >>= fun _ => register
        else register :=
    fun _ => rfl
  rw [asked, asked]
  refine Relates.bind total.checksRedundancy fun checked => .ite ?_ registered
  exact (related.checkFrom total _ _ _).bind fun _ => registered

theorem defineAll
    (related : Related congruence self other)
    (total : congruence.Total)
    (definitions : List Program.FunctionDefinition) :
    congruence.Relates (self.defineAll definitions) (other.defineAll definitions) := by
  induction definitions with
  | nil => exact .pure
  | cons definition rest inductionHypothesis =>
      rw [defineAll_cons, defineAll_cons]
      exact rescue total (related.defineFunction total _ _) fun _ => inductionHypothesis

theorem runProgram
    (related : Related congruence self other)
    (total : congruence.Total)
    (program : Program) :
    congruence.Relates (self.runProgram program) (other.runProgram program) := by
  rw [runProgram_eq, runProgram_eq]
  refine (related.defineAll total _).bind fun refused => ?_
  cases refused with
  | some error => exact .pure
  | none => exact rescue total (related.execBlock _ _) fun _ => .pure

end Evaluator.Related

/-! ## Running a program with an evaluator that gives up earlier -/

theorem refinement_total (halt : Halt) : (refinement halt).Total where
  attempt refines machine := by
    unfold Action.attempt
    rcases refines machine with ⟨after, halted⟩ | same
    · rw [halted]
      exact .inl ⟨after, by cases halt <;> rfl⟩
    · rw [same]
      exact .inr rfl
  checksRedundancy := .refl _

namespace Evaluator

theorem Refines.runProgram
    {halt : Halt}
    {self other : Evaluator}
    (refines : Refines halt self other)
    (program : Program) :
    Action.Refines halt (self.runProgram program) (other.runProgram program) :=
  Related.runProgram refines (refinement_total halt) program

/-- A run of a program that does not use up its depth is the same at every larger depth. -/
theorem runProgram_deeper
    {depth deeper : Nat}
    (deep : depth ≤ deeper)
    (program : Program)
    (machine : Machine) :
    (∃ after, (within depth).runProgram program machine = .error .exhausted after) ∨
      (within deeper).runProgram program machine = (within depth).runProgram program machine :=
  ((within_refines deep).runProgram program machine).imp_right Eq.symm

/-- Whether a run of a program comes to an end that passes a check without using up
its depth. -/
def endsWithin (depth : Nat) (program : Program) (machine : Machine)
    (check : Program.Outcome -> Machine -> Bool) : Bool :=
  match (within depth).runProgram program machine with
  | .ok outcome after => check outcome after
  | .error _ _ => false

/-- Such a run is the run of the program. -/
theorem run_of_endsWithin
    {depth : Nat}
    {program : Program}
    {machine : Machine}
    {check : Program.Outcome -> Machine -> Bool}
    (small : depth ≤ 16)
    (ends : endsWithin depth program machine check = true) :
    ∃ outcome after, program.run machine = .ok outcome after ∧ check outcome after = true := by
  have deeper := runProgram_deeper (le_depthLimit small) program machine
  change _ ∨ standard.runProgram program machine = _ at deeper
  rw [runProgram_standard] at deeper
  unfold endsWithin at ends
  revert ends deeper
  cases (within depth).runProgram program machine with
  | ok outcome after =>
      rintro passes (⟨_, exhausted⟩ | same)
      · cases exhausted
      · exact ⟨outcome, after, same, passes⟩
  | error stop after => exact fun impossible => absurd impossible Bool.false_ne_true

/-! ## Running a program is careful -/

variable {quoting : Bool} {ledger : Ledger} {told : Ledger -> Evaluator} {self : Evaluator}

open PatternMachine.Action (Careful Foretold)

theorem checkAgainst_careful
    (careful : self.IsCareful quoting told)
    {name : String}
    {later : Nat × Clause}
    {earlier : List (Nat × Clause)}
    (laterCode : later.2.IsCode quoting ledger)
    (earlierCode : ∀ clause ∈ earlier, clause.2.IsCode quoting ledger) :
    Foretold quoting ledger (self.checkAgainst name later earlier)
      (fun future => (told future).checkAgainst name later earlier) fun _ _ => True := by
  have compared : ∀ {ledger : Ledger} {second first : Term}, second.IsCode quoting ledger ->
      first.IsCode quoting ledger ->
      Foretold quoting ledger (self.covers second first)
        (fun future => (told future).covers second first) fun _ _ => True := by
    intro ledger second first secondCode firstCode
    simp only [covers_eq]
    exact (careful.unify .covering secondCode firstCode).rescue
      (fun _ _ _ _ => .pure fun _ _ => trivial) fun _ _ _ => trivial
  have refused : ∀ {ledger : Ledger} {earlier : Nat × Clause},
      Careful quoting ledger (Interpreter.redundant name later earlier) fun _ _ => True :=
    .display_display_raise
  induction earlier generalizing ledger with
  | nil => exact .pure fun _ _ => trivial
  | cons clause rest inductionHypothesis =>
      obtain ⟨clauseCode, restCode⟩ := List.forall_mem_cons.mp earlierCode
      refine (compared laterCode.1 clauseCode.1).bind fun _ covered grows _ => ?_
      have others : ∀ {last : Ledger}, ledger.Grows last ->
          Foretold quoting last (self.checkAgainst name later rest)
            (fun future => (told future).checkAgainst name later rest) fun _ _ => True :=
        fun lastGrows => inductionHypothesis (laterCode.mono lastGrows)
          fun clause inside => (restCode clause inside).mono lastGrows
      refine .ite (fun _ => ?_) fun _ => others grows
      exact refused.bind fun _ _ raisedGrows _ => others (grows.trans raisedGrows)

theorem checkFrom_careful
    (careful : self.IsCareful quoting told)
    {name : String}
    {before clauses : List (Nat × Clause)}
    (beforeCode : ∀ clause ∈ before, clause.2.IsCode quoting ledger)
    (clausesCode : ∀ clause ∈ clauses, clause.2.IsCode quoting ledger) :
    Foretold quoting ledger (self.checkFrom name before clauses)
      (fun future => (told future).checkFrom name before clauses) fun _ _ => True := by
  induction clauses generalizing before ledger with
  | nil => exact .pure fun _ _ => trivial
  | cons clause rest inductionHypothesis =>
      obtain ⟨clauseCode, restCode⟩ := List.forall_mem_cons.mp clausesCode
      refine (checkAgainst_careful careful clauseCode beforeCode).bind fun _ _ grows _ => ?_
      refine inductionHypothesis ?_ fun clause inside => (restCode clause inside).mono grows
      refine List.forall_mem_append.mpr ⟨fun clause inside => (beforeCode clause inside).mono grows,
        List.forall_mem_singleton.mpr (clauseCode.mono grows)⟩

theorem defineFunction_careful
    (careful : self.IsCareful quoting told)
    (name : String)
    {clauses : List Clause}
    (clausesCode : ∀ clause ∈ clauses, clause.IsCode quoting ledger) :
    Foretold quoting ledger (self.defineFunction name clauses)
      (fun future => (told future).defineFunction name clauses) fun _ _ => True := by
  have registered : ∀ {later : Ledger}, ledger.Grows later -> Careful quoting later
      (modify fun machine =>
        { machine with dispatch := machine.dispatch.insert name (.clauses name clauses) })
      fun _ _ => True :=
    fun grows => .register fun clause inside => (clausesCode clause inside).mono grows
  refine .get_bind fun _ machine grows _ => ?_
  refine .ite (fun _ => ?_) fun _ => registered grows
  refine (checkFrom_careful careful (by simp) fun clause member => ?_).bind
    fun _ _ checked _ => registered (grows.trans checked)
  obtain ⟨⟨original, place⟩, indexed, rfl⟩ := List.mem_map.mp member
  exact (clausesCode original (List.fst_mem_of_mem_zipIdx indexed)).mono grows

/-- Registering functions is careful; the error of a refused one carries data. -/
theorem defineAll_careful
    (careful : self.IsCareful quoting told)
    {definitions : List Program.FunctionDefinition}
    (code : ∀ definition ∈ definitions, ∀ clause ∈ definition.clauses,
      clause.IsCode quoting ledger) :
    Foretold quoting ledger (self.defineAll definitions)
      (fun future => (told future).defineAll definitions) fun final refused =>
      ∀ error, refused = some error ->
        ∀ term ∈ error.exception.terms, term.IsData quoting final := by
  induction definitions generalizing ledger with
  | nil => exact .pure fun _ _ => by simp
  | cons definition rest inductionHypothesis =>
      obtain ⟨clausesCode, restCode⟩ := List.forall_mem_cons.mp code
      simp only [defineAll_cons]
      refine (defineFunction_careful careful definition.name clausesCode).rescue
        (fun _ _ grows _ => inductionHypothesis fun other inside clause member =>
          (restCode other inside clause member).mono grows) ?_
      rintro _ exception sound error same
      obtain rfl : ⟨definition.name, exception⟩ = error := by simpa using same
      exact stop_isData sound

/-- Running a program is careful; its outcome carries data. -/
theorem runProgram_careful
    (careful : self.IsCareful quoting told)
    {program : Program}
    (functions : ∀ definition ∈ program.functions, ∀ clause ∈ definition.clauses,
      clause.IsCode quoting ledger)
    (statements : ∀ statement ∈ program.statements, statement.IsCode quoting ledger) :
    Foretold quoting ledger (self.runProgram program)
      (fun future => (told future).runProgram program) fun final outcome =>
      ∀ term ∈ outcome.terms, term.IsData quoting final := by
  simp only [runProgram_eq]
  refine (defineAll_careful careful functions).bind fun later refused grows holds => ?_
  cases refused with
  | some error => exact .pure fun _ lastGrows term inside =>
      (holds error rfl term inside).mono lastGrows
  | none =>
      have nothing : Term.none.IsData quoting later := trivial
      have ran := execBlock_careful careful
        (fun statement inside => (statements statement inside).mono grows) nothing
      exact ran.rescue
        (fun _ _ _ data => .pure fun _ lastGrows =>
          List.forall_mem_singleton.mpr (data.mono lastGrows))
        fun _ _ sound => stop_isData sound

end Evaluator

/-! ## Runs of loaded programs -/

namespace Program.Loaded

variable {quoting : Bool} {program : Program} {store : Store} {told : Ledger -> Evaluator}
  {self : Evaluator}

theorem statement_isCode
    (loaded : program.Loaded quoting store)
    {statement : Statement}
    (present : ∀ term ∈ statement.terms, term ∈ program.terms) :
    statement.IsCode quoting (program.ledger store) := by
  have code : ∀ term ∈ statement.terms, term.IsCode quoting (program.ledger store) :=
    fun term inside => loaded.mentioned_isCode ⟨term, present term inside, .here⟩
  cases statement with
  | define name members => exact code
  | declareGlobals names => trivial
  | evaluate expression pattern => simpa [Statement.terms, Statement.IsCode] using code

theorem clause_isCode
    (loaded : program.Loaded quoting store)
    {clause : Clause}
    (present : ∀ term ∈ clause.terms, term ∈ program.terms) :
    clause.IsCode quoting (program.ledger store) := by
  refine ⟨loaded.mentioned_isCode ⟨_, present _ (by simp [Clause.terms]), .here⟩, ?_⟩
  intro statement inBody
  refine loaded.statement_isCode fun term inside => present term ?_
  exact List.mem_cons_of_mem _ (List.mem_flatMap.mpr ⟨statement, inBody, inside⟩)

/-- A run of a loaded program with a careful evaluator keeps code and data apart
from beginning to end. An evaluator that is told the ledger there is in the end does
the same. -/
theorem run_leads
    (loaded : program.Loaded quoting store)
    (careful : self.IsCareful quoting told)
    (settings : Settings)
    (tracer : Tracer)
    (withBuiltins : Bool) :
    match self.runProgram program (.prepared store settings tracer withBuiltins) with
    | .ok outcome after =>
        ∃ final, (Machine.bare store).Leads quoting (program.ledger store) final after ∧
          (∀ term ∈ outcome.terms, term.IsData quoting final) ∧
          ∀ future, final.Grows future ->
            (told future).runProgram program (.prepared store settings tracer withBuiltins) =
              .ok outcome after
    | .error stop after =>
        ∃ final, (Machine.bare store).Leads quoting (program.ledger store) final after ∧
          stop.IsSound quoting final ∧
          ∀ future, final.Grows future ->
            (told future).runProgram program (.prepared store settings tracer withBuiltins) =
              .error stop after := by
  obtain ⟨ready, prepared⟩ := Machine.prepared_leads loaded settings tracer withBuiltins
  have functions : ∀ definition ∈ program.functions, ∀ clause ∈ definition.clauses,
      clause.IsCode quoting (program.ledger store) := by
    intro definition inTable clause inClauses
    refine loaded.clause_isCode fun term inside => List.mem_append_left _ ?_
    have inDefinition := List.mem_flatMap.mpr ⟨clause, inClauses, inside⟩
    exact List.mem_flatMap.mpr ⟨definition, inTable, inDefinition⟩
  have statements : ∀ statement ∈ program.statements,
      statement.IsCode quoting (program.ledger store) := by
    intro statement present
    refine loaded.statement_isCode fun term inside => List.mem_append_right _ ?_
    exact List.mem_flatMap.mpr ⟨statement, present, inside⟩
  have outcome := Evaluator.runProgram_careful careful functions statements ready _
    (prepared.grows ⟨loaded.store_sound, by simp [Machine.bare]⟩) prepared.sound
  revert outcome
  cases self.runProgram program (.prepared store settings tracer withBuiltins) with
  | ok result after =>
      rintro ⟨final, leads, holds, same⟩
      exact ⟨final, prepared.trans leads, holds, same⟩
  | error stop after =>
      rintro ⟨final, leads, stopped, same⟩
      exact ⟨final, prepared.trans leads, stopped, same⟩

end Program.Loaded

/-- What a run leaves behind satisfies a condition, with the terms in hand that its
outcome or its error carries. -/
def Program.EndsWith (condition : Machine -> List Term -> Prop) :
    EStateM.Result Stop Machine Program.Outcome -> Prop
  | .ok outcome after => condition after outcome.terms
  | .error stop after => condition after stop.terms

/-- A run of a loaded program that is supervised by a safe condition is the run itself,
if the condition is told the ledger there is in the end. -/
theorem Program.Loaded.run_supervised
    {quoting : Bool}
    {program : Program}
    {store : Store}
    {condition : Ledger -> Machine -> List Term -> Prop}
    (loaded : program.Loaded quoting store)
    (safe : Evaluator.IsSafe quoting condition)
    (settings : Settings)
    (tracer : Tracer)
    (withBuiltins : Bool)
    (depth : Nat) :
    let machine := Machine.prepared store settings tracer withBuiltins
    ∃ final, (program.ledger store).Grows final ∧
      (Evaluator.supervised (condition final) depth).runProgram program machine =
        (Evaluator.within depth).runProgram program machine ∧
      EndsWith (condition final) ((Evaluator.within depth).runProgram program machine) := by
  have outcome := loaded.run_leads (Evaluator.supervised_careful safe depth) settings tracer
    withBuiltins
  have start : (Machine.bare store).Sound quoting (program.ledger store) :=
    ⟨loaded.store_sound, by simp [Machine.bare]⟩
  revert outcome
  dsimp only
  cases (Evaluator.within depth).runProgram program
      (.prepared store settings tracer withBuiltins) with
  | ok outcome after =>
      rintro ⟨final, leads, data, same⟩
      have known := Ledger.Grows.refl final
      exact ⟨final, leads.grows start, same final known,
        safe final final after _ known leads.sound data⟩
  | error stop after =>
      rintro ⟨final, leads, stopped, same⟩
      have known := Ledger.Grows.refl final
      exact ⟨final, leads.grows start, same final known,
        safe final final after _ known leads.sound (Evaluator.stop_isData stopped)⟩

/-- No fatal message of a loaded program is the bell. -/
theorem Program.Loaded.run_ne_bell
    {quoting : Bool}
    {program : Program}
    {store : Store}
    (loaded : program.Loaded quoting store)
    (settings : Settings)
    (tracer : Tracer)
    (withBuiltins : Bool)
    (depth : Nat)
    (after : Machine) :
    (Evaluator.within depth).runProgram program
      (.prepared store settings tracer withBuiltins) ≠ .error (.fatal bell) after := by
  intro rings
  have outcome := loaded.run_leads (Evaluator.within_careful depth) settings tracer withBuiltins
  rw [rings] at outcome
  obtain ⟨final, _, silent, _⟩ := outcome
  exact silent rfl

/-- No check has failed in a supervised run that is the run itself: the run is the same
whatever is done where a check fails. -/
theorem Program.Loaded.run_checked
    {quoting : Bool}
    {program : Program}
    {store : Store}
    {condition : Machine -> List Term -> Prop}
    {settings : Settings}
    {tracer : Tracer}
    {withBuiltins : Bool}
    {depth : Nat}
    (loaded : program.Loaded quoting store)
    (same : (Evaluator.supervised condition depth).runProgram program
        (.prepared store settings tracer withBuiltins) =
      (Evaluator.within depth).runProgram program
        (.prepared store settings tracer withBuiltins))
    (value : Action Term)
    (bindings : Action (List Binding)) :
    (Evaluator.checked value bindings condition depth).runProgram program
        (.prepared store settings tracer withBuiltins) =
      (Evaluator.within depth).runProgram program
        (.prepared store settings tracer withBuiltins) := by
  rcases (Evaluator.supervised_refines value bindings condition depth).runProgram program
      (.prepared store settings tracer withBuiltins) with ⟨after, rings⟩ | unchanged
  · exact absurd (same.symm.trans rings)
      (loaded.run_ne_bell settings tracer withBuiltins depth after)
  · exact unchanged.symm.trans same

end PatternMachine
