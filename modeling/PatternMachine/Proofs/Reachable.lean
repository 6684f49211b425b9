import PatternMachine.Program.Run
import PatternMachine.Proofs.Operation
import PatternMachine.Proofs.Reading.Program

/-!
# Reachable machines

The machines that loading and running programs leads to, also in the middle of
a run, together with the terms that are in hand there. The main invariant: all
functions that can be met captured a stack that starts with the global scope.
-/

namespace PatternMachine

/-- The terms of a clause. -/
def Clause.terms (clause : Clause) : List Term :=
  clause.pattern :: clause.body.flatMap Statement.terms

/-- The terms of a piece of code. -/
def Code.terms : Code -> List Term
  | .clauses _ equations => equations.flatMap Clause.terms
  | .native _ => []

/-- The terms of a program. -/
def Program.terms (program : Program) : List Term :=
  (program.functions.flatMap fun definition => definition.clauses.flatMap Clause.terms) ++
    program.statements.flatMap Statement.terms

/-- The terms one step inside a term. -/
def Term.parts (store : Store) : Term -> List Term
  | .list cell => (store.elements cell).toList
  | .tuple cell => (store.elements cell).toList
  | .pair first second => [first, second]
  | .range _ _ start stop stride => [start, stop, stride]
  | .headTail _ _ head tail => [head, tail]
  | .sequence _ first second => [first, second]
  | .apply _ callee argument => [callee, argument]
  | .index _ subject selector => [subject, selector]
  | .conditional _ condition consequent alternative => [condition, consequent, alternative]
  | .isMatch _ subject pattern => [subject, pattern]
  | .membership _ element container => [element, container]
  | .evaluation _ expression => [expression]
  | .named _ _ pattern => [pattern]
  | .constraint _ pattern => [pattern]
  | .quote expression => [expression]
  | .deref _ expression => [expression]
  | .struct template => (store.elements template.memory).toList
  | .object _ memory => (store.elements memory).toList
  | .method _ receiver body => [receiver, body]
  | .dataMember _ value => [value]
  | .initMember _ value pattern => [value, pattern]
  | _ => []

/-- What an action yields, as a list; a stopped action yields nothing. -/
def Action.yield (action : Action (List Term)) (machine : Machine) : List Term :=
  match action machine with
  | .ok results _ => results
  | .error _ _ => []

/-- The machines that programs lead to, with the terms in hand. -/
inductive Machine.Reachable : Machine -> List Term -> Prop
  /-- A machine before anything is loaded, with or without the built-in functions. -/
  | boot (settings : Settings) (tracer : Tracer) (withBuiltins : Bool) :
      Reachable (prepared Store.initial settings tracer withBuiltins) []
  /-- A machine over a program that was loaded first. -/
  | start (settings : Settings) (tracer : Tracer) (withBuiltins : Bool)
      {name text : String} {program : Program} {store : Store}
      (loaded : Program.ofText name text Store.initial = .ok (program, store)) :
      Reachable (prepared store settings tracer withBuiltins) program.terms
  /-- A program is loaded. -/
  | load {machine : Machine} {hand : List Term} {name text : String} {program : Program}
      {store : Store}
      (reachable : Reachable machine hand)
      (loaded : Program.ofText name text machine.store = .ok (program, store)) :
      Reachable { machine with store := store } (program.terms ++ hand)
  /-- A term without functions is taken in hand. -/
  | literal {machine : Machine} {hand : List Term} {term : Term}
      (reachable : Reachable machine hand)
      (plain : term.Plain) :
      Reachable machine (term :: hand)
  /-- A term inside a term is taken in hand. -/
  | part {machine : Machine} {hand : List Term} {term part : Term}
      (reachable : Reachable machine hand)
      (held : term ∈ hand)
      (inside : part ∈ term.parts machine.store) :
      Reachable machine (part :: hand)
  /-- The value of a name is taken in hand. -/
  | lookup {machine : Machine} {hand : List Term} {name : String} {value : Term}
      (reachable : Reachable machine hand)
      (bound : machine.lookup? name = some value) :
      Reachable machine (value :: hand)
  /-- The terms of a function body are taken in hand. -/
  | code {machine : Machine} {hand : List Term} {name : String} {code : Code}
      (reachable : Reachable machine hand)
      (registered : machine.dispatch.get? name = some code) :
      Reachable machine (code.terms ++ hand)
  /-- A function is registered, or refused. -/
  | define {machine : Machine} {hand : List Term}
      (reachable : Reachable machine hand)
      (name : String) {clauses : List Clause}
      (held : ∀ clause ∈ clauses, ∀ term ∈ clause.terms, term ∈ hand) :
      Reachable ((Interpreter.defineFunction name clauses).after machine) hand
  /-- An operation is performed, to its end or up to where it stops. -/
  | perform {machine : Machine} {hand : List Term}
      (reachable : Reachable machine hand)
      (depth : Nat) {operation : Operation}
      (held : ∀ term ∈ operation.terms, term ∈ hand) :
      Reachable ((operation.run (.within depth)).after machine)
        ((operation.run (.within depth)).yield machine ++ hand)
  /-- A scope is opened. -/
  | openScope {machine : Machine} {hand : List Term}
      (reachable : Reachable machine hand) :
      Reachable machine.pushScope hand
  /-- The innermost scope is closed; the global scope stays. -/
  | closeScope {machine : Machine} {hand : List Term}
      (reachable : Reachable machine hand)
      (nested : 1 < machine.scopes.size) :
      Reachable machine.popScope hand
  /-- A function is entered. -/
  | enter {machine entered : Machine} {hand : List Term} {body : String} {captured : Closure}
      (reachable : Reachable machine hand)
      (held : .closure body (some captured) ∈ hand)
      (installed : Action.install captured machine = .ok () entered) :
      Reachable entered.pushScope hand
  /-- A name is bound. -/
  | bind {machine : Machine} {hand : List Term} {value : Term}
      (reachable : Reachable machine hand)
      (name : String)
      (held : value ∈ hand) :
      Reachable (machine.bindName name value) hand
  /-- A mark is handed out. -/
  | mark {machine : Machine} {hand : List Term}
      (reachable : Reachable machine hand) :
      Reachable { machine with store := machine.store.freshMark.2 } hand
  /-- A cell is made. -/
  | allocate {machine : Machine} {hand : List Term} {elements : Array Term}
      (reachable : Reachable machine hand)
      (held : ∀ element ∈ elements, element ∈ hand) :
      Reachable { machine with store := (machine.store.newCell elements).2 } hand
  /-- An element of a cell is overwritten. -/
  | write {machine : Machine} {hand : List Term} {value : Term}
      (reachable : Reachable machine hand)
      (cell : CellRef) (place : Nat)
      (held : value ∈ hand) :
      Reachable { machine with store := machine.store.writeElement cell place value } hand
  /-- Counters, flags, positions and what was written change. -/
  | adjust {machine : Machine} {hand : List Term}
      (reachable : Reachable machine hand)
      (position : Position) (tally : Tally) (output : String) (trace : Array TraceEvent)
      (guardWarned ignoreQuote : Bool) (constraintDepth callDepth : Nat) :
      Reachable
        { machine with
          position, tally, output, trace, guardWarned, ignoreQuote, constraintDepth, callDepth }
        hand

/-- Several terms without functions are taken in hand. -/
theorem Machine.Reachable.literals
    {machine : Machine}
    {hand terms : List Term}
    (reachable : machine.Reachable hand)
    (plain : ∀ term ∈ terms, term.Plain) :
    machine.Reachable (terms ++ hand) := by
  induction terms with
  | nil => exact reachable
  | cons term rest inductionHypothesis =>
      obtain ⟨termPlain, restPlain⟩ := List.forall_mem_cons.mp plain
      exact (inductionHypothesis restPlain).literal termPlain

/-! ## The invariant -/

/-- The global scope is `root`, it exists, and every function in the machine
captured a stack that starts with it. -/
structure Machine.Rooted (root : ScopeRef) (machine : Machine) : Prop where
  existing : root.place < machine.store.scopes.size
  respects : machine.Respects (.rootedAt root)

/-- Whatever evolves stays rooted. -/
theorem Machine.Evolves.rooted
    {root : ScopeRef}
    {machine after : Machine}
    (evolves : machine.Evolves (.rootedAt root) after)
    (rooted : machine.Rooted root) :
    after.Rooted root where
  existing := Nat.lt_of_lt_of_le rooted.existing evolves.grows.scopes
  respects := evolves.respects rooted.respects

/-- The machine goes on respecting the property, loses no namespace and keeps its
settings. -/
structure Machine.GoesOn (property : StackProperty) (machine after : Machine) : Prop where
  respects : after.Respects property
  grows : machine.store.Grows after.store
  settings : after.settings = machine.settings

theorem Machine.GoesOn.trans
    {property : StackProperty}
    {first second third : Machine}
    (earlier : first.GoesOn property second)
    (later : second.GoesOn property third) :
    first.GoesOn property third :=
  ⟨later.respects, earlier.grows.trans later.grows, later.settings.trans earlier.settings⟩

/-- An evolution goes on. -/
theorem Machine.Evolves.goesOn
    {property : StackProperty}
    {machine after : Machine}
    (evolves : machine.Evolves property after)
    (respects : machine.Respects property) :
    machine.GoesOn property after :=
  ⟨evolves.respects respects, evolves.grows, evolves.sameFrame.settings⟩

namespace Action

/-- An action that keeps the property, however it ends, and whose result satisfies
`answer`. It gives up for no other reason than the limit on calls. Unlike a lawful
action it may register code. -/
def Keeps {α : Type} (property : StackProperty) (action : Action α) (answer : α -> Prop) :
    Prop :=
  ∀ machine, machine.Respects property ->
    match action machine with
    | .ok value after => machine.GoesOn property after ∧ answer value
    | .error stop after =>
        machine.GoesOn property after ∧ property.Allows machine.settings stop

namespace Keeps

variable {α β : Type} {property : StackProperty} {root : ScopeRef}

theorem after
    {action : Action α}
    {answer : α -> Prop}
    (keeps : Keeps (.rootedAt root) action answer)
    {machine : Machine}
    (rooted : machine.Rooted root) :
    (action.after machine).Rooted root := by
  have outcome := keeps machine rooted.respects
  have goesOn : machine.GoesOn (.rootedAt root) (action.after machine) := by
    unfold Action.after
    revert outcome
    cases action machine with
    | ok value final => exact fun outcome => outcome.1
    | error stop final => exact fun outcome => outcome.1
  exact ⟨Nat.lt_of_lt_of_le rooted.existing goesOn.grows.scopes, goesOn.respects⟩

theorem ofLawful
    {action : Action α}
    {answer : α -> Prop}
    (lawful : Lawful property action answer) :
    Keeps property action answer := by
  intro machine respects
  have outcome := lawful machine respects
  revert outcome
  cases action machine with
  | ok value final => exact fun outcome => ⟨outcome.1.goesOn respects, outcome.2⟩
  | error stop final => exact fun outcome => ⟨outcome.1.goesOn respects, outcome.2⟩

theorem bind
    {action : Action α}
    {next : α -> Action β}
    {middle : α -> Prop}
    {answer : β -> Prop}
    (first : Keeps property action middle)
    (second : ∀ value, middle value -> Keeps property (next value) answer) :
    Keeps property (action >>= next) answer := by
  intro machine respects
  have outcome := first machine respects
  rw [bind_apply]
  revert outcome
  cases action machine with
  | error stop final => exact id
  | ok value middle =>
      rintro ⟨goesOn, holds⟩
      have later := second value holds middle goesOn.respects
      rw [goesOn.settings] at later
      revert later
      dsimp only
      cases next value middle with
      | ok result final => exact fun outcome => ⟨goesOn.trans outcome.1, outcome.2⟩
      | error stop final => exact fun outcome => ⟨goesOn.trans outcome.1, outcome.2⟩

/-- An error that was raised is an answer. -/
theorem attempt
    {action : Action α}
    {answer : α -> Prop}
    (keeps : Keeps property action answer) :
    Keeps property action.attempt fun outcome => ∀ value, outcome = .ok value -> answer value := by
  intro machine respects
  have outcome := keeps machine respects
  revert outcome
  unfold Action.attempt
  cases action machine with
  | ok value after =>
      rintro ⟨goesOn, holds⟩
      refine ⟨goesOn, fun other same => ?_⟩
      cases same
      exact holds
  | error stop after =>
      cases stop with
      | raised exception => exact fun outcome => ⟨outcome.1, by simp⟩
      | fatal message => exact id
      | exhausted => exact id

theorem rescue
    {action : Action α}
    {handle : Raised -> β}
    {next : α -> Action β}
    {middle : α -> Prop}
    (first : Keeps property action middle)
    (second : ∀ value, middle value -> Keeps property (next value) fun _ => True) :
    Keeps property (action.rescue handle next) fun _ => True := by
  rw [Action.rescue_eq]
  refine first.attempt.bind fun outcome holds => ?_
  cases outcome with
  | ok value => exact second value (holds value rfl)
  | error exception => exact .ofLawful (.pure trivial)

/-- Registering code that respects the stacks. -/
theorem register
    {name : String}
    {code : Code}
    (respects : code.Respects property) :
    Keeps property
      (modify fun machine => { machine with dispatch := machine.dispatch.insert name code })
      fun _ => True := by
  intro machine machineRespects
  refine ⟨⟨⟨machineRespects.store, ?_, machineRespects.stack⟩, .refl _, rfl⟩, trivial⟩
  intro entry member
  rcases List.mem_cons.mp member with rfl | registered
  · exact respects
  · exact machineRespects.dispatch entry registered

end Keeps
end Action

/-! ## Built-in functions and definitions -/

namespace Native

open PatternMachine.Action (Keeps Lawful)

variable {property : StackProperty}

theorem formals_lawful
    (operation : Native) :
    Lawful property operation.formals (Term.Respects property) := by
  unfold formals
  split
  · exact .pure trivial
  · refine (Lawful.newCell fun element member => ?_).bind fun _ _ => .pure trivial
    obtain ⟨name, _, rfl⟩ := List.mem_map.mp member
    trivial

theorem install_keeps
    {captured : Closure}
    (holds : property.holds captured.scopes)
    (operation : Native) :
    Keeps property (operation.install captured) fun _ => True := by
  refine (Keeps.ofLawful operation.formals_lawful).bind fun pattern respects => ?_
  refine (Keeps.ofLawful Lawful.freshMark).bind fun mark _ => ?_
  have native : Keeps property
      (modify fun machine =>
        { machine with
          dispatch := machine.dispatch.insert operation.escapeName (.native operation) })
      fun _ => True := .register trivial
  have wrapper : Keeps property
      (modify fun machine =>
        { machine with
          dispatch := machine.dispatch.insert operation.name
            (.clauses operation.name
              [⟨pattern, [.evaluate (.escape mark operation.escapeName) .absent]⟩]) })
      fun _ => True :=
    .register (List.forall_mem_singleton.mpr
      ⟨respects, List.forall_mem_singleton.mpr ⟨trivial, trivial⟩⟩)
  have registered := native.bind fun _ _ => wrapper
  refine registered.bind fun _ _ => ?_
  refine (Keeps.ofLawful (Lawful.newClosure holds)).bind fun function functionRespects => ?_
  exact .ofLawful (.bindName functionRespects)

theorem installEach_keeps
    {captured : Closure}
    (holds : property.holds captured.scopes)
    (operations : List Native) :
    Keeps property (installEach captured operations) fun _ => True := by
  induction operations with
  | nil => exact .ofLawful (.pure trivial)
  | cons operation rest inductionHypothesis =>
      exact (install_keeps holds operation).bind fun _ _ => inductionHypothesis

theorem installAll_keeps : Keeps property installAll fun _ => True := by
  unfold installAll
  generalize all = operations
  refine (Keeps.ofLawful Lawful.capture).bind fun captured holds => ?_
  exact installEach_keeps holds operations

end Native

namespace Interpreter

open PatternMachine.Action (Keeps Lawful)

variable {property : StackProperty}

/-- Comparing two patterns is lawful: an error counts as an answer. -/
theorem covers_lawful
    {later earlier : Term}
    (laterRespects : later.Respects property)
    (earlierRespects : earlier.Respects property) :
    Lawful property (covers later earlier) fun _ => True := by
  intro machine respects
  have outcome := Evaluator.standard_lawful.unify .covering later earlier laterRespects
    earlierRespects machine respects
  unfold covers unify
  revert outcome
  generalize Evaluator.standard.unify .covering later earlier machine = run
  cases run with
  | ok bindings after => exact fun outcome => ⟨outcome.1, trivial⟩
  | error stop after =>
      cases stop with
      | raised exception => exact fun outcome => ⟨outcome.1, trivial⟩
      | fatal message => exact id
      | exhausted => exact id

theorem checkAgainst_lawful
    {name : String}
    {later : Nat × Clause}
    {earlier : List (Nat × Clause)}
    (laterRespects : later.2.Respects property)
    (earlierRespect : ∀ clause ∈ earlier, clause.2.Respects property) :
    Lawful property (checkAgainst name later earlier) fun _ => True := by
  induction earlier with
  | nil => exact .pure trivial
  | cons clause rest inductionHypothesis =>
      obtain ⟨clauseRespects, restRespect⟩ := List.forall_mem_cons.mp earlierRespect
      have refused : Lawful property (redundant name later clause) fun _ => True :=
        Lawful.display.bind fun _ _ => Lawful.display.bind fun _ _ => .raise
      refine (covers_lawful laterRespects.1 clauseRespects.1).bind fun covered _ => ?_
      refine .ite (fun _ => ?_) fun _ => inductionHypothesis restRespect
      exact refused.bind fun _ _ => inductionHypothesis restRespect

theorem checkFrom_lawful
    {name : String}
    {before clauses : List (Nat × Clause)}
    (beforeRespect : ∀ clause ∈ before, clause.2.Respects property)
    (respects : ∀ clause ∈ clauses, clause.2.Respects property) :
    Lawful property (checkFrom name before clauses) fun _ => True := by
  induction clauses generalizing before with
  | nil => exact .pure trivial
  | cons clause rest inductionHypothesis =>
      obtain ⟨clauseRespects, restRespect⟩ := List.forall_mem_cons.mp respects
      refine (checkAgainst_lawful clauseRespects beforeRespect).bind fun _ _ => ?_
      refine inductionHypothesis ?_ restRespect
      exact List.forall_mem_append.mpr
        ⟨beforeRespect, List.forall_mem_singleton.mpr clauseRespects⟩

theorem defineFunction_keeps
    {name : String}
    {clauses : List Clause}
    (respects : ∀ clause ∈ clauses, clause.Respects property) :
    Keeps property (defineFunction name clauses) fun _ => True := by
  have checked : Lawful property (checkClauses name clauses) fun _ => True := by
    refine checkFrom_lawful (by simp) fun clause member => ?_
    obtain ⟨⟨original, place⟩, indexed, rfl⟩ := List.mem_map.mp member
    exact respects original (List.fst_mem_of_mem_zipIdx indexed)
  have registered : Keeps property
      (modify fun machine =>
        { machine with dispatch := machine.dispatch.insert name (.clauses name clauses) })
      fun _ => True := .register respects
  refine (Keeps.ofLawful Lawful.get).bind fun machine _ => ?_
  dsimp only
  split
  · exact (Keeps.ofLawful checked).bind fun _ _ => registered
  · exact registered

end Interpreter

/-! ## Reachable machines are rooted -/

namespace Machine

theorem initial_respects (property : StackProperty) : Store.initial.Respects property where
  cells := by
    intro cell element member
    have initial : ∀ place : Nat, ∀ element ∈ (Store.initial.cells[place]?.getD #[]),
        element.Respects property := by
      intro place element member
      match place with
      | 0 =>
          obtain rfl : element = .none := by simpa [Store.initial] using member
          trivial
      | place + 1 => simp [Store.initial] at member
    exact initial cell.place element member
  scopes := by
    intro ref entry member
    simp [Store.initial, Store.scope] at member

theorem fresh_rooted
    {store : Store}
    (respects : ∀ property, store.Respects property) :
    (fresh store).Rooted ⟨store.scopes.size⟩ := by
  have started : ({ store := store.newScope.2.newGlobals.2
                    scopes := #[⟨store.scopes.size⟩]
                    globals := #[⟨store.globals.size⟩] } : Machine).Rooted
      ⟨store.scopes.size⟩ :=
    { existing := by simp [Store.newScope, Store.newGlobals]
      respects :=
        { store :=
            { cells := (respects _).cells
              scopes := by
                intro ref entry member
                change entry ∈ (store.newScope.2.scope ref).entries at member
                rw [Store.scope_newScope] at member
                exact (respects _).scopes ref entry member }
          dispatch := by simp
          stack := rfl } }
  have structRespects : (Term.struct Template.exception).Respects
      (.rootedAt ⟨store.scopes.size⟩) := trivial
  exact (Evolves.bindName _ _ structRespects).rooted started

-- Opening the installation of all built-in functions would run it.
attribute [local irreducible] Native.installAll in
theorem prepared_rooted
    {store : Store}
    (respects : ∀ property, store.Respects property)
    (settings : Settings)
    (tracer : Tracer)
    (withBuiltins : Bool) :
    (prepared store settings tracer withBuiltins).Rooted ⟨store.scopes.size⟩ := by
  have bare := fresh_rooted respects
  have configured : ({ fresh store with settings, tracer } : Machine).Rooted
      ⟨store.scopes.size⟩ :=
    ⟨bare.existing, bare.respects.store, bare.respects.dispatch, bare.respects.stack⟩
  cases withBuiltins with
  | false => exact configured
  | true =>
      have installed := Native.installAll_keeps.after configured
      unfold Action.after at installed
      unfold prepared
      dsimp only at installed ⊢
      rw [if_pos rfl]
      generalize Native.installAll _ = run at installed ⊢
      cases run with
      | ok value after => exact installed
      | error stop after => exact installed

theorem mem_parts_respects
    {property : StackProperty}
    {store : Store}
    (storeRespects : store.Respects property)
    {term part : Term}
    (respects : term.Respects property)
    (inside : part ∈ term.parts store) :
    part.Respects property := by
  cases term with
  | list cell => exact storeRespects.elements cell part inside
  | tuple cell => exact storeRespects.elements cell part inside
  | struct template => exact storeRespects.elements template.memory part inside
  | object template memory => exact storeRespects.elements memory part inside
  | _ => simp_all [Term.parts] <;> grind

theorem clauseRespects_iff {property : StackProperty} {clause : Clause} :
    clause.Respects property ↔ ∀ term ∈ clause.terms, term.Respects property := by
  simp only [Clause.Respects, Clause.terms, List.forall_mem_cons, List.mem_flatMap]
  refine and_congr_right fun _ => ?_
  constructor
  · rintro respects term ⟨statement, member, inside⟩
    exact Operation.statementRespects_iff.mp (respects statement member) term inside
  · intro respects statement member
    exact Operation.statementRespects_iff.mpr fun term inside =>
      respects term ⟨statement, member, inside⟩

theorem codeTerms_respect
    {property : StackProperty}
    {code : Code}
    (respects : code.Respects property) :
    ∀ term ∈ code.terms, term.Respects property := by
  cases code with
  | clauses name equations =>
      intro term member
      obtain ⟨clause, inEquations, inside⟩ := List.mem_flatMap.mp member
      exact clauseRespects_iff.mp (respects clause inEquations) term inside
  | native operation => simp [Code.terms]

theorem programTerms_respect
    {program : Program}
    (plain : program.Plain)
    (property : StackProperty) :
    ∀ term ∈ program.terms, term.Respects property := by
  intro term member
  rcases List.mem_append.mp member with inFunctions | inStatements
  · obtain ⟨definition, inTable, inClauses⟩ := List.mem_flatMap.mp inFunctions
    obtain ⟨clause, inDefinition, inside⟩ := List.mem_flatMap.mp inClauses
    have respects := plain.functions definition inTable clause inDefinition property
    exact clauseRespects_iff.mp respects term inside
  · obtain ⟨statement, inProgram, inside⟩ := List.mem_flatMap.mp inStatements
    have respects := plain.statements statement inProgram property
    exact Operation.statementRespects_iff.mp respects term inside

theorem Rooted.popScope
    {root : ScopeRef}
    {machine : Machine}
    (rooted : machine.Rooted root)
    (nested : 1 < machine.scopes.size) :
    machine.popScope.Rooted root := by
  refine ⟨rooted.existing, rooted.respects.store, rooted.respects.dispatch, ?_⟩
  have outermost : machine.scopes[0]? = some root := rooted.respects.stack
  change machine.scopes.pop[0]? = some root
  rw [Array.getElem?_pop, if_pos (by omega), outermost]

/-- In a reachable machine every function, in the store, in the code or in hand,
captured a stack that starts with the global scope. -/
theorem Reachable.rooted
    {machine : Machine}
    {hand : List Term}
    (reachable : machine.Reachable hand) :
    ∃ root, machine.Rooted root ∧ ∀ term ∈ hand, term.Respects (.rootedAt root) := by
  induction reachable with
  | boot settings tracer withBuiltins =>
      exact ⟨_, prepared_rooted initial_respects settings tracer withBuiltins, by simp⟩
  | start settings tracer withBuiltins loaded =>
      obtain ⟨extended, plain⟩ := Program.ofText_plain loaded
      have respects := fun property => extended.respects property (initial_respects property)
      exact ⟨_, prepared_rooted respects settings tracer withBuiltins,
        programTerms_respect plain _⟩
  | load reachable loaded inductionHypothesis =>
      obtain ⟨root, rooted, held⟩ := inductionHypothesis
      obtain ⟨extended, plain⟩ := Program.ofText_plain loaded
      refine ⟨root, ⟨?_, ?_⟩, List.forall_mem_append.mpr ⟨programTerms_respect plain _, held⟩⟩
      · have existing := rooted.existing
        rwa [← extended.scopes] at existing
      · exact ⟨extended.respects _ rooted.respects.store, rooted.respects.dispatch,
          rooted.respects.stack⟩
  | literal reachable plain inductionHypothesis =>
      obtain ⟨root, rooted, held⟩ := inductionHypothesis
      exact ⟨root, rooted, List.forall_mem_cons.mpr ⟨plain _, held⟩⟩
  | part reachable inHand inside inductionHypothesis =>
      obtain ⟨root, rooted, held⟩ := inductionHypothesis
      have respects := mem_parts_respects rooted.respects.store (held _ inHand) inside
      exact ⟨root, rooted, List.forall_mem_cons.mpr ⟨respects, held⟩⟩
  | @lookup machine hand name value reachable bound inductionHypothesis =>
      obtain ⟨root, rooted, held⟩ := inductionHypothesis
      have found := @Action.Lawful.lookup? (.rootedAt root) name machine rooted.respects
      exact ⟨root, rooted, List.forall_mem_cons.mpr ⟨found.2 value bound, held⟩⟩
  | code reachable registered inductionHypothesis =>
      obtain ⟨root, rooted, held⟩ := inductionHypothesis
      have respects := codeTerms_respect (rooted.respects.code registered)
      exact ⟨root, rooted, List.forall_mem_append.mpr ⟨respects, held⟩⟩
  | define reachable name inHand inductionHypothesis =>
      obtain ⟨root, rooted, held⟩ := inductionHypothesis
      refine ⟨root, (Interpreter.defineFunction_keeps ?_).after rooted, held⟩
      intro clause member
      exact clauseRespects_iff.mpr fun term inside => held term (inHand clause member term inside)
  | @perform machine hand reachable depth operation inHand inductionHypothesis =>
      obtain ⟨root, rooted, held⟩ := inductionHypothesis
      have lawful := operation.run_lawful (Evaluator.within_lawful depth)
        fun term member => held term (inHand term member)
      have results : ∀ term ∈ (operation.run (.within depth)).yield machine,
          term.Respects (.rootedAt root) := by
        have outcome := lawful machine rooted.respects
        unfold Action.yield
        revert outcome
        cases operation.run (.within depth) machine with
        | ok results after => exact fun outcome => outcome.2
        | error stop after => simp
      exact ⟨root, (lawful.evolves rooted.respects).rooted rooted,
        List.forall_mem_append.mpr ⟨results, held⟩⟩
  | openScope reachable inductionHypothesis =>
      obtain ⟨root, rooted, held⟩ := inductionHypothesis
      exact ⟨root, ⟨Nat.lt_of_lt_of_le rooted.existing (Store.Grows.pushScope _).scopes,
        rooted.respects.pushScope⟩, held⟩
  | closeScope reachable nested inductionHypothesis =>
      obtain ⟨root, rooted, held⟩ := inductionHypothesis
      exact ⟨root, rooted.popScope nested, held⟩
  | enter reachable inHand installed inductionHypothesis =>
      obtain ⟨root, rooted, held⟩ := inductionHypothesis
      have grown := (Store.Grows.install installed).trans (Store.Grows.pushScope _)
      exact ⟨root, ⟨Nat.lt_of_lt_of_le rooted.existing grown.scopes,
        (rooted.respects.install (held _ inHand) installed).pushScope⟩, held⟩
  | bind reachable name inHand inductionHypothesis =>
      obtain ⟨root, rooted, held⟩ := inductionHypothesis
      exact ⟨root, (Evolves.bindName _ name (held _ inHand)).rooted rooted, held⟩
  | mark reachable inductionHypothesis =>
      obtain ⟨root, rooted, held⟩ := inductionHypothesis
      exact ⟨root, (Evolves.freshMark _).rooted rooted, held⟩
  | allocate reachable inHand inductionHypothesis =>
      obtain ⟨root, rooted, held⟩ := inductionHypothesis
      have respects := fun element member => held element (inHand element member)
      exact ⟨root, (Evolves.newCell _ respects).rooted rooted, held⟩
  | write reachable cell place inHand inductionHypothesis =>
      obtain ⟨root, rooted, held⟩ := inductionHypothesis
      exact ⟨root, (Evolves.writeElement _ cell place (held _ inHand)).rooted rooted, held⟩
  | adjust reachable _ _ _ _ _ _ _ _ inductionHypothesis =>
      obtain ⟨root, rooted, held⟩ := inductionHypothesis
      exact ⟨root, ⟨rooted.existing, rooted.respects.store, rooted.respects.dispatch,
        rooted.respects.stack⟩, held⟩

end Machine
end PatternMachine
