import PatternMachine.Proofs.Careful.Walk
import PatternMachine.Proofs.Ledger.Contents

/-!
# The ledger of a loaded program

When a program has been loaded its lists and tuples are code, except for those
that stand in a quoted term: quoted terms are handed around like values, so they
count as data. A machine over a loaded program is sound for this ledger, and
without quotes in the program it is sound even without quoting.
-/

namespace PatternMachine

namespace Program

variable (program : Program) (store : Store)

/-- The terms that can be met in a program. -/
def Mentions (term : Term) : Prop :=
  ∃ root ∈ program.terms, store.Reaches root term

/-- A cell is that of a list or a tuple in a program. -/
def Uses (cell : CellRef) : Prop :=
  program.Mentions store (.list cell) ∨ program.Mentions store (.tuple cell)

/-- The terms that can be met in a quoted term of a program. -/
def Quotes (term : Term) : Prop :=
  ∃ inner, program.Mentions store (.quote inner) ∧ store.Reaches inner term

/-- A cell is that of a list or a tuple in a quoted term of a program. -/
def UsesQuoted (cell : CellRef) : Prop :=
  program.Quotes store (.list cell) ∨ program.Quotes store (.tuple cell)

open Classical in
/-- What the cells of a loaded program hold. -/
noncomputable def ledger : Ledger := fun cell =>
  if cell = Template.exception.memory then some (.slots Template.exception #[.none, .none])
  else if program.UsesQuoted store cell then some (.data none)
  else if program.Uses store cell then some .code
  else none

variable {program : Program} {store : Store}

theorem Mentions.inside
    {term part : Term}
    (mentioned : program.Mentions store term)
    (held : part ∈ term.contents store) :
    program.Mentions store part := by
  obtain ⟨root, present, reaches⟩ := mentioned
  exact ⟨root, present, reaches.inside held⟩

theorem Quotes.inside
    {term part : Term}
    (quoted : program.Quotes store term)
    (held : part ∈ term.contents store) :
    program.Quotes store part := by
  obtain ⟨inner, mentioned, reaches⟩ := quoted
  exact ⟨inner, mentioned, reaches.inside held⟩

/-- What stands in a quoted term stands in the program. -/
theorem Quotes.mentioned
    {term : Term}
    (quoted : program.Quotes store term) :
    program.Mentions store term := by
  obtain ⟨inner, ⟨root, present, outer⟩, reaches⟩ := quoted
  have inside : inner ∈ (Term.quote inner).contents store := by simp [Term.contents, Term.parts]
  exact ⟨root, present, (outer.inside inside).trans reaches⟩

theorem UsesQuoted.uses
    {cell : CellRef}
    (quoted : program.UsesQuoted store cell) :
    program.Uses store cell :=
  quoted.imp Quotes.mentioned Quotes.mentioned

/-! ## Entries -/

theorem ledger_exception :
    program.ledger store Template.exception.memory =
      some (.slots Template.exception #[.none, .none]) := by
  simp [ledger]

theorem ledger_code
    {cell : CellRef}
    (apart : cell ≠ Template.exception.memory)
    (unquoted : ¬ program.UsesQuoted store cell)
    (used : program.Uses store cell) :
    program.ledger store cell = some .code := by
  simp [ledger, apart, unquoted, used]

theorem ledger_quoted
    {cell : CellRef}
    (apart : cell ≠ Template.exception.memory)
    (quoted : program.UsesQuoted store cell) :
    program.ledger store cell = some (.data none) := by
  simp [ledger, apart, quoted]

theorem ledger_used
    {cell : CellRef}
    (apart : cell ≠ Template.exception.memory)
    (used : program.Uses store cell) :
    (program.ledger store).IsKnown cell := by
  by_cases quoted : program.UsesQuoted store cell
  · exact .inr (ledger_quoted apart quoted)
  · exact .inl (ledger_code apart quoted used)

/-- The entries of the ledger: the template of exceptions, quoted cells, and the
other cells of the program. -/
theorem ledger_cases
    {cell : CellRef}
    {holding : Holding}
    (held : program.ledger store cell = some holding) :
    (cell = Template.exception.memory ∧
      holding = .slots Template.exception #[.none, .none]) ∨
    (program.UsesQuoted store cell ∧ holding = .data none) ∨
    (program.Uses store cell ∧ holding = .code) := by
  unfold ledger at held
  split at held
  · exact .inl ⟨‹_›, by simpa using held.symm⟩
  · split at held
    · exact .inr (.inl ⟨‹_›, by simpa using held.symm⟩)
    · split at held
      · exact .inr (.inr ⟨‹_›, by simpa using held.symm⟩)
      · simp at held

/-! ## Terms of a loaded program -/

variable {low high : Nat}

/-- The terms one step inside a raw term are raw. -/
theorem contents_raw
    (elements : ∀ cell : CellRef, low ≤ cell.place ->
      ∀ element ∈ store.elements cell, element.IsRaw low high)
    {term part : Term}
    (raw : term.IsRaw low high)
    (held : part ∈ term.contents store) :
    part.IsRaw low high := by
  cases term with
  | list cell => exact elements cell raw.1 part (Array.mem_toList_iff.mp held)
  | tuple cell => exact elements cell raw.1 part (Array.mem_toList_iff.mp held)
  | struct template => exact raw.elim
  | object template memory => exact raw.elim
  | method mark receiver body => exact raw.elim
  | closure body captured => simp [Term.contents, Term.parts] at held
  | _ => simp_all [Term.contents, Term.parts] <;> grind

theorem IsRaw.terms
    (raw : program.IsRaw low high) :
    ∀ term ∈ program.terms, term.IsRaw low high := by
  have statements : ∀ {statement : Statement}, statement.IsRaw low high ->
      ∀ term ∈ statement.terms, term.IsRaw low high := by
    intro statement statementRaw term member
    cases statement with
    | define name members => exact statementRaw term member
    | declareGlobals names => simp [Statement.terms] at member
    | evaluate expression pattern =>
        exact List.forall_mem_cons.mpr
          ⟨statementRaw.1, List.forall_mem_singleton.mpr statementRaw.2⟩ term member
  intro term member
  rcases List.mem_append.mp member with inFunctions | inStatements
  · obtain ⟨definition, inTable, inClauses⟩ := List.mem_flatMap.mp inFunctions
    obtain ⟨clause, inDefinition, inside⟩ := List.mem_flatMap.mp inClauses
    have clauseRaw := raw.functions definition inTable clause inDefinition
    rcases List.mem_cons.mp inside with rfl | inBody
    · exact clauseRaw.1
    · obtain ⟨statement, present, inStatement⟩ := List.mem_flatMap.mp inBody
      exact statements (clauseRaw.2 statement present) term inStatement
  · obtain ⟨statement, present, inStatement⟩ := List.mem_flatMap.mp inStatements
    exact statements (raw.statements statement present) term inStatement

/-- A loaded program over its store, and whether quoting counts: it must where
there are quotes. -/
structure Loaded (program : Program) (quoting : Bool) (store : Store) : Prop where
  extended : Store.initial.Extends Store.initial.cells.size store
  raw : program.IsRaw Store.initial.cells.size store.cells.size
  unquoted : quoting = false -> ∀ inner, ¬ program.Mentions store (.quote inner)

namespace Loaded

variable {quoting : Bool}

theorem mentioned_raw
    (loaded : program.Loaded quoting store)
    {term : Term}
    (mentioned : program.Mentions store term) :
    term.IsRaw Store.initial.cells.size store.cells.size := by
  obtain ⟨root, present, reaches⟩ := mentioned
  induction reaches with
  | here => exact loaded.raw.terms root present
  | inside outer held inductionHypothesis =>
      exact contents_raw loaded.extended.added inductionHypothesis held

/-- A cell of the program was made while it was read. -/
theorem used_place
    (loaded : program.Loaded quoting store)
    {cell : CellRef}
    (used : program.Uses store cell) :
    Store.initial.cells.size ≤ cell.place ∧ cell.place < store.cells.size := by
  rcases used with list | tuple
  · exact loaded.mentioned_raw list
  · exact loaded.mentioned_raw tuple

theorem apart
    (loaded : program.Loaded quoting store)
    {cell : CellRef}
    (used : program.Uses store cell) :
    cell ≠ Template.exception.memory := by
  rintro rfl
  exact absurd (loaded.used_place used).1 (by decide)

/-- The elements of a cell of the program stand in the program. -/
theorem element_mentioned
    {cell : CellRef}
    (used : program.Uses store cell)
    {element : Term}
    (held : element ∈ store.elements cell) :
    program.Mentions store element := by
  rcases used with list | tuple
  · exact list.inside (by simpa [Term.contents, Term.parts] using held)
  · exact tuple.inside (by simpa [Term.contents, Term.parts] using held)

theorem element_quoted
    {cell : CellRef}
    (quoted : program.UsesQuoted store cell)
    {element : Term}
    (held : element ∈ store.elements cell) :
    program.Quotes store element := by
  rcases quoted with list | tuple
  · exact list.inside (by simpa [Term.contents, Term.parts] using held)
  · exact tuple.inside (by simpa [Term.contents, Term.parts] using held)

/-- What stands in a quoted term is data, so there is quoting. -/
theorem quoted_isData
    (loaded : program.Loaded quoting store)
    {term : Term}
    (quoted : program.Quotes store term) :
    quoting = true ∧ term.IsData quoting (program.ledger store) := by
  have quotes : quoting = true := by
    obtain ⟨inner, mentioned, _⟩ := quoted
    cases quoting with
    | true => rfl
    | false => exact absurd mentioned (loaded.unquoted rfl inner)
  refine ⟨quotes, ?_⟩
  have raw := loaded.mentioned_raw quoted.mentioned
  induction term with
  | list cell => exact ledger_quoted (loaded.apart (.inl quoted.mentioned)) (.inl quoted)
  | tuple cell => exact ledger_quoted (loaded.apart (.inr quoted.mentioned)) (.inr quoted)
  | closure body captured => trivial
  | struct template => exact raw.elim
  | object template memory => exact raw.elim
  | method mark receiver body => exact raw.elim
  | _ =>
      have inner : ∀ part ∈ _, program.Quotes store part := fun _ held => quoted.inside held
      simp_all [Term.IsData, Term.contents, Term.parts]

/-- What stands in the program is code. -/
theorem mentioned_isCode
    (loaded : program.Loaded quoting store)
    {term : Term}
    (mentioned : program.Mentions store term) :
    term.IsCode quoting (program.ledger store) := by
  have raw := loaded.mentioned_raw mentioned
  induction term with
  | list cell => exact ledger_used (loaded.apart (.inl mentioned)) (.inl mentioned)
  | tuple cell => exact ledger_used (loaded.apart (.inr mentioned)) (.inr mentioned)
  | quote inner => exact loaded.quoted_isData ⟨inner, mentioned, .here⟩
  | struct template => exact raw.elim
  | object template memory => exact raw.elim
  | method mark receiver body => exact raw.elim
  | _ =>
      have inner : ∀ part ∈ _, program.Mentions store part :=
        fun _ held => mentioned.inside held
      simp_all [Term.IsCode, Term.contents, Term.parts]

theorem initial_elements
    (loaded : program.Loaded quoting store) :
    store.elements Template.exception.memory = #[.none, .none] :=
  loaded.extended.kept Template.exception.memory (by decide)

/-- The store of a loaded program agrees with its ledger. -/
theorem store_sound
    (loaded : program.Loaded quoting store) :
    store.Sound quoting (program.ledger store) where
  cells := by
    intro cell holding held
    rcases ledger_cases held with ⟨rfl, rfl⟩ | ⟨quoted, rfl⟩ | ⟨used, rfl⟩
    · refine ⟨Nat.lt_of_lt_of_le (by decide) loaded.extended.size, ?_⟩
      refine ⟨loaded.initial_elements, by decide, rfl, fun element inside => ?_⟩
      obtain rfl : element = .none := by simpa using inside
      trivial
    · refine ⟨(loaded.used_place quoted.uses).2, by simp, fun element inside => ?_⟩
      exact (loaded.quoted_isData (element_quoted quoted inside)).2
    · refine ⟨(loaded.used_place used).2, fun element inside => ?_⟩
      exact loaded.mentioned_isCode (element_mentioned used inside)
  scopes := by
    intro ref entry member
    simp [Store.scope, loaded.extended.scopes, Store.initial] at member

end Loaded

/-- A program that was read is loaded, with quoting unless it has no quotes. -/
theorem loaded_of_read
    {quoting : Bool}
    {name : String}
    {node : Document.Node}
    (loaded : read name node Store.initial = .ok program store)
    (unquoted : quoting = false -> ∀ inner, ¬ program.Mentions store (.quote inner)) :
    program.Loaded quoting store :=
  ⟨(read_raw loaded).1, (read_raw loaded).2, unquoted⟩

end Program

/-! ## Machines over a loaded program -/

namespace Native

open PatternMachine.Action (Careful Foretold)

variable {quoting : Bool} {ledger : Ledger}

theorem formals_careful (operation : Native) :
    Careful quoting ledger operation.formals fun final pattern =>
      pattern.IsCode quoting final := by
  unfold formals
  split
  · exact .pure fun _ _ => trivial
  · refine (Foretold.newCode fun element member => ?_).bind fun _ _ _ held =>
      .pure fun _ grows => .inl (grows _ _ held)
    obtain ⟨name, _, rfl⟩ := List.mem_map.mp member
    trivial

theorem install_careful
    {captured : Closure}
    (operation : Native) :
    Careful quoting ledger (operation.install captured) fun _ _ => True := by
  refine operation.formals_careful.bind fun _ pattern _ code => ?_
  refine Foretold.freshMark.bind fun _ mark markGrows _ => ?_
  have wrapper : ∀ {later : Ledger}, pattern.IsCode quoting later -> Careful quoting later
      (modify fun machine =>
        { machine with
          dispatch := machine.dispatch.insert operation.name
            (.clauses operation.name
              [⟨pattern, [.evaluate (.escape mark operation.escapeName) .absent]⟩]) })
      fun _ _ => True := fun isCode =>
    .register (List.forall_mem_singleton.mpr
      ⟨isCode, List.forall_mem_singleton.mpr ⟨trivial, trivial⟩⟩)
  have native : ∀ {later : Ledger}, Careful quoting later
      (modify fun machine =>
        { machine with
          dispatch := machine.dispatch.insert operation.escapeName (.native operation) })
      fun _ _ => True := .register trivial
  have registered := native.bind fun _ _ grows _ => wrapper ((code.mono markGrows).mono grows)
  refine registered.bind fun _ _ _ _ => ?_
  exact Foretold.newClosure.bind fun _ _ _ data => .bindName data

theorem installEach_careful
    {captured : Closure}
    (operations : List Native) :
    Careful quoting ledger (installEach captured operations) fun _ _ => True := by
  induction operations generalizing ledger with
  | nil => exact .pure fun _ _ => trivial
  | cons operation rest inductionHypothesis =>
      exact operation.install_careful.bind fun _ _ _ _ => inductionHypothesis

theorem installAll_careful : Careful quoting ledger installAll fun _ _ => True := by
  unfold installAll
  generalize all = operations
  exact Foretold.capture.bind fun _ _ _ _ => installEach_careful operations

end Native

namespace Machine

variable {quoting : Bool} {program : Program} {store : Store}

/-- A machine over a store before its first scope is made. -/
def bare (store : Store) : Machine where
  store := store
  scopes := #[]
  globals := #[]

-- Opening the installation of all built-in functions would run it.
attribute [local irreducible] Native.installAll in
/-- A machine that is prepared for a loaded program is sound, and its code is as
it was loaded. -/
theorem prepared_leads
    (loaded : program.Loaded quoting store)
    (settings : Settings)
    (tracer : Tracer)
    (withBuiltins : Bool) :
    ∃ final, (bare store).Leads quoting (program.ledger store) final
      (prepared store settings tracer withBuiltins) := by
  have started : (bare store).Leads quoting (program.ledger store) (program.ledger store)
      { store := store.newScope.2.newGlobals.2
        scopes := #[⟨store.scopes.size⟩]
        globals := #[⟨store.globals.size⟩] } :=
    .of_same ⟨loaded.store_sound, by simp [bare]⟩ rfl (fun ref => store.scope_newScope ref) rfl
  have exceptional : (Term.struct Template.exception).IsData quoting (program.ledger store) :=
    ⟨_, Program.ledger_exception⟩
  have configured : (bare store).Leads quoting (program.ledger store) (program.ledger store)
      { fresh store with settings, tracer } := by
    have opened := started.trans (.bindName started.sound Template.exception.name exceptional)
    exact opened.trans (.of_same opened.sound rfl (fun _ => rfl) rfl)
  cases withBuiltins with
  | false => exact ⟨_, configured⟩
  | true =>
      have installed := Native.installAll_careful (program.ledger store)
        { fresh store with settings, tracer } (.refl (program.ledger store)) configured.sound
      unfold prepared
      dsimp only at installed ⊢
      rw [if_pos rfl]
      generalize Native.installAll _ = run at installed ⊢
      cases run with
      | ok value after =>
          obtain ⟨final, leads, _⟩ := installed
          exact ⟨final, configured.trans leads⟩
      | error stop after =>
          obtain ⟨final, leads, _⟩ := installed
          exact ⟨final, configured.trans leads⟩

end Machine
end PatternMachine
