import PatternMachine.Proofs.Reading

/-!
# Programs that are read are raw

Statements, clauses and whole programs hold raw terms only.
-/

namespace PatternMachine

/-- Every term of a statement is raw. -/
def Statement.IsRaw (low high : Nat) : Statement -> Prop
  | .define _ members => ∀ member ∈ members, member.IsRaw low high
  | .declareGlobals _ => True
  | .evaluate expression pattern => expression.IsRaw low high ∧ pattern.IsRaw low high

/-- Every term of a clause is raw. -/
def Clause.IsRaw (low high : Nat) (clause : Clause) : Prop :=
  clause.pattern.IsRaw low high ∧ ∀ statement ∈ clause.body, statement.IsRaw low high

/-- Every term of a program is raw. -/
structure Program.IsRaw (low high : Nat) (program : Program) : Prop where
  functions : ∀ definition ∈ program.functions, ∀ clause ∈ definition.clauses,
    clause.IsRaw low high
  statements : ∀ statement ∈ program.statements, statement.IsRaw low high

/-- Every term of a statement is plain. -/
def Statement.Plain (statement : Statement) : Prop :=
  ∀ property, statement.Respects property

/-- Every term of a clause is plain. -/
def Clause.Plain (clause : Clause) : Prop :=
  ∀ property, clause.Respects property

/-- Every term of a program is plain. -/
structure Program.Plain (program : Program) : Prop where
  functions : ∀ definition ∈ program.functions, ∀ clause ∈ definition.clauses, clause.Plain
  statements : ∀ statement ∈ program.statements, statement.Plain

section Raw

variable {low high later : Nat}

theorem Statement.IsRaw.mono
    {statement : Statement}
    (grows : high ≤ later)
    (raw : statement.IsRaw low high) :
    statement.IsRaw low later := by
  cases statement with
  | define name members => exact fun member inside => (raw member inside).mono grows
  | declareGlobals names => trivial
  | evaluate expression pattern => exact ⟨raw.1.mono grows, raw.2.mono grows⟩

theorem Clause.IsRaw.mono
    {clause : Clause}
    (grows : high ≤ later)
    (raw : clause.IsRaw low high) :
    clause.IsRaw low later :=
  ⟨raw.1.mono grows, fun statement inside => (raw.2 statement inside).mono grows⟩

theorem Statement.IsRaw.plain
    {statement : Statement}
    (raw : statement.IsRaw low high) :
    statement.Plain := by
  intro property
  cases statement with
  | define name members => exact fun member inside => (raw member inside).plain property
  | declareGlobals names => trivial
  | evaluate expression pattern => exact ⟨raw.1.plain property, raw.2.plain property⟩

theorem Program.IsRaw.plain
    {program : Program}
    (raw : program.IsRaw low high) :
    program.Plain where
  functions := by
    intro definition defined clause inside property
    have clauseRaw := raw.functions definition defined clause inside
    exact ⟨clauseRaw.1.plain property,
      fun statement member => (clauseRaw.2 statement member).plain property⟩
  statements := fun statement inside => (raw.statements statement inside).plain

end Raw

namespace Program
namespace Read
namespace Inert

open Document (Node)

variable {base size : Nat} {moduleName : String} {node : Node}

theorem fields {allowed : List String} :
    (Read.fields node allowed).Inert base size fun _ _ => True := by
  unfold Read.fields
  split
  · exact checkKeys.bind fun _ _ _ _ => pure fun _ _ => trivial
  · exact fail

theorem terms :
    (Read.terms moduleName node).Inert base size fun size terms =>
      ∀ term ∈ terms, term.IsRaw base size := by
  unfold Read.terms
  split
  · exact allOf (fun grows raw => Term.IsRaw.mono raw grows) fun item => term_inert moduleName item
  · exact fail

theorem names : (Read.names node).Inert base size fun _ _ => True := by
  unfold Read.names
  split
  · exact (allOf (fun _ holds => holds) fun _ _ => scalar).mono fun _ _ _ => trivial
  · exact fail

/-- A reading that yields a raw statement. -/
abbrev YieldsStatement (base size : Nat) (reading : Read Statement) : Prop :=
  reading.Inert base size fun size statement => statement.IsRaw base size

/-- A reading that yields raw statements. -/
abbrev YieldsStatements (base size : Nat) (reading : Read (List Statement)) : Prop :=
  reading.Inert base size fun size statements =>
    ∀ statement ∈ statements, statement.IsRaw base size

theorem struct : YieldsStatement base size (Read.struct moduleName node) := by
  have defined : ∀ {size} (name : String) {members : List Term},
      (∀ member ∈ members, member.IsRaw base size) ->
      YieldsStatement base size (Pure.pure (.define name members)) :=
    fun name _ raw => pure fun _ grows member inside => (raw member inside).mono grows
  refine fields.bind fun _ entries _ _ => ?_
  split
  · exact fail
  · refine scalar.bind fun later name _ _ => ?_
    split
    · exact terms.within.bind fun _ members _ raw => defined name raw
    · have empty : (Pure.pure [] : Read (List Term)).Inert base later fun size members =>
          ∀ member ∈ members, member.IsRaw base size := pure fun _ _ => by simp
      exact empty.bind fun _ members _ raw => defined name raw

theorem lineMarker : YieldsStatement base size (Read.lineMarker moduleName node) :=
  Operand.Inert.position.bind fun _ _ _ _ => mark.bind fun _ _ _ _ =>
    pure fun _ _ => ⟨trivial, trivial⟩

theorem unmarkedStatement
    {entries : List (Node × Node)} :
    YieldsStatements base size (Read.unmarkedStatement moduleName node entries) := by
  have evaluated : ∀ {size} {expression pattern : Term}, expression.IsRaw base size ->
      pattern.IsRaw base size ->
      YieldsStatements base size (Pure.pure [Statement.evaluate expression pattern]) := by
    intro size expression pattern expressionRaw patternRaw
    refine pure fun _ grows => List.forall_mem_singleton.mpr ?_
    exact ⟨expressionRaw.mono grows, patternRaw.mono grows⟩
  unfold Read.unmarkedStatement
  split
  · exact struct.bind fun _ _ _ raw => pure fun _ grows =>
      List.forall_mem_singleton.mpr (raw.mono grows)
  · exact names.bind fun _ _ _ _ => pure fun _ _ => List.forall_mem_singleton.mpr trivial
  · refine (term_inert moduleName _ _).bind fun later expression _ expressionRaw => ?_
    split
    · refine (term_inert moduleName _ _).bind fun _ pattern grows patternRaw => ?_
      exact evaluated (expressionRaw.mono grows) patternRaw
    · have unmatched : YieldsRaw base later (Pure.pure .absent) := pureRaw trivial
      refine unmatched.bind fun _ pattern grows patternRaw => ?_
      exact evaluated (expressionRaw.mono grows) patternRaw
  · split
    · exact pure fun _ _ => by simp
    · exact fail

theorem statement : YieldsStatements base size (Read.statement moduleName node) := by
  have marked : ∀ {size} (marker : List Statement) (entries : List (Node × Node)),
      (∀ statement ∈ marker, statement.IsRaw base size) ->
      YieldsStatements base size
        (do return marker ++ (← Read.unmarkedStatement moduleName node entries)) := by
    intro size marker entries markerRaw
    refine unmarkedStatement.bind fun _ statements grows raw => pure fun _ last => ?_
    exact List.forall_mem_append.mpr
      ⟨fun statement inside => (markerRaw statement inside).mono (Nat.le_trans grows last),
        fun statement inside => (raw statement inside).mono last⟩
  refine fields.bind fun _ entries _ _ => ?_
  dsimp only
  split
  · refine lineMarker.bind fun _ marker _ raw => ?_
    exact marked [marker] entries (List.forall_mem_singleton.mpr raw)
  · exact marked [] entries (by simp)

theorem statements : YieldsStatements base size (Read.statements moduleName node) := by
  unfold Read.statements
  split
  · exact pure fun _ _ => by simp
  · rename_i items
    have read : (Read.all (items.map (Read.statement moduleName))).Inert base size
        fun size groups => ∀ group ∈ groups, ∀ statement ∈ group, statement.IsRaw base size :=
      allOf (fun grows raw statement inside => (raw statement inside).mono grows)
        fun _ _ => statement
    refine read.bind fun _ groups _ raw => pure fun _ grows => ?_
    intro statement member
    obtain ⟨group, inGroups, inGroup⟩ := List.mem_flatten.mp member
    exact (raw group inGroups statement inGroup).mono grows
  · exact fail

theorem clause :
    (Read.clause moduleName node).Inert base size fun size clause => clause.IsRaw base size := by
  have built : ∀ {size} {pattern : Term} {body : List Statement}, pattern.IsRaw base size ->
      (∀ statement ∈ body, statement.IsRaw base size) ->
      (Pure.pure { pattern, body } : Read Clause).Inert base size
        fun size clause => clause.IsRaw base size := by
    intro size pattern body patternRaw bodyRaw
    exact pure fun _ grows => Clause.IsRaw.mono grows ⟨patternRaw, bodyRaw⟩
  refine fields.bind fun _ entries _ _ => ?_
  split
  · exact fail
  · refine (term_inert moduleName _ _).bind fun later pattern _ patternRaw => ?_
    split
    · exact statements.bind fun _ body grows bodyRaw => built (patternRaw.mono grows) bodyRaw
    · have empty : YieldsStatements base later (Pure.pure []) := pure fun _ _ => by simp
      exact empty.bind fun _ body grows bodyRaw => built (patternRaw.mono grows) bodyRaw

theorem clauses :
    (Read.clauses moduleName node).Inert base size fun size clauses =>
      ∀ clause ∈ clauses, clause.IsRaw base size := by
  unfold Read.clauses
  split
  · exact allOf (fun grows raw => Clause.IsRaw.mono grows raw) fun _ _ => clause
  · exact fail

theorem functions :
    (Read.functions moduleName node).Inert base size fun size definitions =>
      ∀ definition ∈ definitions, ∀ clause ∈ definition.clauses, clause.IsRaw base size := by
  unfold Read.functions
  split
  · exact pure fun _ _ => by simp
  · refine allOf (fun grows raw clause inside => (raw clause inside).mono grows) fun _ _ => ?_
    exact clauses.within.bind fun _ _ _ raw => pure fun _ grows clause inside =>
      (raw clause inside).mono grows
  · exact fail

theorem structs : YieldsStatements base size (Read.structs moduleName node) := by
  unfold Read.structs
  split
  · exact allOf (fun grows raw => Statement.IsRaw.mono grows raw) fun _ _ => struct
  · exact fail

end Inert
end Read

open Document (Node)

variable {base size : Nat}

theorem assemble_inert
    {name : String}
    {functions : List FunctionDefinition}
    {statements : List Statement}
    (functionsRaw : ∀ definition ∈ functions, ∀ clause ∈ definition.clauses,
      clause.IsRaw base size)
    (statementsRaw : ∀ statement ∈ statements, statement.IsRaw base size) :
    (assemble name functions statements).Inert base size fun size program =>
      program.IsRaw base size := by
  have bound : Read.Inert.YieldsStatements base size
      (Read.all (functions.map bindFunction)) :=
    .allOf (fun grows raw => Statement.IsRaw.mono grows raw) fun _ _ =>
      Read.Inert.mark.bind fun _ _ _ _ => .pure fun _ _ => ⟨trivial, trivial⟩
  refine bound.bind fun _ bindings grows raw => .pure fun _ last => ⟨?_, ?_⟩
  · exact fun definition defined clause inside =>
      (functionsRaw definition defined clause inside).mono (Nat.le_trans grows last)
  · exact List.forall_mem_append.mpr
      ⟨fun statement inside => (raw statement inside).mono last,
        fun statement inside => (statementsRaw statement inside).mono (Nat.le_trans grows last)⟩

theorem optionalPart_inert
    {α : Type}
    {entries : List (Node × Node)}
    {key : String}
    {read : Node -> Read (List α)}
    {answer : Nat -> α -> Prop}
    (inert : ∀ node, (read node).Inert base size fun size values =>
      ∀ value ∈ values, answer size value) :
    (optionalPart entries key read).Inert base size fun size values =>
      ∀ value ∈ values, answer size value := by
  unfold optionalPart
  split
  · exact inert _
  · exact .pure fun _ _ => by simp

/-- A program that is read is raw. -/
theorem read_inert (name : String) (node : Node) :
    (read name node).Inert base size fun size program => program.IsRaw base size := by
  unfold read
  split
  · exact .pure fun _ _ => ⟨by simp, by simp⟩
  · refine Read.Inert.fields.bind fun _ entries _ _ => ?_
    have parts : ∀ {size} (name : String),
        (do
          let functions ← optionalPart entries "functions" (Read.functions name)
          let structs ← optionalPart entries "structs" (Read.structs name)
          let body ← optionalPart entries "program" (Read.statements name)
          assemble name functions (structs ++ body) : Read Program).Inert base size
            fun size program => program.IsRaw base size := by
      intro size name
      refine (optionalPart_inert fun _ => .functions).bind fun _ functions _ functionsRaw => ?_
      refine (optionalPart_inert fun _ => .structs).bind
        fun _ structs structsGrow structsRaw => ?_
      refine (optionalPart_inert fun _ => .statements).bind fun _ body grows bodyRaw => ?_
      refine assemble_inert ?_ (List.forall_mem_append.mpr ⟨?_, bodyRaw⟩)
      · exact fun definition defined clause inside =>
          (functionsRaw definition defined clause inside).mono (Nat.le_trans structsGrow grows)
      · exact fun statement inside => (structsRaw statement inside).mono grows
    dsimp only
    split
    · exact Read.Inert.scalar.bind fun _ name _ _ => parts name
    · exact parts name

/-- What is read as a program is raw, with all its cells new. -/
theorem read_raw
    {name : String}
    {node : Node}
    {store after : Store}
    {program : Program}
    (loaded : read name node store = .ok program after) :
    store.Extends store.cells.size after ∧
      program.IsRaw store.cells.size after.cells.size :=
  read_inert name node store program after (Nat.le_refl _) (Nat.le_refl _) loaded

/-- A program that was read from a text is plain, and its store extends the one
before. -/
theorem ofText_plain
    {name text : String}
    {store after : Store}
    {program : Program}
    (loaded : ofText name text store = .ok (program, after)) :
    store.Extends store.cells.size after ∧ program.Plain := by
  unfold ofText runReading at loaded
  split at loaded
  · rename_i node _
    cases outcome : read name node store with
    | ok value final =>
        obtain ⟨rfl, rfl⟩ : value = program ∧ final = after := by
          simpa [outcome] using loaded
        obtain ⟨extended, raw⟩ := read_raw outcome
        exact ⟨extended, raw.plain⟩
    | error error final => simp [outcome] at loaded
  · simp at loaded

end Program
end PatternMachine
