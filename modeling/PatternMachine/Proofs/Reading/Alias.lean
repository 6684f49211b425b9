import PatternMachine.Proofs.Reading.Expansion

/-!
# Aliases in programs

Statements, clauses and whole programs are read as they are with their aliases written out,
if the aliases play roles that are looked through. In any other role an alias is refused,
whatever node it stands for.
-/

namespace PatternMachine
namespace Program

open Document (Node)

variable {α : Type} {moduleName : String} {node : Node} {field : String -> Role}

namespace Read

/-- A mapping, and what is done with its entries. -/
theorem fields_alike
    {allowed : List String}
    {next otherNext : List (Node × Node) -> Read α}
    (admitted : (Role.record field).admits node)
    (continued : (otherNext (Node.expandedEntries node.entries)).Alike (next node.entries)) :
    (fields node.expanded allowed >>= otherNext).Alike (fields node allowed >>= next) := by
  cases node with
  | reference => cases admitted
  | mapping line tag entries =>
      have plainKeys := Role.plainKeys (Role.admitsEntries_of_record admitted)
      have checked : (Read.checkKeys allowed (Node.expandedEntries entries)).Alike
          (Read.checkKeys allowed entries) := .checkKeys (Operand.expanded_keys plainKeys)
      unfold fields
      simp only [Node.expanded, bind_assoc, pure_bind]
      exact checked.bind fun _ => continued
  | _ => exact .fail_bind

theorem terms_alike (admitted : (Role.each .term).admits node) :
    (terms moduleName node.expanded).Alike (terms moduleName node) := by
  cases node with
  | reference => cases admitted
  | sequence line tag items => exact Program.terms_alike admitted (items_alike moduleName items)
  | _ => exact .fail

theorem names_alike (admitted : (Role.each .text).admits node) :
    (names node.expanded).Alike (names node) := by
  cases node with
  | reference => cases admitted
  | sequence line tag items =>
      exact .allNodes fun item inside =>
        .scalar (Role.plain_of_text (Role.admits_of_mem admitted item inside))
  | _ => exact .fail

theorem struct_alike (admitted : Role.struct.admits node) :
    (struct moduleName node.expanded).Alike (struct moduleName node) := by
  have entries := Role.admitsEntries_of_record admitted
  refine fields_alike admitted ?_
  rw [Operand.valueOf?_expandedEntries entries, Operand.valueOf?_expandedEntries entries]
  cases named : valueOf? "name" node.entries with
  | none => exact .fail
  | some name =>
      have plain := Role.plain_of_text (Role.admits_of_valueOf entries named)
      refine (Alike.scalar plain).bind fun name => ?_
      cases found : valueOf? "members" node.entries with
      | none => exact .refl _
      | some members =>
          have membersAdmitted := Role.admits_of_valueOf entries found
          exact (Alike.within (.inStruct name) rfl (terms_alike membersAdmitted)).bind
            fun _ => .refl _

theorem lineMarker_alike (admitted : (Role.record fun _ => .text).admits node) :
    (lineMarker moduleName node.expanded).Alike (lineMarker moduleName node) :=
  (Operand.position_alike admitted).bind fun _ => .refl _

theorem unmarkedStatement_alike
    {entries : List (Node × Node)}
    (admitted : Role.statement.admits (.mapping 0 "" entries)) :
    (unmarkedStatement moduleName node.expanded (Node.expandedEntries entries)).Alike
      (unmarkedStatement moduleName node entries) := by
  have entriesAdmitted := Role.admitsEntries_of_record admitted
  dsimp only [Node.entries] at entriesAdmitted
  have role := fun {key : String} {value : Node} (found : valueOf? key entries = some value) =>
    Role.admits_of_valueOf entriesAdmitted found
  unfold unmarkedStatement
  simp only [Operand.valueOf?_expandedEntries entriesAdmitted, Option.isSome_map]
  cases defined : valueOf? "struct" entries with
  | some definition => exact (struct_alike (role defined)).bind fun _ => .refl _
  | none =>
      cases declared : valueOf? "global" entries with
      | some names => exact (names_alike (role declared)).bind fun _ => .refl _
      | none =>
          cases expressed : valueOf? "expr" entries with
          | some expression =>
              refine (term_alike moduleName expression (role expressed)).bind fun expression => ?_
              cases matched : valueOf? "let" entries with
              | none => exact .refl _
              | some pattern =>
                  exact (term_alike moduleName pattern (role matched)).bind fun _ => .refl _
          | none =>
              dsimp only [Option.map]
              split
              · exact .refl _
              · exact .fail

theorem statement_alike (admitted : Role.statement.admits node) :
    (statement moduleName node.expanded).Alike (statement moduleName node) := by
  have entries := Role.admitsEntries_of_record admitted
  refine fields_alike admitted ?_
  have unmarked : (unmarkedStatement moduleName node.expanded
        (Node.expandedEntries node.entries)).Alike
      (unmarkedStatement moduleName node node.entries) := unmarkedStatement_alike entries
  rw [Operand.valueOf?_expandedEntries entries]
  cases marked : valueOf? "line" node.entries with
  | none => exact unmarked.bind fun _ => .refl _
  | some line =>
      refine (lineMarker_alike (Role.admits_of_valueOf entries marked)).bind fun marker => ?_
      exact unmarked.bind fun _ => .refl _

theorem statements_alike (admitted : (Role.each .statement).admits node) :
    (statements moduleName node.expanded).Alike (statements moduleName node) := by
  cases node with
  | reference => cases admitted
  | sequence line tag items =>
      have each : (Read.all ((Node.expandedItems items).map (statement moduleName))).Alike
          (Read.all (items.map (statement moduleName))) :=
        .allNodes fun item inside => statement_alike (Role.admits_of_mem admitted item inside)
      exact each.bind fun _ => .refl _
  | missing => exact .refl _
  | _ => exact .fail

theorem clause_alike (admitted : Role.clause.admits node) :
    (clause moduleName node.expanded).Alike (clause moduleName node) := by
  have entries := Role.admitsEntries_of_record admitted
  refine fields_alike admitted ?_
  rw [Operand.valueOf?_expandedEntries entries, Operand.valueOf?_expandedEntries entries]
  cases found : valueOf? "pattern" node.entries with
  | none => exact .fail
  | some pattern =>
      refine (term_alike moduleName pattern (Role.admits_of_valueOf entries found)).bind
        fun pattern => ?_
      cases follows : valueOf? "body" node.entries with
      | none => exact .refl _
      | some body =>
          exact (statements_alike (Role.admits_of_valueOf entries follows)).bind fun _ => .refl _

theorem clauses_alike (admitted : (Role.each .clause).admits node) :
    (clauses moduleName node.expanded).Alike (clauses moduleName node) := by
  cases node with
  | reference => cases admitted
  | sequence line tag items =>
      cases items with
      | nil => exact .fail
      | cons first rest =>
          have each :
              (Read.all ((Node.expandedItems (first :: rest)).map (clause moduleName))).Alike
                (Read.all ((first :: rest).map (clause moduleName))) :=
            .allNodes fun item inside => clause_alike (Role.admits_of_mem admitted item inside)
          exact each
  | _ => exact .fail

theorem functions_alike (admitted : (Role.record fun _ => .each .clause).admits node) :
    (functions moduleName node.expanded).Alike (functions moduleName node) := by
  cases node with
  | reference => cases admitted
  | missing => exact .refl _
  | mapping line tag entries =>
      have entriesAdmitted := Role.admitsEntries_of_record admitted
      unfold functions
      dsimp only [Node.expanded]
      rw [Node.expandedEntries_eq_map, List.map_map]
      refine .allOf fun entry inside => ?_
      obtain ⟨key, node⟩ := entry
      have plain : key.isAlias = false := Role.plainKeys entriesAdmitted _ inside
      have nodeAdmitted := Role.admits_of_entry entriesAdmitted _ inside
      simp only [Function.comp_apply, Prod.map, Node.expanded_value plain]
      exact (Alike.within (.inFunction key.value) rfl (clauses_alike nodeAdmitted)).bind
        fun _ => .refl _
  | _ => exact .fail

theorem structs_alike (admitted : (Role.each .struct).admits node) :
    (structs moduleName node.expanded).Alike (structs moduleName node) := by
  cases node with
  | reference => cases admitted
  | sequence line tag items =>
      exact .allNodes fun item inside => struct_alike (Role.admits_of_mem admitted item inside)
  | _ => exact .fail

end Read

/-! ## Programs -/

/-- The sections of a program behind its name. -/
def sections (entries : List (Node × Node)) (name : String) : Read Program := do
  let functions ← optionalPart entries "functions" (Read.functions name)
  let structs ← optionalPart entries "structs" (Read.structs name)
  let body ← optionalPart entries "program" (Read.statements name)
  assemble name functions (structs ++ body)

/-- A program is a mapping that may name itself, with its sections. -/
theorem read_mapping
    (name tag : String)
    (line : Nat)
    (entries : List (Node × Node)) :
    read name (.mapping line tag entries) = (do
      Read.checkKeys ["name", "functions", "structs", "program"] entries
      match Read.valueOf? "name" entries with
        | some named => Read.scalar named >>= sections entries
        | none => sections entries name) := by
  unfold read Read.fields
  simp only [bind_assoc, pure_bind]
  rfl

/-- A part of a program that may be left out. -/
theorem optionalPart_alike
    (key : String)
    {entries : List (Node × Node)}
    {read : Node -> Read (List α)}
    (admitted : Role.admitsEntries field entries)
    (alike : ∀ {node : Node}, (field key).admits node -> (read node.expanded).Alike (read node)) :
    (optionalPart (Node.expandedEntries entries) key read).Alike
      (optionalPart entries key read) := by
  unfold optionalPart
  rw [Operand.valueOf?_expandedEntries admitted]
  cases found : Read.valueOf? key entries with
  | none => exact .refl _
  | some node => exact alike (Role.admits_of_valueOf admitted found)

theorem sections_alike
    {name tag : String}
    {line : Nat}
    {entries : List (Node × Node)}
    (admitted : Role.program.admits (.mapping line tag entries)) :
    (sections (Node.expandedEntries entries) name).Alike (sections entries name) := by
  have entriesAdmitted := Role.admitsEntries_of_record admitted
  refine (optionalPart_alike "functions" entriesAdmitted Read.functions_alike).bind
    fun functions => ?_
  refine (optionalPart_alike "structs" entriesAdmitted Read.structs_alike).bind fun structs => ?_
  exact (optionalPart_alike "program" entriesAdmitted Read.statements_alike).bind fun _ => .refl _

/-- A program is read as it is with its aliases written out. -/
theorem read_alike
    {name : String}
    (admitted : Role.program.admits node) :
    (read name node.expanded).Alike (read name node) := by
  cases node with
  | reference => cases admitted
  | missing => exact .refl _
  | mapping line tag entries =>
      have entriesAdmitted := Role.admitsEntries_of_record admitted
      have plainKeys := Role.plainKeys entriesAdmitted
      rw [Node.expanded, read_mapping, read_mapping]
      refine (Read.Alike.checkKeys (Operand.expanded_keys plainKeys)).bind fun _ => ?_
      dsimp only [Node.entries] at entriesAdmitted ⊢
      rw [Operand.valueOf?_expandedEntries entriesAdmitted]
      cases found : Read.valueOf? "name" entries with
      | none => exact sections_alike admitted
      | some named =>
          have plain := Role.plain_of_text (Role.admits_of_valueOf entriesAdmitted found)
          exact (Read.Alike.scalar plain).bind fun _ => sections_alike admitted
  | _ => exact .fail_bind

/-! ## Where no alias is looked through -/

/-- An operand that has to be a text, a sequence or a mapping is no alias. -/
theorem construct_refuses
    {moduleName key name : String}
    {line : Nat}
    {target : Node}
    (formal : (Role.ofConstruct key).looksThrough = false) :
    ∃ problem, (operandOf moduleName (.reference line name target)).construct? moduleName key =
      some (Read.fail (.reference line name target) problem) := by
  unfold Role.ofConstruct at formal
  split at formal
  -- What is read as a term or a plain value, or is not read, contradicts `formal`.
  all_goals cases formal
  all_goals exact ⟨_, rfl⟩

/-- A reading that fails on every store. -/
def Read.Fails (reading : Read α) : Prop :=
  ∀ store, ∃ cause after, reading store = .error cause after

namespace Read.Fails

variable {β : Type} {reading : Read α} {next : α -> Read β}

theorem fail {problem : Problem} : (Read.fail node problem : Read α).Fails :=
  fun store => ⟨_, store, rfl⟩

theorem first (fails : reading.Fails) : (reading >>= next).Fails := by
  intro store
  obtain ⟨cause, after, failed⟩ := fails store
  refine ⟨cause, after, ?_⟩
  change EStateM.bind reading next store = _
  rw [EStateM.bind, failed]

theorem second (fails : ∀ value, (next value).Fails) : (reading >>= next).Fails := by
  intro store
  change ∃ cause after, EStateM.bind reading next store = _
  unfold EStateM.bind
  cases reading store with
  | error cause after => exact ⟨cause, after, rfl⟩
  | ok value after => exact fails value after

end Read.Fails

section Refusal

variable {key anchor : String} {line : Nat} {entries : List (Node × Node)} {target : Node}
  (found : Read.valueOf? key entries = some (.reference line anchor target))

include found

theorem optionalPart_refuses
    {read : Node -> Read (List α)}
    {problem : Problem}
    (refused : read (.reference line anchor target) =
      Read.fail (.reference line anchor target) problem) :
    (optionalPart entries key read).Fails := by
  unfold optionalPart
  rw [found]
  dsimp only
  rw [refused]
  exact .fail

theorem sections_refuses
    {name : String}
    (isSection : key ∈ ["functions", "structs", "program"]) :
    (sections entries name).Fails := by
  simp only [List.mem_cons, List.not_mem_nil, or_false] at isSection
  obtain rfl | rfl | rfl := isSection
  · exact .first (optionalPart_refuses found rfl)
  · exact .second fun _ => .first (optionalPart_refuses found rfl)
  · exact .second fun _ => .second fun _ => .first (optionalPart_refuses found rfl)

/-- Neither the name of a program nor one of its sections is an alias. -/
theorem read_refuses
    {name tag : String}
    {programLine : Nat}
    (isSection : key ∈ ["name", "functions", "structs", "program"]) :
    (read name (.mapping programLine tag entries)).Fails := by
  rw [read_mapping]
  refine .second fun _ => ?_
  rcases List.mem_cons.mp isSection with rfl | behindName
  · rw [found]
    exact .first .fail
  · split
    · exact .second fun name => sections_refuses found behindName
    · exact sections_refuses found behindName

end Refusal

/-- Aliases are transparent where terms and plain values stand: a node that is a term or a
program and all of whose aliases stand there is read as it is with every alias replaced by
the node it stands for. It yields the same, or both fail with the same problem. But an alias
is no text, no sequence and no mapping, whatever node it stands for: as an operand of a
construct that needs one it is a problem of its own, and as a section of a program it makes
the program fail. -/
theorem reading_through_aliases
    (name : String)
    (node : Node) :
    (Role.term.admits node -> (term name node.expanded).Alike (term name node)) ∧
      (Role.program.admits node -> (read name node.expanded).Alike (read name node)) ∧
      (∀ (line aliasLine : Nat) (tag anchor : String) (key : Node),
        (Role.ofConstruct key.value).looksThrough = false ->
        ∃ problem, term name (.mapping line tag [(key, .reference aliasLine anchor node)]) =
          Read.fail (.reference aliasLine anchor node) problem) ∧
      (∀ (line aliasLine : Nat) (tag anchor key : String) (entries : List (Node × Node)),
        key ∈ ["name", "functions", "structs", "program"] ->
        Read.valueOf? key entries = some (.reference aliasLine anchor node) ->
        (read name (.mapping line tag entries)).Fails) := by
  refine ⟨term_alike name node, read_alike, ?operand, ?sections⟩
  case operand =>
    intro line aliasLine tag anchor key formal
    obtain ⟨problem, refused⟩ := construct_refuses formal
    refine ⟨problem, ?_⟩
    rw [term_construct, refused]
  case sections =>
    intro line aliasLine tag anchor key entries isSection found
    exact read_refuses found isSection

/-- A pair that is used again under a quote, in a tuple and inside a plain value, then as a
pattern, in a body, as a member and as an expression of a program. As the operand of a list
and as the statements of a program it is refused. -/
theorem reading_through_aliases_of_pair :
    let text := fun value => Node.scalar 1 Document.textTag value
    let sequence := Node.sequence 1 Document.sequenceTag
    let mapping := Node.mapping 1 Document.mappingTag
    let pair := sequence [text "x", text "y"]
    let shared := Node.reference 2 "pair" pair
    let nested := mapping [(text "foreign", mapping [(text "z", shared)])]
    let node := sequence
      [pair, mapping [(text "quote", shared)], mapping [(text "tuple", sequence [shared, nested])]]
    let statement := mapping [(text "expr", shared), (text "let", mapping [(text "quote", shared)])]
    let program := mapping
      [(text "functions", mapping
          [(text "f", sequence
            [mapping [(text "pattern", shared), (text "body", sequence [statement])]])]),
        (text "structs", sequence
          [mapping [(text "name", text "S"), (text "members", sequence [shared])]]),
        (text "program", sequence [statement])]
    (Role.term.admits node ∧ (term "" node.expanded).Alike (term "" node)) ∧
      (Role.program.admits program ∧ (read "" program.expanded).Alike (read "" program)) ∧
      (∃ problem, term "" (mapping [(text "list", shared)]) = Read.fail shared problem) ∧
      (read "" (mapping [(text "program", shared)])).Fails := by
  intro text sequence mapping pair shared nested node statement program
  have admitted : Role.term.admits node := by decide
  have programAdmitted : Role.program.admits program := by decide
  obtain ⟨_, _, operand, sections⟩ := reading_through_aliases "" pair
  exact ⟨⟨admitted, (reading_through_aliases "" node).1 admitted⟩,
    ⟨programAdmitted, (reading_through_aliases "" program).2.1 programAdmitted⟩,
    operand 1 2 Document.mappingTag "pair" (text "list") rfl,
    sections 1 2 Document.mappingTag "pair" "program" [(text "program", shared)] (by decide) rfl⟩

end Program
end PatternMachine
