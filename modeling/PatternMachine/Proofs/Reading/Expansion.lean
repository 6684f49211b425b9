import PatternMachine.Program
import PatternMachine.Proofs.Reading.Role

/-!
# Terms with their aliases written out

Where a node is read as a term, an alias is read as the node it stands for. So a term that
has its aliases only there and inside plain values is read as it is with every alias written
out; a problem with a plain value may be reported on the line of the alias instead of the
line of that node.
-/

namespace PatternMachine
namespace Program

open Document (Node)

/-- An error without the line it was found on. -/
def LoadError.unplaced : LoadError -> LoadError
  | absent => absent
  | onLine _ problem => onLine 0 problem
  | inFunction name cause => inFunction name cause.unplaced
  | inStruct name cause => inStruct name cause.unplaced

/-- Two readings yield the same, or fail with the same problem, which may be reported on
different lines. -/
def Read.Alike {α : Type} (first second : Read α) : Prop :=
  within LoadError.unplaced first = within LoadError.unplaced second

variable {α β γ : Type}

namespace Read

theorem within_apply
    (context : LoadError -> LoadError)
    (reading : Read α)
    (store : Store) :
    within context reading store =
      match reading store with
      | .ok value after => .ok value after
      | .error cause after => .error (context cause) after := by
  change EStateM.tryCatch reading _ store = _
  unfold EStateM.tryCatch
  cases reading store <;> rfl

theorem within_bind
    (context : LoadError -> LoadError)
    (reading : Read α)
    (next : α -> Read β) :
    within context (reading >>= next) =
      within context reading >>= fun value => within context (next value) := by
  funext store
  have run : (reading >>= next) store = EStateM.bind reading next store := rfl
  change _ = EStateM.bind (within context reading) (fun value => within context (next value)) store
  rw [within_apply, run]
  unfold EStateM.bind
  rw [within_apply]
  cases reading store with
  | error => rfl
  | ok value after => exact (within_apply context (next value) after).symm

theorem within_within
    (outer inner : LoadError -> LoadError)
    (reading : Read α) :
    within outer (within inner reading) = within (outer ∘ inner) reading := by
  funext store
  rw [within_apply, within_apply, within_apply]
  cases reading store <;> rfl

namespace Alike

variable {first second : Read α}

theorem refl (reading : Read α) : reading.Alike reading := rfl

/-- The line of a problem does not count. -/
theorem fail {node other : Node} {problem : Problem} :
    (Read.fail node problem : Read α).Alike (Read.fail other problem) := rfl

/-- What would follow a failure does not count either. -/
theorem fail_bind
    {node other : Node}
    {problem : Problem}
    {next otherNext : α -> Read β} :
    (Read.fail node problem >>= next).Alike (Read.fail other problem >>= otherNext) := rfl

theorem bind
    {next otherNext : α -> Read β}
    (begun : first.Alike second)
    (continued : ∀ value, (next value).Alike (otherNext value)) :
    (first >>= next).Alike (second >>= otherNext) := by
  unfold Alike at begun ⊢
  rw [within_bind, within_bind, begun]
  exact congrArg _ (funext continued)

/-- Adding to an error where it happened keeps its line apart from its problem. -/
theorem within
    (context : LoadError -> LoadError)
    (commutes : LoadError.unplaced ∘ context = context ∘ LoadError.unplaced)
    (alike : first.Alike second) :
    (Read.within context first).Alike (Read.within context second) := by
  unfold Alike at alike ⊢
  rw [within_within, within_within, commutes, ← within_within, ← within_within, alike]

/-- Reading each of several things. -/
theorem allOf
    {items : List β}
    {read otherRead : β -> Read α}
    (alike : ∀ item ∈ items, (read item).Alike (otherRead item)) :
    (Read.all (items.map read)).Alike (Read.all (items.map otherRead)) := by
  induction items with
  | nil => exact refl _
  | cons item rest inductionHypothesis =>
      obtain ⟨itemAlike, restAlike⟩ := List.forall_mem_cons.mp alike
      exact itemAlike.bind fun _ => (inductionHypothesis restAlike).bind fun _ => refl _

/-- Reading each of several nodes. -/
theorem allNodes
    {items : List Node}
    {read : Node -> Read α}
    (alike : ∀ item ∈ items, (read item.expanded).Alike (read item)) :
    (Read.all ((Node.expandedItems items).map read)).Alike (Read.all (items.map read)) := by
  rw [Node.expandedItems_eq_map, List.map_map]
  exact allOf alike

/-- Checking keys looks at their texts only. -/
theorem checkKeys
    {allowed : List String}
    {entries : List (Node × α)}
    {others : List (Node × β)}
    (same : others.map (fun entry => entry.1.value) = entries.map (fun entry => entry.1.value)) :
    (Read.checkKeys allowed others).Alike (Read.checkKeys allowed entries) := by
  induction entries generalizing others with
  | nil =>
      obtain rfl := List.map_eq_nil_iff.mp same
      exact refl _
  | cons entry rest inductionHypothesis =>
      obtain ⟨other, otherRest, rfl, sameKey, sameRest⟩ := List.map_eq_cons_iff.mp same
      unfold Read.checkKeys
      dsimp only at sameKey
      rw [sameKey]
      split
      · exact inductionHypothesis sameRest
      · exact fail

theorem scalar {node : Node} (plain : node.isAlias = false) :
    (Read.scalar node.expanded).Alike (Read.scalar node) := by
  cases node with
  | reference => cases plain
  | scalar => exact refl _
  | _ => exact fail

theorem lineNumber {node : Node} (plain : node.isAlias = false) :
    (Operand.lineNumber node.expanded).Alike (Operand.lineNumber node) := by
  unfold Operand.lineNumber
  rw [Node.expanded_value plain]
  split
  · exact refl _
  · exact fail

end Alike

/-- Of a key given twice the last value counts. -/
theorem valueOf?_cons
    (key : String)
    (entry : Node × α)
    (rest : List (Node × α)) :
    valueOf? key (entry :: rest) =
      (valueOf? key rest).or (if entry.1.value == key then some entry.2 else none) := by
  unfold valueOf?
  rw [List.reverse_cons, List.find?_append, Option.map_or, List.find?_singleton]
  dsimp only
  split <;> rfl

/-- Looking a key up among entries that are mapped. -/
theorem valueOf?_map
    {entries : List (Node × α)}
    {key : String}
    {rename : Node -> Node}
    {change : α -> β}
    (same : ∀ entry ∈ entries, (rename entry.1).value = entry.1.value) :
    valueOf? key (entries.map (Prod.map rename change)) = (valueOf? key entries).map change := by
  induction entries with
  | nil => rfl
  | cons entry rest inductionHypothesis =>
      obtain ⟨sameKey, sameKeys⟩ := List.forall_mem_cons.mp same
      rw [List.map_cons, valueOf?_cons, valueOf?_cons, inductionHypothesis sameKeys, Option.map_or,
        Prod.map_fst, sameKey]
      split <;> rfl

theorem mem_of_valueOf?
    {entries : List (Node × α)}
    {key : String}
    {value : α}
    (found : valueOf? key entries = some value) :
    ∃ entry ∈ entries, entry.2 = value := by
  obtain ⟨entry, located, rfl⟩ := Option.map_eq_some_iff.mp found
  exact ⟨entry, List.mem_reverse.mp (List.mem_of_find?_eq_some located), rfl⟩

end Read

/-! ## Operands -/

/-- A node with the step that reads it. -/
def partOf (moduleName : String) (node : Node) : Part := ⟨node, term moduleName node⟩

theorem parts_eq_map (moduleName : String) (items : List Node) :
    parts moduleName items = items.map (partOf moduleName) := by
  induction items with
  | nil => rfl
  | cons node rest inductionHypothesis => simp [parts, partOf, inductionHypothesis]

theorem valueParts_eq_map (moduleName : String) (entries : List (Node × Node)) :
    valueParts moduleName entries = entries.map (Prod.map id (partOf moduleName)) := by
  induction entries with
  | nil => rfl
  | cons entry rest inductionHypothesis =>
      simp [valueParts, partOf, Prod.map, inductionHypothesis]

/-- The operand that a node makes. -/
def operandOf (moduleName : String) (node : Node) : Operand where
  node
  whole := term moduleName node
  items := itemParts moduleName node
  entries := entryParts moduleName node

/-- A node that can be read as a term is read as it is with its aliases written out. -/
abbrev ReadsAlike (moduleName : String) (node : Node) : Prop :=
  Role.term.admits node -> (term moduleName node.expanded).Alike (term moduleName node)

/-- Several nodes that can be read as terms. -/
theorem terms_alike
    {moduleName : String}
    {items : List Node}
    (admitted : Role.admitsItems .term .term items)
    (alike : ∀ item ∈ items, ReadsAlike moduleName item) :
    (Read.all ((Node.expandedItems items).map (term moduleName))).Alike
      (Read.all (items.map (term moduleName))) :=
  Read.Alike.allNodes fun item inside => alike item inside (Role.admits_of_mem admitted item inside)

theorem map_term_parts (moduleName : String) (items : List Node) :
    (parts moduleName items).map Part.term = items.map (term moduleName) := by
  rw [parts_eq_map, List.map_map]
  rfl

namespace Operand

variable {moduleName : String} {node : Node} {field : String -> Role}

/-- A sequence, and what is done with its items. -/
theorem sequence_alike
    {first others : Role}
    {otherwise : Problem}
    {next otherNext : List Part -> Read α}
    (admitted : (Role.sequence first others).admits node)
    (continued : (otherNext (parts moduleName (Node.expandedItems node.items))).Alike
      (next (parts moduleName node.items))) :
    ((operandOf moduleName node.expanded).sequence otherwise >>= otherNext).Alike
      ((operandOf moduleName node).sequence otherwise >>= next) := by
  cases node with
  | reference => cases admitted
  | sequence => exact continued
  | _ => exact .fail_bind

theorem elements_alike
    (admitted : (Role.each .term).admits node)
    (alike : ∀ item ∈ node.items, ReadsAlike moduleName item) :
    (operandOf moduleName node.expanded).elements.Alike (operandOf moduleName node).elements := by
  unfold elements
  refine sequence_alike admitted ?_
  rw [map_term_parts, map_term_parts]
  exact terms_alike (Role.admitsItems_of_sequence admitted) alike

theorem two_alike
    {construct : Term -> Term -> Read Term}
    (admitted : (Role.each .term).admits node)
    (alike : ∀ item ∈ node.items, ReadsAlike moduleName item) :
    ((operandOf moduleName node.expanded).two construct).Alike
      ((operandOf moduleName node).two construct) := by
  refine (elements_alike admitted alike).bind fun terms => ?_
  split
  · exact .refl _
  · exact .fail

theorem call_alike
    (admitted : (Role.sequence .text .term).admits node)
    (alike : ∀ item ∈ node.items, ReadsAlike moduleName item) :
    (operandOf moduleName node.expanded).call.Alike (operandOf moduleName node).call := by
  unfold call
  refine sequence_alike admitted ?_
  have itemsAdmitted := Role.admitsItems_of_sequence admitted
  generalize node.items = items at alike itemsAdmitted
  cases items with
  | nil => exact .fail
  | cons name arguments =>
      obtain ⟨nameAdmitted, argumentsAdmitted⟩ := Bool.and_eq_true_iff.mp itemsAdmitted
      obtain ⟨_, argumentsAlike⟩ := List.forall_mem_cons.mp alike
      refine (Read.Alike.scalar (Role.plain_of_text nameAdmitted)).bind fun name => ?_
      dsimp only
      rw [map_term_parts, map_term_parts]
      exact (terms_alike argumentsAdmitted argumentsAlike).bind fun _ => .refl _

theorem operatorOf_alike (plain : node.isAlias = false) :
    (operatorOf node.expanded).Alike (operatorOf node) := by
  refine (Read.Alike.scalar plain).bind fun sign => ?_
  split
  · exact .refl _
  · exact .fail

theorem operation_alike
    (admitted : (Role.sequence .text .term).admits node)
    (alike : ∀ item ∈ node.items, ReadsAlike moduleName item) :
    (operandOf moduleName node.expanded).operation.Alike
      (operandOf moduleName node).operation := by
  unfold operation
  refine sequence_alike admitted ?_
  have itemsAdmitted := Role.admitsItems_of_sequence admitted
  generalize node.items = items at alike itemsAdmitted
  match items, alike, itemsAdmitted with
  | [], _, _ => exact .fail
  | [_], _, _ => exact .fail
  | [sign, only], alike, itemsAdmitted =>
      simp only [Role.admitsItems, Bool.and_eq_true] at itemsAdmitted
      refine (operatorOf_alike (Role.plain_of_text itemsAdmitted.1)).bind fun operator => ?_
      exact (alike only (by simp) itemsAdmitted.2.1).bind fun _ => .refl _
  | [sign, left, right], alike, itemsAdmitted =>
      simp only [Role.admitsItems, Bool.and_eq_true] at itemsAdmitted
      obtain ⟨signAdmitted, leftAdmitted, rightAdmitted, _⟩ := itemsAdmitted
      refine (operatorOf_alike (Role.plain_of_text signAdmitted)).bind fun operator => ?_
      have operands :
          (Read.all [term moduleName left.expanded, term moduleName right.expanded]).Alike
            (Read.all [term moduleName left, term moduleName right]) :=
        (alike left (by simp) leftAdmitted).bind fun _ =>
          ((alike right (by simp) rightAdmitted).bind fun _ => .refl _).bind fun _ => .refl _
      exact operands.bind fun _ => .refl _
  | _ :: _ :: _ :: _ :: _, _, _ => exact .fail

/-- The keys of the parts of a mapping are those of the mapping. -/
theorem valueParts_keys (entries : List (Node × Node)) :
    (valueParts moduleName entries).map (fun entry => entry.1.value) =
      entries.map fun entry => entry.1.value := by
  rw [valueParts_eq_map, List.map_map]
  rfl

theorem expanded_keys
    {entries : List (Node × Node)}
    (plainKeys : ∀ entry ∈ entries, entry.1.isAlias = false) :
    (Node.expandedEntries entries).map (fun entry => entry.1.value) =
      entries.map fun entry => entry.1.value := by
  rw [Node.expandedEntries_eq_map, List.map_map]
  exact List.map_congr_left fun entry inside => Node.expanded_value (plainKeys entry inside)

/-- A mapping, and what is done with its entries. -/
theorem fields_alike
    {allowed : List String}
    {next otherNext : List (Node × Part) -> Read α}
    (admitted : (Role.record field).admits node)
    (continued : (otherNext (valueParts moduleName (Node.expandedEntries node.entries))).Alike
      (next (valueParts moduleName node.entries))) :
    ((operandOf moduleName node.expanded).fields allowed >>= otherNext).Alike
      ((operandOf moduleName node).fields allowed >>= next) := by
  cases node with
  | reference => cases admitted
  | mapping line tag entries =>
      have plainKeys := Role.plainKeys (Role.admitsEntries_of_record admitted)
      have checked : (Read.checkKeys allowed
            (valueParts moduleName (Node.expandedEntries entries))).Alike
          (Read.checkKeys allowed (valueParts moduleName entries)) := by
        refine .checkKeys ?_
        rw [valueParts_keys, valueParts_keys]
        exact expanded_keys plainKeys
      unfold fields
      simp only [operandOf, entryParts, Node.expanded, bind_assoc, pure_bind]
      exact checked.bind fun _ => continued
  | _ => exact .fail_bind

section Entries

variable {entries : List (Node × Node)} {key : String} (admitted : Role.admitsEntries field entries)
  (alike : ∀ entry ∈ entries, ReadsAlike moduleName entry.2)

include admitted

theorem valueOf?_expandedEntries :
    Read.valueOf? key (Node.expandedEntries entries) =
      (Read.valueOf? key entries).map Node.expanded := by
  rw [Node.expandedEntries_eq_map]
  exact Read.valueOf?_map fun entry inside =>
    Node.expanded_value (Role.plainKeys admitted entry inside)

omit admitted in
theorem valueOf?_valueParts :
    Read.valueOf? key (valueParts moduleName entries) =
      (Read.valueOf? key entries).map (partOf moduleName) := by
  rw [valueParts_eq_map]
  exact Read.valueOf?_map fun _ _ => rfl

include alike

theorem value_alike
    (isTerm : field key = .term)
    {value : Node}
    (found : Read.valueOf? key entries = some value) :
    (term moduleName value.expanded).Alike (term moduleName value) := by
  obtain ⟨entry, inside, rfl⟩ := Read.mem_of_valueOf? found
  have valueAdmitted := Role.admits_of_valueOf admitted found
  rw [isTerm] at valueAdmitted
  exact alike entry inside valueAdmitted

theorem required_alike (isTerm : field key = .term) {operand other : Operand} :
    (other.required (valueParts moduleName (Node.expandedEntries entries)) key).Alike
      (operand.required (valueParts moduleName entries) key) := by
  unfold required
  rw [valueOf?_valueParts, valueOf?_valueParts, valueOf?_expandedEntries admitted]
  cases found : Read.valueOf? key entries with
  | none => exact .fail
  | some value => exact value_alike admitted alike isTerm found

theorem optional_alike (isTerm : field key = .term) :
    (optional (valueParts moduleName (Node.expandedEntries entries)) key).Alike
      (optional (valueParts moduleName entries) key) := by
  unfold optional
  rw [valueOf?_valueParts, valueOf?_valueParts, valueOf?_expandedEntries admitted]
  cases found : Read.valueOf? key entries with
  | none => exact .refl _
  | some value => exact value_alike admitted alike isTerm found

end Entries

theorem range_alike
    {raw : Bool}
    (admitted : (Role.record fun _ => .term).admits node)
    (alike : ∀ entry ∈ node.entries, ReadsAlike moduleName entry.2) :
    ((operandOf moduleName node.expanded).range raw).Alike
      ((operandOf moduleName node).range raw) := by
  have entries := Role.admitsEntries_of_record admitted
  refine fields_alike admitted ?_
  refine (required_alike entries alike rfl).bind fun start => ?_
  refine (required_alike entries alike rfl).bind fun stop => ?_
  exact (optional_alike entries alike rfl).bind fun _ => .refl _

theorem conditional_alike
    (admitted : (Role.record fun _ => .term).admits node)
    (alike : ∀ entry ∈ node.entries, ReadsAlike moduleName entry.2) :
    (operandOf moduleName node.expanded).conditional.Alike
      (operandOf moduleName node).conditional := by
  have entries := Role.admitsEntries_of_record admitted
  refine fields_alike admitted ?_
  refine (required_alike entries alike rfl).bind fun condition => ?_
  refine (required_alike entries alike rfl).bind fun consequent => ?_
  exact (optional_alike entries alike rfl).bind fun _ => .refl _

theorem termAndPattern_alike
    {construct : Mark -> Term -> Term -> Term}
    (admitted : (Role.record fun _ => .term).admits node)
    (alike : ∀ entry ∈ node.entries, ReadsAlike moduleName entry.2) :
    ((operandOf moduleName node.expanded).termAndPattern construct).Alike
      ((operandOf moduleName node).termAndPattern construct) := by
  have entries := Role.admitsEntries_of_record admitted
  refine fields_alike admitted ?_
  refine (required_alike entries alike rfl).bind fun term => ?_
  exact (required_alike entries alike rfl).bind fun _ => .refl _

theorem namedPattern_alike
    (admitted : (Role.ofConstruct "named").admits node)
    (alike : ∀ entry ∈ node.entries, ReadsAlike moduleName entry.2) :
    (operandOf moduleName node.expanded).namedPattern.Alike
      (operandOf moduleName node).namedPattern := by
  have entries := Role.admitsEntries_of_record admitted
  refine fields_alike admitted ?_
  rw [valueOf?_valueParts, valueOf?_valueParts, valueOf?_expandedEntries entries]
  cases found : Read.valueOf? "name" node.entries with
  | none => exact .fail
  | some named =>
      have plain := Role.plain_of_text (Role.admits_of_valueOf entries found)
      refine (Read.Alike.scalar plain).bind fun name => ?_
      exact (required_alike entries alike rfl).bind fun _ => .refl _

theorem scalarAs_alike
    {read? : String -> Option α}
    {construct : α -> Term}
    {otherwise : String -> Problem}
    (plain : node.isAlias = false) :
    ((operandOf moduleName node.expanded).scalarAs read? construct otherwise).Alike
      ((operandOf moduleName node).scalarAs read? construct otherwise) := by
  refine (Read.Alike.scalar plain).bind fun source => ?_
  split
  · exact .refl _
  · exact .fail

theorem identifier_alike (plain : node.isAlias = false) :
    (operandOf moduleName node.expanded).identifier.Alike
      (operandOf moduleName node).identifier := by
  refine (Read.Alike.scalar plain).bind fun name => ?_
  split
  · exact .fail
  · exact .refl _

theorem position_alike (admitted : (Role.record fun _ => .text).admits node) :
    (position moduleName node.expanded).Alike (position moduleName node) := by
  cases node with
  | reference => cases admitted
  | scalar line tag value => exact (Read.Alike.lineNumber rfl).bind fun _ => .refl _
  | mapping line tag entries =>
      have entriesAdmitted := Role.admitsEntries_of_record admitted
      have plainKeys := Role.plainKeys entriesAdmitted
      have plain : ∀ {key value}, Read.valueOf? key entries = some value -> value.isAlias = false :=
        fun found => Role.plain_of_text (Role.admits_of_valueOf entriesAdmitted found)
      refine (Read.Alike.checkKeys (expanded_keys plainKeys)).bind fun _ => ?_
      dsimp only [Node.entries] at entriesAdmitted ⊢
      rw [valueOf?_expandedEntries entriesAdmitted, valueOf?_expandedEntries entriesAdmitted]
      cases placed : Read.valueOf? "line" entries with
      | none =>
          cases namesModule : Read.valueOf? "module" entries with
          | none => exact .refl _
          | some named => exact (Read.Alike.scalar (plain namesModule)).bind fun _ => .refl _
      | some line =>
          have lineRead := Read.Alike.lineNumber (plain placed)
          cases namesModule : Read.valueOf? "module" entries with
          | none => exact lineRead.bind fun _ => .refl _
          | some named =>
              exact (Read.Alike.scalar (plain namesModule)).bind fun _ =>
                lineRead.bind fun _ => .refl _
  | _ => exact .fail

theorem foreignValue_alike (admitted : Role.value.admits node) :
    (operandOf moduleName node.expanded).foreignValue.Alike
      (operandOf moduleName node).foreignValue := by
  obtain ⟨transparent, few⟩ := Role.transparent_of_value admitted
  unfold foreignValue
  dsimp only [operandOf]
  rw [Node.decodeValue_expanded transparent few]
  split
  · exact .refl _
  · exact .fail

/-- Every construct is read as it is with the aliases of its operand written out. -/
theorem construct_alike
    {key : String}
    {node : Node}
    (admitted : (Role.ofConstruct key).admits node)
    (whole : ReadsAlike moduleName node)
    (items : ∀ item ∈ node.items, ReadsAlike moduleName item)
    (entries : ∀ entry ∈ node.entries, ReadsAlike moduleName entry.2) :
    Option.Rel Read.Alike ((operandOf moduleName node.expanded).construct? moduleName key)
      ((operandOf moduleName node).construct? moduleName key) := by
  unfold construct?
  split
  · exact .some (scalarAs_alike (Role.plain_of_text admitted))
  · exact .some (scalarAs_alike (Role.plain_of_text admitted))
  · exact .some (scalarAs_alike (Role.plain_of_text admitted))
  · exact .some (scalarAs_alike (Role.plain_of_text admitted))
  · exact .some (.refl _)
  · exact .some (.refl _)
  · exact .some ((elements_alike admitted items).bind fun _ => .refl _)
  · exact .some ((elements_alike admitted items).bind fun _ => .refl _)
  · exact .some (two_alike admitted items)
  · exact .some (range_alike admitted entries)
  · exact .some (range_alike admitted entries)
  · exact .some (two_alike admitted items)
  · exact .some (two_alike admitted items)
  · exact .some (two_alike admitted items)
  · exact .some ((Read.Alike.scalar (Role.plain_of_text admitted)).bind fun _ => .refl _)
  · exact .some (two_alike admitted items)
  · exact .some (call_alike admitted items)
  · exact .some (operation_alike admitted items)
  · exact .some (two_alike admitted items)
  · exact .some (conditional_alike admitted entries)
  · exact .some (termAndPattern_alike admitted entries)
  · exact .some (two_alike admitted items)
  · exact .some ((whole admitted).bind fun _ => .refl _)
  · exact .some ((Read.Alike.scalar (Role.plain_of_text admitted)).bind fun _ => .refl _)
  · exact .some (namedPattern_alike admitted entries)
  · exact .some ((Read.Alike.scalar (Role.plain_of_text admitted)).bind fun _ => .refl _)
  · exact .some ((whole admitted).bind fun _ => .refl _)
  · exact .some ((whole admitted).bind fun _ => .refl _)
  · exact .some ((whole admitted).bind fun _ => .refl _)
  · exact .some (identifier_alike (Role.plain_of_text admitted))
  · exact .some ((position_alike admitted).bind fun _ => .refl _)
  · exact .some ((whole admitted).bind fun _ => .refl _)
  · exact .some (termAndPattern_alike admitted entries)
  · exact .some (foreignValue_alike admitted)
  · exact .none

end Operand

/-! ## Terms -/

theorem term_construct
    (moduleName : String)
    (line : Nat)
    (tag : String)
    (key node : Node) :
    term moduleName (.mapping line tag [(key, node)]) =
      match (operandOf moduleName node).construct? moduleName key.value with
      | some reading => reading
      | none => Read.fail key (.unknownConstruct key.value) := rfl

mutual

/-- A node is read as a term as it is with its aliases written out. -/
theorem term_alike (moduleName : String) : ∀ node : Node, ReadsAlike moduleName node
  | .missing, _ => .refl _
  | .scalar _ _ _, _ => .refl _
  | .sequence _ _ items, admitted => by
      rw [Node.expanded, term, term, map_term_parts, map_term_parts]
      exact (terms_alike admitted (items_alike moduleName items)).bind fun _ => .refl _
  | .mapping line tag [(key, operand)], admitted => by
      simp only [Role.admits, Bool.and_eq_true, Bool.not_eq_true'] at admitted
      obtain ⟨plain, operandAdmitted⟩ := admitted
      have read := Operand.construct_alike operandAdmitted (term_alike moduleName operand)
        (operandItems_alike moduleName operand) (operandEntries_alike moduleName operand)
      rw [Node.expanded, Node.expandedEntries, Node.expandedEntries, term_construct,
        term_construct, Node.expanded_value plain]
      generalize (operandOf moduleName operand.expanded).construct? moduleName key.value =
        written at read ⊢
      generalize (operandOf moduleName operand).construct? moduleName key.value =
        reading at read ⊢
      cases read with
      | some alike => exact alike
      | none => exact .fail
  | .mapping _ _ [], _ => .refl _
  | .mapping _ _ ((_, _) :: (_, _) :: rest), _ => by
      have sameLength : (Node.expandedEntries rest).length = rest.length := by
        rw [Node.expandedEntries_eq_map, List.length_map]
      simp only [Node.expanded, Node.expandedEntries, term, List.length_cons, sameLength]
      exact .fail
  | .reference _ _ target, admitted => term_alike moduleName target admitted
  | .selfReference _ _, _ => .refl _

theorem items_alike (moduleName : String) :
    ∀ items : List Node, ∀ item ∈ items, ReadsAlike moduleName item
  | [] => by simp
  | node :: rest =>
      List.forall_mem_cons.mpr ⟨term_alike moduleName node, items_alike moduleName rest⟩

theorem entries_alike (moduleName : String) :
    ∀ entries : List (Node × Node), ∀ entry ∈ entries, ReadsAlike moduleName entry.2
  | [] => by simp
  | (_, node) :: rest =>
      List.forall_mem_cons.mpr ⟨term_alike moduleName node, entries_alike moduleName rest⟩

theorem operandItems_alike (moduleName : String) :
    ∀ node : Node, ∀ item ∈ node.items, ReadsAlike moduleName item
  | .sequence _ _ items => items_alike moduleName items
  | .missing | .scalar _ _ _ | .mapping _ _ _ | .reference _ _ _ | .selfReference _ _ => by simp

theorem operandEntries_alike (moduleName : String) :
    ∀ node : Node, ∀ entry ∈ node.entries, ReadsAlike moduleName entry.2
  | .mapping _ _ entries => entries_alike moduleName entries
  | .missing | .scalar _ _ _ | .sequence _ _ _ | .reference _ _ _ | .selfReference _ _ => by simp

end

end Program
end PatternMachine
