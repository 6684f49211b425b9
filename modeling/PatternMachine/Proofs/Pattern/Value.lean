import PatternMachine.Proofs.Pattern.Acceptance

/-!
# Plain values

A plain value is built of exact numbers, none, nil, lists and tuples. Patterns
without heads and tails are told apart by plain values: one that does not accept
a later pattern misses a plain value that the later pattern accepts.
-/

namespace PatternMachine
namespace Outline

mutual

/-- Whether an outline is the outline of a value. -/
def isGround : Outline -> Bool
  | number _ => true
  | none => true
  | nil => true
  | list elements => isGroundAll elements
  | tuple elements => isGroundAll elements
  | _ => false

/-- Whether all outlines are outlines of values. -/
def isGroundAll : List Outline -> Bool
  | [] => true
  | outline :: rest => outline.isGround && isGroundAll rest

end

mutual

/-- Whether a pattern is free of heads with tails. -/
def isFlat : Outline -> Bool
  | named _ inner => inner.isFlat
  | list elements => isFlatAll elements
  | tuple elements => isFlatAll elements
  | headTail _ _ => false
  | _ => true

/-- Whether all patterns are free of heads with tails. -/
def isFlatAll : List Outline -> Bool
  | [] => true
  | outline :: rest => outline.isFlat && isFlatAll rest

end

theorem isFlat_of_mem
    {outlines : List Outline}
    (flat : isFlatAll outlines = true)
    {outline : Outline}
    (member : outline ∈ outlines) :
    outline.isFlat = true := by
  induction outlines with
  | nil => simp at member
  | cons first rest inductionHypothesis =>
      simp only [isFlatAll, Bool.and_eq_true] at flat
      rcases List.mem_cons.mp member with rfl | inside
      · exact flat.1
      · exact inductionHypothesis flat.2 inside

theorem isGround_of_mem
    {outlines : List Outline}
    (ground : isGroundAll outlines = true)
    {outline : Outline}
    (member : outline ∈ outlines) :
    outline.isGround = true := by
  induction outlines with
  | nil => simp at member
  | cons first rest inductionHypothesis =>
      simp only [isGroundAll, Bool.and_eq_true] at ground
      rcases List.mem_cons.mp member with rfl | inside
      · exact ground.1
      · exact inductionHypothesis ground.2 inside

theorem isFlat_bare
    {outline : Outline}
    (flat : outline.isFlat = true) :
    outline.bare.isFlat = true := by
  induction outline with
  | named name inner inductionHypothesis => exact inductionHypothesis flat
  | _ => exact flat

variable {store : Store}

/-- The names of a whole pattern refuse no later pattern. -/
theorem accepts_later_of_bare
    {outline later : Outline}
    (accepted : outline.bare.accepts store (.later later) = true) :
    outline.accepts store (.later later) = true := by
  induction outline with
  | named name inner inductionHypothesis =>
      simp only [accepts, Subject.isMatchable, Bool.true_and]
      exact inductionHypothesis accepted
  | _ => exact accepted

/-! ## Values that a pattern accepts -/

theorem groundAll_accepted
    {outlines : List Outline}
    (each : ∀ outline ∈ outlines, ∃ value : Outline, value.isGround = true ∧
      outline.accepts store (.later value) = true) :
    ∃ values, isGroundAll values = true ∧
      acceptsAll store outlines (values.map .later) = true := by
  induction outlines with
  | nil => exact ⟨[], by simp only [isGroundAll], by simp [acceptsAll]⟩
  | cons outline rest inductionHypothesis =>
      obtain ⟨value, ground, accepted⟩ := each outline List.mem_cons_self
      obtain ⟨values, groundAll, acceptedAll⟩ :=
        inductionHypothesis fun other member => each other (List.mem_cons_of_mem _ member)
      refine ⟨value :: values, ?_, ?_⟩
      · simp only [isGroundAll, ground, groundAll, Bool.and_self]
      · simp only [List.map_cons, acceptsAll, accepted, acceptedAll, Bool.and_self]

/-- Every pattern without heads and tails accepts some value. -/
theorem ground_accepted
    {outline : Outline}
    (flat : outline.isFlat = true) :
    ∃ value : Outline, value.isGround = true ∧
      outline.accepts store (.later value) = true := by
  induction outline with
  | identifier name => exact ⟨none, by simp only [isGround], by simp only [accepts]; rfl⟩
  | named name inner inductionHypothesis =>
      obtain ⟨value, ground, accepted⟩ := inductionHypothesis flat
      refine ⟨value, ground, ?_⟩
      simp only [accepts, accepted, Bool.and_true]
      rfl
  | number value =>
      refine ⟨number value, by simp only [isGround], ?_⟩
      simp [accepts, Subject.number?, bare, number?, Number.equal]
  | none => exact ⟨none, by simp only [isGround], by simp only [accepts]; rfl⟩
  | nil => exact ⟨nil, by simp only [isGround], by simp only [accepts]; rfl⟩
  | list elements inductionHypothesis =>
      simp only [isFlat] at flat
      obtain ⟨values, ground, accepted⟩ := groundAll_accepted fun element member =>
        inductionHypothesis element member (isFlat_of_mem flat member)
      exact ⟨list values, by simpa only [isGround] using ground,
        accepts_list_iff.mpr ⟨values.map .later, rfl, accepted⟩⟩
  | tuple elements inductionHypothesis =>
      simp only [isFlat] at flat
      obtain ⟨values, ground, accepted⟩ := groundAll_accepted fun element member =>
        inductionHypothesis element member (isFlat_of_mem flat member)
      exact ⟨tuple values, by simpa only [isGround] using ground,
        accepts_tuple_iff.mpr ⟨values.map .later, rfl, accepted⟩⟩
  | headTail head tail _ _ => simp [isFlat] at flat

/-! ## Values that tell patterns apart -/

theorem gapAll
    {outlines laters : List Outline}
    (each : ∀ outline ∈ outlines, ∀ later : Outline, later.isFlat = true ->
      outline.accepts store (.later later) = false ->
      ∃ value : Outline, value.isGround = true ∧ later.accepts store (.later value) = true ∧
        outline.accepts store (.later value) = false)
    (flat : isFlatAll laters = true)
    (refused : acceptsAll store outlines (laters.map .later) = false) :
    ∃ values, isGroundAll values = true ∧
      acceptsAll store laters (values.map .later) = true ∧
      acceptsAll store outlines (values.map .later) = false := by
  have accepted : ∃ values, isGroundAll values = true ∧
      acceptsAll store laters (values.map .later) = true :=
    groundAll_accepted fun later member => ground_accepted (isFlat_of_mem flat member)
  induction outlines generalizing laters with
  | nil =>
      obtain ⟨values, ground, accepted⟩ := accepted
      refine ⟨values, ground, accepted, ?_⟩
      cases laters with
      | nil => simp [acceptsAll] at refused
      | cons later rest =>
          cases values with
          | nil => simp [acceptsAll] at accepted
          | cons value others => simp [acceptsAll]
  | cons outline outlines inductionHypothesis =>
      cases laters with
      | nil =>
          obtain ⟨values, ground, accepted⟩ := accepted
          refine ⟨values, ground, accepted, ?_⟩
          cases values with
          | nil => simp [acceptsAll]
          | cons value others => simp [acceptsAll] at accepted
      | cons later laters =>
          simp only [isFlatAll, Bool.and_eq_true] at flat
          simp only [List.map_cons, acceptsAll, Bool.and_eq_false_iff] at refused
          have acceptedRest : ∃ values, isGroundAll values = true ∧
              acceptsAll store laters (values.map .later) = true :=
            groundAll_accepted fun later member => ground_accepted (isFlat_of_mem flat.2 member)
          -- The values differ at the first element or after it.
          rcases refused with onFirst | onRest
          · obtain ⟨value, ground, accepted, missed⟩ :=
              each outline List.mem_cons_self later flat.1 onFirst
            obtain ⟨values, groundAll, acceptedAll⟩ := acceptedRest
            refine ⟨value :: values, ?_, ?_, ?_⟩
            · simp only [isGroundAll, ground, groundAll, Bool.and_self]
            · simp only [List.map_cons, acceptsAll, accepted, acceptedAll, Bool.and_self]
            · simp only [List.map_cons, acceptsAll, missed, Bool.false_and]
          · obtain ⟨value, ground, accepted⟩ := @ground_accepted store later flat.1
            obtain ⟨values, groundAll, acceptedAll, missedAll⟩ :=
              inductionHypothesis
                (fun other member => each other (List.mem_cons_of_mem _ member)) flat.2 onRest
                acceptedRest
            refine ⟨value :: values, ?_, ?_, ?_⟩
            · simp only [isGroundAll, ground, groundAll, Bool.and_self]
            · simp only [List.map_cons, acceptsAll, accepted, acceptedAll, Bool.and_self]
            · simp only [List.map_cons, acceptsAll, missedAll, Bool.and_false]

theorem gap_of_identifier
    {outline later : Outline}
    {name : String}
    (value : Outline)
    (shape : later.bare = identifier name)
    (ground : value.isGround = true)
    (missed : outline.accepts store (.later value) = false) :
    ∃ value : Outline, value.isGround = true ∧ later.accepts store (.later value) = true ∧
      outline.accepts store (.later value) = false := by
  refine ⟨value, ground, accepts_later_of_bare ?_, missed⟩
  rw [shape]
  simp only [accepts]
  rfl

theorem gap_of_disjoint
    {outline later : Outline}
    (laterFlat : later.isFlat = true)
    (disjoint : ∀ value : Outline, later.bare.accepts store (.later value) = true ->
      outline.accepts store (.later value) = false) :
    ∃ value : Outline, value.isGround = true ∧ later.accepts store (.later value) = true ∧
      outline.accepts store (.later value) = false := by
  obtain ⟨value, ground, accepted⟩ := @ground_accepted store later laterFlat
  exact ⟨value, ground, accepted, disjoint value (accepts_bare accepted)⟩

/-- A pattern that does not accept a later one misses a value the later one
accepts. -/
theorem gap
    {outline later : Outline}
    (flat : outline.isFlat = true)
    (laterFlat : later.isFlat = true)
    (refused : outline.accepts store (.later later) = false) :
    ∃ value : Outline, value.isGround = true ∧ later.accepts store (.later value) = true ∧
      outline.accepts store (.later value) = false := by
  induction outline generalizing later with
  | identifier name => simp [accepts, Subject.isPresent] at refused
  | named name inner inductionHypothesis =>
      simp only [accepts, Subject.isMatchable, Bool.true_and] at refused ⊢
      exact inductionHypothesis flat laterFlat refused
  | number value =>
      cases shape : later.bare with
      | identifier other =>
          refine gap_of_identifier none shape (by simp only [isGround]) ?_
          simp [accepts, Subject.number?, bare, number?]
      | named other inner => exact absurd shape (bare_ne_named _ _ _)
      | _ =>
          refine gap_of_disjoint laterFlat fun value own => ?_
          rw [shape] at own
          cases kind : value.bare <;>
            simp_all [accepts, Subject.number?, Subject.isNone, Subject.isNil, Subject.list?,
              Subject.tuple?, Subject.split?, number?, Number.equal]
  | none =>
      cases shape : later.bare with
      | identifier other =>
          refine gap_of_identifier nil shape (by simp only [isGround]) ?_
          simp [accepts, Subject.isNone, bare]
      | named other inner => exact absurd shape (bare_ne_named _ _ _)
      | _ =>
          refine gap_of_disjoint laterFlat fun value own => ?_
          rw [shape] at own
          cases kind : value.bare <;>
            simp_all [accepts, Subject.number?, Subject.isNone, Subject.isNil, Subject.list?,
              Subject.tuple?, Subject.split?, number?, Number.equal]
  | nil =>
      cases shape : later.bare with
      | identifier other =>
          refine gap_of_identifier none shape (by simp only [isGround]) ?_
          simp [accepts, Subject.isNil, bare]
      | named other inner => exact absurd shape (bare_ne_named _ _ _)
      | _ =>
          refine gap_of_disjoint laterFlat fun value own => ?_
          rw [shape] at own
          cases kind : value.bare <;>
            simp_all [accepts, Subject.number?, Subject.isNone, Subject.isNil, Subject.list?,
              Subject.tuple?, Subject.split?, number?, Number.equal]
  | list elements inductionHypothesis =>
      cases shape : later.bare with
      | identifier other =>
          refine gap_of_identifier none shape (by simp only [isGround]) ?_
          simp [accepts, Subject.list?, bare]
      | named other inner => exact absurd shape (bare_ne_named _ _ _)
      | list laters =>
          have flatLaters := isFlat_bare laterFlat
          rw [shape] at flatLaters
          simp only [isFlat] at flat flatLaters
          simp only [accepts, Subject.list?, shape] at refused
          obtain ⟨values, ground, accepted, missed⟩ :=
            gapAll (fun element member later => inductionHypothesis element member
              (isFlat_of_mem flat member)) flatLaters refused
          refine ⟨list values, by simpa only [isGround] using ground,
            accepts_later_of_bare ?_, ?_⟩
          · rw [shape]
            exact accepts_list_iff.mpr ⟨values.map .later, rfl, accepted⟩
          · simpa only [accepts, Subject.list?, bare] using missed
      | headTail head tail =>
          have flatLater := isFlat_bare laterFlat
          simp [shape, isFlat] at flatLater
      | _ =>
          refine gap_of_disjoint laterFlat fun value own => ?_
          rw [shape] at own
          cases kind : value.bare <;>
            simp_all [accepts, Subject.number?, Subject.isNone, Subject.isNil, Subject.list?,
              Subject.tuple?, number?]
  | tuple elements inductionHypothesis =>
      cases shape : later.bare with
      | identifier other =>
          refine gap_of_identifier none shape (by simp only [isGround]) ?_
          simp [accepts, Subject.tuple?, bare]
      | named other inner => exact absurd shape (bare_ne_named _ _ _)
      | tuple laters =>
          have flatLaters := isFlat_bare laterFlat
          rw [shape] at flatLaters
          simp only [isFlat] at flat flatLaters
          simp only [accepts, Subject.tuple?, shape] at refused
          obtain ⟨values, ground, accepted, missed⟩ :=
            gapAll (fun element member later => inductionHypothesis element member
              (isFlat_of_mem flat member)) flatLaters refused
          refine ⟨tuple values, by simpa only [isGround] using ground,
            accepts_later_of_bare ?_, ?_⟩
          · rw [shape]
            exact accepts_tuple_iff.mpr ⟨values.map .later, rfl, accepted⟩
          · simpa only [accepts, Subject.tuple?, bare] using missed
      | headTail head tail =>
          have flatLater := isFlat_bare laterFlat
          simp [shape, isFlat] at flatLater
      | _ =>
          refine gap_of_disjoint laterFlat fun value own => ?_
          rw [shape] at own
          cases kind : value.bare <;>
            simp_all [accepts, Subject.number?, Subject.isNone, Subject.isNil, Subject.list?,
              Subject.tuple?, number?]
  | headTail head tail _ _ => simp [isFlat] at flat

/-! ## Values in the store -/

theorem acceptsAll_values
    {outlines : List Outline}
    (each : ∀ outline ∈ outlines, ∀ (value : Outline) (term : Term), value.isGround = true ->
      value.Spells store term ->
      outline.accepts store (.term term) = outline.accepts store (.later value))
    {values : List Outline}
    {terms : List Term}
    (ground : isGroundAll values = true)
    (spells : SpellsAll store values terms) :
    acceptsAll store outlines (terms.map .term) =
      acceptsAll store outlines (values.map .later) := by
  induction outlines generalizing values terms with
  | nil =>
      cases values with
      | nil =>
          obtain rfl := spells
          simp [acceptsAll]
      | cons value values =>
          obtain ⟨first, others, rfl, _, _⟩ := spells
          simp [acceptsAll]
  | cons outline outlines inductionHypothesis =>
      cases values with
      | nil =>
          obtain rfl := spells
          simp [acceptsAll]
      | cons value values =>
          obtain ⟨first, others, rfl, spellsFirst, spellsOthers⟩ := spells
          simp only [isGroundAll, Bool.and_eq_true] at ground
          simp only [List.map_cons, acceptsAll]
          rw [each outline List.mem_cons_self value first ground.1 spellsFirst,
            inductionHypothesis (fun other member => each other (List.mem_cons_of_mem _ member))
              ground.2 spellsOthers]

/-- A value is there, may be matched, and reads as its outline does. -/
theorem reads_value
    {value : Outline}
    {term : Term}
    (ground : value.isGround = true)
    (spells : value.Spells store term) :
    (Subject.term term).isPresent = true ∧ (Subject.term term).isMatchable = true ∧
      (Subject.term term).number? = (Subject.later value).number? ∧
      (Subject.term term).isNone = (Subject.later value).isNone ∧
      (Subject.term term).isNil = (Subject.later value).isNil := by
  cases value with
  | number value =>
      obtain ⟨core, same⟩ := spells
      cases term <;> simp [Term.isCore, Term.number?] at core same <;>
        simp [Subject.isPresent, Subject.isMatchable, Subject.number?, Subject.isNone,
          Subject.isNil, Term.isAbsent, Evaluator.isMatchable, Term.unquoted, Term.number?,
          bare, number?, same]
  | none =>
      obtain rfl := spells
      exact ⟨rfl, rfl, rfl, rfl, rfl⟩
  | nil =>
      obtain rfl := spells
      exact ⟨rfl, rfl, rfl, rfl, rfl⟩
  | list elements =>
      obtain ⟨cell, rfl, _, _⟩ := spells
      exact ⟨rfl, rfl, rfl, rfl, rfl⟩
  | tuple elements =>
      obtain ⟨terms, held, _, _⟩ := spells
      cases term <;> first | exact ⟨rfl, rfl, rfl, rfl, rfl⟩ | simp [Store.tupleElements?] at held
  | _ => simp [isGround] at ground

theorem list?_value
    {value : Outline}
    {term : Term}
    (ground : value.isGround = true)
    (spells : value.Spells store term) :
    (∃ values terms, isGroundAll values = true ∧ SpellsAll store values terms ∧
      (Subject.term term).list? store = some (terms.map .term) ∧
      (Subject.later value).list? store = some (values.map .later)) ∨
    (Subject.term term).list? store = Option.none ∧
      (Subject.later value).list? store = Option.none := by
  cases value with
  | number value =>
      obtain ⟨core, same⟩ := spells
      right
      cases term <;> simp [Term.isCore, Term.number?] at core same <;> exact ⟨rfl, rfl⟩
  | list elements =>
      obtain ⟨cell, rfl, _, spellsAll⟩ := spells
      simp only [isGround] at ground
      exact .inl ⟨elements, (store.elements cell).toList, ground, spellsAll, rfl, rfl⟩
  | none =>
      obtain rfl := spells
      exact .inr ⟨rfl, rfl⟩
  | nil =>
      obtain rfl := spells
      exact .inr ⟨rfl, rfl⟩
  | tuple elements =>
      obtain ⟨terms, held, _, _⟩ := spells
      right
      cases term <;> first | exact ⟨rfl, rfl⟩ | simp [Store.tupleElements?] at held
  | _ => simp [isGround] at ground

theorem tuple?_value
    {value : Outline}
    {term : Term}
    (ground : value.isGround = true)
    (spells : value.Spells store term) :
    (∃ values terms, isGroundAll values = true ∧ SpellsAll store values terms ∧
      (Subject.term term).tuple? store = some (terms.map .term) ∧
      (Subject.later value).tuple? store = some (values.map .later)) ∨
    (Subject.term term).tuple? store = Option.none ∧
      (Subject.later value).tuple? store = Option.none := by
  cases value with
  | number value =>
      obtain ⟨core, same⟩ := spells
      right
      cases term <;> simp [Term.isCore, Term.number?] at core same <;> exact ⟨rfl, rfl⟩
  | tuple elements =>
      obtain ⟨terms, held, _, spellsAll⟩ := spells
      simp only [isGround] at ground
      refine .inl ⟨elements, terms, ground, spellsAll, ?_, rfl⟩
      cases term <;> simp [Store.tupleElements?] at held <;>
        simp [Subject.tuple?, Term.unquoted, Store.tupleElements?, held]
  | none =>
      obtain rfl := spells
      exact .inr ⟨rfl, rfl⟩
  | nil =>
      obtain rfl := spells
      exact .inr ⟨rfl, rfl⟩
  | list elements =>
      obtain ⟨cell, rfl, _, _⟩ := spells
      exact .inr ⟨rfl, rfl⟩
  | _ => simp [isGround] at ground

/-- A pattern accepts a value exactly when it accepts the outline of the value. -/
theorem accepts_value
    {outline value : Outline}
    {term : Term}
    (flat : outline.isFlat = true)
    (ground : value.isGround = true)
    (spells : value.Spells store term) :
    outline.accepts store (.term term) = outline.accepts store (.later value) := by
  induction outline generalizing value term with
  | identifier name =>
      simp only [accepts, (reads_value ground spells).1]
      rfl
  | named name inner inductionHypothesis =>
      simp only [accepts, (reads_value ground spells).2.1, inductionHypothesis flat ground spells]
      rfl
  | number value => simp only [accepts, (reads_value ground spells).2.2.1]
  | none => simp only [accepts, (reads_value ground spells).2.2.2.1]
  | nil => simp only [accepts, (reads_value ground spells).2.2.2.2]
  | list elements inductionHypothesis =>
      simp only [isFlat] at flat
      simp only [accepts]
      rcases list?_value ground spells with
        ⟨values, terms, groundAll, spellsAll, termElements, laterElements⟩ | ⟨noTerms, noLaters⟩
      · rw [termElements, laterElements]
        refine acceptsAll_values ?_ groundAll spellsAll
        intro element member value term
        exact inductionHypothesis element member (isFlat_of_mem flat member)
      · rw [noTerms, noLaters]
  | tuple elements inductionHypothesis =>
      simp only [isFlat] at flat
      simp only [accepts]
      rcases tuple?_value ground spells with
        ⟨values, terms, groundAll, spellsAll, termElements, laterElements⟩ | ⟨noTerms, noLaters⟩
      · rw [termElements, laterElements]
        refine acceptsAll_values ?_ groundAll spellsAll
        intro element member value term
        exact inductionHypothesis element member (isFlat_of_mem flat member)
      · rw [noTerms, noLaters]
  | headTail head tail _ _ => simp [isFlat] at flat

theorem exists_values
    {values : List Outline}
    (each : ∀ value ∈ values, ∀ store : Store, ∃ larger term, store.Keeps larger ∧
      (store.Closed -> larger.Closed) ∧ larger.Holds term ∧ value.Spells larger term)
    (store : Store) :
    ∃ larger terms, store.Keeps larger ∧ (store.Closed -> larger.Closed) ∧
      (∀ term ∈ terms, larger.Holds term) ∧ SpellsAll larger values terms := by
  induction values generalizing store with
  | nil => exact ⟨store, [], .refl store, id, by simp, by simp only [SpellsAll]⟩
  | cons value values inductionHypothesis =>
      obtain ⟨larger, term, keeps, closed, holds, spells⟩ := each value List.mem_cons_self store
      obtain ⟨largest, terms, keepsAll, closedAll, holdsAll, spellsAll⟩ :=
        inductionHypothesis (fun other member => each other (List.mem_cons_of_mem _ member)) larger
      refine ⟨largest, term :: terms, keeps.trans keepsAll, closedAll ∘ closed, ?_,
        term, terms, rfl, spells.keeps keepsAll, spellsAll⟩
      intro element member
      rcases List.mem_cons.mp member with rfl | inside
      · exact keepsAll.holds holds
      · exact holdsAll element inside

/-- Every value can be put into the store. -/
theorem exists_value
    {value : Outline}
    (ground : value.isGround = true)
    (store : Store) :
    ∃ larger term, store.Keeps larger ∧ (store.Closed -> larger.Closed) ∧
      larger.Holds term ∧ value.Spells larger term := by
  induction value generalizing store with
  | identifier name => simp [isGround] at ground
  | named name inner _ => simp [isGround] at ground
  | number value =>
      refine ⟨store, .integer value, .refl store, id, ?_, ?_⟩
      · simp [Store.Holds, Term.cells]
      · simp [Spells, Term.isCore, Term.number?]
  | none => exact ⟨store, .none, .refl store, id, by simp [Store.Holds, Term.cells], rfl⟩
  | nil => exact ⟨store, .nil, .refl store, id, by simp [Store.Holds, Term.cells], rfl⟩
  | list elements inductionHypothesis =>
      simp only [isGround] at ground
      obtain ⟨larger, terms, keeps, closed, holds, spells⟩ := exists_values
        (fun element member => inductionHypothesis element member (isGround_of_mem ground member))
        store
      have added := Store.Keeps.newCell larger terms.toArray
      have known := larger.newCell_known terms.toArray
      refine ⟨(larger.newCell terms.toArray).2, .list (larger.newCell terms.toArray).1,
        keeps.trans added, fun before => (closed before).newCell holds, ?_, _, rfl, known, ?_⟩
      · simpa [Store.Holds, Term.cells] using known
      · rw [Store.elements_newCell_self]
        exact spellsAll_keeps (fun _ _ _ spells => spells.keeps added) spells
  | tuple elements inductionHypothesis =>
      simp only [isGround] at ground
      obtain ⟨larger, terms, keeps, closed, holds, spells⟩ := exists_values
        (fun element member => inductionHypothesis element member (isGround_of_mem ground member))
        store
      have added := Store.Keeps.newCell larger terms.toArray
      have known := larger.newCell_known terms.toArray
      refine ⟨(larger.newCell terms.toArray).2, .tuple (larger.newCell terms.toArray).1,
        keeps.trans added, fun before => (closed before).newCell holds, ?_, terms, ?_, ?_, ?_⟩
      · simpa [Store.Holds, Term.cells] using known
      · simp [Store.tupleElements?]
      · rintro cell same
        obtain rfl := Term.tuple.inj same
        exact known
      · exact spellsAll_keeps (fun _ _ _ spells => spells.keeps added) spells
  | headTail head tail _ _ => simp [isGround] at ground

end Outline
end PatternMachine
