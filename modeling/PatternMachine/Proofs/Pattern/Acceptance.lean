import PatternMachine.Proofs.Pattern.Outline

/-!
# What outlines accept

Acceptance does not change when cells are added to the store, and an outline
that accepts the pattern of a later clause accepts all that the later pattern
accepts and that it heeds.
-/

namespace PatternMachine
namespace Outline

variable {before after store : Store} {subject : Subject}

attribute [local simp] accepts acceptsAll heeds heedsAll

theorem accepts_list_iff {elements : List Outline} :
    (list elements).accepts store subject = true ↔
      ∃ subjects, subject.list? store = some subjects ∧
        acceptsAll store elements subjects = true := by
  simp only [accepts]
  cases subject.list? store <;> simp

theorem accepts_tuple_iff {elements : List Outline} :
    (tuple elements).accepts store subject = true ↔
      ∃ subjects, subject.tuple? store = some subjects ∧
        acceptsAll store elements subjects = true := by
  simp only [accepts]
  cases subject.tuple? store <;> simp

theorem accepts_headTail_iff {head tail : Outline} :
    (headTail head tail).accepts store subject = true ↔
      ∃ first rest, subject.split? store = some (first, rest) ∧
        head.accepts store first = true ∧ tail.accepts store rest = true := by
  simp only [accepts]
  rcases subject.split? store with _ | ⟨first, rest⟩
  · simp
  · simp only [Bool.and_eq_true, Option.some.injEq, Prod.mk.injEq]
    constructor
    · intro both
      exact ⟨first, rest, ⟨rfl, rfl⟩, both⟩
    · rintro ⟨_, _, ⟨rfl, rfl⟩, both⟩
      exact both

/-- As many subjects are accepted as there are patterns. -/
theorem acceptsAll_length
    {outlines : List Outline}
    {subjects : List Subject}
    (accepted : acceptsAll store outlines subjects = true) :
    outlines.length = subjects.length := by
  induction outlines generalizing subjects with
  | nil =>
      cases subjects with
      | nil => rfl
      | cons subject others => simp [acceptsAll] at accepted
  | cons outline rest inductionHypothesis =>
      cases subjects with
      | nil => simp [acceptsAll] at accepted
      | cons subject others =>
          simp only [acceptsAll, Bool.and_eq_true] at accepted
          rw [List.length_cons, List.length_cons, inductionHypothesis accepted.2]

theorem acceptsAll_keeps
    {outlines : List Outline}
    (each : ∀ outline ∈ outlines, ∀ subject : Subject, subject.Sound before ->
      outline.accepts after subject = outline.accepts before subject)
    {subjects : List Subject}
    (sound : ∀ subject ∈ subjects, subject.Sound before) :
    acceptsAll after outlines subjects = acceptsAll before outlines subjects := by
  induction outlines generalizing subjects with
  | nil => simp only [acceptsAll]
  | cons outline rest inductionHypothesis =>
      cases subjects with
      | nil => simp only [acceptsAll]
      | cons subject others =>
          simp only [acceptsAll]
          rw [each outline List.mem_cons_self subject (sound subject List.mem_cons_self),
            inductionHypothesis (fun other member => each other (List.mem_cons_of_mem _ member))
              (fun other member => sound other (List.mem_cons_of_mem _ member))]

/-- Acceptance does not depend on cells that are added. -/
theorem accepts_keeps
    (keeps : before.Keeps after)
    (closed : before.Closed)
    (outline : Outline)
    (sound : subject.Sound before) :
    outline.accepts after subject = outline.accepts before subject := by
  induction outline generalizing subject with
  | named name inner inductionHypothesis =>
      simp only [accepts, inductionHypothesis sound]
  | list elements inductionHypothesis =>
      simp only [accepts, Subject.list?_keeps keeps sound]
      split
      · rename_i subjects found
        exact acceptsAll_keeps (fun element member _ => inductionHypothesis element member)
          (Subject.sound_of_list? closed sound found)
      · rfl
  | tuple elements inductionHypothesis =>
      simp only [accepts, Subject.tuple?_keeps keeps sound]
      split
      · rename_i subjects found
        exact acceptsAll_keeps (fun element member _ => inductionHypothesis element member)
          (Subject.sound_of_tuple? closed sound found)
      · rfl
  | headTail head tail onHead onTail =>
      simp only [accepts, Subject.split?_keeps keeps sound]
      split
      · rename_i first rest found
        obtain ⟨soundFirst, soundRest⟩ := Subject.sound_of_split? closed sound found
        rw [onHead soundFirst, onTail soundRest]
      · rfl
  | _ => simp only [accepts]

/-! ## Acceptance through a later pattern -/

theorem heedsAll_of_acceptsAll
    {outlines : List Outline}
    (each : ∀ outline ∈ outlines, ∀ subject : Subject,
      outline.accepts store subject = true -> outline.heeds store subject = true)
    {subjects : List Subject}
    (accepted : acceptsAll store outlines subjects = true) :
    heedsAll store outlines subjects = true := by
  induction outlines generalizing subjects with
  | nil => simp only [heedsAll]
  | cons outline rest inductionHypothesis =>
      cases subjects with
      | nil => simp only [heedsAll]
      | cons subject others =>
          simp only [acceptsAll, Bool.and_eq_true] at accepted
          simp only [heedsAll, Bool.and_eq_true]
          exact ⟨each outline List.mem_cons_self subject accepted.1,
            inductionHypothesis (fun other member => each other (List.mem_cons_of_mem _ member))
              accepted.2⟩

/-- An outline heeds what it accepts. -/
theorem heeds_of_accepts
    {outline : Outline}
    (accepted : outline.accepts store subject = true) :
    outline.heeds store subject = true := by
  induction outline generalizing subject with
  | named name inner inductionHypothesis =>
      simp only [accepts, Bool.and_eq_true] at accepted
      simp only [heeds, Bool.and_eq_true]
      exact ⟨accepted.1, inductionHypothesis accepted.2⟩
  | list elements inductionHypothesis =>
      obtain ⟨subjects, found, onSubjects⟩ := accepts_list_iff.mp accepted
      simp only [heeds, found]
      exact heedsAll_of_acceptsAll (fun element member _ => inductionHypothesis element member)
        onSubjects
  | tuple elements inductionHypothesis =>
      obtain ⟨subjects, found, onSubjects⟩ := accepts_tuple_iff.mp accepted
      simp only [heeds, found]
      exact heedsAll_of_acceptsAll (fun element member _ => inductionHypothesis element member)
        onSubjects
  | headTail head tail onHead onTail =>
      obtain ⟨first, rest, parts, onFirst, onRest⟩ := accepts_headTail_iff.mp accepted
      simp only [heeds, parts, Bool.and_eq_true]
      exact ⟨onHead onFirst, onTail onRest⟩
  | _ => simp only [heeds]

/-- What is accepted is there. -/
theorem isPresent_of_accepts
    {outline : Outline}
    (accepted : outline.accepts store subject = true) :
    subject.isPresent = true := by
  cases subject with
  | term value =>
      cases value with
      | absent =>
          cases outline <;>
            simp [accepts, Subject.isPresent, Subject.isMatchable, Subject.number?,
              Subject.isNone, Subject.isNil, Subject.list?, Subject.tuple?, Subject.split?,
              Term.unquoted, Term.number?, Term.isAbsent, Store.tupleElements?] at accepted
      | _ => rfl
  | _ => rfl

/-- What is accepted is accepted without the names of the whole pattern. -/
theorem accepts_bare
    {outline : Outline}
    (accepted : outline.accepts store subject = true) :
    outline.bare.accepts store subject = true := by
  induction outline with
  | named name inner inductionHypothesis =>
      simp only [accepts, Bool.and_eq_true] at accepted
      exact inductionHypothesis accepted.2
  | _ => exact accepted

/-- A list with elements has a head, and its tail is a list of the others. -/
theorem split?_of_list?
    {first : Subject}
    {others : List Subject}
    (elements : subject.list? store = some (first :: others)) :
    ∃ rest, subject.split? store = some (first, rest) ∧ rest.list? store = some others := by
  cases subject with
  | term value =>
      simp only [Subject.list?] at elements
      split at elements
      · rename_i cell same
        cases held : (store.elements cell).toList with
        | nil => simp [held] at elements
        | cons head tail =>
            simp only [held, List.map_cons, Option.some.injEq, List.cons.injEq] at elements
            obtain ⟨rfl, rfl⟩ := elements
            exact ⟨.rest tail, by simp [Subject.split?, same, held], rfl⟩
      · simp at elements
  | rest terms =>
      cases terms with
      | nil => simp [Subject.list?] at elements
      | cons head tail =>
          simp only [Subject.list?, List.map_cons, Option.some.injEq, List.cons.injEq] at elements
          obtain ⟨rfl, rfl⟩ := elements
          exact ⟨.rest tail, rfl, rfl⟩
  | later outline =>
      simp only [Subject.list?] at elements
      split at elements
      · rename_i outlines same
        cases outlines with
        | nil => simp at elements
        | cons head tail =>
            simp only [List.map_cons, Option.some.injEq, List.cons.injEq] at elements
            obtain ⟨rfl, rfl⟩ := elements
            exact ⟨.later (.list tail), by simp [Subject.split?, same], rfl⟩
      · simp at elements

/-- Elements that accept later elements accept what those accept and they heed. -/
theorem acceptsAll_of_later
    {other : Store}
    {outlines : List Outline}
    (each : ∀ outline ∈ outlines, ∀ (later : Outline) (subject : Subject),
      outline.accepts other (.later later) = true -> later.accepts store subject = true ->
      outline.heeds store subject = true -> outline.accepts store subject = true)
    {laters : List Outline}
    {subjects : List Subject}
    (covers : acceptsAll other outlines (laters.map .later) = true)
    (accepted : acceptsAll store laters subjects = true)
    (heeded : heedsAll store outlines subjects = true) :
    acceptsAll store outlines subjects = true := by
  induction outlines generalizing laters subjects with
  | nil =>
      cases laters with
      | nil => exact accepted
      | cons later rest => simp [acceptsAll] at covers
  | cons outline rest inductionHypothesis =>
      cases laters with
      | nil => simp [acceptsAll] at covers
      | cons later laters =>
          cases subjects with
          | nil => simp [acceptsAll] at accepted
          | cons subject subjects =>
              simp only [List.map_cons, acceptsAll, heedsAll, Bool.and_eq_true]
                at covers accepted heeded ⊢
              exact ⟨each outline List.mem_cons_self later subject covers.1 accepted.1 heeded.1,
                inductionHypothesis
                  (fun other member => each other (List.mem_cons_of_mem _ member))
                  covers.2 accepted.2 heeded.2⟩

/-- An outline that accepts a later pattern accepts whatever the later pattern
accepts and it heeds. -/
theorem accepts_of_later
    {other : Store}
    {outline later : Outline}
    (covers : outline.accepts other (.later later) = true)
    (accepted : later.accepts store subject = true)
    (heeded : outline.heeds store subject = true) :
    outline.accepts store subject = true := by
  have bare := accepts_bare accepted
  induction outline generalizing later subject with
  | identifier name =>
      simp only [accepts]
      exact isPresent_of_accepts accepted
  | named name inner inductionHypothesis =>
      simp only [accepts, heeds, Bool.and_eq_true] at covers heeded ⊢
      exact ⟨heeded.1, inductionHypothesis covers.2 accepted heeded.2 bare⟩
  | number value =>
      cases shape : later.bare with
      | number laterValue =>
          simp only [accepts, Subject.number?, shape, number?, Option.any_some, Number.equal,
            beq_iff_eq] at covers
          rw [shape, covers] at bare
          exact bare
      | _ => simp [accepts, Subject.number?, shape, number?] at covers
  | none =>
      cases shape : later.bare with
      | none =>
          rw [shape] at bare
          exact bare
      | _ => simp [accepts, Subject.isNone, shape] at covers
  | nil =>
      cases shape : later.bare with
      | nil =>
          rw [shape] at bare
          exact bare
      | _ => simp [accepts, Subject.isNil, shape] at covers
  | list elements inductionHypothesis =>
      obtain ⟨laters, shape, covers⟩ := accepts_list_iff.mp covers
      simp only [Subject.list?] at shape
      split at shape
      · rename_i outlines same
        obtain rfl := Option.some.inj shape
        rw [same] at bare
        obtain ⟨subjects, found, bare⟩ := accepts_list_iff.mp bare
        simp only [heeds, found] at heeded
        refine accepts_list_iff.mpr ⟨subjects, found, acceptsAll_of_later ?_ covers bare heeded⟩
        intro element member later subject covers accepted heeded
        exact inductionHypothesis element member covers accepted heeded (accepts_bare accepted)
      · simp at shape
  | tuple elements inductionHypothesis =>
      obtain ⟨laters, shape, covers⟩ := accepts_tuple_iff.mp covers
      simp only [Subject.tuple?] at shape
      split at shape
      · rename_i outlines same
        obtain rfl := Option.some.inj shape
        rw [same] at bare
        obtain ⟨subjects, found, bare⟩ := accepts_tuple_iff.mp bare
        simp only [heeds, found] at heeded
        refine accepts_tuple_iff.mpr ⟨subjects, found, acceptsAll_of_later ?_ covers bare heeded⟩
        intro element member later subject covers accepted heeded
        exact inductionHypothesis element member covers accepted heeded (accepts_bare accepted)
      · simp at shape
  | headTail head tail onHead onTail =>
      obtain ⟨laterHead, laterTail, shape, coversHead, coversTail⟩ :=
        accepts_headTail_iff.mp covers
      simp only [Subject.split?] at shape
      split at shape
      · rename_i firstLater otherLaters same
        obtain ⟨rfl, rfl⟩ := Prod.mk.inj (Option.some.inj shape)
        rw [same] at bare
        -- The later pattern is a list, so the subject is a list with a head.
        obtain ⟨subjects, found, bare⟩ := accepts_list_iff.mp bare
        cases subjects with
        | nil => simp [acceptsAll] at bare
        | cons first others =>
            simp only [acceptsAll, Bool.and_eq_true] at bare
            obtain ⟨rest, parts, restElements⟩ := split?_of_list? found
            have onRest : (list otherLaters).accepts store rest = true :=
              accepts_list_iff.mpr ⟨others, restElements, bare.2⟩
            simp only [heeds, parts, Bool.and_eq_true] at heeded
            exact accepts_headTail_iff.mpr ⟨first, rest, parts,
              onHead coversHead bare.1 heeded.1 (accepts_bare bare.1),
              onTail coversTail onRest heeded.2 onRest⟩
      · rename_i same
        obtain ⟨rfl, rfl⟩ := Prod.mk.inj (Option.some.inj shape)
        rw [same] at bare
        obtain ⟨first, rest, parts, onFirst, onRest⟩ := accepts_headTail_iff.mp bare
        simp only [heeds, parts, Bool.and_eq_true] at heeded
        exact accepts_headTail_iff.mpr ⟨first, rest, parts,
          onHead coversHead onFirst heeded.1 (accepts_bare onFirst),
          onTail coversTail onRest heeded.2 (accepts_bare onRest)⟩
      · simp at shape

end Outline
end PatternMachine
