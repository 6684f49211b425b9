import PatternMachine.Proofs.Pattern.Rules
import PatternMachine.Proofs.Store

/-!
# Outlines of patterns

An outline is a pattern made of identifiers, named patterns, exact numbers,
none, nil, lists, tuples and heads with tails, read off the store as a tree.
What such a pattern accepts is computed from its outline alone, both for terms
and for the pattern of a later clause.
-/

namespace PatternMachine

/-! ## Cells that stay -/

namespace Term

/-- The cells a match can look into: those of lists and tuples, also inside pairs
and quotes. -/
def cells : Term -> List CellRef
  | list cell => [cell]
  | tuple cell => [cell]
  | pair first second => first.cells ++ second.cells
  | quote inner => inner.cells
  | _ => []

/-- Whether a pattern is a text or a type, which a match never looks into. -/
def isSealed : Term -> Bool
  | text _ => true
  | typeMatch _ _ => true
  | _ => false

/-- The term inside all quotes that matching looks through. -/
def unquoted : Term -> Term
  | quote (identifier name) => quote (identifier name)
  | quote (index mark subject selector) => quote (index mark subject selector)
  | quote inner => inner.unquoted
  | term => term

end Term

namespace Store

/-- The cells of a term are in the store. -/
def Holds (store : Store) (term : Term) : Prop :=
  ∀ cell ∈ term.cells, cell.place < store.cells.size

/-- No cell holds a term whose own cells are missing. -/
def Closed (store : Store) : Prop :=
  ∀ cell, ∀ element ∈ (store.elements cell).toList, store.Holds element

instance (store : Store) (term : Term) : Decidable (store.Holds term) :=
  inferInstanceAs (Decidable (∀ cell ∈ term.cells, cell.place < store.cells.size))

/-- A store is closed if the cells of all its elements are there. -/
theorem closed_of_cells
    {store : Store}
    (holds : ∀ elements ∈ store.cells.toList, ∀ element ∈ elements.toList, store.Holds element) :
    store.Closed := by
  intro cell element member
  unfold elements at member
  cases found : store.cells[cell.place]? with
  | none => simp [found] at member
  | some elements =>
      rw [found] at member
      have listed : elements ∈ store.cells.toList :=
        Array.mem_toList_iff.mpr (Array.mem_of_getElem? found)
      exact holds elements listed element member

theorem Keeps.holds
    {before after : Store}
    (keeps : before.Keeps after)
    {term : Term}
    (holds : before.Holds term) :
    after.Holds term :=
  fun cell member => Nat.lt_of_lt_of_le (holds cell member) keeps.size

/-- A new cell for elements that are in the store leaves the store closed. -/
theorem Closed.newCell
    {store : Store}
    (closed : store.Closed)
    {elements : List Term}
    (holds : ∀ element ∈ elements, store.Holds element) :
    (store.newCell elements.toArray).2.Closed := by
  intro cell element member
  have keeps := Keeps.newCell store elements.toArray
  rcases store.elements_newCell elements.toArray cell with new | old
  · rw [new] at member
    exact keeps.holds (holds element member)
  · rw [old] at member
    exact keeps.holds (closed cell element member)

end Store

/-! ## Outlines -/

/-- The outline of a pattern. Integers and booleans are exact numbers. -/
inductive Outline
  | identifier (name : String)
  | named (name : String) (inner : Outline)
  | number (value : Int64)
  | none
  | nil
  | list (elements : List Outline)
  | tuple (elements : List Outline)
  | headTail (head tail : Outline)

namespace Outline

/-- Induction on outlines, with a hypothesis for every element of a container. -/
@[induction_eliminator]
theorem induct
    {motive : Outline -> Prop}
    (identifier : ∀ name, motive (identifier name))
    (named : ∀ name inner, motive inner -> motive (named name inner))
    (number : ∀ value, motive (number value))
    (none : motive none)
    (nil : motive nil)
    (list : ∀ elements, (∀ element ∈ elements, motive element) -> motive (list elements))
    (tuple : ∀ elements, (∀ element ∈ elements, motive element) -> motive (tuple elements))
    (headTail : ∀ head tail, motive head -> motive tail -> motive (headTail head tail))
    (outline : Outline) :
    motive outline := by
  refine Outline.rec identifier named number none nil list tuple headTail ?_ ?_ outline
  · simp
  · intro head tail onHead onTail element member
    rcases List.mem_cons.mp member with rfl | inside
    · exact onHead
    · exact onTail element inside

mutual

/-- The names a pattern binds, in the order in which a match binds them. An
identifier `_` binds nothing. -/
def names : Outline -> List String
  | identifier name => if name == "_" then [] else [name]
  | named name inner => inner.names ++ [name]
  | list elements => namesAll elements
  | tuple elements => namesAll elements
  | headTail head tail => head.names ++ tail.names
  | _ => []

/-- The names several patterns bind. -/
def namesAll : List Outline -> List String
  | [] => []
  | outline :: rest => outline.names ++ namesAll rest

end

mutual

/-- A term of the store is a pattern with the given outline. -/
def Spells (store : Store) : Outline -> Term -> Prop
  | identifier name, term => term = .identifier name
  | named name inner, term => ∃ mark pattern, term = .named mark name pattern ∧
      inner.Spells store pattern
  | number value, term => term.isCore = true ∧ term.number? = some (.exact value)
  | none, term => term = .none
  | nil, term => term = .nil
  | list elements, term => ∃ cell, term = .list cell ∧ cell.place < store.cells.size ∧
      SpellsAll store elements (store.elements cell).toList
  | tuple elements, term => ∃ terms, store.tupleElements? term = some terms ∧
      (∀ cell, term = .tuple cell -> cell.place < store.cells.size) ∧
      SpellsAll store elements terms
  | headTail head tail, term => ∃ raw mark first rest, term = .headTail raw mark first rest ∧
      head.Spells store first ∧ tail.Spells store rest

/-- Terms of the store are patterns with the given outlines, one by one. -/
def SpellsAll (store : Store) : List Outline -> List Term -> Prop
  | [], terms => terms = []
  | outline :: rest, terms => ∃ first others, terms = first :: others ∧
      outline.Spells store first ∧ SpellsAll store rest others

end

/-- The outline inside all names given to a whole pattern. -/
def bare : Outline -> Outline
  | named _ inner => inner.bare
  | outline => outline

theorem bare_ne_named
    (outline : Outline)
    (name : String)
    (inner : Outline) :
    outline.bare ≠ named name inner := by
  induction outline with
  | named other inside inductionHypothesis => exact inductionHypothesis
  | _ => simp [bare]

/-- The number an outline stands for. -/
def number? : Outline -> Option Number
  | number value => some (.exact value)
  | _ => Option.none

end Outline

/-! ## What is matched -/

/-- What an outline is held against: a term, a list made of the elements that a
head leaves, or the pattern of a later clause. -/
inductive Subject
  | term (value : Term)
  | rest (elements : List Term)
  | later (outline : Outline)

namespace Subject

/-- Whether there is anything to match. -/
def isPresent : Subject -> Bool
  | term value => !value.isAbsent
  | _ => true

/-- Whether the subject may be matched by more than an identifier. -/
def isMatchable : Subject -> Bool
  | term value => !value.isAbsent && Evaluator.isMatchable value
  | _ => true

/-- The number a subject stands for. -/
def number? : Subject -> Option Number
  | term value => value.unquoted.number?
  | rest _ => none
  | later outline => outline.bare.number?

/-- Whether a subject is none. -/
def isNone : Subject -> Bool
  | term value => (value.unquoted matches .none)
  | rest _ => false
  | later outline => (outline.bare matches .none)

/-- Whether a subject is nil. -/
def isNil : Subject -> Bool
  | term value => (value.unquoted matches .nil)
  | rest _ => false
  | later outline => (outline.bare matches .nil)

/-- The elements of a subject that is a list. -/
def list? (store : Store) : Subject -> Option (List Subject)
  | term value =>
      match value.unquoted with
      | .list cell => some ((store.elements cell).toList.map .term)
      | _ => none
  | rest elements => some (elements.map .term)
  | later outline =>
      match outline.bare with
      | .list elements => some (elements.map .later)
      | _ => none

/-- The elements of a subject that is a tuple or a pair. -/
def tuple? (store : Store) : Subject -> Option (List Subject)
  | term value => (store.tupleElements? value.unquoted).map (·.map .term)
  | rest _ => none
  | later outline =>
      match outline.bare with
      | .tuple elements => some (elements.map .later)
      | _ => none

/-- The head and the tail of a subject that has them. -/
def split? (store : Store) : Subject -> Option (Subject × Subject)
  | term value =>
      match value.unquoted with
      | .list cell =>
          match (store.elements cell).toList with
          | [] => none
          | first :: others => some (.term first, .rest others)
      | _ => none
  | rest elements =>
      match elements with
      | [] => none
      | first :: others => some (.term first, .rest others)
  | later outline =>
      match outline.bare with
      | .list (first :: others) => some (.later first, .later (.list others))
      | .headTail head tail => some (.later head, .later tail)
      | _ => none

/-- The cells of a subject are in the store. -/
def Sound (store : Store) : Subject -> Prop
  | term value => store.Holds value
  | rest elements => ∀ element ∈ elements, store.Holds element
  | later _ => True

/-- The term that stands for a subject when it is matched in a mode. The pattern
of a later clause may also be a text or a type. -/
def Presents (store : Store) (mode : Mode) : Subject -> Term -> Prop
  | term value, shown => (mode = .binding ∨ value.isSealed = true) ∧ shown = value
  | rest elements, shown => mode = .binding ∧
      ∃ cell, shown = .list cell ∧ cell.place < store.cells.size ∧
        (store.elements cell).toList = elements
  | later outline, shown => mode = .covering ∧ outline.Spells store shown

/-- Terms stand for subjects, one by one. -/
def PresentsAll (store : Store) (mode : Mode) : List Subject -> List Term -> Prop
  | [], terms => terms = []
  | subject :: subjects, terms => ∃ first others, terms = first :: others ∧
      subject.Presents store mode first ∧ PresentsAll store mode subjects others

end Subject

/-! ## What an outline accepts -/

namespace Outline

mutual

/-- Whether a pattern with the outline matches a subject. -/
def accepts (store : Store) : Outline -> Subject -> Bool
  | identifier _, subject => subject.isPresent
  | named _ inner, subject => subject.isMatchable && inner.accepts store subject
  | number value, subject => subject.number?.any (·.equal (.exact value))
  | none, subject => subject.isNone
  | nil, subject => subject.isNil
  | list elements, subject =>
      match subject.list? store with
      | some subjects => acceptsAll store elements subjects
      | Option.none => false
  | tuple elements, subject =>
      match subject.tuple? store with
      | some subjects => acceptsAll store elements subjects
      | Option.none => false
  | headTail head tail, subject =>
      match subject.split? store with
      | some (first, rest) => head.accepts store first && tail.accepts store rest
      | Option.none => false

/-- Whether patterns with the outlines match subjects, one by one. -/
def acceptsAll (store : Store) : List Outline -> List Subject -> Bool
  | [], subjects => subjects.isEmpty
  | outline :: rest, subjects =>
      match subjects with
      | [] => false
      | subject :: others => outline.accepts store subject && acceptsAll store rest others

end

mutual

/-- Whether every named pattern stands at a part of the subject that may be
matched. Parts the pattern does not get to count as such. -/
def heeds (store : Store) : Outline -> Subject -> Bool
  | named _ inner, subject => subject.isMatchable && inner.heeds store subject
  | list elements, subject =>
      match subject.list? store with
      | some subjects => heedsAll store elements subjects
      | Option.none => true
  | tuple elements, subject =>
      match subject.tuple? store with
      | some subjects => heedsAll store elements subjects
      | Option.none => true
  | headTail head tail, subject =>
      match subject.split? store with
      | some (first, rest) => head.heeds store first && tail.heeds store rest
      | Option.none => true
  | _, _ => true

/-- Whether patterns heed subjects, one by one. -/
def heedsAll (store : Store) : List Outline -> List Subject -> Bool
  | [], _ => true
  | outline :: rest, subjects =>
      match subjects with
      | [] => true
      | subject :: others => outline.heeds store subject && heedsAll store rest others

end

end Outline

/-! ## What stays when cells are added -/

namespace Term

theorem cells_unquoted (term : Term) : term.unquoted.cells = term.cells := by
  fun_induction unquoted term with
  | case1 name => rfl
  | case2 mark subject selector => rfl
  | case3 inner _ _ inductionHypothesis => exact inductionHypothesis
  | case4 term _ _ _ => rfl

end Term

namespace Store

variable {before after : Store}

theorem Holds.unquoted
    {store : Store}
    {term : Term}
    (holds : store.Holds term) :
    store.Holds term.unquoted := by
  unfold Holds
  rw [Term.cells_unquoted]
  exact holds

theorem Keeps.tupleElements?
    (keeps : before.Keeps after)
    {term : Term}
    (holds : before.Holds term) :
    after.tupleElements? term = before.tupleElements? term := by
  cases term with
  | tuple cell =>
      simp only [Store.tupleElements?, keeps.elements cell (holds cell (by simp [Term.cells]))]
  | _ => rfl

/-- The elements of a tuple or a pair are in the store. -/
theorem Closed.tupleElements?
    {store : Store}
    (closed : store.Closed)
    {term : Term}
    (holds : store.Holds term)
    {terms : List Term}
    (elements : store.tupleElements? term = some terms) :
    ∀ element ∈ terms, store.Holds element := by
  cases term with
  | tuple cell =>
      obtain rfl := Option.some.inj elements
      exact closed cell
  | pair first second =>
      obtain rfl := Option.some.inj elements
      simp only [Holds, Term.cells, List.mem_append] at holds
      intro element member
      simp only [List.mem_cons, List.not_mem_nil, or_false] at member
      rcases member with rfl | rfl
      · exact fun cell inside => holds cell (.inl inside)
      · exact fun cell inside => holds cell (.inr inside)
  | _ => simp [Store.tupleElements?] at elements

end Store

namespace Outline

variable {before after : Store}

theorem spellsAll_keeps
    {outlines : List Outline}
    (each : ∀ outline ∈ outlines, ∀ term, outline.Spells before term -> outline.Spells after term)
    {terms : List Term}
    (spells : SpellsAll before outlines terms) :
    SpellsAll after outlines terms := by
  induction outlines generalizing terms with
  | nil => exact spells
  | cons outline rest inductionHypothesis =>
      obtain ⟨first, others, rfl, onFirst, onOthers⟩ := spells
      exact ⟨first, others, rfl, each outline List.mem_cons_self first onFirst,
        inductionHypothesis (fun other member => each other (List.mem_cons_of_mem _ member))
          onOthers⟩

theorem spellsAll_length
    {store : Store}
    {outlines : List Outline}
    {terms : List Term}
    (spells : SpellsAll store outlines terms) :
    terms.length = outlines.length := by
  induction outlines generalizing terms with
  | nil =>
      obtain rfl := spells
      rfl
  | cons outline rest inductionHypothesis =>
      obtain ⟨first, others, rfl, _, onOthers⟩ := spells
      rw [List.length_cons, List.length_cons, inductionHypothesis onOthers]

theorem Spells.keeps
    (keeps : before.Keeps after)
    {outline : Outline}
    {term : Term}
    (spells : outline.Spells before term) :
    outline.Spells after term := by
  induction outline generalizing term with
  | identifier name => exact spells
  | named name inner inductionHypothesis =>
      obtain ⟨mark, pattern, rfl, onInner⟩ := spells
      exact ⟨mark, pattern, rfl, inductionHypothesis onInner⟩
  | number value => exact spells
  | none => exact spells
  | nil => exact spells
  | list elements inductionHypothesis =>
      obtain ⟨cell, rfl, known, onElements⟩ := spells
      refine ⟨cell, rfl, Nat.lt_of_lt_of_le known keeps.size, ?_⟩
      rw [keeps.elements cell known]
      exact spellsAll_keeps (fun element member _ => inductionHypothesis element member) onElements
  | tuple elements inductionHypothesis =>
      obtain ⟨terms, held, known, onElements⟩ := spells
      refine ⟨terms, ?_, fun cell same => Nat.lt_of_lt_of_le (known cell same) keeps.size,
        spellsAll_keeps (fun element member _ => inductionHypothesis element member) onElements⟩
      cases term with
      | tuple cell =>
          simp only [Store.tupleElements?, keeps.elements cell (known cell rfl)]
          exact held
      | _ => exact held
  | headTail head tail onHead onTail =>
      obtain ⟨raw, mark, first, rest, rfl, spellsHead, spellsTail⟩ := spells
      exact ⟨raw, mark, first, rest, rfl, onHead spellsHead, onTail spellsTail⟩

end Outline

namespace Subject

variable {before after : Store} {mode : Mode} {subject : Subject}

theorem Presents.keeps
    (keeps : before.Keeps after)
    {shown : Term}
    (presents : subject.Presents before mode shown) :
    subject.Presents after mode shown := by
  cases subject with
  | term value => exact presents
  | rest elements =>
      obtain ⟨binding, cell, rfl, known, held⟩ := presents
      exact ⟨binding, cell, rfl, Nat.lt_of_lt_of_le known keeps.size,
        by rw [keeps.elements cell known, held]⟩
  | later outline => exact ⟨presents.1, presents.2.keeps keeps⟩

theorem PresentsAll.keeps
    (keeps : before.Keeps after)
    {subjects : List Subject}
    {terms : List Term}
    (presents : PresentsAll before mode subjects terms) :
    PresentsAll after mode subjects terms := by
  induction subjects generalizing terms with
  | nil => exact presents
  | cons subject others inductionHypothesis =>
      obtain ⟨first, rest, rfl, onFirst, onRest⟩ := presents
      exact ⟨first, rest, rfl, onFirst.keeps keeps, inductionHypothesis onRest⟩

theorem presentsAll_length
    {store : Store}
    {subjects : List Subject}
    {terms : List Term}
    (presents : PresentsAll store mode subjects terms) :
    terms.length = subjects.length := by
  induction subjects generalizing terms with
  | nil =>
      obtain rfl := presents
      rfl
  | cons subject others inductionHypothesis =>
      obtain ⟨first, rest, rfl, _, onRest⟩ := presents
      rw [List.length_cons, List.length_cons, inductionHypothesis onRest]

theorem list?_keeps
    (keeps : before.Keeps after)
    (sound : subject.Sound before) :
    subject.list? after = subject.list? before := by
  cases subject with
  | term value =>
      simp only [list?]
      split
      · rename_i cell same
        have known := Store.Holds.unquoted sound
        rw [same] at known
        rw [keeps.elements cell (known cell (by simp [Term.cells]))]
      · rfl
  | _ => rfl

theorem tuple?_keeps
    (keeps : before.Keeps after)
    (sound : subject.Sound before) :
    subject.tuple? after = subject.tuple? before := by
  cases subject with
  | term value => simp only [tuple?, keeps.tupleElements? (Store.Holds.unquoted sound)]
  | _ => rfl

theorem split?_keeps
    (keeps : before.Keeps after)
    (sound : subject.Sound before) :
    subject.split? after = subject.split? before := by
  cases subject with
  | term value =>
      simp only [split?]
      split
      · rename_i cell same
        have known := Store.Holds.unquoted sound
        rw [same] at known
        rw [keeps.elements cell (known cell (by simp [Term.cells]))]
      · rfl
  | _ => rfl

theorem sound_of_list?
    {store : Store}
    (closed : store.Closed)
    (sound : subject.Sound store)
    {subjects : List Subject}
    (elements : subject.list? store = some subjects) :
    ∀ element ∈ subjects, element.Sound store := by
  cases subject with
  | term value =>
      simp only [list?] at elements
      split at elements
      · rename_i cell _
        obtain rfl := Option.some.inj elements
        simpa [Sound] using closed cell
      · simp at elements
  | rest terms =>
      obtain rfl := Option.some.inj elements
      simpa [Sound] using sound
  | later outline =>
      simp only [list?] at elements
      split at elements
      · obtain rfl := Option.some.inj elements
        simp [Sound]
      · simp at elements

theorem sound_of_tuple?
    {store : Store}
    (closed : store.Closed)
    (sound : subject.Sound store)
    {subjects : List Subject}
    (elements : subject.tuple? store = some subjects) :
    ∀ element ∈ subjects, element.Sound store := by
  cases subject with
  | term value =>
      simp only [tuple?, Option.map_eq_some_iff] at elements
      obtain ⟨terms, found, rfl⟩ := elements
      simpa [Sound] using closed.tupleElements? (Store.Holds.unquoted sound) found
  | rest terms => simp [tuple?] at elements
  | later outline =>
      simp only [tuple?] at elements
      split at elements
      · obtain rfl := Option.some.inj elements
        simp [Sound]
      · simp at elements

theorem sound_of_split?
    {store : Store}
    (closed : store.Closed)
    (sound : subject.Sound store)
    {first rest : Subject}
    (parts : subject.split? store = some (first, rest)) :
    first.Sound store ∧ rest.Sound store := by
  cases subject with
  | term value =>
      simp only [split?] at parts
      split at parts
      · rename_i cell _
        have elements := closed cell
        split at parts
        · simp at parts
        · rename_i held
          obtain ⟨rfl, rfl⟩ := Prod.mk.inj (Option.some.inj parts)
          simpa [held, Sound] using elements
      · simp at parts
  | rest terms =>
      cases terms with
      | nil => simp [split?] at parts
      | cons head tail =>
          obtain ⟨rfl, rfl⟩ := Prod.mk.inj (Option.some.inj parts)
          simpa [Sound] using sound
  | later outline =>
      simp only [split?] at parts
      split at parts
      · obtain ⟨rfl, rfl⟩ := Prod.mk.inj (Option.some.inj parts)
        simp [Sound]
      · obtain ⟨rfl, rfl⟩ := Prod.mk.inj (Option.some.inj parts)
        simp [Sound]
      · simp at parts

end Subject
end PatternMachine
