import PatternMachine.Interpreter
import PatternMachine.Proofs.Pattern.Acceptance

/-!
# Layers around a term

Matching looks through quotes around a term and, where the term is the pattern of
a later clause, through the names given to it. Under these layers a term shows
what its subject is.
-/

namespace PatternMachine
namespace Evaluator

/-- Within a depth, a match of a term comes to a match of what it shows under a
number of layers, or the depth does not reach through them. -/
def Peels (mode : Mode) (pattern term shown : Term) (layers : Nat) : Prop :=
  ∀ depth machine,
    depth < layers ∧ (within depth).unify mode term pattern machine = .error .exhausted machine ∨
    ∃ level, depth = level + layers ∧
      (within depth).unify mode term pattern machine =
        (within level).unify mode shown pattern machine

namespace Peels

variable {mode : Mode} {pattern term shown : Term} {layers : Nat}

theorem refl : Peels mode pattern term term 0 :=
  fun depth _ => .inr ⟨depth, rfl, rfl⟩

/-- One more layer. -/
theorem layer
    {inner : Term}
    (through : ∀ self : Evaluator,
      self.unifyStep mode term pattern = self.unify mode inner pattern)
    (peels : Peels mode pattern inner shown layers) :
    Peels mode pattern term shown (layers + 1) := by
  intro depth machine
  cases depth with
  | zero => exact .inl ⟨Nat.succ_pos layers, rfl⟩
  | succ depth =>
      have step : (within (depth + 1)).unify mode term pattern =
          (within depth).unify mode inner pattern := through (within depth)
      rw [step]
      rcases peels depth machine with ⟨short, run⟩ | ⟨level, rfl, run⟩
      · exact .inl ⟨Nat.succ_lt_succ short, run⟩
      · exact .inr ⟨level, rfl, run⟩

end Peels

end Evaluator

namespace Term

/-- The number of quotes that matching looks through. -/
def quotes : Term -> Nat
  | quote (identifier _) => 0
  | quote (index _ _ _) => 0
  | quote inner => inner.quotes + 1
  | _ => 0

end Term

namespace Outline

/-- The number of names given to a whole pattern. -/
def wraps : Outline -> Nat
  | named _ inner => inner.wraps + 1
  | _ => 0

end Outline

namespace Evaluator

theorem peels_unquoted
    {mode : Mode}
    {pattern : Term}
    (core : pattern.isCore = true)
    (term : Term) :
    Peels mode pattern term term.unquoted term.quotes ∧ term.unquoted.transparent? = none := by
  fun_induction Term.unquoted term with
  | case1 name => exact ⟨.refl, rfl⟩
  | case2 mark subject selector => exact ⟨.refl, rfl⟩
  | case3 inner noIdentifier noIndex inductionHypothesis =>
      have transparent : (Term.quote inner).transparent? = some inner := by
        unfold Term.transparent?
        split <;> simp_all
      have count : (Term.quote inner).quotes = inner.quotes + 1 := by
        rw [Term.quotes] <;> assumption
      rw [count]
      exact ⟨inductionHypothesis.1.layer fun _ => unifyStep_transparent core transparent,
        inductionHypothesis.2⟩
  | case4 term noIdentifier noIndex noQuote =>
      have count : term.quotes = 0 := by
        unfold Term.quotes
        split <;> simp_all
      have solid : term.transparent? = none := by
        unfold Term.transparent?
        split <;> simp_all
      rw [count]
      exact ⟨.refl, solid⟩

theorem peels_bare
    {pattern : Term}
    (nameless : ∀ name, pattern ≠ .identifier name)
    (present : pattern.isAbsent = false)
    {store : Store}
    {outline : Outline}
    {term : Term}
    (spells : outline.Spells store term) :
    ∃ shown, Peels .covering pattern term shown outline.wraps ∧
      outline.bare.Spells store shown := by
  induction outline generalizing term with
  | named name inner inductionHypothesis =>
      obtain ⟨mark, inside, rfl, spellsInside⟩ := spells
      obtain ⟨shown, peels, spellsShown⟩ := inductionHypothesis spellsInside
      exact ⟨shown, peels.layer fun _ => unifyStep_unnamed nameless present, spellsShown⟩
  | _ => exact ⟨term, .refl, spells⟩

end Evaluator

/-! ## What a term shows -/

namespace Outline

variable {store : Store} {mode : Mode}

/-- A pattern with an outline is there and may be matched. -/
theorem spells_matchable
    {outline : Outline}
    {term : Term}
    (spells : outline.Spells store term) :
    term.isAbsent = false ∧ Evaluator.isMatchable term = true := by
  cases outline with
  | identifier name => rw [spells]; exact ⟨rfl, rfl⟩
  | named name inner =>
      obtain ⟨mark, pattern, rfl, _⟩ := spells
      exact ⟨rfl, rfl⟩
  | number value => cases term <;> first | exact ⟨rfl, rfl⟩ | simp [Spells, Term.isCore] at spells
  | none => rw [spells]; exact ⟨rfl, rfl⟩
  | nil => rw [spells]; exact ⟨rfl, rfl⟩
  | list elements =>
      obtain ⟨cell, rfl, _, _⟩ := spells
      exact ⟨rfl, rfl⟩
  | tuple elements =>
      obtain ⟨terms, held, _, _⟩ := spells
      cases term <;> first | exact ⟨rfl, rfl⟩ | simp [Store.tupleElements?] at held
  | headTail head tail =>
      obtain ⟨raw, mark, first, rest, rfl, _, _⟩ := spells
      exact ⟨rfl, rfl⟩

theorem presentsAll_later
    {outlines : List Outline}
    {terms : List Term}
    (spells : SpellsAll store outlines terms) :
    Subject.PresentsAll store .covering (outlines.map .later) terms := by
  induction outlines generalizing terms with
  | nil => exact spells
  | cons outline rest inductionHypothesis =>
      obtain ⟨first, others, rfl, onFirst, onOthers⟩ := spells
      exact ⟨first, others, rfl, ⟨rfl, onFirst⟩, inductionHypothesis onOthers⟩

end Outline

namespace Subject

theorem presentsAll_term
    (store : Store)
    (terms : List Term) :
    PresentsAll store .binding (terms.map .term) terms := by
  induction terms with
  | nil => rfl
  | cons first others inductionHypothesis =>
      exact ⟨first, others, rfl, ⟨.inl rfl, rfl⟩, inductionHypothesis⟩

/-- The layers around a subject that matching looks through. -/
def layers : Subject -> Nat
  | term value => value.quotes
  | rest _ => 0
  | later outline => outline.wraps

/-- A term under all layers shows what its subject is. -/
structure Shows (store : Store) (mode : Mode) (subject : Subject) (shown : Term) : Prop where
  direct : shown.isDirect mode = true
  solid : shown.transparent? = none
  number : shown.number? = subject.number?
  isNone : subject.isNone = true ↔ shown = .none
  isNil : subject.isNil = true ↔ shown = .nil
  list : ∀ subjects, subject.list? store = some subjects ->
    ∃ cell, shown = .list cell ∧ PresentsAll store mode subjects (store.elements cell).toList
  noList : subject.list? store = none -> ∀ cell, shown ≠ .list cell
  tuple : ∀ subjects, subject.tuple? store = some subjects ->
    ∃ terms, store.tupleElements? shown = some terms ∧ PresentsAll store mode subjects terms
  noTuple : subject.tuple? store = none -> store.tupleElements? shown = none
  split : ∀ first rest, subject.split? store = some (first, rest) ->
    (∃ cell head tail, shown = .list cell ∧ (store.elements cell).toList = head :: tail ∧
      first.Presents store mode head ∧
      ∀ larger cell, store.Keeps larger -> cell.place < larger.cells.size ->
        (larger.elements cell).toList = tail -> rest.Presents larger mode (.list cell)) ∨
    ∃ raw mark head tail, mode = .covering ∧ shown = .headTail raw mark head tail ∧
      first.Presents store mode head ∧ rest.Presents store mode tail
  noSplit : subject.split? store = none ->
    (∀ cell, shown = .list cell -> (store.elements cell).toList = []) ∧
      (mode = .covering -> ∀ raw mark head tail, shown ≠ .headTail raw mark head tail)

theorem shows_term
    (store : Store)
    (value : Term)
    (solid : value.unquoted.transparent? = none) :
    Shows store .binding (.term value) value.unquoted where
  direct := rfl
  solid := solid
  number := rfl
  isNone := by simp only [isNone]; split <;> simp_all
  isNil := by simp only [isNil]; split <;> simp_all
  list subjects found := by
    simp only [list?] at found
    split at found
    · rename_i cell same
      obtain rfl := Option.some.inj found
      exact ⟨cell, same, presentsAll_term store _⟩
    · simp at found
  noList missing cell same := by simp [list?, same] at missing
  tuple subjects found := by
    simp only [tuple?, Option.map_eq_some_iff] at found
    obtain ⟨terms, elements, rfl⟩ := found
    exact ⟨terms, elements, presentsAll_term store terms⟩
  noTuple missing := by simpa [tuple?] using missing
  split first rest found := by
    simp only [split?] at found
    split at found
    · rename_i cell same
      split at found
      · simp at found
      · rename_i head tail held
        obtain ⟨rfl, rfl⟩ := Prod.mk.inj (Option.some.inj found)
        refine .inl ⟨cell, head, tail, same, held, ⟨.inl rfl, rfl⟩, ?_⟩
        intro larger other _ known elements
        exact ⟨rfl, other, rfl, known, elements⟩
    · simp at found
  noSplit missing := by
    refine ⟨fun cell same => ?_, by simp⟩
    simp only [split?, same] at missing
    split at missing
    · assumption
    · simp at missing

/-- A text or a type shows nothing of what patterns with a rule of their own look
for. -/
theorem shows_sealed
    (store : Store)
    (mode : Mode)
    {value : Term}
    (isSealed : value.isSealed = true) :
    Shows store mode (.term value) value := by
  cases value <;> simp [Term.isSealed] at isSealed <;>
    constructor <;> simp [number?, isNone, isNil, list?, tuple?, split?, Term.isDirect,
      Term.transparent?, Term.number?, Term.unquoted, Store.tupleElements?]

theorem shows_rest
    {store : Store}
    {elements : List Term}
    {shown : Term}
    (presents : (rest elements).Presents store .binding shown) :
    Shows store .binding (.rest elements) shown := by
  obtain ⟨_, cell, rfl, known, rfl⟩ := presents
  exact {
    direct := rfl
    solid := rfl
    number := rfl
    isNone := by simp [isNone]
    isNil := by simp [isNil]
    list := fun subjects found => by
      obtain rfl := Option.some.inj found
      exact ⟨cell, rfl, presentsAll_term store _⟩
    noList := by simp [list?]
    tuple := by simp [tuple?]
    noTuple := fun _ => rfl
    split := fun first rest found => by
      simp only [split?] at found
      split at found
      · simp at found
      · rename_i head tail held
        obtain ⟨rfl, rfl⟩ := Prod.mk.inj (Option.some.inj found)
        refine .inl ⟨cell, head, tail, rfl, held, ⟨.inl rfl, rfl⟩, ?_⟩
        intro larger other _ known elements
        exact ⟨rfl, other, rfl, known, elements⟩
    noSplit := fun missing => by
      refine ⟨fun other same => ?_, by simp⟩
      obtain rfl := Term.list.inj same
      simp only [split?] at missing
      split at missing
      · assumption
      · simp at missing }

theorem shows_later
    {store : Store}
    {outline : Outline}
    {shown : Term}
    (spells : outline.bare.Spells store shown) :
    Shows store .covering (.later outline) shown := by
  cases shape : outline.bare with
  | identifier name =>
      rw [shape] at spells
      obtain rfl := spells
      constructor <;> simp [number?, isNone, isNil, list?, tuple?, split?, shape, Term.isDirect,
        Term.transparent?, Term.number?, Outline.number?, Store.tupleElements?]
  | named name inner => exact absurd shape (Outline.bare_ne_named _ _ _)
  | number value =>
      rw [shape] at spells
      obtain ⟨core, same⟩ := spells
      cases shown <;> simp [Term.isCore, Term.number?] at core same <;>
        constructor <;> simp [number?, isNone, isNil, list?, tuple?, split?, shape, Term.isDirect,
          Term.transparent?, Term.number?, Outline.number?, Store.tupleElements?, same]
  | none =>
      rw [shape] at spells
      obtain rfl := spells
      constructor <;> simp [number?, isNone, isNil, list?, tuple?, split?, shape, Term.isDirect,
        Term.transparent?, Term.number?, Outline.number?, Store.tupleElements?]
  | nil =>
      rw [shape] at spells
      obtain rfl := spells
      constructor <;> simp [number?, isNone, isNil, list?, tuple?, split?, shape, Term.isDirect,
        Term.transparent?, Term.number?, Outline.number?, Store.tupleElements?]
  | list elements =>
      rw [shape] at spells
      obtain ⟨cell, rfl, known, spellsAll⟩ := spells
      exact {
        direct := rfl
        solid := rfl
        number := by simp [number?, shape, Term.number?, Outline.number?]
        isNone := by simp [isNone, shape]
        isNil := by simp [isNil, shape]
        list := fun subjects found => by
          simp only [list?, shape, Option.some.injEq] at found
          obtain rfl := found
          exact ⟨cell, rfl, Outline.presentsAll_later spellsAll⟩
        noList := by simp [list?, shape]
        tuple := by simp [tuple?, shape]
        noTuple := fun _ => rfl
        split := fun first rest found => by
          cases elements with
          | nil => simp [split?, shape] at found
          | cons head tail =>
              simp only [split?, shape, Option.some.injEq, Prod.mk.injEq] at found
              obtain ⟨rfl, rfl⟩ := found
              obtain ⟨term, terms, held, spellsHead, spellsTail⟩ := spellsAll
              refine .inl ⟨cell, term, terms, rfl, held, ⟨rfl, spellsHead⟩, ?_⟩
              intro larger other keeps otherKnown same
              refine ⟨rfl, other, rfl, otherKnown, ?_⟩
              rw [same]
              exact Outline.spellsAll_keeps (fun _ _ _ spells => spells.keeps keeps) spellsTail
        noSplit := fun missing => by
          cases elements with
          | nil =>
              refine ⟨fun other same => ?_, by simp⟩
              obtain rfl := Term.list.inj same
              exact spellsAll
          | cons head tail => simp [split?, shape] at missing }
  | tuple elements =>
      rw [shape] at spells
      obtain ⟨terms, held, _, spellsAll⟩ := spells
      have presentsAll := Outline.presentsAll_later spellsAll
      cases shown <;> simp [Store.tupleElements?] at held <;>
        constructor <;> simp [number?, isNone, isNil, list?, tuple?, split?, shape, Term.isDirect,
          Term.transparent?, Term.number?, Outline.number?, Store.tupleElements?, held, presentsAll]
  | headTail head tail =>
      rw [shape] at spells
      obtain ⟨raw, mark, first, rest, rfl, spellsHead, spellsTail⟩ := spells
      exact {
        direct := rfl
        solid := rfl
        number := by simp [number?, shape, Term.number?, Outline.number?]
        isNone := by simp [isNone, shape]
        isNil := by simp [isNil, shape]
        list := by simp [list?, shape]
        noList := by simp
        tuple := by simp [tuple?, shape]
        noTuple := fun _ => rfl
        split := fun first rest found => by
          simp only [split?, shape, Option.some.injEq, Prod.mk.injEq] at found
          obtain ⟨rfl, rfl⟩ := found
          exact .inr ⟨raw, mark, _, _, rfl, rfl, ⟨rfl, spellsHead⟩, ⟨rfl, spellsTail⟩⟩
        noSplit := by simp [split?, shape] }

/-- Under its layers, the term that stands for a subject shows what the subject
is, to any pattern with a rule of its own. -/
theorem shows_of_presents
    {store : Store}
    {mode : Mode}
    {subject : Subject}
    {term : Term}
    (pattern : Term)
    (core : pattern.isCore = true)
    (presents : subject.Presents store mode term) :
    ∃ shown, Evaluator.Peels mode pattern term shown subject.layers ∧
      Shows store mode subject shown := by
  cases subject with
  | term value =>
      obtain ⟨rfl | isSealed, rfl⟩ := presents
      · obtain ⟨peels, solid⟩ := Evaluator.peels_unquoted core term
        exact ⟨term.unquoted, peels, shows_term store term solid⟩
      · have noQuotes : (Subject.term term).layers = 0 := by
          cases term <;> first | rfl | simp [Term.isSealed] at isSealed
        rw [noQuotes]
        exact ⟨term, .refl, shows_sealed store mode isSealed⟩
  | rest elements =>
      obtain ⟨rfl, _⟩ := id presents
      exact ⟨term, .refl, shows_rest presents⟩
  | later outline =>
      obtain ⟨rfl, spells⟩ := presents
      have shape : (∀ name, pattern ≠ .identifier name) ∧ pattern.isAbsent = false := by
        cases pattern <;> simp_all [Term.isCore, Term.isAbsent]
      obtain ⟨shown, peels, spellsShown⟩ := Evaluator.peels_bare shape.1 shape.2 spells
      exact ⟨shown, peels, shows_later spellsShown⟩

/-! ## Names around a later pattern -/

/-- A subject without the names given to a whole later pattern. -/
def bare : Subject -> Subject
  | later outline => later outline.bare
  | subject => subject

/-- The names given to a whole later pattern. -/
def wraps : Subject -> Nat
  | later outline => outline.wraps
  | _ => 0

theorem Sound.bare
    {store : Store}
    {subject : Subject}
    (sound : subject.Sound store) :
    subject.bare.Sound store := by
  cases subject <;> exact sound

theorem isMatchable_bare (subject : Subject) : subject.bare.isMatchable = subject.isMatchable := by
  cases subject <;> rfl

theorem Presents.isAbsent
    {store : Store}
    {mode : Mode}
    {subject : Subject}
    {term : Term}
    (presents : subject.Presents store mode term) :
    term.isAbsent = !subject.isPresent := by
  cases subject with
  | term value =>
      obtain ⟨_, rfl⟩ := presents
      simp [isPresent]
  | rest elements =>
      obtain ⟨_, cell, rfl, _, _⟩ := presents
      rfl
  | later outline => exact (Outline.spells_matchable presents.2).1

/-- A pattern that is compared is there and may be matched. -/
theorem Presents.covering
    {store : Store}
    {subject : Subject}
    {term : Term}
    (presents : subject.Presents store .covering term) :
    subject.isPresent = true ∧ subject.isMatchable = true := by
  cases subject with
  | term value =>
      obtain ⟨impossible | isSealed, rfl⟩ := presents
      · simp at impossible
      · cases term <;> simp [Term.isSealed] at isSealed <;> exact ⟨rfl, rfl⟩
  | rest elements => simp [Presents] at presents
  | later outline => exact ⟨rfl, rfl⟩

/-- Under its names, the term that stands for a subject may be matched by a named
pattern if the subject may. -/
theorem bare_of_presents
    {store : Store}
    {mode : Mode}
    {subject : Subject}
    {term : Term}
    (pattern : Term)
    (nameless : ∀ name, pattern ≠ .identifier name)
    (present : pattern.isAbsent = false)
    (presents : subject.Presents store mode term) :
    ∃ shown, Evaluator.Peels mode pattern term shown subject.wraps ∧
      subject.bare.Presents store mode shown ∧ shown.isDirect mode = true ∧
      (!shown.isAbsent && Evaluator.isMatchable shown) = subject.isMatchable := by
  cases subject with
  | term value =>
      obtain ⟨allowed, rfl⟩ := presents
      refine ⟨term, .refl, ⟨allowed, rfl⟩, ?_, rfl⟩
      rcases allowed with rfl | isSealed
      · rfl
      · exact (shows_sealed store mode isSealed).direct
  | rest elements =>
      obtain ⟨rfl, cell, rfl, known, held⟩ := presents
      exact ⟨_, .refl, ⟨rfl, cell, rfl, known, held⟩, rfl, rfl⟩
  | later outline =>
      obtain ⟨rfl, spells⟩ := presents
      obtain ⟨shown, peels, spellsShown⟩ := Evaluator.peels_bare nameless present spells
      have shows := shows_later spellsShown
      refine ⟨shown, peels, ⟨rfl, spellsShown⟩, shows.direct, ?_⟩
      obtain ⟨there, matchable⟩ := Outline.spells_matchable spellsShown
      rw [there, matchable]
      rfl

end Subject

namespace Outline

theorem bare_bare (outline : Outline) : outline.bare.bare = outline.bare := by
  induction outline with
  | named name inner inductionHypothesis => exact inductionHypothesis
  | _ => rfl

/-- Acceptance looks through the names given to a whole later pattern. -/
theorem accepts_bare_subject
    (store : Store)
    (outline : Outline)
    (subject : Subject) :
    outline.accepts store subject.bare = outline.accepts store subject := by
  cases subject with
  | later later =>
      induction outline with
      | named name inner inductionHypothesis =>
          simp only [accepts, inductionHypothesis, Subject.isMatchable_bare]
      | _ =>
          simp only [accepts, Subject.bare, Subject.isPresent, Subject.number?, Subject.isNone,
            Subject.isNil, Subject.list?, Subject.tuple?, Subject.split?, bare_bare]
  | _ => rfl

end Outline
end PatternMachine
