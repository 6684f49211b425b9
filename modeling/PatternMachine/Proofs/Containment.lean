import PatternMachine.Proofs.Reachable

/-!
# What can be met in a term

A term is made of other terms: those written in it, and the elements of the
cells it refers to. What can be met in it is found by going from terms to terms
inside them. Cells that stay as they are leave all of that as it is.
-/

namespace PatternMachine
namespace Term

/-- The terms one step inside a term. An object holds its struct as well. -/
def contents (store : Store) : Term -> List Term
  | .object (some template) memory => .struct template :: (store.elements memory).toList
  | term => term.parts store

/-- The patterns one step inside a pattern whose bindings it yields. -/
def yielding (store : Store) : Term -> List Term
  | .list cell => (store.elements cell).toList
  | .tuple cell => (store.elements cell).toList
  | .pair first second => [first, second]
  | .headTail _ _ head tail => [head, tail]
  | .apply _ _ argument => [argument]
  | .conditional _ _ consequent _ => [consequent]
  | .named _ _ pattern => [pattern]
  | .quote pattern => [pattern]
  | .object _ memory => (store.elements memory).toList
  | _ => []

/-- The patterns one step inside a pattern. A constraint drops the bindings of the
pattern inside. -/
def subpatterns (store : Store) : Term -> List Term
  | .constraint _ pattern => [pattern]
  | pattern => pattern.yielding store

/-- Whether the cells a term refers to are in the store. -/
def isPlaced (store : Store) : Term -> Bool
  | .list cell => cell.place < store.cells.size
  | .tuple cell => cell.place < store.cells.size
  | .struct template => template.memory.place < store.cells.size
  | .object _ memory => memory.place < store.cells.size
  | _ => true

/-- The terms that are met from a term on, going from each to the next ones. -/
inductive Reaches (next : Term -> List Term) (root : Term) : Term -> Prop
  | here : Reaches next root root
  | inside {term part : Term} (outer : Reaches next root term) (held : part ∈ next term) :
      Reaches next root part

namespace Reaches

variable {next other : Term -> List Term} {root middle term : Term}

/-- What can be met from a term that can be met can be met. -/
theorem trans
    (outer : Reaches next root middle)
    (inner : Reaches next middle term) :
    Reaches next root term := by
  induction inner with
  | here => exact outer
  | inside _ held inductionHypothesis => exact inductionHypothesis.inside held

/-- What can be met inside the next term can be met. -/
theorem onwards
    (held : middle ∈ next root)
    (inner : Reaches next middle term) :
    Reaches next root term :=
  (here.inside held).trans inner

/-- What can be met is the term itself, or can be met from a next one. -/
theorem here_or_onwards (reaches : Reaches next root term) :
    term = root ∨ ∃ first ∈ next root, Reaches next first term := by
  induction reaches with
  | here => exact .inl rfl
  | inside outer held inductionHypothesis =>
      rcases inductionHypothesis with rfl | ⟨first, inside, reaches⟩
      · exact .inr ⟨_, held, .here⟩
      · exact .inr ⟨first, inside, reaches.inside held⟩

/-- Terms that lead to nothing but each other are all that can be met from them. -/
theorem mem_of_closed
    (terms : List Term)
    (closed : ∀ term ∈ terms, ∀ part ∈ next term, part ∈ terms)
    (present : root ∈ terms)
    (reaches : Reaches next root term) :
    term ∈ terms := by
  induction reaches with
  | here => exact present
  | inside _ held inductionHypothesis => exact closed _ inductionHypothesis _ held

/-- More can be met where terms lead on to more. -/
theorem mono
    (more : ∀ outer, ∀ part ∈ next outer, part ∈ other outer)
    (reaches : Reaches next root term) :
    Reaches other root term := by
  induction reaches with
  | here => exact here
  | inside _ held inductionHypothesis => exact inductionHypothesis.inside (more _ _ held)

/-- What can be met is the same as long as the terms that are met lead on alike. -/
theorem of_alike
    (alike : ∀ term, Reaches next root term -> other term = next term)
    (reaches : Reaches other root term) :
    Reaches next root term := by
  induction reaches with
  | here => exact here
  | inside _ held inductionHypothesis =>
      rw [alike _ inductionHypothesis] at held
      exact inductionHypothesis.inside held

end Reaches
end Term

/-- The terms that can be met inside a term. -/
abbrev Store.Reaches (store : Store) : Term -> Term -> Prop :=
  Term.Reaches (Term.contents store)

namespace Store

variable {before after : Store} {term : Term}

/-- A term whose cells are kept holds what it held. -/
theorem contents_keeps
    (keeps : before.Keeps after)
    (placed : term.isPlaced before = true) :
    term.contents after = term.contents before := by
  cases term with
  | list cell =>
      simp [Term.contents, Term.parts, keeps.elements cell (of_decide_eq_true placed)]
  | tuple cell =>
      simp [Term.contents, Term.parts, keeps.elements cell (of_decide_eq_true placed)]
  | struct template =>
      simp [Term.contents, Term.parts, keeps.elements template.memory (of_decide_eq_true placed)]
  | object template memory =>
      cases template <;>
        simp [Term.contents, Term.parts, keeps.elements memory (of_decide_eq_true placed)]
  | _ => rfl

theorem isPlaced_keeps
    (keeps : before.Keeps after)
    (placed : term.isPlaced before = true) :
    term.isPlaced after = true := by
  cases term with
  | list cell => exact decide_eq_true (Nat.lt_of_lt_of_le (of_decide_eq_true placed) keeps.size)
  | tuple cell => exact decide_eq_true (Nat.lt_of_lt_of_le (of_decide_eq_true placed) keeps.size)
  | struct template =>
      exact decide_eq_true (Nat.lt_of_lt_of_le (of_decide_eq_true placed) keeps.size)
  | object template memory =>
      exact decide_eq_true (Nat.lt_of_lt_of_le (of_decide_eq_true placed) keeps.size)
  | _ => rfl

/-- A list or tuple whose cell is kept has the elements it had. -/
theorem sequenceElements?_keeps
    (keeps : before.Keeps after)
    (placed : term.isPlaced before = true) :
    after.sequenceElements? term = before.sequenceElements? term := by
  cases term with
  | list cell => rw [sequenceElements?, keeps.elements cell (of_decide_eq_true placed)]; rfl
  | tuple cell => rw [sequenceElements?, keeps.elements cell (of_decide_eq_true placed)]; rfl
  | _ => rfl

/-- The elements of a term stand where they stood. -/
theorem sites_keeps
    (keeps : before.Keeps after)
    (placed : term.isPlaced before = true) :
    after.sites term = before.sites term := by
  cases term with
  | list cell =>
      simp [sites, places, keeps.elements cell (of_decide_eq_true placed)]
  | tuple cell =>
      simp [sites, places, keeps.elements cell (of_decide_eq_true placed)]
  | object owner memory =>
      simp [sites, places, keeps.elements memory (of_decide_eq_true placed)]
  | _ => rfl

/-- As long as no cell changes, what is found where the elements of a term stand is
one of them. -/
theorem find_yielding
    (term : Term)
    {site : Site}
    (held : site ∈ before.sites term)
    (keeps : before.Keeps after) :
    after.find site ∈ term.yielding before := by
  have found : ∀ {terms : List Term}, before.Spreads (before.sites term) terms ->
      after.find site ∈ terms := by
    intro terms spreads
    rw [← spreads after keeps]
    exact List.mem_map_of_mem held
  cases term with
  | list cell => exact found (before.spreads_places cell)
  | tuple cell => exact found (before.spreads_places cell)
  | pair first second => exact found (before.spreads_given [first, second])
  | object owner memory => exact found (before.spreads_places memory)
  | _ => simp [sites] at held

end Store

/-- Patterns whose bindings are yielded are patterns inside. -/
theorem Term.mem_subpatterns_of_yielding
    {store : Store}
    {pattern part : Term}
    (held : part ∈ pattern.yielding store) :
    part ∈ pattern.subpatterns store := by
  cases pattern <;> first | exact held | simp [Term.yielding] at held

/-! ## Terms made of one kind of terms -/

namespace Store

/-- All that can be met in a term, going through the patterns or values inside, is of
the given kind and has its cells in the store. -/
def Consists (store : Store) (kind : Term -> Bool) (term : Term) : Prop :=
  ∀ part, Term.Reaches (Term.yielding store) term part ->
    kind part = true ∧ part.isPlaced store = true

variable {store before after : Store} {kind : Term -> Bool} {term : Term}

theorem yielding_keeps
    (keeps : before.Keeps after)
    (placed : term.isPlaced before = true) :
    term.yielding after = term.yielding before := by
  cases term with
  | list cell => simp [Term.yielding, keeps.elements cell (of_decide_eq_true placed)]
  | tuple cell => simp [Term.yielding, keeps.elements cell (of_decide_eq_true placed)]
  | object owner memory => simp [Term.yielding, keeps.elements memory (of_decide_eq_true placed)]
  | _ => rfl

theorem Consists.keeps
    (consists : before.Consists kind term)
    (keeps : before.Keeps after) :
    after.Consists kind term := by
  intro part reaches
  have reached : Term.Reaches (Term.yielding before) term part :=
    reaches.of_alike fun part inside => yielding_keeps keeps (consists part inside).2
  exact ⟨(consists part reached).1, isPlaced_keeps keeps (consists part reached).2⟩

/-- A term of the kind consists of what its parts consist of. -/
theorem Consists.of_parts
    (is : kind term = true)
    (placed : term.isPlaced store = true)
    (parts : ∀ part ∈ term.yielding store, store.Consists kind part) :
    store.Consists kind term := by
  intro part reaches
  rcases reaches.here_or_onwards with rfl | ⟨first, inside, reaches⟩
  · exact ⟨is, placed⟩
  · exact parts first inside part reaches

theorem Consists.part
    {part : Term}
    (consists : store.Consists kind term)
    (held : part ∈ term.yielding store) :
    store.Consists kind part :=
  fun inner reaches => consists inner (reaches.onwards held)

end Store

end PatternMachine
