import PatternMachine.Proofs.Containment
import PatternMachine.Proofs.Equality

/-!
# What a term shows

The tree of a term shows the terms written in it and the elements of its cells, level by
level. A term that shows certain kinds only, in cells that are in the store, shows the same
tree as long as no cell changes. Where that tree is finite and shows no real, equality is an
equivalence, and two terms stay equal, or unequal, as long as no cell changes.
-/

namespace PatternMachine

/-- The terms one step inside a term that its tree shows. A struct shows its name only, and a
method that of its receiver. -/
def Term.visible (store : Store) : Term -> List Term
  | .struct _ => []
  | .method _ _ body => [body]
  | term => term.contents store

/-- What the tree of a term goes on with shows. -/
theorem Term.visible_of_branches
    {store : Store}
    {term part : Term}
    (held : part ∈ term.branches store false) :
    part ∈ term.visible store := by
  cases term with
  | object template memory =>
      cases template with
      | none => exact held
      | some template => exact List.mem_cons_of_mem _ held
  | struct => cases held
  | _ => exact held

/-- The tree of a pattern goes on with the patterns one step inside. -/
theorem Term.branches_of_subpatterns
    {store : Store}
    {term part : Term}
    (held : part ∈ term.subpatterns store) :
    part ∈ term.branches store false := by
  cases term <;> simp_all [subpatterns, yielding, branches]

namespace Store

/-- Only terms of certain kinds show in a term, and all cells that show are in the store. -/
def ShowsOnly (store : Store) (kinds : Kind -> Prop) (term : Term) : Prop :=
  ∀ part, Term.Reaches (Term.visible store) term part ->
    kinds part.kind ∧ part.isPlaced store = true

variable {store before after : Store} {kinds : Kind -> Prop} {term : Term}

theorem visible_keeps
    (keeps : before.Keeps after)
    (placed : term.isPlaced before = true) :
    term.visible after = term.visible before := by
  cases term with
  | struct => rfl
  | method => rfl
  | _ => exact contents_keeps keeps placed

namespace ShowsOnly

theorem part
    {part : Term}
    (shows : store.ShowsOnly kinds term)
    (held : part ∈ term.visible store) :
    store.ShowsOnly kinds part :=
  fun inner reaches => shows inner (reaches.onwards held)

/-- A term of one of the kinds shows no other kinds if its parts show none. -/
theorem of_parts
    (own : kinds term.kind)
    (placed : term.isPlaced store = true)
    (parts : ∀ part ∈ term.visible store, store.ShowsOnly kinds part) :
    store.ShowsOnly kinds term := by
  intro part reaches
  rcases reaches.here_or_onwards with rfl | ⟨first, inside, reaches⟩
  · exact ⟨own, placed⟩
  · exact parts first inside part reaches

theorem keeps
    (shows : before.ShowsOnly kinds term)
    (keeps : before.Keeps after) :
    after.ShowsOnly kinds term := by
  intro part reaches
  have reached : Term.Reaches (Term.visible before) term part :=
    reaches.of_alike fun part inside => visible_keeps keeps (shows part inside).2
  exact ⟨(shows part reached).1, isPlaced_keeps keeps (shows part reached).2⟩

/-- What the tree of a term goes on with stays the same as long as no cell changes. -/
theorem branches_keeps
    (shows : before.ShowsOnly kinds term)
    (keeps : before.Keeps after) :
    term.branches after false = term.branches before false := by
  have placed := (shows term .here).2
  cases term with
  | list cell => exact congrArg Array.toList (keeps.elements cell (of_decide_eq_true placed))
  | tuple cell => exact congrArg Array.toList (keeps.elements cell (of_decide_eq_true placed))
  | object template memory =>
      exact congrArg Array.toList (keeps.elements memory (of_decide_eq_true placed))
  | _ => rfl

/-- The top of the tree of a term stays the same as long as no cell changes. -/
theorem shape_keeps
    (shows : before.ShowsOnly kinds term)
    (keeps : before.Keeps after) :
    term.shape after = term.shape before := by
  cases term with
  | object template memory =>
      have placed := (shows _ .here).2
      cases template with
      | none => simp [Term.shape, keeps.elements memory (of_decide_eq_true placed)]
      | some template =>
          -- The places of the data members are read in the memory of the struct.
          have known : (Term.struct template).isPlaced before = true :=
            (shows _ (Term.Reaches.here.inside List.mem_cons_self)).2
          simp [Term.shape, dataSlots, dataPlaces,
            keeps.elements template.memory (of_decide_eq_true known)]
  | _ => rfl

/-- The tree of a term stays the same as long as no cell changes. -/
theorem expand_keeps
    (shows : before.ShowsOnly kinds term)
    (keeps : before.Keeps after)
    (depth : Nat) :
    after.expand false depth term = before.expand false depth term := by
  induction depth generalizing term with
  | zero => rfl
  | succ depth inductionHypothesis =>
      rw [expand, expand, shows.branches_keeps keeps, shows.shape_keeps keeps,
        List.mapM_congr_of_mem fun part held =>
          inductionHypothesis (shows.part (Term.visible_of_branches held))]

end ShowsOnly
end Store

/-! ## Terms without reals -/

/-- Trees none of which shows a real show none. -/
theorem Tree.areExact_of_forall
    {trees : List Tree}
    (each : ∀ tree ∈ trees, tree.isExact = true) :
    areExact trees = true := by
  induction trees with
  | nil => rfl
  | cons tree rest inductionHypothesis =>
      obtain ⟨exactFirst, exactRest⟩ := List.forall_mem_cons.mp each
      exact (Bool.and_eq_true _ _).mpr ⟨exactFirst, inductionHypothesis exactRest⟩

/-- The top of the tree of a term that is no real is none. -/
theorem Term.isExact_shape
    {term : Term}
    (notReal : term.kind ≠ .real)
    (store : Store) :
    (term.shape store).isExact = true := by
  cases term with
  | real => exact absurd rfl notReal
  | _ => rfl

namespace Store

/-- The term has a finite tree, no real shows in it, and all cells that show are in the
store. -/
structure IsDiscrete (store : Store) (term : Term) : Prop where
  shows : store.ShowsOnly (· ≠ .real) term
  finite : store.IsFinite term

variable {store before after : Store} {left middle right term : Term}

namespace IsDiscrete

theorem placed (discrete : store.IsDiscrete term) : term.isPlaced store = true :=
  (discrete.shows term .here).2

/-- What has no parts that show is discrete, unless it is a real. -/
theorem of_leaf
    (notReal : term.kind ≠ .real)
    (placed : term.isPlaced store = true)
    (alone : term.visible store = []) :
    store.IsDiscrete term := by
  refine ⟨.of_parts notReal placed fun part inside => ?_, 1, .node (term.shape store) [], ?_⟩
  · rw [alone] at inside
    cases inside
  · refine expand_succ_eq_some.mpr ⟨[], ?_, rfl⟩
    have none : term.branches store false = [] :=
      List.eq_nil_iff_forall_not_mem.mpr fun part held =>
        List.not_mem_nil (alone ▸ Term.visible_of_branches held)
    rw [none]
    rfl

/-- A list of discrete elements is discrete. -/
theorem of_list
    {cell : CellRef}
    (known : cell.place < store.cells.size)
    (each : ∀ element ∈ (store.elements cell).toList, store.IsDiscrete element) :
    store.IsDiscrete (.list cell) := by
  refine ⟨.of_parts (by simp [Term.kind]) (decide_eq_true known)
    fun part inside => (each part inside).shows, ?_⟩
  obtain ⟨depth, parts, shown⟩ := IsFinite.all fun element inside => (each element inside).finite
  exact ⟨depth + 1, _, expand_succ_eq_some.mpr ⟨parts, shown, rfl⟩⟩

theorem part
    {part : Term}
    (discrete : store.IsDiscrete term)
    (held : part ∈ term.branches store false) :
    store.IsDiscrete part :=
  ⟨discrete.shows.part (Term.visible_of_branches held), discrete.finite.part held⟩

/-- The elements of a discrete list or tuple are discrete. -/
theorem elements
    {elements : List Term}
    (discrete : store.IsDiscrete term)
    (sequence : store.sequenceElements? term = some elements) :
    ∀ element ∈ elements, store.IsDiscrete element := by
  cases term with
  | list cell =>
      obtain rfl := Option.some.inj sequence
      exact fun _ => discrete.part
  | tuple cell =>
      obtain rfl := Option.some.inj sequence
      exact fun _ => discrete.part
  | _ => cases sequence

theorem keeps
    (discrete : before.IsDiscrete term)
    (keeps : before.Keeps after) :
    after.IsDiscrete term := by
  obtain ⟨depth, tree, shown⟩ := discrete.finite
  refine ⟨discrete.shows.keeps keeps, depth, tree, ?_⟩
  rwa [discrete.shows.expand_keeps keeps]

theorem isExact_of_expand
    {depth : Nat}
    {tree : Tree}
    (shows : store.ShowsOnly (· ≠ .real) term)
    (shown : store.expand false depth term = some tree) :
    tree.isExact = true := by
  induction depth generalizing term tree with
  | zero => cases shown
  | succ depth inductionHypothesis =>
      obtain ⟨parts, shownParts, rfl⟩ := expand_succ_eq_some.mp shown
      have exactHere := Term.isExact_shape (shows term .here).1 store
      refine (Bool.and_eq_true _ _).mpr ⟨exactHere, Tree.areExact_of_forall fun part held => ?_⟩
      obtain ⟨inside, member, found⟩ := List.exists_of_mem_mapM shownParts held
      exact inductionHypothesis (shows.part (Term.visible_of_branches member)) found

theorem isExact (discrete : store.IsDiscrete term) : store.IsExact term := by
  obtain ⟨depth, tree, shown⟩ := discrete.finite
  exact ⟨depth, tree, shown, isExact_of_expand discrete.shows shown⟩

/-- Discrete terms stay equal, or unequal, as long as no cell changes. -/
theorem equal_keeps
    (leftDiscrete : before.IsDiscrete left)
    (rightDiscrete : before.IsDiscrete right)
    (keeps : before.Keeps after) :
    after.equal left right = before.equal left right := by
  obtain ⟨_, _, leftShown⟩ := leftDiscrete.finite
  obtain ⟨_, _, rightShown⟩ := rightDiscrete.finite
  have leftLater := leftShown
  have rightLater := rightShown
  rw [← leftDiscrete.shows.expand_keeps keeps] at leftLater
  rw [← rightDiscrete.shows.expand_keeps keeps] at rightLater
  rw [equal_of_expand leftShown rightShown, equal_of_expand leftLater rightLater]

theorem equal_refl (discrete : store.IsDiscrete term) : store.equal term term = true :=
  discrete.isExact.equal_refl

theorem equal_comm
    (leftDiscrete : store.IsDiscrete left)
    (rightDiscrete : store.IsDiscrete right) :
    store.equal left right = store.equal right left :=
  Bool.eq_iff_iff.mpr
    ⟨leftDiscrete.isExact.equal_symm rightDiscrete.isExact,
      rightDiscrete.isExact.equal_symm leftDiscrete.isExact⟩

theorem equal_trans
    (leftDiscrete : store.IsDiscrete left)
    (middleDiscrete : store.IsDiscrete middle)
    (rightDiscrete : store.IsDiscrete right) :
    store.equal left middle = true -> store.equal middle right = true ->
      store.equal left right = true :=
  leftDiscrete.isExact.equal_trans middleDiscrete.isExact rightDiscrete.isExact

end IsDiscrete
end Store
end PatternMachine
