import PatternMachine.Proofs.Containment
import PatternMachine.Proofs.Tree

/-!
# Terms that look alike

A term looks like another one when it is equal to it wherever the other one is equal to
itself, now and after any cells were added to the store. Containers look alike when their
elements do. A value that holds no reals is equal to itself if only the comparison comes to
an end.
-/

namespace PatternMachine

/-- What a value is not made of if it can be put together again from its parts: a pair
would become a tuple, and a real need not be equal to itself. -/
def Term.isRebuildable : Term -> Bool
  | .quote _ => false
  | .pair _ _ => false
  | .real _ => false
  | _ => true

namespace Store

variable {store before after : Store} {left right value : Term} {depth : Nat}

/-! ## Values compared with themselves -/

/-- Comparing the term with itself comes to an end. -/
def IsComparable (store : Store) (term : Term) : Prop :=
  ∃ answer, store.equal? term term = some answer

/-- A term with a finite tree can be compared with itself. -/
theorem IsFinite.isComparable (finite : store.IsFinite value) : store.IsComparable value :=
  ⟨_, finite.equal? finite⟩

/-- A list that holds itself in front of everything else cannot be compared with itself. -/
theorem not_isComparable
    {cell : CellRef}
    {rest : List Term}
    (held : (store.elements cell).toList = .list cell :: rest) :
    ¬ store.IsComparable (.list cell) := by
  have circling : ∀ depth, descend store.equalCells depth (cell, cell) = none := by
    intro depth
    induction depth with
    | zero => rfl
    | succ depth inductionHypothesis =>
        rw [descend, equalCells, held]
        dsimp only
        rw [if_pos (beq_self_eq_true _), List.zip_cons_cons, List.allM, Term.equalBy,
          inductionHypothesis]
        rfl
  rintro ⟨answer, found⟩
  cases (circling store.reach).symm.trans found

/-- A comparison of two terms finds them equal, looking into cells `depth` times, one in
another. -/
def EqualWithin (store : Store) (depth : Nat) (left right : Term) : Prop :=
  left.equalBy store (descend store.equalCells depth) right = some true

/-- Where members compared with themselves are found to be equal, all of them are. -/
theorem equalCells_self
    {cells : CellRef × CellRef -> Option Bool}
    {cell : CellRef}
    {answer : Bool}
    (each : ∀ element ∈ (store.elements cell).toList, ∀ answer,
      element.equalBy store cells element = some answer -> answer = true)
    (found : store.equalCells cells (cell, cell) = some answer) :
    answer = true := by
  have sound : ∀ pair ∈ (store.elements cell).toList.zip (store.elements cell).toList,
      ∀ answer, Term.equalBy store cells pair.1 pair.2 = some answer -> answer = true := by
    generalize (store.elements cell).toList = elements at each
    induction elements with
    | nil => simp
    | cons element rest inductionHypothesis =>
        obtain ⟨first, others⟩ := List.forall_mem_cons.mp each
        rw [List.zip_cons_cons]
        exact List.forall_mem_cons.mpr ⟨first, inductionHypothesis others⟩
  unfold equalCells at found
  dsimp only at found
  rw [if_pos (beq_self_eq_true _)] at found
  generalize (store.elements cell).toList.zip (store.elements cell).toList = pairs at sound found
  induction pairs with
  | nil => exact (Option.some.inj found).symm
  | cons pair rest inductionHypothesis =>
      obtain ⟨first, others⟩ := List.forall_mem_cons.mp sound
      rw [List.allM, Option.bind_eq_bind, Option.bind_eq_some_iff] at found
      obtain ⟨verdict, compared, onwards⟩ := found
      obtain rfl := first verdict compared
      exact inductionHypothesis others onwards

/-- Of a value that can be put together again, the elements of a list or tuple are all that
is compared with themselves. -/
theorem equalBy_rebuildable
    (known : value.isRebuildable = true)
    (cells : CellRef × CellRef -> Option Bool) :
    value.equalBy store cells value =
      match value with
      | .list cell => cells (cell, cell)
      | .tuple cell => cells (cell, cell)
      | _ => some true := by
  cases value with
  | real | pair | quote => simp [Term.isRebuildable] at known
  | list | tuple => rfl
  | _ =>
      simp [Term.equalBy, Term.shape, Tree.equal, Shape.number?, Shape.sameConstruct, Number.equal]

/-- A value without reals, pairs and quotes is found to be equal to itself, if anything is
found at all. -/
theorem equalBy_self
    {answer : Bool}
    (consists : store.Consists Term.isRebuildable value)
    (found : value.equalBy store (descend store.equalCells depth) value = some answer) :
    answer = true := by
  induction depth generalizing value answer with
  | zero =>
      rw [equalBy_rebuildable (consists value .here).1] at found
      split at found
      · cases found
      · cases found
      · exact (Option.some.inj found).symm
  | succ depth inductionHypothesis =>
      rw [equalBy_rebuildable (consists value .here).1] at found
      split at found
      · exact equalCells_self (fun _ inside _ => inductionHypothesis (consists.part inside)) found
      · exact equalCells_self (fun _ inside _ => inductionHypothesis (consists.part inside)) found
      · exact (Option.some.inj found).symm

/-- It stays equal to itself when cells are added. -/
theorem EqualWithin.keeps
    (consists : before.Consists Term.isRebuildable value)
    (keeps : before.Keeps after)
    (same : before.EqualWithin depth value value) :
    after.EqualWithin depth value value := by
  induction depth generalizing value with
  | zero =>
      have known := (consists value .here).1
      rw [EqualWithin, equalBy_rebuildable known] at same ⊢
      exact same
  | succ depth inductionHypothesis =>
      obtain ⟨known, placed⟩ := consists value .here
      have cells : ∀ {cell : CellRef}, cell.place < before.cells.size ->
          (∀ element ∈ (before.elements cell).toList, before.Consists Term.isRebuildable element) ->
          before.equalCells (descend before.equalCells depth) (cell, cell) = some true ->
          after.equalCells (descend after.equalCells depth) (cell, cell) = some true := by
        intro cell placed parts same
        rw [equalCells_eq_some_true, List.forall₂_same] at same ⊢
        rw [keeps.elements cell placed]
        exact fun element inside => inductionHypothesis (parts element inside) (same element inside)
      rw [EqualWithin, equalBy_rebuildable known] at same ⊢
      cases value with
      | list cell | tuple cell =>
          exact cells (of_decide_eq_true placed) (fun _ inside => consists.part inside) same
      | _ => rfl

/-! ## Terms compared with others -/

/-- A term looks like another one, whatever is added to the store: however deep one looks, it
is equal to it if the other one is equal to itself. -/
def Alike (store : Store) (left right : Term) : Prop :=
  ∀ after, store.Keeps after -> ∀ depth,
    after.EqualWithin depth right right -> after.EqualWithin depth left right

/-- The same for terms in a row. -/
def AlikeAll (store : Store) (lefts rights : List Term) : Prop :=
  ∀ after, store.Keeps after -> ∀ depth,
    (∀ right ∈ rights, after.EqualWithin depth right right) ->
      List.Forall₂ (after.EqualWithin depth) lefts rights

theorem Alike.keeps
    (alike : before.Alike left right)
    (keeps : before.Keeps after) :
    after.Alike left right :=
  fun later kept => alike later (keeps.trans kept)

theorem AlikeAll.keeps
    {lefts rights : List Term}
    (alike : before.AlikeAll lefts rights)
    (keeps : before.Keeps after) :
    after.AlikeAll lefts rights :=
  fun later kept => alike later (keeps.trans kept)

theorem alikeAll_nil : store.AlikeAll [] [] := fun _ _ _ _ => .nil

theorem AlikeAll.cons
    {lefts rights : List Term}
    (first : store.Alike left right)
    (others : store.AlikeAll lefts rights) :
    store.AlikeAll (left :: lefts) (right :: rights) := by
  intro after keeps depth same
  obtain ⟨sameFirst, sameRest⟩ := List.forall_mem_cons.mp same
  exact .cons (first after keeps depth sameFirst) (others after keeps depth sameRest)

/-- The elements of two cells look alike in a row exactly if the cells are equal where the
second one is equal to itself. -/
theorem alikeAll_elements
    {cell other : CellRef}
    (known : cell.place < store.cells.size)
    (otherKnown : other.place < store.cells.size) :
    store.AlikeAll (store.elements cell).toList (store.elements other).toList ↔
      ∀ after, store.Keeps after -> ∀ depth,
        descend after.equalCells depth (other, other) = some true ->
          descend after.equalCells depth (cell, other) = some true := by
  have row : ∀ {after : Store}, store.Keeps after -> ∀ depth,
      ((∀ right ∈ (store.elements other).toList, after.EqualWithin depth right right) ↔
        descend after.equalCells (depth + 1) (other, other) = some true) ∧
      (List.Forall₂ (after.EqualWithin depth) (store.elements cell).toList
          (store.elements other).toList ↔
        descend after.equalCells (depth + 1) (cell, other) = some true) := by
    intro after keeps depth
    simp only [descend, equalCells_eq_some_true, List.forall₂_same, keeps.elements cell known,
      keeps.elements other otherKnown]
    exact ⟨Iff.rfl, Iff.rfl⟩
  constructor
  · intro each after keeps depth same
    cases depth with
    | zero => cases same
    | succ depth =>
        exact (row keeps depth).2.mp (each after keeps depth ((row keeps depth).1.mpr same))
  · intro alike after keeps depth same
    exact (row keeps depth).2.mpr (alike after keeps _ ((row keeps depth).1.mp same))

/-- Lists look alike when their elements do, and only then. -/
theorem alike_list
    {cell other : CellRef}
    (known : cell.place < store.cells.size)
    (otherKnown : other.place < store.cells.size) :
    store.Alike (.list cell) (.list other) ↔
      store.AlikeAll (store.elements cell).toList (store.elements other).toList :=
  (alikeAll_elements known otherKnown).symm

/-- Tuples look alike when their elements do. -/
theorem alike_tuple
    {cell other : CellRef}
    (known : cell.place < store.cells.size)
    (otherKnown : other.place < store.cells.size)
    (each : store.AlikeAll (store.elements cell).toList (store.elements other).toList) :
    store.Alike (.tuple cell) (.tuple other) :=
  (alikeAll_elements known otherKnown).mp each

/-- Equal numbers look alike. -/
theorem alike_number
    {actual expected : Number}
    (leftNumber : left.number? = some actual)
    (rightNumber : right.number? = some expected)
    (equal : actual.equal expected = true) :
    store.Alike left right := by
  intro after _ depth _
  rw [EqualWithin]
  cases left <;> simp only [Term.number?, Option.some.injEq, reduceCtorEq] at leftNumber <;>
    cases right <;> simp only [Term.number?, Option.some.injEq, reduceCtorEq] at rightNumber <;>
    simp_all [Term.equalBy, Term.shape, Tree.equal, Shape.number?]

/-- A term looks like itself. -/
theorem alike_self (store : Store) (term : Term) : store.Alike term term :=
  fun _ _ _ => id

/-- What looks like a value that can be compared with itself is equal to it. -/
theorem Alike.equal
    (alike : after.Alike left value)
    (consists : before.Consists Term.isRebuildable value)
    (comparable : before.IsComparable value)
    (keeps : before.Keeps after) :
    after.equal left value = true := by
  obtain ⟨answer, found⟩ := comparable
  obtain rfl := equalBy_self consists found
  have same : after.equal? left value = some true :=
    equal?_of_equalBy (alike after (.refl after) _ (EqualWithin.keeps consists keeps found))
  rw [Store.equal, same]
  rfl

end Store

end PatternMachine
