import PatternMachine.Proofs.Tree

/-!
# Structural equality

Structural equality is an equivalence of the terms with a finite tree that shows no real.
Equality of two nodes comes to equality of what it looks at in their shapes and, for the
nodes that are compared by their parts, equality of the parts. The one short cut is that
an object is equal to itself whatever its members are: it is harmless because one memory
shows the same members wherever it is met.
-/

namespace PatternMachine

/-! ## What equality looks at -/

namespace Shape

/-- Whether a shape is not a real. -/
def isExact : Shape -> Bool
  | real _ => false
  | _ => true

/-- A shape without what equality does not look at. -/
def essence : Shape -> Shape
  | boolean value => integer (if value then 1 else 0)
  | function mark _ => function mark ""
  | closure body captured => closure body (captured.map fun scopes => ⟨scopes.mark, #[], #[], 0⟩)
  | escape mark _ => escape mark ""
  | named mark _ => named mark ""
  | typeMatch mark _ => typeMatch mark ""
  | struct template => struct ⟨template.mark, "", [], ⟨0⟩⟩
  | object template _ _ => object (some ⟨0, structName template, [], ⟨0⟩⟩) ⟨0⟩ []
  | method mark _ => method mark ""
  | foreign mark _ => foreign mark ""
  | lineMark mark _ => lineMark mark {}
  | shape => shape

/-- Two shapes of one and the same object. -/
def SameObject : Shape -> Shape -> Prop
  | object template memory _, object other otherMemory _ =>
      template = other ∧ memory = otherMemory
  | _, _ => False

theorem isContainer_essence (shape : Shape) : shape.essence.isContainer = shape.isContainer := by
  cases shape <;> rfl

theorem SameObject.symm
    {left right : Shape}
    (same : left.SameObject right) :
    right.SameObject left := by
  unfold SameObject at same
  split at same
  · exact ⟨same.1.symm, same.2.symm⟩
  · exact same.elim

theorem SameObject.trans
    {left middle right : Shape}
    (first : left.SameObject middle)
    (second : middle.SameObject right) :
    left.SameObject right := by
  unfold SameObject at first
  split at first
  · unfold SameObject at second
    split at second
    · rename_i same
      cases same
      exact ⟨first.1.trans second.1, first.2.trans second.2⟩
    · exact second.elim
  · exact first.elim

/-- An exact number is its value, and nothing else is an exact number. -/
theorem number?_of_isExact
    {shape : Shape}
    {number : Number}
    (exactShape : shape.isExact = true)
    (stands : shape.number? = some number) :
    ∃ value, number = .exact value ∧ shape.essence = integer value := by
  cases shape with
  | integer value =>
      obtain rfl := Option.some.inj stands
      exact ⟨value, rfl, rfl⟩
  | boolean value =>
      obtain rfl := Option.some.inj stands
      exact ⟨_, rfl, rfl⟩
  | real => cases exactShape
  | _ => cases stands

theorem map_mark_eq_iff (left right : Option Closure) :
    left.map Closure.mark = right.map Closure.mark ↔
      left.map (fun scopes => (⟨scopes.mark, #[], #[], 0⟩ : Closure)) =
        right.map fun scopes => ⟨scopes.mark, #[], #[], 0⟩ := by
  cases left <;> cases right <;> simp

end Shape

namespace Tree

mutual

/-- Whether a tree shows no real. -/
def isExact : Tree -> Bool
  | node shape parts => shape.isExact && areExact parts

/-- Whether trees show no real. -/
def areExact : List Tree -> Bool
  | [] => true
  | tree :: rest => tree.isExact && areExact rest

end

theorem isExact_of_mem
    {trees : List Tree}
    {tree : Tree}
    (exactTrees : areExact trees = true)
    (inside : tree ∈ trees) :
    tree.isExact = true := by
  induction trees with
  | nil => cases inside
  | cons first rest inductionHypothesis =>
      obtain ⟨exactFirst, exactRest⟩ := (Bool.and_eq_true _ _).mp exactTrees
      rcases List.mem_cons.mp inside with rfl | later
      · exact exactFirst
      · exact inductionHypothesis exactRest later

variable {left right : Shape} {leftParts rightParts : List Tree}

/-- Equal nodes agree in what equality looks at. -/
theorem essence_of_equal
    (exactLeft : left.isExact = true)
    (exactRight : right.isExact = true)
    (same : (node left leftParts).equal (node right rightParts) = true) :
    left.essence = right.essence ∧
      (left.isContainer = true ->
        left.SameObject right ∨ equalParts leftParts rightParts = true) := by
  unfold equal at same
  split at same
  · rename_i leftStands rightStands
    obtain ⟨value, rfl, leftEssence⟩ := Shape.number?_of_isExact exactLeft leftStands
    obtain ⟨other, rfl, rightEssence⟩ := Shape.number?_of_isExact exactRight rightStands
    obtain rfl : value = other := beq_iff_eq.mp same
    refine ⟨leftEssence.trans rightEssence.symm, fun container => ?_⟩
    rw [← Shape.isContainer_essence, leftEssence] at container
    cases container
  · -- Objects are equal in one of two ways, and the last case stands for many constructs.
    split at same
    case h_11 =>
      rcases (Bool.or_eq_true _ _).mp same with identical | alike
      · simp_all [Shape.essence, Shape.SameObject]
      · simp_all [Shape.essence]
    case h_12 =>
      unfold Shape.sameConstruct at same
      split at same <;> simp_all [Shape.essence, Shape.isContainer]
    all_goals simp_all [Shape.essence, Shape.isContainer, Shape.map_mark_eq_iff]

/-- Nodes that agree in what equality looks at are equal. -/
theorem equal_of_essence
    (exactLeft : left.isExact = true)
    (agree : left.essence = right.essence)
    (alike : left.isContainer = true ->
      left.SameObject right ∨ equalParts leftParts rightParts = true) :
    (node left leftParts).equal (node right rightParts) = true := by
  cases left <;> cases right <;>
    first
    | (cases agree; done)
    | simp_all [Shape.essence, Shape.isExact, Shape.isContainer, Shape.map_mark_eq_iff, equal,
        Shape.number?, Number.equal, Shape.sameConstruct, Shape.SameObject]

/-- Equality of nodes is agreement in what equality looks at. -/
theorem equal_iff
    (exactLeft : left.isExact = true)
    (exactRight : right.isExact = true) :
    (node left leftParts).equal (node right rightParts) = true ↔
      left.essence = right.essence ∧
        (left.isContainer = true ->
          left.SameObject right ∨ equalParts leftParts rightParts = true) :=
  ⟨essence_of_equal exactLeft exactRight, fun agree => equal_of_essence exactLeft agree.1 agree.2⟩

/-! ## Reflexivity and symmetry -/

mutual

/-- A tree without reals is equal to itself. -/
theorem equal_refl : ∀ {tree : Tree}, tree.isExact = true -> tree.equal tree = true
  | node shape parts, exactTree => by
      obtain ⟨exactShape, exactParts⟩ := (Bool.and_eq_true _ _).mp exactTree
      exact (equal_iff exactShape exactShape).mpr
        ⟨rfl, fun _ => .inr (equalParts_of_areExact exactParts)⟩

theorem equalParts_of_areExact : ∀ {trees : List Tree}, areExact trees = true ->
    equalParts trees trees = true
  | [], _ => rfl
  | tree :: rest, exactTrees => by
      obtain ⟨exactFirst, exactRest⟩ := (Bool.and_eq_true _ _).mp exactTrees
      exact (Bool.and_eq_true _ _).mpr
        ⟨equal_refl exactFirst, equalParts_of_areExact exactRest⟩

end

mutual

/-- Equality of trees without reals is symmetric. -/
theorem equal_symm : ∀ {left right : Tree}, left.isExact = true -> right.isExact = true ->
    left.equal right = true -> right.equal left = true
  | node left leftParts, node right rightParts, exactLeft, exactRight, same => by
      obtain ⟨exactShape, exactParts⟩ := (Bool.and_eq_true _ _).mp exactLeft
      obtain ⟨exactOther, exactOthers⟩ := (Bool.and_eq_true _ _).mp exactRight
      obtain ⟨agree, alike⟩ := (equal_iff exactShape exactOther).mp same
      refine (equal_iff exactOther exactShape).mpr ⟨agree.symm, fun container => ?_⟩
      rw [← Shape.isContainer_essence, ← agree, Shape.isContainer_essence] at container
      exact (alike container).imp Shape.SameObject.symm
        (equalParts_symm exactParts exactOthers)

theorem equalParts_symm : ∀ {lefts rights : List Tree}, areExact lefts = true ->
    areExact rights = true -> equalParts lefts rights = true -> equalParts rights lefts = true
  | [], [], _, _, _ => rfl
  | left :: lefts, right :: rights, exactLefts, exactRights, same => by
      obtain ⟨exactLeft, exactLeftRest⟩ := (Bool.and_eq_true _ _).mp exactLefts
      obtain ⟨exactRight, exactRightRest⟩ := (Bool.and_eq_true _ _).mp exactRights
      obtain ⟨sameFirst, sameRest⟩ := (Bool.and_eq_true _ _).mp same
      exact (Bool.and_eq_true _ _).mpr
        ⟨equal_symm exactLeft exactRight sameFirst,
          equalParts_symm exactLeftRest exactRightRest sameRest⟩

end

end Tree

/-! ## One memory shows the same members everywhere -/

namespace Store

variable {store : Store} {term : Term}

/-- The tree of an object goes on with what its memory holds. -/
theorem branches_of_object
    {template : Option Template}
    {memory : CellRef}
    {slots : List Nat}
    (shape : term.shape store = .object template memory slots) :
    term.branches store false = (store.elements memory).toList := by
  cases term <;> cases shape
  rfl

/-- A tree without reals that a term of the store has at some depth. -/
def ShowsExact (store : Store) (tree : Tree) : Prop :=
  tree.isExact = true ∧ ∃ depth term, store.expand false depth term = some tree

namespace ShowsExact

variable {left right : Shape} {leftParts rightParts : List Tree}

theorem shape (shows : store.ShowsExact (.node left leftParts)) : left.isExact = true :=
  ((Bool.and_eq_true _ _).mp shows.1).1

theorem parts
    (shows : store.ShowsExact (.node left leftParts)) :
    ∀ part ∈ leftParts, store.ShowsExact part := by
  obtain ⟨exactTree, depth, term, shown⟩ := shows
  intro part inside
  refine ⟨Tree.isExact_of_mem ((Bool.and_eq_true _ _).mp exactTree).2 inside, ?_⟩
  cases depth with
  | zero => cases shown
  | succ depth =>
      obtain ⟨_, shownParts, same⟩ := expand_succ_eq_some.mp shown
      cases same
      obtain ⟨inner, _, found⟩ := List.exists_of_mem_mapM shownParts inside
      exact ⟨depth, inner, found⟩

/-- The parts of an object are the trees of what its memory holds. -/
theorem members
    {template : Option Template}
    {memory : CellRef}
    {slots : List Nat}
    (shows : store.ShowsExact (.node (.object template memory slots) leftParts)) :
    ∃ depth, (store.elements memory).toList.mapM (store.expand false depth) = some leftParts := by
  obtain ⟨_, depth, term, shown⟩ := shows
  cases depth with
  | zero => cases shown
  | succ depth =>
      obtain ⟨parts, shownParts, same⟩ := expand_succ_eq_some.mp shown
      obtain ⟨shape, rfl⟩ := Tree.node.inj same
      rw [branches_of_object shape.symm] at shownParts
      exact ⟨depth, shownParts⟩

/-- One and the same object has the same parts wherever it is shown. -/
theorem parts_eq
    (first : store.ShowsExact (.node left leftParts))
    (second : store.ShowsExact (.node right rightParts))
    (same : left.SameObject right) :
    leftParts = rightParts := by
  unfold Shape.SameObject at same
  split at same
  · obtain ⟨rfl, rfl⟩ := same
    obtain ⟨depth, shownFirst⟩ := first.members
    obtain ⟨other, shownSecond⟩ := second.members
    have deeper := List.mapM_mono
      (fun _ _ found => expand_mono found (Nat.le_max_left depth other)) shownFirst
    have otherDeeper := List.mapM_mono
      (fun _ _ found => expand_mono found (Nat.le_max_right depth other)) shownSecond
    exact Option.some.inj (deeper.symm.trans otherDeeper)
  · exact same.elim

end ShowsExact

/-! ## Transitivity -/

mutual

/-- Equality of trees without reals that one store shows is transitive. -/
theorem equal_trans : ∀ {left middle right : Tree}, store.ShowsExact left ->
    store.ShowsExact middle -> store.ShowsExact right -> left.equal middle = true ->
    middle.equal right = true -> left.equal right = true
  | .node left leftParts, .node middle middleParts, .node right rightParts,
      shownLeft, shownMiddle, shownRight, first, second => by
      obtain ⟨agree, alike⟩ := (Tree.equal_iff shownLeft.shape shownMiddle.shape).mp first
      obtain ⟨agreeToo, alikeToo⟩ := (Tree.equal_iff shownMiddle.shape shownRight.shape).mp second
      refine (Tree.equal_iff shownLeft.shape shownRight.shape).mpr
        ⟨agree.trans agreeToo, fun container => ?_⟩
      have containerToo : middle.isContainer = true := by
        rw [← Shape.isContainer_essence, ← agree, Shape.isContainer_essence, container]
      rcases alike container with identical | alikeParts <;>
        rcases alikeToo containerToo with identicalToo | alikePartsToo
      · exact .inl (identical.trans identicalToo)
      · obtain rfl := shownLeft.parts_eq shownMiddle identical
        exact .inr alikePartsToo
      · obtain rfl := shownMiddle.parts_eq shownRight identicalToo
        exact .inr alikeParts
      · exact .inr (equalParts_trans shownLeft.parts shownMiddle.parts shownRight.parts
          alikeParts alikePartsToo)

theorem equalParts_trans : ∀ {lefts middles rights : List Tree},
    (∀ tree ∈ lefts, store.ShowsExact tree) -> (∀ tree ∈ middles, store.ShowsExact tree) ->
    (∀ tree ∈ rights, store.ShowsExact tree) -> Tree.equalParts lefts middles = true ->
    Tree.equalParts middles rights = true -> Tree.equalParts lefts rights = true
  | [], [], [], _, _, _, _, _ => rfl
  | left :: lefts, middle :: middles, right :: rights,
      shownLefts, shownMiddles, shownRights, first, second => by
      obtain ⟨shownLeft, otherLefts⟩ := List.forall_mem_cons.mp shownLefts
      obtain ⟨shownMiddle, otherMiddles⟩ := List.forall_mem_cons.mp shownMiddles
      obtain ⟨shownRight, otherRights⟩ := List.forall_mem_cons.mp shownRights
      obtain ⟨sameFirst, sameRest⟩ := (Bool.and_eq_true _ _).mp first
      obtain ⟨sameFirstToo, sameRestToo⟩ := (Bool.and_eq_true _ _).mp second
      exact (Bool.and_eq_true _ _).mpr
        ⟨equal_trans shownLeft shownMiddle shownRight sameFirst sameFirstToo,
          equalParts_trans otherLefts otherMiddles otherRights sameRest sameRestToo⟩

end

/-! ## Equality of terms -/

/-- The term has a finite tree, and no real is in it. -/
def IsExact (store : Store) (term : Term) : Prop :=
  ∃ depth tree, store.expand false depth term = some tree ∧ tree.isExact = true

namespace IsExact

variable {left middle right : Term}

theorem equal_refl (exactTerm : store.IsExact term) : store.equal term term = true := by
  obtain ⟨depth, tree, shown, exactTree⟩ := exactTerm
  rw [equal_of_expand shown shown]
  exact Tree.equal_refl exactTree

theorem equal_symm
    (exactLeft : store.IsExact left)
    (exactRight : store.IsExact right)
    (same : store.equal left right = true) :
    store.equal right left = true := by
  obtain ⟨_, _, leftShown, exactLeft⟩ := exactLeft
  obtain ⟨_, _, rightShown, exactRight⟩ := exactRight
  rw [equal_of_expand leftShown rightShown] at same
  rw [equal_of_expand rightShown leftShown]
  exact Tree.equal_symm exactLeft exactRight same

theorem equal_trans
    (exactLeft : store.IsExact left)
    (exactMiddle : store.IsExact middle)
    (exactRight : store.IsExact right)
    (first : store.equal left middle = true)
    (second : store.equal middle right = true) :
    store.equal left right = true := by
  obtain ⟨_, _, leftShown, exactLeft⟩ := exactLeft
  obtain ⟨_, _, middleShown, exactMiddle⟩ := exactMiddle
  obtain ⟨_, _, rightShown, exactRight⟩ := exactRight
  rw [equal_of_expand leftShown middleShown] at first
  rw [equal_of_expand middleShown rightShown] at second
  rw [equal_of_expand leftShown rightShown]
  exact Store.equal_trans ⟨exactLeft, _, left, leftShown⟩ ⟨exactMiddle, _, middle, middleShown⟩
    ⟨exactRight, _, right, rightShown⟩ first second

end IsExact

/-- Structural equality is an equivalence of the terms that have a finite tree in which
there is no real. -/
theorem equal_equivalence (store : Store) :
    Equivalence fun left right : { term : Term // store.IsExact term } =>
      store.equal left.val right.val = true where
  refl term := term.property.equal_refl
  symm {left right} := left.property.equal_symm right.property
  trans {left middle right} := left.property.equal_trans middle.property right.property

/-- Two objects without a struct, one of which holds an integer where the other one holds a
boolean. -/
example :
    let store : Store := { Store.initial with cells := #[#[.integer 1], #[.boolean true]] }
    store.IsExact (.object none ⟨0⟩) ∧ store.IsExact (.object none ⟨1⟩) ∧
      store.equal (.object none ⟨0⟩) (.object none ⟨1⟩) = true :=
  ⟨⟨2, _, rfl, rfl⟩, ⟨2, _, rfl, rfl⟩, by decide⟩

end Store
end PatternMachine
