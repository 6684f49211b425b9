import Mathlib.Data.Finset.Card
import Mathlib.Data.Finset.Prod
import Mathlib.Data.List.Forall2
import PatternMachine.Tree

/-!
# Answers that come to an end

Equality and printing go through the cells of a store, one in another. A path that has come
through more cells than there are pairs of them has met one pair twice. So what is found at
any depth at all is found at the depth to which a store is looked into, and nothing is found
there only if no depth is enough. In particular terms with finite trees are compared as their
trees are, and shown as their trees are shown.
-/

namespace PatternMachine

/-! ## Images of lists -/

namespace List

variable {α β : Type} {first second : α -> Option β} {members : List α} {images : List β}

/-- The first member is mapped, and then the others. -/
theorem mapM_cons_eq_some
    {member : α}
    {rest : List α} :
    (member :: rest).mapM first = some images ↔
      ∃ image others, first member = some image ∧ rest.mapM first = some others ∧
        images = image :: others := by
  simp only [List.mapM_cons, Option.pure_def, Option.bind_eq_bind, Option.bind_eq_some_iff,
    Option.some.injEq]
  grind

theorem mapM_singleton_eq_some {member : α} :
    [member].mapM first = some images ↔ ∃ image, first member = some image ∧ images = [image] := by
  rw [mapM_cons_eq_some]
  simp

theorem mapM_pair_eq_some {member other : α} :
    [member, other].mapM first = some images ↔
      ∃ image otherImage, first member = some image ∧ first other = some otherImage ∧
        images = [image, otherImage] := by
  simp only [mapM_cons_eq_some]
  grind

/-- Maps that agree on the members have the same image. -/
theorem mapM_congr_of_mem
    (same : ∀ member ∈ members, first member = second member) :
    members.mapM first = members.mapM second := by
  induction members with
  | nil => rfl
  | cons member rest inductionHypothesis =>
      obtain ⟨sameFirst, sameRest⟩ := List.forall_mem_cons.mp same
      rw [List.mapM_cons, List.mapM_cons, sameFirst, inductionHypothesis sameRest]

/-- Members and images belong together place by place. -/
theorem mapM_eq_some_iff :
    members.mapM first = some images ↔
      List.Forall₂ (fun member image => first member = some image) members images := by
  induction members generalizing images with
  | nil =>
      rw [List.forall₂_nil_left_iff, List.mapM_nil]
      exact ⟨fun same => (Option.some.inj same).symm, fun same => congrArg some same.symm⟩
  | cons member rest inductionHypothesis =>
      rw [mapM_cons_eq_some, List.forall₂_cons_left_iff]
      simp only [inductionHypothesis]

/-- A map that is defined wherever another one is has the same image. -/
theorem mapM_mono
    (wider : ∀ member image, first member = some image -> second member = some image)
    (mapped : members.mapM first = some images) :
    members.mapM second = some images :=
  mapM_eq_some_iff.mpr ((mapM_eq_some_iff.mp mapped).imp wider)

/-- There are as many images as members. -/
theorem length_of_mapM (mapped : members.mapM first = some images) :
    images.length = members.length :=
  (mapM_eq_some_iff.mp mapped).length_eq.symm

/-- What stands at a place is mapped to what stands there in the image. -/
theorem getElem?_of_mapM
    (mapped : members.mapM first = some images)
    (place : Nat) :
    images[place]? = members[place]?.bind first := by
  obtain ⟨length, each⟩ := List.forall₂_iff_get.mp (mapM_eq_some_iff.mp mapped)
  by_cases inside : place < members.length
  · rw [List.getElem?_eq_getElem inside, List.getElem?_eq_getElem (length ▸ inside)]
    exact (each place inside (length ▸ inside)).symm
  · have outside := Nat.le_of_not_lt inside
    rw [List.getElem?_eq_none outside, List.getElem?_eq_none (length ▸ outside)]
    rfl

/-- Everything in the image is the image of a member. -/
theorem exists_of_mem_mapM
    {image : β}
    (mapped : members.mapM first = some images)
    (inside : image ∈ images) :
    ∃ member ∈ members, first member = some image := by
  obtain ⟨place, found⟩ := List.mem_iff_getElem?.mp inside
  rw [getElem?_of_mapM mapped, Option.bind_eq_some_iff] at found
  exact found.imp fun _ here => ⟨List.mem_of_getElem? here.1, here.2⟩

/-- Every member has its image. -/
theorem exists_image_of_mem
    {member : α}
    (mapped : members.mapM first = some images)
    (held : member ∈ members) :
    ∃ image ∈ images, first member = some image := by
  obtain ⟨place, inside, rfl⟩ := List.mem_iff_getElem.mp held
  obtain ⟨length, each⟩ := List.forall₂_iff_get.mp (mapM_eq_some_iff.mp mapped)
  exact ⟨_, List.get_mem images ⟨place, length ▸ inside⟩, each place inside (length ▸ inside)⟩

/-- The members at some places are mapped to what stands at these places in the image. -/
theorem mapM_places
    (mapped : members.mapM first = some images)
    (places : List Nat) :
    (places.filterMap (members[·]?)).mapM first = some (places.filterMap (images[·]?)) := by
  induction places with
  | nil => rfl
  | cons place rest inductionHypothesis =>
      have image := getElem?_of_mapM mapped place
      cases held : members[place]? with
      | none => simpa [held, image] using inductionHypothesis
      | some member =>
          obtain ⟨value, _, same⟩ := exists_image_of_mem mapped (List.mem_of_getElem? held)
          simp only [held, Option.bind_some, same] at image
          simp only [List.filterMap_cons, held, image]
          exact mapM_cons_eq_some.mpr ⟨value, _, same, inductionHypothesis, rfl⟩

theorem filterMap_range_getElem? (members : List α) :
    (List.range members.length).filterMap (members[·]?) = members := by
  have taken : ∀ count, (List.range count).filterMap (members[·]?) = members.take count := by
    intro count
    induction count with
    | zero => rfl
    | succ count inductionHypothesis =>
        rw [List.range_succ, List.filterMap_append, inductionHypothesis, List.take_add_one,
          List.filterMap_cons]
        cases members[count]? <;> rfl
  rw [taken, List.take_length]

/-- All members together are answered with yes exactly if each of them is. -/
theorem allM_eq_some_true {question : α -> Option Bool} :
    members.allM question = some true ↔ ∀ member ∈ members, question member = some true := by
  induction members with
  | nil => simp
  | cons member rest inductionHypothesis =>
      rw [List.allM, List.forall_mem_cons, ← inductionHypothesis, Option.bind_eq_bind,
        Option.bind_eq_some_iff]
      constructor
      · rintro ⟨answer, answered, others⟩
        cases answer with
        | false => cases others
        | true => exact ⟨answered, others⟩
      · exact fun both => ⟨true, both⟩

/-- Where every member has an answer, it is found out whether one is answered with yes. -/
theorem anyM_eq_some
    {question : α -> Option Bool}
    {answer : α -> Bool}
    (each : ∀ member ∈ members, question member = some (answer member)) :
    members.anyM question = some (members.any answer) := by
  induction members with
  | nil => rfl
  | cons member rest inductionHypothesis =>
      obtain ⟨first, others⟩ := List.forall_mem_cons.mp each
      rw [List.anyM, first, inductionHypothesis others, List.any_cons]
      cases answer member <;> rfl

/-- Members that all have an image have one together. -/
theorem exists_mapM (each : ∀ member ∈ members, ∃ image, first member = some image) :
    ∃ images, members.mapM first = some images := by
  induction members with
  | nil => exact ⟨[], rfl⟩
  | cons member rest inductionHypothesis =>
      obtain ⟨⟨image, mapped⟩, others⟩ := List.forall_mem_cons.mp each
      obtain ⟨images, mappedRest⟩ := inductionHypothesis others
      exact ⟨image :: images, mapM_cons_eq_some.mpr ⟨image, images, mapped, mappedRest, rfl⟩⟩

end List

/-! ## Recursions over finitely many keys -/

/-- Every answer found is found there, too. -/
def Extends {κ α : Type} (less more : κ -> Option α) : Prop :=
  ∀ key answer, less key = some answer -> more key = some answer

/-- A level that finds what it found when it has more answers at hand. -/
def Growing {κ α : Type} (level : (κ -> Option α) -> κ -> Option α) : Prop :=
  ∀ less more, Extends less more -> Extends (level less) (level more)

section descend

variable {κ α : Type} {level : (κ -> Option α) -> κ -> Option α} {depth deeper : Nat}

theorem descend_mono
    (growing : Growing level)
    (further : depth ≤ deeper) :
    Extends (descend level depth) (descend level deeper) := by
  induction depth generalizing deeper with
  | zero => exact fun key answer found => by cases found
  | succ depth inductionHypothesis =>
      obtain ⟨deeper, rfl⟩ : ∃ less, deeper = less + 1 := ⟨deeper - 1, by omega⟩
      exact growing _ _ (inductionHypothesis (Nat.le_of_succ_le_succ further))

variable [DecidableEq κ]

/-- Each level finds nothing new, or has answers for one key more. -/
theorem descend_stable_or_card
    (growing : Growing level)
    (keys : Finset κ)
    (outside : ∀ key ∉ keys, ∀ answers other, level answers key = level other key)
    (depth : Nat) :
    descend level (depth + 2) = descend level (depth + 1) ∨
      depth < (keys.filter fun key => (descend level (depth + 2) key).isSome).card := by
  have grows : ∀ depth, keys.filter (fun key => (descend level depth key).isSome) ⊆
      keys.filter fun key => (descend level (depth + 1) key).isSome := by
    intro depth key inside
    obtain ⟨listed, found⟩ := Finset.mem_filter.mp inside
    obtain ⟨answer, found⟩ := Option.isSome_iff_exists.mp found
    refine Finset.mem_filter.mpr ⟨listed, ?_⟩
    rw [descend_mono growing (Nat.le_succ depth) key answer found]
    rfl
  -- A level without answers for more keys of the set is the same everywhere.
  have strict : ∀ depth, descend level (depth + 2) = descend level (depth + 1) ∨
      (keys.filter fun key => (descend level (depth + 1) key).isSome).card <
        (keys.filter fun key => (descend level (depth + 2) key).isSome).card := by
    intro depth
    by_cases same : keys.filter (fun key => (descend level (depth + 1) key).isSome) =
        keys.filter fun key => (descend level (depth + 2) key).isSome
    · refine .inl (funext fun key => ?_)
      by_cases listed : key ∈ keys
      · cases found : descend level (depth + 2) key with
        | none =>
            cases earlier : descend level (depth + 1) key with
            | none => rfl
            | some answer =>
                rw [descend_mono growing (Nat.le_succ (depth + 1)) key answer earlier] at found
                cases found
        | some answer =>
            have inside : key ∈ keys.filter fun key => (descend level (depth + 2) key).isSome :=
              Finset.mem_filter.mpr ⟨listed, by rw [found]; rfl⟩
            rw [← same] at inside
            obtain ⟨other, earlier⟩ := Option.isSome_iff_exists.mp (Finset.mem_filter.mp inside).2
            rw [← found, earlier, descend_mono growing (Nat.le_succ (depth + 1)) key other earlier]
      · exact outside key listed _ _
    · exact .inr (Finset.card_lt_card ((grows (depth + 1)).ssubset_of_ne same))
  induction depth with
  | zero => exact (strict 0).imp_right (Nat.lt_of_le_of_lt (Nat.zero_le _))
  | succ depth inductionHypothesis =>
      rcases inductionHypothesis with stable | grown
      · exact .inl (congrArg level stable)
      · exact (strict (depth + 1)).imp_right (Nat.lt_of_le_of_lt grown)

/-- What is found at any depth is found at one that is greater than the number of keys for
which answers are needed. -/
theorem descend_of_card
    (growing : Growing level)
    (keys : Finset κ)
    (outside : ∀ key ∉ keys, ∀ answers other, level answers key = level other key)
    {reach : Nat}
    (far : keys.card < reach) :
    Extends (descend level depth) (descend level reach) := by
  have stable : descend level (keys.card + 2) = descend level (keys.card + 1) :=
    (descend_stable_or_card growing keys outside keys.card).resolve_right
      (Nat.not_lt.mpr (Finset.card_filter_le _ _))
  have settled : ∀ more, descend level (keys.card + 1 + more) = descend level (keys.card + 1) := by
    intro more
    induction more with
    | zero => rfl
    | succ more inductionHypothesis => exact (congrArg level inductionHypothesis).trans stable
  intro key answer found
  refine descend_mono growing far key answer ?_
  rw [← settled depth]
  exact descend_mono growing (Nat.le_add_left depth (keys.card + 1)) key answer found

end descend

namespace Store

variable {store : Store} {left right term : Term} {depth deeper : Nat}

/-! ## Comparisons -/

theorem allM_mono
    {β : Type}
    {first second : β -> Option Bool}
    {members : List β}
    {answer : Bool}
    (wider : ∀ member answer, first member = some answer -> second member = some answer)
    (found : members.allM first = some answer) :
    members.allM second = some answer := by
  induction members with
  | nil => exact found
  | cons member rest inductionHypothesis =>
      rw [List.allM, Option.bind_eq_bind, Option.bind_eq_some_iff] at found ⊢
      obtain ⟨verdict, compared, others⟩ := found
      refine ⟨verdict, wider member verdict compared, ?_⟩
      cases verdict with
      | false => exact others
      | true => exact inductionHypothesis others

theorem equalBy_mono
    {less more : CellRef × CellRef -> Option Bool}
    (extended : Extends less more)
    {answer : Bool}
    (found : left.equalBy store less right = some answer) :
    left.equalBy store more right = some answer := by
  induction left, right using Term.equalBy.induct generalizing answer with
  | case1 | case2 => exact extended _ _ found
  | case3 first second otherFirst otherSecond onFirst onSecond =>
      rw [Term.equalBy, Option.bind_eq_bind, Option.bind_eq_some_iff] at found ⊢
      obtain ⟨verdict, compared, others⟩ := found
      refine ⟨verdict, onFirst compared, ?_⟩
      cases verdict with
      | false => exact others
      | true => exact onSecond others
  | case4 left right inductionHypothesis => exact inductionHypothesis found
  | case5 template memory other otherMemory identical =>
      rw [Term.equalBy, if_pos identical] at found ⊢
      exact found
  | case6 template memory other otherMemory apart named =>
      rw [Term.equalBy, if_neg apart, if_pos named] at found ⊢
      exact extended _ _ found
  | case7 template memory other otherMemory apart unnamed =>
      rw [Term.equalBy, if_neg apart, if_neg unnamed] at found ⊢
      exact found
  | case8 left right noLists noTuples noPairs noQuotes noObjects =>
      rw [Term.equalBy] at found ⊢ <;> assumption

theorem equalCells_growing (store : Store) : Growing store.equalCells := by
  rintro less more extended ⟨left, right⟩ answer found
  unfold equalCells at found ⊢
  dsimp only at found ⊢
  split at found
  · rename_i same
    rw [if_pos same]
    exact allM_mono (fun _ _ => equalBy_mono extended) found
  · rename_i apart
    rw [if_neg apart]
    exact found

/-- The elements of two cells are equal if they are so place by place. -/
theorem equalCells_eq_some_true
    {cells : CellRef × CellRef -> Option Bool}
    {first second : CellRef} :
    store.equalCells cells (first, second) = some true ↔
      List.Forall₂ (fun left right => Term.equalBy store cells left right = some true)
        (store.elements first).toList (store.elements second).toList := by
  rw [List.forall₂_iff_zip, equalCells]
  dsimp only
  split
  · rename_i same
    rw [List.allM_eq_some_true]
    exact ⟨fun each => ⟨beq_iff_eq.mp same, each _⟩, fun each pair => each.2⟩
  · rename_i apart
    exact ⟨nofun, fun each => absurd (beq_iff_eq.mpr each.1) apart⟩

/-- The elements of a cell that is not in the store are none. -/
theorem elements_outside
    {cell : CellRef}
    (outside : store.cells.size ≤ cell.place) :
    store.elements cell = #[] := by
  rw [elements, Array.getElem?_eq_none outside]
  rfl

/-- The references to the cells of a store. -/
def cellRefs (store : Store) : Finset CellRef :=
  (Finset.range store.cells.size).image CellRef.mk

theorem card_cellRefs_le (store : Store) : store.cellRefs.card ≤ store.cells.size :=
  Finset.card_image_le.trans_eq (Finset.card_range _)

theorem elements_of_notMem
    {cell : CellRef}
    (outside : cell ∉ store.cellRefs) :
    store.elements cell = #[] := by
  refine elements_outside (Nat.le_of_not_lt fun inside => outside ?_)
  exact Finset.mem_image.mpr ⟨cell.place, Finset.mem_range.mpr inside, rfl⟩

/-- A comparison that comes to an end at some depth comes to the same end within reach of
the store. -/
theorem equal?_of_equalBy
    {answer : Bool}
    (found : left.equalBy store (descend store.equalCells depth) right = some answer) :
    store.equal? left right = some answer := by
  refine equalBy_mono ?_ found
  refine descend_of_card store.equalCells_growing (store.cellRefs ×ˢ store.cellRefs) ?_ ?_
  · rintro ⟨left, right⟩ outside answers other
    -- One of the two has no elements, so that there is nothing to compare.
    have empty : store.elements left = #[] ∨ store.elements right = #[] := by
      rw [Finset.mem_product, not_and_or] at outside
      exact outside.imp elements_of_notMem elements_of_notMem
    unfold equalCells
    dsimp only
    rcases empty with none | none <;> rw [none]
    · rfl
    · rw [List.zip_nil_right]
      rfl
  · rw [Finset.card_product, reach]
    have few := Nat.mul_le_mul store.card_cellRefs_le store.card_cellRefs_le
    have square : store.cells.size * store.cells.size <
        (store.cells.size + 1) * (store.cells.size + 1) :=
      Nat.mul_self_lt_mul_self (Nat.lt_succ_self _)
    omega

/-- A comparison has an answer exactly if it comes to it at some depth. -/
theorem equal?_eq_some_iff {answer : Bool} :
    store.equal? left right = some answer ↔
      ∃ depth, left.equalBy store (descend store.equalCells depth) right = some answer :=
  ⟨fun found => ⟨_, found⟩, fun ⟨_, found⟩ => equal?_of_equalBy found⟩

/-! ## Finite trees -/

variable {opened : Bool} {tree leftTree rightTree : Tree}

/-- One level of the tree of a term: its shape over the trees of its branches. -/
theorem expand_succ_eq_some :
    store.expand opened (depth + 1) term = some tree ↔
      ∃ parts, (term.branches store opened).mapM (store.expand opened depth) = some parts ∧
        tree = .node (term.shape store) parts := by
  rw [expand, Option.bind_eq_bind, Option.bind_eq_some_iff]
  simp only [Option.pure_def, Option.some.injEq, eq_comm]

/-- The tree of a term does not change when one looks deeper. -/
theorem expand_mono
    (shown : store.expand opened depth term = some tree)
    (further : depth ≤ deeper) :
    store.expand opened deeper term = some tree := by
  induction depth generalizing term tree deeper with
  | zero => cases shown
  | succ depth inductionHypothesis =>
      obtain ⟨deeper, rfl⟩ : ∃ less, deeper = less + 1 := ⟨deeper - 1, by omega⟩
      obtain ⟨parts, shownParts, same⟩ := expand_succ_eq_some.mp shown
      have partsDeeper := List.mapM_mono
        (fun _ _ found => inductionHypothesis found (Nat.le_of_succ_le_succ further)) shownParts
      exact expand_succ_eq_some.mpr ⟨parts, partsDeeper, same⟩

/-- The term has a finite tree. -/
def IsFinite (store : Store) (term : Term) : Prop :=
  ∃ depth tree, store.expand false depth term = some tree

/-- What the tree goes on with has a finite tree. -/
theorem IsFinite.part
    {part : Term}
    (finite : store.IsFinite term)
    (held : part ∈ term.branches store false) :
    store.IsFinite part := by
  obtain ⟨depth, tree, shown⟩ := finite
  cases depth with
  | zero => cases shown
  | succ depth =>
      obtain ⟨parts, shownParts, _⟩ := expand_succ_eq_some.mp shown
      obtain ⟨inner, _, found⟩ := List.exists_image_of_mem shownParts held
      exact ⟨depth, inner, found⟩

/-- Terms with finite trees have them at one depth. -/
theorem IsFinite.all
    {terms : List Term}
    (each : ∀ term ∈ terms, store.IsFinite term) :
    ∃ depth trees, terms.mapM (store.expand false depth) = some trees := by
  induction terms with
  | nil => exact ⟨0, [], rfl⟩
  | cons term rest inductionHypothesis =>
      obtain ⟨⟨depth, tree, shown⟩, others⟩ := List.forall_mem_cons.mp each
      obtain ⟨other, trees, shownAll⟩ := inductionHypothesis others
      refine ⟨max depth other, tree :: trees, List.mapM_cons_eq_some.mpr ⟨tree, trees, ?_, ?_, rfl⟩⟩
      · exact expand_mono shown (Nat.le_max_left depth other)
      · refine List.mapM_mono (fun _ _ found => ?_) shownAll
        exact expand_mono found (Nat.le_max_right depth other)

end Store

/-- Whether equality looks at the parts of a node, too. -/
def Shape.isContainer : Shape -> Bool
  | list => true
  | tuple => true
  | pair => true
  | quote => true
  | object _ _ _ => true
  | _ => false

namespace Tree

/-- Trees of different number are not equal. -/
theorem equalParts_of_length_ne
    {left right : List Tree}
    (apart : left.length ≠ right.length) :
    equalParts left right = false := by
  induction left generalizing right with
  | nil =>
      cases right with
      | nil => exact absurd rfl apart
      | cons tree rest => rfl
  | cons tree rest inductionHypothesis =>
      cases right with
      | nil => rfl
      | cons other others =>
          have restApart : rest.length ≠ others.length := fun same => apart (by simp [same])
          simp [equalParts, inductionHypothesis restApart]

/-- Nodes that are not compared by their parts are equal whatever their parts are. -/
theorem equal_of_not_isContainer
    {left right : Shape}
    (bare : left.isContainer = false)
    (leftParts rightParts : List Tree) :
    (node left leftParts).equal (node right rightParts) = (node left []).equal (node right []) := by
  cases left <;> first | (cases bare; done) | (cases right <;> rfl)

end Tree

namespace Store

variable {store : Store} {left right term : Term} {depth : Nat} {leftTree rightTree tree : Tree}

/-- Terms with finite trees are compared one after the other as these trees are. -/
theorem allM_equalBy
    {cells : CellRef × CellRef -> Option Bool}
    (each : ∀ {left right leftTree rightTree},
      store.expand false depth left = some leftTree ->
      store.expand false depth right = some rightTree ->
      left.equalBy store cells right = some (leftTree.equal rightTree))
    {lefts rights : List Term}
    {leftParts rightParts : List Tree}
    (leftShows : lefts.mapM (store.expand false depth) = some leftParts)
    (rightShows : rights.mapM (store.expand false depth) = some rightParts)
    (same : lefts.length = rights.length) :
    (lefts.zip rights).allM (fun (left, right) => left.equalBy store cells right) =
      some (Tree.equalParts leftParts rightParts) := by
  induction lefts generalizing rights leftParts rightParts with
  | nil =>
      obtain rfl := List.length_eq_zero_iff.mp same.symm
      obtain rfl := Option.some.inj leftShows
      obtain rfl := Option.some.inj rightShows
      rfl
  | cons left lefts inductionHypothesis =>
      cases rights with
      | nil => cases same
      | cons right rights =>
          obtain ⟨leftTree, leftRest, shown, leftsShow, rfl⟩ := List.mapM_cons_eq_some.mp leftShows
          obtain ⟨rightTree, rightRest, otherShown, rightsShow, rfl⟩ :=
            List.mapM_cons_eq_some.mp rightShows
          have others := inductionHypothesis leftsShow rightsShow (Nat.succ.inj same)
          rw [List.zip_cons_cons, List.allM]
          dsimp only
          rw [each shown otherShown, Tree.equalParts]
          cases leftTree.equal rightTree with
          | false => rfl
          | true => exact others

/-- Two cells whose elements have finite trees are compared as these trees are. -/
theorem equalCells_of_expand
    {cells : CellRef × CellRef -> Option Bool}
    (each : ∀ {left right leftTree rightTree},
      store.expand false depth left = some leftTree ->
      store.expand false depth right = some rightTree ->
      left.equalBy store cells right = some (leftTree.equal rightTree))
    {cell other : CellRef}
    {leftParts rightParts : List Tree}
    (leftShows : (store.elements cell).toList.mapM (store.expand false depth) = some leftParts)
    (rightShows : (store.elements other).toList.mapM (store.expand false depth) =
      some rightParts) :
    store.equalCells cells (cell, other) = some (Tree.equalParts leftParts rightParts) := by
  unfold equalCells
  dsimp only
  split
  · rename_i same
    exact allM_equalBy each leftShows rightShows (beq_iff_eq.mp same)
  · rename_i apart
    rw [Tree.equalParts_of_length_ne]
    rw [List.length_of_mapM leftShows, List.length_of_mapM rightShows]
    exact fun same => apart (beq_iff_eq.mpr same)

/-- Terms with finite trees are compared as their trees are. -/
theorem equalBy_of_expand
    (leftShows : store.expand false depth left = some leftTree)
    (rightShows : store.expand false depth right = some rightTree) :
    left.equalBy store (descend store.equalCells depth) right =
      some (leftTree.equal rightTree) := by
  induction depth generalizing left right leftTree rightTree with
  | zero => cases leftShows
  | succ depth inductionHypothesis =>
      have cells : ∀ {cell other : CellRef} {leftParts rightParts : List Tree},
          (store.elements cell).toList.mapM (store.expand false depth) = some leftParts ->
          (store.elements other).toList.mapM (store.expand false depth) = some rightParts ->
          store.equalCells (descend store.equalCells depth) (cell, other) =
            some (Tree.equalParts leftParts rightParts) :=
        equalCells_of_expand inductionHypothesis
      have deeper : ∀ {left right leftTree rightTree},
          store.expand false depth left = some leftTree ->
          store.expand false depth right = some rightTree ->
          left.equalBy store (descend store.equalCells (depth + 1)) right =
            some (leftTree.equal rightTree) :=
        fun leftShows rightShows => equalBy_mono
          (descend_mono store.equalCells_growing (Nat.le_succ depth))
          (inductionHypothesis leftShows rightShows)
      obtain ⟨leftParts, leftsShow, rfl⟩ := expand_succ_eq_some.mp leftShows
      obtain ⟨rightParts, rightsShow, rfl⟩ := expand_succ_eq_some.mp rightShows
      cases left with
      | list cell =>
          cases right with
          | list other => exact cells leftsShow rightsShow
          | _ => rfl
      | tuple cell =>
          cases right with
          | tuple other => exact cells leftsShow rightsShow
          | _ => rfl
      | pair first second =>
          cases right with
          | pair otherFirst otherSecond =>
              obtain ⟨first, second, shown, shownToo, rfl⟩ := List.mapM_pair_eq_some.mp leftsShow
              obtain ⟨otherFirst, otherSecond, otherShown, otherShownToo, rfl⟩ :=
                List.mapM_pair_eq_some.mp rightsShow
              rw [Term.equalBy, deeper shown otherShown, deeper shownToo otherShownToo]
              change _ = some (first.equal otherFirst && (second.equal otherSecond && true))
              cases first.equal otherFirst <;> cases second.equal otherSecond <;> rfl
          | _ => rfl
      | quote expression =>
          cases right with
          | quote other =>
              obtain ⟨tree, shown, rfl⟩ := List.mapM_singleton_eq_some.mp leftsShow
              obtain ⟨otherTree, otherShown, rfl⟩ := List.mapM_singleton_eq_some.mp rightsShow
              rw [Term.equalBy, deeper shown otherShown]
              change _ = some (tree.equal otherTree && true)
              rw [Bool.and_true]
          | _ => rfl
      | object template memory =>
          cases right with
          | object other otherMemory =>
              change (if template == other && memory == otherMemory then some true
                else if structName template == structName other then
                  store.equalCells (descend store.equalCells depth) (memory, otherMemory)
                else some false) =
                some ((template == other && memory == otherMemory) ||
                  (structName template == structName other &&
                    Tree.equalParts leftParts rightParts))
              rw [cells leftsShow rightsShow]
              cases template == other && memory == otherMemory <;>
                cases structName template == structName other <;> rfl
          | _ => rfl
      | _ => exact congrArg some (Tree.equal_of_not_isContainer rfl _ _).symm

/-- Terms with finite trees are compared as their trees are. -/
theorem equal?_of_expand
    {other : Nat}
    (leftShows : store.expand false depth left = some leftTree)
    (rightShows : store.expand false other right = some rightTree) :
    store.equal? left right = some (leftTree.equal rightTree) :=
  equal?_of_equalBy (equalBy_of_expand (expand_mono leftShows (Nat.le_max_left depth other))
    (expand_mono rightShows (Nat.le_max_right depth other)))

theorem equal_of_expand
    {other : Nat}
    (leftShows : store.expand false depth left = some leftTree)
    (rightShows : store.expand false other right = some rightTree) :
    store.equal left right = leftTree.equal rightTree := by
  rw [equal, equal?_of_expand leftShows rightShows]
  cases leftTree.equal rightTree <;> rfl

/-- A comparison of terms with finite trees comes to an end. -/
theorem IsFinite.equal?
    (leftFinite : store.IsFinite left)
    (rightFinite : store.IsFinite right) :
    store.equal? left right = some (store.equal left right) := by
  obtain ⟨depth, leftTree, leftShows⟩ := leftFinite
  obtain ⟨other, rightTree, rightShows⟩ := rightFinite
  rw [equal_of_expand leftShows rightShows, equal?_of_expand leftShows rightShows]

/-! ## Drawings -/

theorem draw_mono
    {less more : Row -> Option (List Tree)}
    (extended : Extends less more)
    {drawn : Tree}
    (found : term.draw store less = some drawn) :
    term.draw store more = some drawn := by
  induction term generalizing drawn with
  | list | tuple | object =>
      rw [Term.draw, Option.bind_eq_bind, Option.bind_eq_some_iff] at found ⊢
      exact found.imp fun parts drawing => ⟨extended _ _ drawing.1, drawing.2⟩
  | _ =>
      simp only [Term.draw, Option.bind_eq_bind, Option.bind_eq_some_iff] at found ⊢
      grind

theorem drawRow_growing (store : Store) : Growing store.drawRow :=
  fun _ _ extended _ _ found => List.mapM_mono (fun _ _ => draw_mono extended) found

/-- The rows of elements that a store has. -/
def rowRefs (store : Store) : Finset Row :=
  (store.cellRefs ×ˢ insert none (store.cellRefs.image some)).image fun (cell, layout) =>
    { cell, layout }

theorem card_rowRefs_le (store : Store) :
    store.rowRefs.card ≤ store.cells.size * (store.cells.size + 1) := by
  refine Finset.card_image_le.trans ?_
  rw [Finset.card_product]
  refine Nat.mul_le_mul store.card_cellRefs_le ((Finset.card_insert_le _ _).trans ?_)
  exact Nat.add_le_add_right (Finset.card_image_le.trans store.card_cellRefs_le) 1

/-- A row that is not one of a store has no elements. -/
theorem row_of_notMem
    {row : Row}
    (outside : row ∉ store.rowRefs) :
    store.row row = [] := by
  obtain ⟨cell, layout⟩ := row
  by_cases known : cell ∈ store.cellRefs
  · cases layout with
    | none =>
        refine absurd (Finset.mem_image.mpr ⟨(cell, none), ?_, rfl⟩) outside
        exact Finset.mem_product.mpr ⟨known, Finset.mem_insert_self _ _⟩
    | some layout =>
        have empty : store.elements layout = #[] := by
          refine elements_of_notMem fun inside => outside ?_
          refine Finset.mem_image.mpr ⟨(cell, some layout), Finset.mem_product.mpr ⟨known, ?_⟩, rfl⟩
          exact Finset.mem_insert_of_mem (Finset.mem_image_of_mem some inside)
        simp [row, dataPlaces, empty]
  · cases layout <;> simp [row, elements_of_notMem known]

/-- A term that can be drawn at some depth is shown as it is drawn there. -/
theorem display?_of_draw
    {drawn : Tree}
    (found : term.draw store (descend store.drawRow depth) = some drawn) :
    store.display? term = some drawn.display := by
  have reached : term.draw store (descend store.drawRow store.reach) = some drawn := by
    refine draw_mono ?_ found
    refine descend_of_card store.drawRow_growing store.rowRefs ?_ ?_
    · intro row outside answers other
      rw [drawRow, drawRow, row_of_notMem outside]
      rfl
    · have few := store.card_rowRefs_le
      have less : store.cells.size * (store.cells.size + 1) <
          (store.cells.size + 1) * (store.cells.size + 1) :=
        Nat.mul_lt_mul_of_pos_right (Nat.lt_succ_self _) (Nat.succ_pos _)
      rw [reach]
      omega
  rw [display?, reached]
  rfl

end Store

namespace Tree

/-- A tree that looks like another one wherever it stands. -/
structure Resembles (drawn tree : Tree) : Prop where
  shown : drawn.shown = tree.shown
  display : drawn.display = tree.display
  isAbsent : drawn.isAbsent = tree.isAbsent
  isParenthesized : drawn.isParenthesized = tree.isParenthesized

theorem shownAll_of_resembles
    {drawn trees : List Tree}
    (each : List.Forall₂ Resembles drawn trees) :
    shownAll drawn = shownAll trees := by
  induction each with
  | nil => rfl
  | cons first _ inductionHypothesis => rw [shownAll, shownAll, first.shown, inductionHypothesis]

theorem all_of_resembles
    {look : Tree -> Bool}
    (alike : ∀ {drawn tree}, Resembles drawn tree -> look drawn = look tree)
    {drawn trees : List Tree}
    (each : List.Forall₂ Resembles drawn trees) :
    drawn.all look = trees.all look := by
  induction each with
  | nil => rfl
  | cons first _ inductionHypothesis =>
      rw [List.all_cons, List.all_cons, alike first, inductionHypothesis]

/-- A node resembles one of the same shape whose parts its own parts resemble. -/
theorem resembles_node
    (shape : Shape)
    {drawn trees : List Tree}
    (each : List.Forall₂ Resembles drawn trees) :
    (node shape drawn).Resembles (node shape trees) := by
  have shown : (node shape drawn).shown = (node shape trees).shown := by
    rw [Tree.shown, Tree.shown, shownAll_of_resembles each]
    unfold Shape.arrange
    rw [all_of_resembles Resembles.isAbsent (List.forall₂_drop 2 each),
      all_of_resembles Resembles.isParenthesized (List.forall₂_drop 1 each)]
  refine ⟨shown, ?_, rfl, rfl⟩
  cases shape with
  | text => rfl
  | _ => exact shown

theorem shownAll_eq_map (trees : List Tree) : shownAll trees = trees.map shown := by
  induction trees with
  | nil => rfl
  | cons tree rest inductionHypothesis => rw [shownAll, inductionHypothesis, List.map_cons]

/-- An object with the members that are shown resembles one with all members. -/
theorem resembles_object
    (template : Option Template)
    (memory : CellRef)
    {slots : List Nat}
    {drawn parts : List Tree}
    (each : List.Forall₂ Resembles drawn (slots.filterMap (parts[·]?))) :
    (node (.object template memory (List.range drawn.length)) drawn).Resembles
      (node (.object template memory slots) parts) := by
  have shown : (node (.object template memory (List.range drawn.length)) drawn).shown =
      (node (.object template memory slots) parts).shown := by
    have texts : (List.range drawn.length).filterMap ((shownAll drawn)[·]?) =
        slots.filterMap ((shownAll parts)[·]?) := by
      have all := List.filterMap_range_getElem? (shownAll drawn)
      rw [shownAll_eq_map, List.length_map, ← shownAll_eq_map] at all
      rw [all, shownAll_of_resembles each, shownAll_eq_map, shownAll_eq_map,
        List.map_filterMap]
      simp
    rw [Tree.shown, Tree.shown]
    exact congrArg (fun texts => structName template ++ "(" ++ commaSeparated texts ++ ")") texts
  exact ⟨shown, shown, rfl, rfl⟩

end Tree

namespace Store

variable {store : Store} {term : Term} {depth : Nat} {tree : Tree}

/-- Terms that go on without cells are drawn as their trees unfold. -/
theorem draw_eq_mapM
    (noList : ∀ cell, term ≠ .list cell)
    (noTuple : ∀ cell, term ≠ .tuple cell)
    (noObject : ∀ template memory, term ≠ .object template memory)
    (rows : Row -> Option (List Tree)) :
    term.draw store rows =
      ((term.branches store false).mapM (Term.draw store rows)).bind fun parts =>
        some (.node (term.shape store) parts) := by
  cases term with
  | list cell => exact absurd rfl (noList cell)
  | tuple cell => exact absurd rfl (noTuple cell)
  | object template memory => exact absurd rfl (noObject template memory)
  | _ => simp [Term.draw, Term.branches, Term.shape, Option.bind_assoc]

theorem mapM_draw_of_expand
    {rows : Row -> Option (List Tree)}
    (each : ∀ {term tree}, store.expand false depth term = some tree ->
      ∃ drawn, term.draw store rows = some drawn ∧ drawn.Resembles tree)
    {terms : List Term}
    {trees : List Tree}
    (unfold : terms.mapM (store.expand false depth) = some trees) :
    ∃ drawn, terms.mapM (Term.draw store rows) = some drawn ∧
      List.Forall₂ Tree.Resembles drawn trees := by
  induction terms generalizing trees with
  | nil =>
      obtain rfl := Option.some.inj unfold
      exact ⟨[], rfl, .nil⟩
  | cons term rest inductionHypothesis =>
      obtain ⟨tree, others, shown, othersUnfold, rfl⟩ := List.mapM_cons_eq_some.mp unfold
      obtain ⟨first, drawn, resembles⟩ := each shown
      obtain ⟨images, drawnRest, resemble⟩ := inductionHypothesis othersUnfold
      exact ⟨first :: images,
        List.mapM_cons_eq_some.mpr ⟨first, images, drawn, drawnRest, rfl⟩,
        .cons resembles resemble⟩

/-- Terms with finite trees can be drawn, and the drawings resemble the trees. -/
theorem draw_of_expand
    (shows : store.expand false depth term = some tree) :
    ∃ drawn, term.draw store (descend store.drawRow depth) = some drawn ∧
      drawn.Resembles tree := by
  induction depth generalizing term tree with
  | zero => cases shows
  | succ depth inductionHypothesis =>
      obtain ⟨parts, partsShow, rfl⟩ := expand_succ_eq_some.mp shows
      cases term with
      | object template memory =>
          obtain ⟨slots, shape, row⟩ : ∃ slots,
              (Term.object template memory).shape store = .object template memory slots ∧
                store.row { cell := memory, layout := template.map Template.memory } =
                  slots.filterMap ((store.elements memory).toList[·]?) := by
            cases template with
            | some template => exact ⟨_, rfl, by simp [Store.row, dataSlots]⟩
            | none => exact ⟨_, rfl, (List.filterMap_range_getElem? _).symm⟩
          obtain ⟨drawn, found, resemble⟩ :=
            mapM_draw_of_expand inductionHypothesis (List.mapM_places partsShow slots)
          rw [shape]
          refine ⟨_, Option.bind_eq_some_iff.mpr ⟨drawn, ?_, rfl⟩,
            Tree.resembles_object template memory resemble⟩
          rw [← found]
          exact congrArg _ row
      | list cell | tuple cell =>
          obtain ⟨drawn, found, resemble⟩ := mapM_draw_of_expand inductionHypothesis partsShow
          exact ⟨.node _ drawn, Option.bind_eq_some_iff.mpr ⟨drawn, found, rfl⟩,
            Tree.resembles_node _ resemble⟩
      | _ =>
          obtain ⟨drawn, found, resemble⟩ := mapM_draw_of_expand inductionHypothesis partsShow
          refine ⟨.node _ drawn, ?_, Tree.resembles_node _ resemble⟩
          refine (draw_eq_mapM (by simp) (by simp) (by simp) _).trans ?_
          refine Option.bind_eq_some_iff.mpr ⟨drawn, List.mapM_mono (fun _ _ => ?_) found, rfl⟩
          exact draw_mono (descend_mono store.drawRow_growing (Nat.le_succ depth))

/-- A term with a finite tree is shown as its tree is. -/
theorem display?_of_expand (shows : store.expand false depth term = some tree) :
    store.display? term = some tree.display := by
  obtain ⟨drawn, found, resembles⟩ := draw_of_expand shows
  rw [display?_of_draw found, resembles.display]

theorem IsFinite.display? (finite : store.IsFinite term) :
    store.display? term = some (store.display term) := by
  obtain ⟨depth, tree, shows⟩ := finite
  rw [display, display?_of_expand shows]
  rfl

end Store
end PatternMachine
