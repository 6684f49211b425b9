import Mathlib.Data.List.Induction
import PatternMachine.Proofs.Builtin.Install
import PatternMachine.Proofs.Likeness
import PatternMachine.Proofs.Showing

/-!
# Repeated elements and membership

Removing repeated elements keeps the first of those that are equal. It removes nothing that
matters for membership: a value is in the list that is left exactly if it is in the list that
was given, be it asked with the function or with the operator. These ask about equality the
other way round, and the element that is left of several equal ones need not be the one that
was met first, so that all of it rests on equality being an equivalence.
-/

namespace PatternMachine
namespace Builtin

/-- A list is what is left of another one when of equal elements the first one is kept, each
in its place. -/
structure KeepsFirst (store : Store) (elements kept : List Term) : Prop where
  sublist : kept.Sublist elements
  distinct : kept.Pairwise fun earlier later =>
    store.equal? earlier later = some false ∧ store.equal? later earlier = some false
  first : ∀ {before element behind}, elements = before ++ element :: behind ->
    (∀ earlier ∈ before, store.equal earlier element = false) ->
    ∃ keptBefore keptBehind, kept = keptBefore ++ element :: keptBehind ∧
      keptBefore.Sublist before ∧ keptBehind.Sublist behind

variable {store later : Store} {elements kept before behind : List Term} {element value : Term}

/-! ## Keeping the first of equal elements -/

/-- Keep an element unless it equals one that is kept already. -/
def keepUnlike (store : Store) (kept : List Term) (element : Term) : List Term :=
  if kept.any fun earlier => store.equal earlier element then kept else kept ++ [element]

/-- The elements that equal none before them. -/
def firstOccurrences (store : Store) (elements : List Term) : List Term :=
  elements.foldl (keepUnlike store) []

theorem keepUnlike_of_unlike
    (unlike : ∀ earlier ∈ kept, store.equal earlier element = false) :
    keepUnlike store kept element = kept ++ [element] :=
  if_neg fun found => by
    obtain ⟨earlier, member, same⟩ := List.any_eq_true.mp found
    exact Bool.false_ne_true ((unlike earlier member).symm.trans same)

/-- The elements that are kept stay, and those that are added are among the later ones. -/
theorem foldl_keepUnlike (store : Store) (kept behind : List Term) :
    ∃ added, behind.foldl (keepUnlike store) kept = kept ++ added ∧ added.Sublist behind := by
  induction behind generalizing kept with
  | nil => exact ⟨[], (List.append_nil kept).symm, .slnil⟩
  | cons element rest inductionHypothesis =>
      rw [List.foldl_cons, keepUnlike]
      split
      · obtain ⟨added, folded, sublist⟩ := inductionHypothesis kept
        exact ⟨added, folded, sublist.cons element⟩
      · obtain ⟨added, folded, sublist⟩ := inductionHypothesis (kept ++ [element])
        refine ⟨element :: added, ?_, sublist.cons_cons element⟩
        rw [folded, List.append_assoc, List.singleton_append]

theorem firstOccurrences_append (store : Store) (before behind : List Term) :
    firstOccurrences store (before ++ behind) =
      behind.foldl (keepUnlike store) (firstOccurrences store before) := by
  rw [firstOccurrences, firstOccurrences, List.foldl_append]

theorem firstOccurrences_sublist (store : Store) (elements : List Term) :
    (firstOccurrences store elements).Sublist elements := by
  obtain ⟨added, folded, sublist⟩ := foldl_keepUnlike store [] elements
  rw [firstOccurrences, folded]
  exact sublist

/-- No element that is kept equals one that is kept before it. -/
theorem firstOccurrences_pairwise (store : Store) (elements : List Term) :
    (firstOccurrences store elements).Pairwise fun earlier later =>
      store.equal earlier later = false := by
  induction elements using List.reverseRecOn with
  | nil => exact .nil
  | append_singleton elements element inductionHypothesis =>
      rw [firstOccurrences_append, List.foldl_cons, List.foldl_nil, keepUnlike]
      split
      · exact inductionHypothesis
      · rename_i fresh
        refine List.pairwise_append.mpr ⟨inductionHypothesis, List.pairwise_singleton _ _, ?_⟩
        intro earlier member other single
        obtain rfl := List.mem_singleton.mp single
        exact Bool.eq_false_iff.mpr fun same => fresh (List.any_eq_true.mpr ⟨earlier, member, same⟩)

/-- An element that equals none before it is kept in its place. -/
theorem firstOccurrences_first
    (unlike : ∀ earlier ∈ before, store.equal earlier element = false)
    (behind : List Term) :
    ∃ keptBehind, firstOccurrences store (before ++ element :: behind) =
        firstOccurrences store before ++ element :: keptBehind ∧ keptBehind.Sublist behind := by
  have kept : keepUnlike store (firstOccurrences store before) element =
      firstOccurrences store before ++ [element] :=
    keepUnlike_of_unlike fun earlier member =>
      unlike earlier ((firstOccurrences_sublist store before).mem member)
  obtain ⟨added, folded, sublist⟩ :=
    foldl_keepUnlike store (firstOccurrences store before ++ [element]) behind
  refine ⟨added, ?_, sublist⟩
  rw [firstOccurrences_append, List.foldl_cons, kept, folded, List.append_assoc,
    List.singleton_append]

/-- Where no element equals one before it, all are kept. -/
theorem firstOccurrences_of_pairwise
    (distinct : elements.Pairwise fun earlier later => store.equal earlier later = false) :
    firstOccurrences store elements = elements := by
  induction elements using List.reverseRecOn with
  | nil => rfl
  | append_singleton elements element inductionHypothesis =>
      obtain ⟨earlierDistinct, _, unlike⟩ := List.pairwise_append.mp distinct
      rw [firstOccurrences_append, List.foldl_cons, List.foldl_nil,
        inductionHypothesis earlierDistinct]
      exact keepUnlike_of_unlike fun earlier member =>
        unlike earlier member element (List.mem_singleton_self element)

/-! ## Elements with finite trees and without reals -/

/-- Whether a value is among some elements is found out. -/
theorem isAmong?_eq
    (discrete : ∀ element ∈ elements, store.IsDiscrete element)
    (valueDiscrete : store.IsDiscrete value) :
    isAmong? store value elements =
      some (elements.any fun element => store.equal element value) :=
  List.anyM_eq_some fun element member =>
    (discrete element member).finite.equal? valueDiscrete.finite

/-- An element that cannot be compared with itself is not found to be repeated, nor not to be. -/
theorem firstOccurrences?_repeated
    (incomparable : ¬ store.IsComparable element)
    (behind : List Term) :
    firstOccurrences? store (element :: element :: behind) = none := by
  have unknown : store.equal? element element = none := by
    rw [← Option.not_isSome_iff_eq_none, Option.isSome_iff_exists]
    exact incomparable
  simp [firstOccurrences?, keepUnlike?, isAmong?, unknown]

/-- The elements that equal none before them are found. -/
theorem firstOccurrences?_eq (discrete : ∀ element ∈ elements, store.IsDiscrete element) :
    firstOccurrences? store elements = some (firstOccurrences store elements) := by
  -- What is kept are elements met before, so generalise over discrete ones.
  have generally : ∀ kept, (∀ element ∈ kept, store.IsDiscrete element) ->
      elements.foldlM (keepUnlike? store) kept = some (elements.foldl (keepUnlike store) kept) := by
    induction elements with
    | nil => exact fun _ _ => rfl
    | cons element rest inductionHypothesis =>
        intro kept keptDiscrete
        obtain ⟨first, others⟩ := List.forall_mem_cons.mp discrete
        have step : keepUnlike? store kept element = some (keepUnlike store kept element) := by
          rw [keepUnlike?, isAmong?_eq keptDiscrete first, keepUnlike]
          cases kept.any fun earlier => store.equal earlier element <;> rfl
        rw [List.foldlM_cons, step, List.foldl_cons]
        refine inductionHypothesis others _ fun other member => ?_
        rw [keepUnlike] at member
        split at member
        · exact keptDiscrete other member
        · rcases List.mem_append.mp member with earlier | last
          · exact keptDiscrete other earlier
          · exact List.mem_singleton.mp last ▸ first
  exact generally [] (by simp)

/-- Whether some element equals a value is asked in either order, and as long as no cell
changes the answer is the same. -/
theorem any_equal_keeps
    (discrete : ∀ element ∈ elements, store.IsDiscrete element)
    (valueDiscrete : store.IsDiscrete value)
    (keeps : store.Keeps later) :
    (elements.any fun element => later.equal element value) =
        elements.any (fun element => store.equal element value) ∧
      (elements.any fun element => later.equal value element) =
        elements.any fun element => store.equal element value := by
  constructor <;> refine Bool.eq_iff_iff.mpr ?_ <;> rw [List.any_eq_true, List.any_eq_true]
  · refine exists_congr fun element => and_congr_right fun member => ?_
    rw [(discrete element member).equal_keeps valueDiscrete keeps]
  · refine exists_congr fun element => and_congr_right fun member => ?_
    rw [valueDiscrete.equal_keeps (discrete element member) keeps,
      valueDiscrete.equal_comm (discrete element member)]

theorem firstOccurrences_keeps
    (discrete : ∀ element ∈ elements, store.IsDiscrete element)
    (keeps : store.Keeps later) :
    firstOccurrences later elements = firstOccurrences store elements := by
  induction elements using List.reverseRecOn with
  | nil => rfl
  | append_singleton elements element inductionHypothesis =>
      obtain ⟨earlierDiscrete, elementDiscrete⟩ := List.forall_mem_append.mp discrete
      have among := (firstOccurrences_sublist store elements).subset
      rw [firstOccurrences_append, firstOccurrences_append, inductionHypothesis earlierDiscrete]
      simp only [List.foldl_cons, List.foldl_nil, keepUnlike]
      rw [(any_equal_keeps (fun earlier kept => earlierDiscrete earlier (among kept))
        (elementDiscrete element (List.mem_singleton_self element)) keeps).1]

theorem keepsFirst_firstOccurrences (discrete : ∀ element ∈ elements, store.IsDiscrete element) :
    KeepsFirst store elements (firstOccurrences store elements) where
  sublist := firstOccurrences_sublist store elements
  distinct := by
    have among := (firstOccurrences_sublist store elements).subset
    refine (firstOccurrences_pairwise store elements).imp_of_mem ?_
    intro earlier later earlierKept laterKept unequal
    have earlierDiscrete := discrete earlier (among earlierKept)
    have laterDiscrete := discrete later (among laterKept)
    rw [earlierDiscrete.finite.equal? laterDiscrete.finite,
      laterDiscrete.finite.equal? earlierDiscrete.finite, laterDiscrete.equal_comm earlierDiscrete,
      unequal]
    exact ⟨rfl, rfl⟩
  first := by
    intro before element behind same unlike
    obtain ⟨keptBehind, kept, sublist⟩ := firstOccurrences_first unlike behind
    rw [← same] at kept
    exact ⟨_, keptBehind, kept, firstOccurrences_sublist store before, sublist⟩

namespace KeepsFirst

variable (keepsFirst : KeepsFirst store elements kept)
  (discrete : ∀ element ∈ elements, store.IsDiscrete element)

include keepsFirst discrete

/-- As long as no cell changes, keeping the first of equal elements once more removes
nothing. -/
theorem again (keeps : store.Keeps later) : firstOccurrences later kept = kept := by
  have among := keepsFirst.sublist.subset
  rw [firstOccurrences_keeps (fun element member => discrete element (among member)) keeps]
  refine firstOccurrences_of_pairwise (keepsFirst.distinct.imp fun unequal => ?_)
  rw [Store.equal, unequal.1]
  rfl

/-- The elements that are kept are equal to the same values as all elements are. -/
theorem any_equal (valueDiscrete : store.IsDiscrete value) :
    kept.any (fun element => store.equal element value) =
      elements.any fun element => store.equal element value := by
  refine Bool.eq_iff_iff.mpr ⟨fun found => ?_, fun found => ?_⟩
  · obtain ⟨element, member, same⟩ := List.any_eq_true.mp found
    exact List.any_eq_true.mpr ⟨element, keepsFirst.sublist.mem member, same⟩
  · -- The first element that is equal to the value equals none before it.
    obtain ⟨element, first⟩ := Option.isSome_iff_exists.mp
      (List.find?_isSome.mpr (List.any_eq_true.mp found))
    obtain ⟨same, before, behind, rfl, unlike⟩ := List.find?_eq_some_iff_append.mp first
    have elementDiscrete := discrete element (List.mem_append_right _ List.mem_cons_self)
    have fresh : ∀ earlier ∈ before, store.equal earlier element = false := by
      intro earlier member
      have earlierDiscrete := discrete earlier (List.mem_append_left _ member)
      refine Bool.eq_false_iff.mpr fun alike => ?_
      have alikeValue := earlierDiscrete.equal_trans elementDiscrete valueDiscrete alike same
      exact absurd alikeValue (by simpa using unlike earlier member)
    obtain ⟨keptBefore, keptBehind, rfl, _, _⟩ := keepsFirst.first rfl fresh
    exact List.any_eq_true.mpr ⟨element, List.mem_append_right _ List.mem_cons_self, same⟩

end KeepsFirst

end Builtin

namespace Evaluator

/-- As long as no cell changes, the function and the operator for membership give the same
verdict on whether a value is in a list or tuple. -/
structure TellsMember (verdict : Bool) (value sequence : Term) (store : Store) : Prop where
  called : ∀ {function argument later}, Native.member.Available function later ->
    store.Keeps later.store -> later.store.tupleElements? argument = some [value, sequence] ->
    ∀ depth, ∃ left, (within (depth + 2)).Returns function argument later (.boolean verdict) left
  walked : ∀ {depth mark element container machine middle later},
    (within depth).walk element machine = .ok value middle ->
    (within depth).walk container middle = .ok sequence later -> store.Keeps later.store ->
    (within (depth + 1)).walk (.membership mark element container) machine =
      .ok (.boolean verdict) later

variable {store : Store} {value sequence function xs : Term} {machine : Machine}
  {elements : List Term}

theorem tellsMember
    (held : store.sequenceElements? sequence = some elements)
    (placed : sequence.isPlaced store = true)
    (present : value.isAbsent = false)
    (valueDiscrete : store.IsDiscrete value)
    (discrete : ∀ element ∈ elements, store.IsDiscrete element) :
    TellsMember (elements.any fun element => store.equal element value) value sequence store where
  called := by
    intro function argument later available keeps operands depth
    obtain ⟨entered, valueFound, sequenceFound, ends⟩ := applyValue_pair available rfl
      operands ⟨present, Store.isAbsent_of_sequenceElements? held⟩ depth
    have heldLater := (Store.sequenceElements?_keeps keeps placed).trans held
    have onwards := keeps.trans (.of_cells valueFound.cells)
    have among := Builtin.isAmong?_eq
      (fun element member => (discrete element member).keeps onwards) (valueDiscrete.keeps onwards)
    rw [(Builtin.any_equal_keeps discrete valueDiscrete onwards).1] at among
    have run : Native.member.run entered =
        .ok (.boolean (elements.any fun element => store.equal element value)) entered := by
      change (Builtin.formal "x" >>= _ : Action Term) entered = _
      rw [Action.bind_apply, Builtin.formal_apply valueFound]
      dsimp only
      rw [Action.bind_apply, Builtin.listFormal_apply sequenceFound heldLater]
      dsimp only
      rw [Action.bind_apply, Action.finitely_apply, among]
      rfl
    exact ⟨_, ends.returns _ _ run⟩
  walked := by
    intro depth mark element container machine middle later first second keeps
    have heldLater := (Store.sequenceElements?_keeps keeps placed).trans held
    have among : (elements.anyM fun other => later.store.equal? value other) =
        some (elements.any fun element => store.equal element value) := by
      rw [← (Builtin.any_equal_keeps discrete valueDiscrete keeps).2]
      exact List.anyM_eq_some fun element member =>
        (valueDiscrete.keeps keeps).finite.equal? ((discrete element member).keeps keeps).finite
    change (within depth).walkMembership element container machine = _
    unfold walkMembership
    rw [Action.bind_apply, first]
    dsimp only
    rw [Action.bind_apply, second]
    dsimp only
    rw [Action.bind_apply, Action.store_apply]
    dsimp only
    rw [heldLater]
    dsimp only
    rw [Action.bind_apply, Action.finitely_apply, among]
    rfl

/-- Removing repeated elements makes a new list of the elements that equal none before
them. -/
theorem applyValue_unique_firstOccurrences
    (available : Native.unique.Available function machine)
    (sequence : machine.store.sequenceElements? xs = some elements)
    (discrete : ∀ element ∈ elements, machine.store.IsDiscrete element)
    (depth : Nat) :
    ∃ cell store, (within (depth + 1)).Returns function xs machine (.list cell) store ∧
      machine.store.Keeps store ∧ cell.place < store.cells.size ∧
      (store.elements cell).toList = Builtin.firstOccurrences machine.store elements := by
  have present := Store.isAbsent_of_sequenceElements? sequence
  obtain ⟨entered, found, ends⟩ := applyValue_native (available.callable rfl) present depth
  have keeps : machine.store.Keeps entered.store := .of_cells found.cells
  have occurrences := Builtin.firstOccurrences?_eq
    fun element member => (discrete element member).keeps keeps
  rw [Builtin.firstOccurrences_keeps discrete keeps] at occurrences
  have run : Native.unique.run entered =
      Action.newList (Builtin.firstOccurrences machine.store elements) entered := by
    change (Builtin.listFormal "unique" >>= _ : Action Term) entered = _
    rw [Action.bind_apply, Builtin.listFormal_apply found sequence]
    dsimp only
    rw [Action.bind_apply, Action.finitely_apply, occurrences]
  refine ⟨_, _, ends.returns _ _ (run.trans (Action.newList_apply _ entered)),
    keeps.trans (.newCell _ _), Store.newCell_known _ _, ?_⟩
  rw [Store.elements_newCell_self]

/-- Removing repeated elements from a list or tuple that is discrete keeps the first of those
that are equal. Once more it removes nothing, and a discrete value is in the list that is left
exactly if it was in the one that was given. Without a finite tree none of this need come to an
end. -/
theorem applyValue_unique
    (available : Native.unique.Available function machine)
    (sequence : machine.store.sequenceElements? xs = some elements)
    (discrete : machine.store.IsDiscrete xs)
    (depth : Nat) :
    ∃ cell store, (within (depth + 1)).Returns function xs machine (.list cell) store ∧
      machine.store.Keeps store ∧
      Builtin.KeepsFirst machine.store elements (store.elements cell).toList ∧
      (∀ {again later}, Native.unique.Available again later -> store.Keeps later.store ->
        ∀ depth, ∃ other left,
          (within (depth + 1)).Returns again (.list cell) later (.list other) left ∧
            left.elements other = store.elements cell) ∧
      ∀ value, value.isAbsent = false -> machine.store.IsDiscrete value ->
        ∃ verdict,
          (verdict = true ↔ ∃ element ∈ elements, machine.store.equal element value = true) ∧
          TellsMember verdict value xs store ∧ TellsMember verdict value (.list cell) store := by
  have elementsDiscrete := discrete.elements sequence
  obtain ⟨cell, store, returns, keeps, known, kept⟩ :=
    applyValue_unique_firstOccurrences available sequence elementsDiscrete depth
  have keepsFirst : Builtin.KeepsFirst machine.store elements (store.elements cell).toList := by
    rw [kept]
    exact Builtin.keepsFirst_firstOccurrences elementsDiscrete
  have keptDiscrete : ∀ element ∈ (store.elements cell).toList,
      machine.store.IsDiscrete element :=
    fun element member => elementsDiscrete element (keepsFirst.sublist.subset member)
  refine ⟨cell, store, returns, keeps, keepsFirst, ?_, ?_⟩
  · intro again later availableAgain keepsLater depth
    have held : later.store.sequenceElements? (.list cell) =
        some (store.elements cell).toList := by
      rw [Store.sequenceElements?, keepsLater.elements cell known]
    have keepsAgain := keeps.trans keepsLater
    obtain ⟨other, left, returnsAgain, _, _, keptAgain⟩ :=
      applyValue_unique_firstOccurrences availableAgain held
        (fun element member => (keptDiscrete element member).keeps keepsAgain) depth
    refine ⟨other, left, returnsAgain, Array.toList_inj.mp (keptAgain.trans ?_)⟩
    exact keepsFirst.again elementsDiscrete keepsAgain
  · intro value present valueDiscrete
    refine ⟨elements.any fun element => machine.store.equal element value,
      List.any_eq_true, ?_, ?_⟩
    · rw [← (Builtin.any_equal_keeps elementsDiscrete valueDiscrete keeps).1]
      refine tellsMember ?_ (Store.isPlaced_keeps keeps discrete.placed) present
        (valueDiscrete.keeps keeps) fun element member =>
          (elementsDiscrete element member).keeps keeps
      exact (Store.sequenceElements?_keeps keeps discrete.placed).trans sequence
    · rw [← keepsFirst.any_equal elementsDiscrete valueDiscrete,
        ← (Builtin.any_equal_keeps keptDiscrete valueDiscrete keeps).1]
      exact tellsMember rfl (decide_eq_true known) present (valueDiscrete.keeps keeps)
        fun element member => (keptDiscrete element member).keeps keeps

/-- A store with a list in which elements are repeated. -/
def repeatingStore : Store :=
  (Store.initial.newCell #[.integer 1, .boolean true, .text "a", .text "a"]).2

/-- A machine that was prepared with the built-in functions over the list. -/
def repeatingMachine : Machine :=
  .prepared repeatingStore {} {} true

theorem elements_repeatingMachine :
    repeatingMachine.store.elements ⟨1⟩ =
        #[.integer 1, .boolean true, .text "a", .text "a"] ∧
      1 < repeatingMachine.store.cells.size := by
  have keeps : repeatingStore.Keeps repeatingMachine.store :=
    (Native.prepared_available repeatingStore).1
  have known : 1 < repeatingStore.cells.size := by decide
  exact ⟨keeps.elements ⟨1⟩ known, Nat.lt_of_lt_of_le known keeps.size⟩

/-- The repeated elements are removed, and the text is found before and after. -/
theorem applyValue_unique_of_repeating :
    ∃ cell store, (within 1).Returns (.closure "unique" (some Closure.global)) (.list ⟨1⟩)
        repeatingMachine (.list cell) store ∧
      Builtin.KeepsFirst repeatingMachine.store
        [.integer 1, .boolean true, .text "a", .text "a"] (store.elements cell).toList ∧
      (∃ other left, (within 1).Returns (.closure "unique" (some Closure.global)) (.list cell)
        { repeatingMachine with store := store } (.list other) left ∧
          left.elements other = store.elements cell) ∧
      (∃ left, (within 2).Returns (.closure "member" (some Closure.global))
        (.pair (.text "a") (.list cell)) { repeatingMachine with store := store }
          (.boolean true) left) ∧
      TellsMember true (.text "a") (.list ⟨1⟩) store := by
  have available : ∀ operation : Native, operation.Available
      (.closure operation.name (some Closure.global)) repeatingMachine :=
    fun operation => (Native.prepared_available repeatingStore).2 operation (by decide)
  obtain ⟨held, known⟩ := elements_repeatingMachine
  generalize repeatingMachine = machine at available held known ⊢
  have atomic : ∀ {term : Term}, term = .integer 1 ∨ term = .boolean true ∨ term = .text "a" ->
      machine.store.IsDiscrete term := by
    rintro _ (rfl | rfl | rfl) <;> exact .of_leaf (by simp [Term.kind]) rfl rfl
  have discrete : machine.store.IsDiscrete (.list ⟨1⟩) := by
    refine .of_list known fun element inside => atomic ?_
    simpa [held] using inside
  have sequence : machine.store.sequenceElements? (.list ⟨1⟩) =
      some [.integer 1, .boolean true, .text "a", .text "a"] :=
    congrArg (fun elements : Array Term => some elements.toList) held
  obtain ⟨cell, store, returns, keeps, keepsFirst, again, tells⟩ :=
    applyValue_unique (available .unique) sequence discrete 0
  obtain ⟨verdict, meaning, before, after⟩ := tells (.text "a") rfl (atomic (.inr (.inr rfl)))
  obtain rfl : verdict = true :=
    meaning.mpr ⟨.text "a", by simp, (atomic (.inr (.inr rfl))).equal_refl⟩
  exact ⟨cell, store, returns, keepsFirst, again ((available .unique).keeps keeps) (.refl _) 0,
    after.called ((available .member).keeps keeps) (.refl _) rfl 0, before⟩

/-- A store with a list whose only element is the list itself, and with a list of this list
twice. -/
def circularStore : Store :=
  ((Store.initial.newCell #[.list ⟨1⟩]).2.newCell #[.list ⟨1⟩, .list ⟨1⟩]).2

/-- No real shows in the list of both. But its elements cannot be compared, and so repeated
elements are never removed from it. -/
theorem unique_of_circular :
    let machine := Machine.prepared circularStore {} {} true
    machine.store.ShowsOnly (· ≠ .real) (.list ⟨2⟩) ∧
      ∀ depth value store, ¬ (within (depth + 1)).Returns
        (.closure "unique" (some Closure.global)) (.list ⟨2⟩) machine value store := by
  intro machine
  have keeps : circularStore.Keeps machine.store := (Native.prepared_available circularStore).1
  have available : Native.unique.Available (.closure "unique" (some Closure.global)) machine :=
    (Native.prepared_available circularStore).2 .unique (by decide)
  have inner : machine.store.elements ⟨1⟩ = #[.list ⟨1⟩] := keeps.elements ⟨1⟩ (by decide)
  have outer : machine.store.elements ⟨2⟩ = #[.list ⟨1⟩, .list ⟨1⟩] :=
    keeps.elements ⟨2⟩ (by decide)
  have size : 2 < machine.store.cells.size := Nat.lt_of_lt_of_le (by decide) keeps.size
  clear_value machine
  constructor
  · intro part reaches
    have listed := reaches.mem_of_closed [.list ⟨2⟩, .list ⟨1⟩]
      (by simp [Term.visible, Term.contents, Term.parts, inner, outer]) List.mem_cons_self
    simp only [List.mem_cons, List.not_mem_nil, or_false] at listed
    rcases listed with rfl | rfl
    · exact ⟨by simp [Term.kind], decide_eq_true size⟩
    · exact ⟨by simp [Term.kind], decide_eq_true (Nat.lt_of_succ_lt size)⟩
  · intro depth value store returns
    have sequence : machine.store.sequenceElements? (.list ⟨2⟩) = some [.list ⟨1⟩, .list ⟨1⟩] :=
      congrArg (fun elements : Array Term => some elements.toList) outer
    obtain ⟨entered, found, ends⟩ := applyValue_native (available.callable rfl)
      (Store.isAbsent_of_sequenceElements? sequence) depth
    have held : (entered.store.elements ⟨1⟩).toList = [.list ⟨1⟩] := by
      rw [(Store.Keeps.of_cells found.cells).elements ⟨1⟩ (Nat.lt_of_succ_lt size), inner]
    have run : Native.unique.run entered = .error .exhausted entered := by
      change (Builtin.listFormal "unique" >>= _ : Action Term) entered = _
      rw [Action.bind_apply, Builtin.listFormal_apply found sequence]
      dsimp only
      rw [Action.bind_apply, Action.finitely_apply,
        Builtin.firstOccurrences?_repeated (Store.not_isComparable held)]
    obtain ⟨left, stopped⟩ := ends.exhausted entered run
    obtain ⟨final, returned, _⟩ := returns
    cases stopped.symm.trans returned

end Evaluator
end PatternMachine
