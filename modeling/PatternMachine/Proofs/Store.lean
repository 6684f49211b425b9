import PatternMachine.Machine

/-!
# What the store operations do

One equation for each operation on the store and each thing the store holds:
cells, namespaces and sets of global names. Nothing after this module opens the
operations.
-/

namespace PatternMachine
namespace Store

@[simp] theorem elements_newCell_self
    (store : Store)
    (elements : Array Term) :
    (store.newCell elements).2.elements (store.newCell elements).1 = elements := by
  simp [Store.elements, newCell]

/-- A new cell leaves the elements of every cell that is there already. -/
theorem elements_newCell_of_lt
    (store : Store)
    (elements : Array Term)
    {cell : CellRef}
    (known : cell.place < store.cells.size) :
    (store.newCell elements).2.elements cell = store.elements cell := by
  simp [Store.elements, newCell, Array.getElem?_push, Nat.ne_of_lt known]

/-- After a new cell, a cell holds the new elements or what it held before. -/
theorem elements_newCell
    (store : Store)
    (elements : Array Term)
    (cell : CellRef) :
    (store.newCell elements).2.elements cell = elements ∨
      (store.newCell elements).2.elements cell = store.elements cell := by
  by_cases fresh : cell.place = store.cells.size
  · left
    simp [Store.elements, newCell, fresh]
  · right
    simp [Store.elements, newCell, Array.getElem?_push, fresh]

theorem elements_writeElement
    (store : Store)
    (target cell : CellRef)
    (place : Nat)
    (value : Term) :
    (store.writeElement target place value).elements cell =
      if cell = target then (store.elements cell).setIfInBounds place value
      else store.elements cell := by
  rcases target with ⟨target⟩
  rcases cell with ⟨cell⟩
  by_cases same : cell = target
  · subst same
    simp only [Store.elements, writeElement, Array.getElem?_modify, if_true]
    cases store.cells[cell]? <;> simp
  · have other : ¬ target = cell := fun equal => same equal.symm
    simp [Store.elements, writeElement, Array.getElem?_modify, same, other]

/-- What is found at a place of a cell is an element of the cell, or none. -/
theorem find_element
    (store : Store)
    (cell : CellRef)
    (place : Nat) :
    store.find (.element cell place) ∈ (store.elements cell).toList ∨
      store.find (.element cell place) = .none := by
  simp only [find]
  cases held : (store.elements cell)[place]? with
  | none => exact .inr rfl
  | some element => exact .inl (Array.mem_toList_iff.mpr (Array.mem_of_getElem? held))

/-- What is said of the places of a cell is said of all its places. -/
theorem forall_mem_places
    {store : Store}
    {cell : CellRef}
    {property : Site -> Prop}
    (each : ∀ place, property (.element cell place)) :
    ∀ site ∈ store.places cell, property site := by
  intro site held
  obtain ⟨place, _, rfl⟩ := List.mem_map.mp held
  exact each place

/-- The places of the data members of a struct lie inside its memory. -/
theorem lt_size_of_mem_dataSlots
    {store : Store}
    {template : Template}
    {slot : Nat}
    (inside : slot ∈ store.dataSlots template) :
    slot < (store.elements template.memory).size := by
  obtain ⟨⟨initial, place⟩, indexed, chosen⟩ := List.mem_filterMap.mp inside
  have bound := List.snd_lt_of_mem_zipIdx indexed
  rw [Array.length_toList] at bound
  have same : place = slot := by
    revert chosen
    cases initial <;> simp
  omega

@[simp] theorem scope_newScope
    (store : Store)
    (ref : ScopeRef) :
    store.newScope.2.scope ref = store.scope ref := by
  by_cases fresh : ref.place = store.scopes.size
  · simp [Store.scope, newScope, fresh]
  · simp [Store.scope, newScope, Array.getElem?_push, fresh]

@[simp] theorem globalNames_newGlobals
    (store : Store)
    (ref : GlobalsRef) :
    store.newGlobals.2.globalNames ref = store.globalNames ref := by
  by_cases fresh : ref.place = store.globals.size
  · simp [Store.globalNames, newGlobals, fresh]
  · simp [Store.globalNames, newGlobals, Array.getElem?_push, fresh]

/-- Nothing stands in the namespaces that were missing. -/
theorem scope_scopesThrough
    (store : Store)
    (place : Nat)
    (ref : ScopeRef) :
    (store.scopesThrough place)[ref.place]?.getD {} = store.scope ref := by
  unfold scopesThrough
  split
  · rfl
  · simp only [Store.scope, Array.getElem?_append]
    split
    · rfl
    · rename_i outside
      rw [Array.getElem?_eq_none (Nat.le_of_not_lt outside), Array.getElem?_replicate]
      split <;> rfl

theorem lt_size_scopesThrough (store : Store) (place : Nat) :
    place < (store.scopesThrough place).size := by
  unfold scopesThrough
  split
  · assumption
  · simp only [Array.size_append, Array.size_replicate]
    omega

/-- Binding a name loses no namespace. -/
theorem size_le_size_bind
    (store : Store)
    (ref : ScopeRef)
    (name : String)
    (value : Term) :
    store.scopes.size ≤ (store.bind ref name value).scopes.size := by
  simp only [bind, Array.size_modify, scopesThrough]
  split <;> simp

/-- A name is bound in the namespace it is bound in. -/
theorem scope_bind_self
    (store : Store)
    (ref : ScopeRef)
    (name : String)
    (value : Term) :
    (store.bind ref name value).scope ref = (store.scope ref).insert name value := by
  have inside := store.lt_size_scopesThrough ref.place
  have held := store.scope_scopesThrough ref.place ref
  rw [Array.getElem?_eq_getElem inside, Option.getD_some] at held
  simp only [Store.scope, bind, Array.getElem?_modify, if_true,
    Array.getElem?_eq_getElem inside, Option.map_some, Option.getD_some]
  rw [held]
  rfl

/-- Binding a name changes only the namespace it is bound in. -/
theorem scope_bind_of_ne
    (store : Store)
    {target ref : ScopeRef}
    (other : ref ≠ target)
    (name : String)
    (value : Term) :
    (store.bind target name value).scope ref = store.scope ref := by
  have apart : ¬ target.place = ref.place := by
    intro equal
    exact other (by cases ref; cases target; simp_all)
  rw [← store.scope_scopesThrough target.place ref]
  simp [Store.scope, bind, Array.getElem?_modify, apart]

/-- A namespace after a binding holds what it held before, or that with the
binding made. -/
theorem scope_bind
    (store : Store)
    (target ref : ScopeRef)
    (name : String)
    (value : Term) :
    (store.bind target name value).scope ref = store.scope ref ∨
      (store.bind target name value).scope ref = (store.scope ref).insert name value := by
  by_cases same : ref = target
  · obtain rfl := same
    exact .inr (store.scope_bind_self ref name value)
  · exact .inl (store.scope_bind_of_ne same name value)

/-- A set of global names never loses a name. -/
theorem mem_globalNames_declareGlobal
    (store : Store)
    (target ref : GlobalsRef)
    (name : String)
    {other : String}
    (member : other ∈ store.globalNames ref) :
    other ∈ (store.declareGlobal target name).globalNames ref := by
  by_cases same : target.place = ref.place
  · simp only [Store.globalNames, declareGlobal, Array.getElem?_modify, same, if_true]
      at member ⊢
    cases held : store.globals[ref.place]? with
    | none => simp [held] at member
    | some names =>
        simp only [held, Option.getD_some, Option.map_some] at member ⊢
        split <;> simp [member]
  · simpa [Store.globalNames, declareGlobal, Array.getElem?_modify, same] using member

/-- A name that was declared global is in the set. -/
theorem mem_globalNames_declareGlobal_self
    (store : Store)
    {ref : GlobalsRef}
    (existing : ref.place < store.globals.size)
    (name : String) :
    name ∈ (store.declareGlobal ref name).globalNames ref := by
  simp only [Store.globalNames, declareGlobal, Array.getElem?_modify, if_true,
    Array.getElem?_eq_getElem existing, Option.map_some, Option.getD_some]
  split
  · rename_i listed
    simpa using listed
  · exact List.mem_cons_self

/-- A list or tuple is present. -/
theorem isAbsent_of_sequenceElements?
    {store : Store}
    {xs : Term}
    {elements : List Term}
    (sequence : store.sequenceElements? xs = some elements) :
    xs.isAbsent = false := by
  cases xs <;> first | rfl | cases sequence

/-! ## Cells that stay -/

/-- The cells that were there are still there and hold what they held. -/
structure Keeps (before after : Store) : Prop where
  size : before.cells.size ≤ after.cells.size
  elements : ∀ cell : CellRef, cell.place < before.cells.size ->
    after.elements cell = before.elements cell

namespace Keeps

theorem refl (store : Store) : store.Keeps store :=
  ⟨Nat.le_refl _, fun _ _ => rfl⟩

theorem of_cells
    {before after : Store}
    (same : after.cells = before.cells) :
    before.Keeps after where
  size := Nat.le_of_eq (congrArg Array.size same.symm)
  elements cell _ := by rw [Store.elements, Store.elements, same]

theorem trans
    {first second third : Store}
    (earlier : first.Keeps second)
    (later : second.Keeps third) :
    first.Keeps third where
  size := Nat.le_trans earlier.size later.size
  elements cell known := by
    rw [later.elements cell (Nat.lt_of_lt_of_le known earlier.size), earlier.elements cell known]

theorem newCell
    (store : Store)
    (elements : Array Term) :
    store.Keeps (store.newCell elements).2 where
  size := by simp [Store.newCell]
  elements _ known := store.elements_newCell_of_lt elements known

end Keeps

/-- As long as no cell changes, the terms are found at the sites. -/
def Spreads (store : Store) (sites : List Site) (terms : List Term) : Prop :=
  ∀ after, store.Keeps after -> sites.map after.find = terms

theorem Spreads.keeps
    {before after : Store}
    {sites : List Site}
    {terms : List Term}
    (spreads : before.Spreads sites terms)
    (keeps : before.Keeps after) :
    after.Spreads sites terms :=
  fun later kept => spreads later (keeps.trans kept)

theorem spreads_given (store : Store) (terms : List Term) :
    store.Spreads (terms.map .given) terms := by
  intro after _
  induction terms with
  | nil => rfl
  | cons term rest inductionHypothesis => exact congrArg (term :: ·) inductionHypothesis

/-- The elements of a cell are found at its places. -/
theorem spreads_places (store : Store) (cell : CellRef) :
    store.Spreads (store.places cell) (store.elements cell).toList := by
  intro after keeps
  by_cases known : cell.place < store.cells.size
  · have same := keeps.elements cell known
    refine List.ext_getElem (by simp [places]) fun place inside _ => ?_
    have bound : place < (store.elements cell).size := by simpa [places] using inside
    simp [places, find, same, bound]
  · have missing : store.elements cell = #[] := by
      simp [Store.elements, Array.getElem?_eq_none (Nat.le_of_not_lt known)]
    simp [places, missing]

/-- The elements of a tuple or a pair are found at its sites. -/
theorem spreads_tuple
    {store : Store}
    {term : Term}
    {terms : List Term}
    (elements : store.tupleElements? term = some terms) :
    store.Spreads (store.sites term) terms := by
  cases term with
  | tuple cell =>
      obtain rfl := Option.some.inj elements
      exact store.spreads_places cell
  | pair first second =>
      obtain rfl := Option.some.inj elements
      exact store.spreads_given [first, second]
  | _ => simp [tupleElements?] at elements

theorem Spreads.cons
    {store : Store}
    {sites : List Site}
    {term : Term}
    {terms : List Term}
    (spreads : store.Spreads sites (term :: terms)) :
    ∃ site rest, sites = site :: rest ∧ store.find site = term ∧ store.Spreads rest terms := by
  cases sites with
  | nil => exact absurd (spreads store (.refl store)) (by simp)
  | cons site rest =>
      refine ⟨site, rest, rfl, (List.cons.inj (spreads store (.refl store))).1, ?_⟩
      exact fun after keeps => (List.cons.inj (spreads after keeps)).2

theorem newCell_known
    (store : Store)
    (elements : Array Term) :
    (store.newCell elements).1.place < (store.newCell elements).2.cells.size := by
  simp [newCell]

end Store

namespace Namespace

/-- The entries after an insertion are the new one and old ones. -/
theorem mem_insertEntry
    {name : String}
    {value : Term}
    {entries : List (String × Term)}
    {entry : String × Term}
    (member : entry ∈ insertEntry name value entries) :
    entry = (name, value) ∨ entry ∈ entries := by
  induction entries with
  | nil => simpa [insertEntry] using member
  | cons head rest inductionHypothesis =>
      simp only [insertEntry] at member
      split at member
      · rcases List.mem_cons.mp member with rfl | inside
        · exact .inl rfl
        · exact .inr (List.mem_cons_of_mem _ inside)
      · rcases List.mem_cons.mp member with rfl | inside
        · exact .inr List.mem_cons_self
        · rcases inductionHypothesis inside with new | old
          · exact .inl new
          · exact .inr (List.mem_cons_of_mem _ old)

/-- Binding a name leaves the values of the other names. -/
theorem get?_insert_of_ne
    (scope : Namespace)
    {name other : String}
    (apart : other ≠ name)
    (value : Term) :
    (scope.insert name value).get? other = scope.get? other := by
  have unequal : (other == name) = false := by simpa using apart
  obtain ⟨entries⟩ := scope
  simp only [get?, insert]
  induction entries with
  | nil => simp [insertEntry, List.lookup_cons, unequal]
  | cons head rest inductionHypothesis =>
      obtain ⟨key, old⟩ := head
      simp only [insertEntry]
      split
      · rename_i same
        obtain rfl : key = name := by simpa using same
        simp only [List.lookup_cons, unequal]
      · simp only [List.lookup_cons, inductionHypothesis]

/-- A name that was bound has the value it was bound to. -/
@[simp] theorem get?_insert_self
    (scope : Namespace)
    (name : String)
    (value : Term) :
    (scope.insert name value).get? name = some value := by
  obtain ⟨entries⟩ := scope
  simp only [get?, insert]
  induction entries with
  | nil => simp [insertEntry]
  | cons head rest inductionHypothesis =>
      obtain ⟨key, old⟩ := head
      simp only [insertEntry]
      split
      · simp
      · rename_i apart
        have unequal : (name == key) = false := by
          rwa [Bool.not_eq_true, BEq.comm] at apart
        simp only [List.lookup_cons, unequal, inductionHypothesis]

/-- A name that is found is an entry. -/
theorem mem_entries_of_get?
    {scope : Namespace}
    {name : String}
    {value : Term}
    (found : scope.get? name = some value) :
    (name, value) ∈ scope.entries := by
  obtain ⟨before, after, same, _⟩ := List.lookup_eq_some_iff.mp found
  simp [same]

end Namespace

end PatternMachine
