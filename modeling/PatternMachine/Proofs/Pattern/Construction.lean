import PatternMachine.Proofs.Careful.Walk
import PatternMachine.Proofs.Ownership
import PatternMachine.Proofs.Pattern.Success

/-!
# Constructor patterns take objects apart

Constructing an object puts the elements of a tuple into the data slots of the object, one
after the other and past the slots of the methods, and a constructor pattern takes them out
of the same slots. So matching the object against the constructor pattern is matching the
tuple against the tuple of the patterns. There is one difference: the data members of the
object are taken out before the first of them is matched, while the elements of the tuple
are looked up when their turns come. It shows only when a guard writes to an element of that
tuple in the meantime, which takes another reference to it.
-/

namespace PatternMachine
namespace Store

/-! ## Data slots -/

/-- The data slots of a struct are in increasing order. -/
theorem pairwise_dataSlots (store : Store) (template : Template) :
    (store.dataSlots template).Pairwise (· < ·) := by
  have ordered : (store.elements template.memory).toList.zipIdx.Pairwise
      fun first second => first.2 < second.2 := by
    rw [← List.pairwise_map (f := Prod.snd) (R := (· < ·)), List.zipIdx_map_snd]
    exact List.pairwise_lt_range'
  refine ordered.filterMap _ fun first second before place chosen other chosenToo => ?_
  obtain ⟨initial, firstPlace⟩ := first
  obtain ⟨otherInitial, otherPlace⟩ := second
  have placed : firstPlace = place := by
    revert chosen
    cases initial <;> simp
  have otherPlaced : otherPlace = other := by
    revert chosenToo
    cases otherInitial <;> simp
  rwa [← placed, ← otherPlaced]

/-- Filling slots of a cell makes no cells and leaves the other cells and the other slots as
they are, and each of different slots holds its value afterwards. -/
theorem elements_fill
    (memory : CellRef)
    (writes : List (Nat × Term))
    (store : Store) :
    let filled := writes.foldl
      (fun store (slot, value) => store.writeElement memory slot value) store
    filled.cells.size = store.cells.size ∧
      (∀ cell, cell ≠ memory -> filled.elements cell = store.elements cell) ∧
      (∀ slot, slot ∉ writes.map Prod.fst ->
        (filled.elements memory)[slot]? = (store.elements memory)[slot]?) ∧
      ((writes.map Prod.fst).Nodup -> ∀ write ∈ writes,
        write.1 < (store.elements memory).size ->
        (filled.elements memory)[write.1]? = some write.2) := by
  induction writes generalizing store with
  | nil => simp
  | cons write rest inductionHypothesis =>
      obtain ⟨slot, value⟩ := write
      obtain ⟨size, cells, slots, written⟩ :=
        inductionHypothesis (store.writeElement memory slot value)
      refine ⟨size.trans (by simp [writeElement]), fun cell apart => ?_, fun other apart => ?_,
        fun distinct => ?_⟩
      · rw [List.foldl_cons, cells cell apart, elements_writeElement, if_neg apart]
      · rw [List.foldl_cons, slots other (List.not_mem_of_not_mem_cons apart),
          elements_writeElement, if_pos rfl,
          Array.getElem?_setIfInBounds_ne (List.ne_of_not_mem_cons apart).symm]
      · obtain ⟨unseen, restDistinct⟩ := List.nodup_cons.mp distinct
        refine List.forall_mem_cons.mpr ⟨fun inside => ?_, fun other member inside => ?_⟩
        · rw [List.foldl_cons, slots slot unseen, elements_writeElement, if_pos rfl]
          simp [inside]
        · rw [List.foldl_cons]
          refine written restDistinct other member ?_
          rwa [elements_writeElement, if_pos rfl, Array.size_setIfInBounds]

/-- After the data slots of an object have been filled, they hold the values in order. -/
theorem getElem?_fill
    {store : Store}
    {template : Template}
    {memory : CellRef}
    {values : List Term}
    (sized : (store.elements memory).size = (store.elements template.memory).size)
    (lengths : values.length = (store.dataSlots template).length) :
    let filled := ((store.dataSlots template).zip values).foldl
      (fun store (slot, value) => store.writeElement memory slot value) store
    ((store.dataSlots template).map fun slot => (filled.elements memory)[slot]?) =
      values.map some := by
  intro filled
  obtain ⟨_, _, _, written⟩ :=
    elements_fill memory ((store.dataSlots template).zip values) store
  have distinct : (((store.dataSlots template).zip values).map Prod.fst).Nodup := by
    rw [List.map_fst_zip (Nat.le_of_eq lengths.symm)]
    exact (store.pairwise_dataSlots template).imp Nat.ne_of_lt
  refine List.ext_getElem (by simp [lengths]) fun place inSlots inValues => ?_
  simp only [List.length_map] at inSlots inValues
  simp only [List.getElem_map]
  refine written distinct ((store.dataSlots template)[place], values[place]) ?_ ?_
  · exact List.mem_iff_getElem.mpr ⟨place, by rw [List.length_zip]; omega, List.getElem_zip⟩
  · rw [sized]
    exact lt_size_of_mem_dataSlots (List.getElem_mem inSlots)

end Store

/-- A struct of the store whose `__init__` member, if there is one, is not a function. -/
structure Template.IsPlain (template : Template) (store : Store) : Prop where
  known : template.memory.place < store.cells.size
  uninitialised : ∀ body captured,
    store.member? (some template) template.memory "__init__" ≠ some (.closure body captured)

namespace Evaluator

/-! ## Constructing an object from a tuple -/

section Constructing

variable {self : Evaluator} {template : Template} {cell : CellRef} {machine : Machine}

/-- A struct that has been built is in the store. -/
theorem known_of_buildStruct
    {name : String}
    {members : List Term}
    {after : Machine}
    (built : self.buildStruct name members machine = .ok template after) :
    template.memory.place < after.store.cells.size ∧ template.name = name := by
  obtain ⟨⟨names, values⟩, middle, _, made⟩ := Action.bind_eq_ok.mp built
  obtain ⟨rfl, rfl⟩ := EStateM.Result.ok.inj made
  exact ⟨by simp, rfl⟩

/-- The machine in which the memory of a new object has been made, with a copy of what the
members of the struct start with. -/
def started (template : Template) (tally : Tally) (machine : Machine) : Machine :=
  { machine with
    tally
    store := (machine.store.newCell (machine.store.elements template.memory)).2 }

theorem elements_started
    {tally : Tally}
    (known : cell.place < machine.store.cells.size) :
    (started template tally machine).store.elements cell = machine.store.elements cell :=
  machine.store.elements_newCell_of_lt _ known

theorem elements_started_self (template : Template) (tally : Tally) (machine : Machine) :
    (started template tally machine).store.elements ⟨machine.store.cells.size⟩ =
      machine.store.elements template.memory :=
  machine.store.elements_newCell_self _

theorem dataSlots_started
    {tally : Tally}
    (plain : template.IsPlain machine.store) :
    (started template tally machine).store.dataSlots template =
      machine.store.dataSlots template :=
  Store.dataSlots_of_elements (elements_started plain.known)

/-- Once the object is there, a tuple of the right length is put into its data slots, and any
other tuple is refused. -/
theorem construct_eq
    (self : Evaluator)
    (known : cell.place < machine.store.cells.size)
    (plain : template.IsPlain machine.store) :
    ∃ tally,
      Action.newObject template machine =
        .ok ⟨machine.store.cells.size⟩ (started template tally machine) ∧
      self.construct template (.tuple cell) machine =
      (if (machine.store.elements cell).toList.length ≠
          (machine.store.dataSlots template).length then
        Action.raise .valueError
          (template.name ++ " takes " ++
            toString (machine.store.dataSlots template).length ++ " arguments but " ++
            toString (machine.store.elements cell).toList.length ++ " were given")
      else fillSlots ⟨machine.store.cells.size⟩ (machine.store.dataSlots template)
          (machine.store.elements cell).toList >>= fun _ =>
        pure (.object (some template) ⟨machine.store.cells.size⟩))
        (started template tally machine) := by
  obtain ⟨tally, made⟩ : ∃ tally, Action.newObject template machine =
      .ok ⟨machine.store.cells.size⟩ (started template tally machine) :=
    newObject_apply template machine
  refine ⟨tally, made, ?_⟩
  have member : (started template tally machine).store.member? (some template)
      ⟨machine.store.cells.size⟩ "__init__" =
        machine.store.member? (some template) template.memory "__init__" := by
    simp [Store.member?, elements_started_self]
  unfold construct
  rw [Action.bind_apply, made]
  dsimp only
  rw [Action.bind_apply, Action.store_apply]
  dsimp only
  rw [member]
  cases initial : machine.store.member? (some template) template.memory "__init__" with
  | none =>
      dsimp only
      rw [Action.bind_apply, Action.store_apply]
      simp only [constructorValues, Store.tupleElements?, elements_started known,
        dataSlots_started plain, bne_iff_ne]
  | some value =>
      cases value with
      | closure body captured => exact absurd initial (plain.uninitialised body captured)
      | _ =>
          dsimp only
          rw [Action.bind_apply, Action.store_apply]
          simp only [constructorValues, Store.tupleElements?, elements_started known,
            dataSlots_started plain, bne_iff_ne]

/-- A tuple of another length is refused. -/
theorem construct_refuses
    (known : cell.place < machine.store.cells.size)
    (plain : template.IsPlain machine.store)
    (lengths : (machine.store.elements cell).toList.length ≠
      (machine.store.dataSlots template).length) :
    ∃ refused, self.construct template (.tuple cell) machine =
      Action.raise .valueError
        (template.name ++ " takes " ++ toString (machine.store.dataSlots template).length ++
          " arguments but " ++ toString (machine.store.elements cell).toList.length ++
          " were given") refused := by
  obtain ⟨tally, _, constructs⟩ := construct_eq self known plain
  exact ⟨_, by rw [constructs, if_pos lengths]⟩

/-- A tuple of the right length becomes an object: its data slots hold the elements in order,
and the cells that were there are as they were. Where values are data, nothing but data has
been put anywhere. -/
theorem construct_fills
    (self : Evaluator)
    (known : cell.place < machine.store.cells.size)
    (plain : template.IsPlain machine.store)
    (lengths : (machine.store.elements cell).toList.length =
      (machine.store.dataSlots template).length) :
    ∃ memory made,
      self.construct template (.tuple cell) machine = .ok (.object (some template) memory) made ∧
      machine.store.Keeps made.store ∧
      ((made.store.dataSlots template).map fun slot =>
        (made.store.elements memory)[slot]?) = (machine.store.elements cell).toList.map some ∧
      ∀ quoting ledger, machine.Sound quoting ledger -> ledger.IsTemplate template ->
        (∀ value ∈ (machine.store.elements cell).toList, value.IsData quoting ledger) ->
        ∃ final, machine.Leads quoting ledger final made := by
  obtain ⟨tally, creates, constructs⟩ := construct_eq self known plain
  let memory : CellRef := ⟨machine.store.cells.size⟩
  let writes := (machine.store.dataSlots template).zip (machine.store.elements cell).toList
  let filled := writes.foldl (fun store (slot, value) => store.writeElement memory slot value)
    (started template tally machine).store
  have kept : machine.store.Keeps filled := by
    refine ⟨?_, fun other otherKnown => ?_⟩
    · rw [(Store.elements_fill memory writes _).1]
      exact (Store.Keeps.newCell _ _).size
    · have apart : other ≠ memory := by
        rintro rfl
        exact Nat.lt_irrefl _ otherKnown
      exact ((Store.elements_fill memory writes _).2.1 other apart).trans
        (elements_started otherKnown)
  have slots : filled.dataSlots template = machine.store.dataSlots template :=
    Store.dataSlots_of_elements (kept.elements template.memory plain.known)
  have sized : ((started template tally machine).store.elements memory).size =
      ((started template tally machine).store.elements template.memory).size := by
    rw [elements_started_self, elements_started plain.known]
  have held := Store.getElem?_fill sized
    (lengths.trans (congrArg List.length (dataSlots_started plain).symm))
  rw [dataSlots_started plain] at held
  refine ⟨memory, { started template tally machine with store := filled }, ?_, kept, ?_, ?_⟩
  · rw [constructs, if_neg (not_not_intro lengths)]
    rfl
  · rw [slots]
    exact held
  · intro quoting ledger sound built data
    have careful := Action.Foretold.newObject built ledger machine (.refl ledger) sound
    rw [creates] at careful
    obtain ⟨final, leads, object, _⟩ := careful
    have grows := leads.grows sound
    refine ⟨final, leads.trans (leads_fillSlots leads.sound ⟨_, object.1⟩ writes ?_)⟩
    intro write member
    exact (data write.2 (List.of_mem_zip (a := write.1) (b := write.2) member).2).mono grows

end Constructing

/-! ## Matching the object and matching the tuple -/

section Matching

variable {self : Evaluator} {mode : Mode} {cell : CellRef} {values : List Term}
  {patterns : List Site} {machine : Machine}

/-- While the values are matched, each of them is still in its place of the cell when its turn
comes. -/
def StaysInPlace (self : Evaluator) (cell : CellRef) (values : List Term) (patterns : List Site)
    (machine : Machine) : Prop :=
  ∀ place value bindings middle, values[place]? = some value ->
    self.unifyEach .binding (((values.map .given).zip patterns).take place) machine =
      .ok bindings middle ->
    (middle.store.elements cell)[place]? = some value

/-- Looking terms up when their turns come is like having them at hand, if each of them is
still there by then. -/
theorem unifyEach_given
    {sites : List Site}
    (lengths : sites.length = values.length)
    (stay : ∀ place site value bindings middle, sites[place]? = some site ->
      values[place]? = some value ->
      self.unifyEach mode (((values.map .given).zip patterns).take place) machine =
        .ok bindings middle ->
      middle.store.find site = value) :
    self.unifyEach mode (sites.zip patterns) machine =
      self.unifyEach mode ((values.map .given).zip patterns) machine := by
  -- Matching one value may change the machine, so the later ones are matched on any machine.
  induction sites generalizing values patterns machine with
  | nil =>
      obtain rfl := List.length_eq_zero_iff.mp lengths.symm
      rfl
  | cons site sites inductionHypothesis =>
      cases values with
      | nil => cases lengths
      | cons value values =>
          cases patterns with
          | nil => rfl
          | cons pattern patterns =>
              have found : machine.store.find site = value :=
                stay 0 site value [] machine rfl rfl rfl
              have atHand : machine.store.find (.given value) = value := rfl
              rw [List.map_cons, List.zip_cons_cons, List.zip_cons_cons, unifyEach_cons,
                unifyEach_cons, found, atHand, Action.bind_apply, Action.bind_apply]
              cases matched : self.unify mode value (machine.store.find pattern) machine with
              | error stop middle => simp
              | ok first middle =>
                  have rest : self.unifyEach mode (sites.zip patterns) middle =
                      self.unifyEach mode ((values.map .given).zip patterns) middle := by
                    refine inductionHypothesis (Nat.succ.inj lengths) ?_
                    intro place other otherValue others later otherSite otherHeld run
                    refine stay (place + 1) other otherValue (first ++ others) later otherSite
                      otherHeld ?_
                    exact unifyEach_cons_eq_ok.mpr ⟨first, middle, others, matched, run, rfl⟩
                  dsimp only
                  rw [Action.bind_apply, Action.bind_apply, rest]

/-- Matching the elements of a tuple is matching the values, if they stay in place. -/
theorem unifyLinear_of_staysInPlace
    (held : (machine.store.elements cell).toList = values)
    (stays : self.StaysInPlace cell values patterns machine) :
    self.unifyLinear .binding (machine.store.places cell) patterns machine =
      self.unifyLinear .binding (values.map .given) patterns machine := by
  have size : (machine.store.elements cell).size = values.length := by
    rw [← held, Array.length_toList]
  have same : self.unifyEach .binding ((machine.store.places cell).zip patterns) machine =
      self.unifyEach .binding ((values.map .given).zip patterns) machine := by
    refine unifyEach_given (by simp [Store.places, size]) ?_
    intro place site value bindings middle placed valued run
    have inside : place < values.length := (List.getElem?_eq_some_iff.mp valued).1
    rw [Store.places, size, List.getElem?_map, List.getElem?_range inside] at placed
    obtain rfl := Option.some.inj placed
    simp only [Store.find, stays place value bindings middle valued run, Option.getD_some]
  unfold unifyLinear
  rw [Action.bind_apply, Action.bind_apply, same]

/-- A constructor pattern takes the values out of the data slots of the object. -/
theorem unify_constructor
    {depth : Nat}
    {mark : Mark}
    {template : Template}
    {memory patternCell : CellRef}
    (held : ((machine.store.dataSlots template).map fun slot =>
      (machine.store.elements memory)[slot]?) = values.map some)
    (arity : (machine.store.elements patternCell).size = values.length) :
    (within (depth + 1)).unify .binding (.object (some template) memory)
        (.apply mark (.identifier template.name) (.tuple patternCell)) machine =
      (within depth).unifyLinear .binding (values.map .given)
        (machine.store.places patternCell) machine := by
  have lengths : (machine.store.dataSlots template).length = values.length := by
    simpa using congrArg List.length held
  have members : (machine.store.dataSlots template).map (fun slot =>
      Site.given ((machine.store.elements memory)[slot]?.getD .absent)) = values.map .given := by
    have read := congrArg (List.map fun member : Option Term => Site.given (member.getD .absent))
      held
    rw [List.map_map, List.map_map] at read
    exact read
  change (within depth).unifyCompound .binding (.object (some template) memory)
    (.apply mark (.identifier template.name) (.tuple patternCell)) machine = _
  rw [unifyCompound_apply (.inl rfl)]
  dsimp only
  unfold unifyConstructor
  dsimp only
  rw [if_neg (by simp [structName]), Action.bind_apply, Action.store_apply]
  dsimp only [Store.tupleElements?]
  rw [if_neg (by simp [arity, lengths]), members]
  rfl

/-- A tuple pattern of the same length matches the elements of the tuple. -/
theorem unify_tuple
    {depth : Nat}
    {patternCell : CellRef}
    (arity : (machine.store.elements patternCell).size = (machine.store.elements cell).size) :
    (within (depth + 1)).unify .binding (.tuple cell) (.tuple patternCell) machine =
      (within depth).unifyLinear .binding (machine.store.places cell)
        (machine.store.places patternCell) machine := by
  change (within depth).unifyStep .binding (.tuple cell) (.tuple patternCell) machine = _
  exact unifyStep_tuple rfl rfl (by simp [arity])

end Matching

/-! ## Tuples that nothing else refers to -/

/-- While the values are matched against code, no cell changes but cells of data. So the
values stay in place if the cell is none, as when nothing refers to it. -/
theorem staysInPlace_of_sound
    {quoting : Bool}
    {ledger : Ledger}
    {depth : Nat}
    {cell : CellRef}
    {values : List Term}
    {patterns : List Site}
    {machine : Machine}
    (sound : machine.Sound quoting ledger)
    (known : cell.place < machine.store.cells.size)
    (apart : ¬ ledger.IsData cell)
    (held : (machine.store.elements cell).toList = values)
    (data : ∀ value ∈ values, value.IsData quoting ledger)
    (code : ∀ site ∈ patterns, site.IsCode quoting ledger) :
    (within depth).StaysInPlace cell values patterns machine := by
  intro place value bindings middle valued run
  have subjects : ∀ pair ∈ ((values.map Site.given).zip patterns).take place,
      pair.1.IsSubject quoting ledger .binding ∧ pair.2.IsCode quoting ledger := by
    rintro ⟨termSite, patternSite⟩ member
    obtain ⟨inValues, inPatterns⟩ := List.of_mem_zip (List.mem_of_mem_take member)
    obtain ⟨term, inside, rfl⟩ := List.mem_map.mp inValues
    have subject : term.IsSubject quoting ledger .binding := .ofData (data term inside)
    exact ⟨subject, code patternSite inPatterns⟩
  have careful := unifyEach_careful (within_careful depth) subjects ledger machine
    (.refl ledger) sound
  rw [run] at careful
  obtain ⟨final, leads, _⟩ := careful
  rw [leads.kept cell known apart, ← Array.getElem?_toList, held, valued]

end Evaluator

/-- The machine is sound, and the cell of the tuple is no cell of data, though its elements
are: nothing that is evaluated or matched refers to it. -/
def Machine.KeepsApart (machine : Machine) (cell : CellRef) (template : Template)
    (pattern : Term) : Prop :=
  ∃ quoting ledger, machine.Sound quoting ledger ∧ ledger.IsTemplate template ∧
    pattern.IsCode quoting ledger ∧
    (∀ value ∈ (machine.store.elements cell).toList, value.IsData quoting ledger) ∧
    ¬ ledger.IsData cell

/-- A tuple that has just been made is kept apart. -/
theorem Machine.keepsApart_of_newTuple
    {quoting : Bool}
    {ledger : Ledger}
    {machine after : Machine}
    {template : Template}
    {pattern : Term}
    {values : List Term}
    {cell : CellRef}
    (sound : machine.Sound quoting ledger)
    (built : ledger.IsTemplate template)
    (code : pattern.IsCode quoting ledger)
    (data : ∀ value ∈ values, value.IsData quoting ledger)
    (made : Action.newTuple values machine = .ok (.tuple cell) after) :
    after.KeepsApart cell template pattern := by
  have counted : machine.Leads quoting ledger ledger
      { machine with tally := machine.tally.count .tuple } :=
    .of_same sound rfl (fun _ => rfl) rfl
  have admits : Holding.code.Admits quoting ledger values.toArray := by
    simpa [Holding.Admits] using fun value inside => (data value inside).isCode
  have created := Leads.newCell counted.sound admits
  obtain ⟨same, rfl⟩ := EStateM.Result.ok.inj made
  obtain rfl := Term.tuple.inj same
  have grows := created.grows counted.sound
  refine ⟨quoting, _, created.sound, built.mono grows, code.mono grows, ?_, ?_⟩
  · intro value inside
    have member : value ∈ ((machine.store.newCell values.toArray).2.elements
      (machine.store.newCell values.toArray).1).toList := inside
    rw [Store.elements_newCell_self] at member
    exact (data value member).mono grows
  · rintro ⟨owner, listed⟩
    exact absurd ((Ledger.add_self ledger ⟨machine.store.cells.size⟩ .code).symm.trans listed)
      (by simp)

namespace Evaluator

/-- Constructor patterns invert construction. A struct that has no function to initialise its
objects takes a tuple with as many elements as it has data slots, and raises an error for any
other tuple. Matching the new object against the constructor pattern then does exactly what
matching the tuple against the tuple of the patterns does, if the elements of the tuple stay
in place until their turns come. They do if nothing else refers to the tuple. -/
theorem constructor_pattern_inverts
    {depth : Nat}
    {template : Template}
    {cell : CellRef}
    {machine : Machine}
    (known : cell.place < machine.store.cells.size)
    (plain : template.IsPlain machine.store) :
    let slots := machine.store.dataSlots template
    let values := (machine.store.elements cell).toList
    (values.length ≠ slots.length ->
      ∃ refused, (within depth).construct template (.tuple cell) machine =
        Action.raise .valueError
          (template.name ++ " takes " ++ toString slots.length ++ " arguments but " ++
            toString values.length ++ " were given") refused) ∧
    (values.length = slots.length ->
      ∃ memory made,
        (within depth).construct template (.tuple cell) machine =
          .ok (.object (some template) memory) made ∧
        ∀ matching mark patternCell,
          (made.store.elements patternCell).size = slots.length ->
          (within matching).StaysInPlace cell values (made.store.places patternCell) made ∨
            machine.KeepsApart cell template (.tuple patternCell) ->
          (within (matching + 1)).unify .binding (.object (some template) memory)
              (.apply mark (.identifier template.name) (.tuple patternCell)) made =
            (within (matching + 1)).unify .binding (.tuple cell) (.tuple patternCell) made) := by
  intro slots values
  refine ⟨construct_refuses known plain, fun lengths => ?_⟩
  obtain ⟨memory, made, constructs, keeps, held, sounds⟩ :=
    construct_fills (within depth) known plain lengths
  refine ⟨memory, made, constructs, fun matching mark patternCell arity unchanged => ?_⟩
  have same : made.store.elements cell = machine.store.elements cell := keeps.elements cell known
  have stays : (within matching).StaysInPlace cell values (made.store.places patternCell) made := by
    -- Constructing the object leaves the tuple's cell out of what matching can reach.
    rcases unchanged with stays | ⟨quoting, ledger, sound, built, code, data, apart⟩
    · exact stays
    · obtain ⟨final, leads⟩ := sounds quoting ledger sound built data
      have grows := leads.grows sound
      refine staysInPlace_of_sound leads.sound (Nat.lt_of_lt_of_le known keeps.size) ?_
        (congrArg Array.toList same) (fun value inside => (data value inside).mono grows)
        (Store.Sound.codeSites made.store (code.mono grows))
      rwa [Ledger.IsData, leads.entries cell known]
  rw [unify_constructor held (arity.trans lengths.symm), unify_tuple,
    unifyLinear_of_staysInPlace (congrArg Array.toList same) stays]
  rw [arity, same, ← lengths, Array.length_toList]

/-- A machine with the tuple of one and two, and the tuple of the patterns `a` and `b`. -/
def tuplesMachine : Machine where
  store :=
    { cells := #[#[.integer 1, .integer 2], #[.identifier "a", .identifier "b"]]
      scopes := #[{}]
      globals := #[[]]
      nextMark := 0 }
  scopes := #[⟨0⟩]
  globals := #[⟨0⟩]

/-- The members of a struct: two data members with a method between them. -/
def methodMembers : List Term :=
  [.dataMember 1 (.identifier "x"), .initMember 2 (.function 3 "swap") (.identifier "swap"),
    .dataMember 4 (.identifier "y")]

/-- The struct that is built of them. -/
def methodTemplate : Template := ⟨1, "P", ["x", "swap", "y"], ⟨2⟩⟩

/-- The machine in which it has been built. -/
def methodMachine : Machine where
  store :=
    { tuplesMachine.store with
      cells := tuplesMachine.store.cells.push
        #[.none, .closure "swap" (some ⟨0, #[⟨0⟩], #[⟨0⟩], 0⟩), .none]
      nextMark := 2 }
  scopes := #[⟨0⟩]
  globals := #[⟨0⟩]
  tally := ((tuplesMachine.tally.count .closure).count .struct).count .list

/-- The object is matched like the tuple, and `b` is the data member behind the method. -/
theorem constructor_pattern_inverts_of_method :
    ∃ memory made,
      (within 2).buildStruct "P" methodMembers tuplesMachine = .ok methodTemplate methodMachine ∧
      (within 1).construct methodTemplate (.tuple ⟨0⟩) methodMachine =
        .ok (.object (some methodTemplate) memory) made ∧
      (within 2).unify .binding (.object (some methodTemplate) memory)
          (.apply 5 (.identifier "P") (.tuple ⟨1⟩)) made =
        (within 2).unify .binding (.tuple ⟨0⟩) (.tuple ⟨1⟩) made ∧
      (within 2).unify .binding (.tuple ⟨0⟩) (.tuple ⟨1⟩) made =
        .ok [⟨.identifier "a", .integer 1⟩, ⟨.identifier "b", .integer 2⟩] made := by
  have built : (within 2).buildStruct "P" methodMembers tuplesMachine =
      .ok methodTemplate methodMachine := rfl
  obtain ⟨memory, made, constructs, matched⟩ :=
    (@constructor_pattern_inverts 1 _ ⟨0⟩ _ (by decide)
      ⟨(known_of_buildStruct built).1, fun _ _ => nofun⟩).2 rfl
  obtain ⟨other, final, constructed, arity, stays, runs⟩ : ∃ other final,
      (within 1).construct methodTemplate (.tuple ⟨0⟩) methodMachine =
        .ok (.object (some methodTemplate) other) final ∧
      (final.store.elements ⟨1⟩).size = 2 ∧
      (within 1).StaysInPlace ⟨0⟩ [.integer 1, .integer 2] (final.store.places ⟨1⟩) final ∧
      (within 2).unify .binding (.tuple ⟨0⟩) (.tuple ⟨1⟩) final =
        .ok [⟨.identifier "a", .integer 1⟩, ⟨.identifier "b", .integer 2⟩] final := by
    refine ⟨_, _, rfl, rfl, fun place value bindings middle valued run => ?_, rfl⟩
    match place with
    | 0 | 1 =>
        obtain ⟨_, rfl⟩ := EStateM.Result.ok.inj run
        exact valued
    | place + 2 => cases valued
  obtain ⟨same, rfl⟩ := EStateM.Result.ok.inj (constructs.symm.trans constructed)
  obtain ⟨_, rfl⟩ := Term.object.inj same
  exact ⟨memory, made, built, constructs, matched 1 5 ⟨1⟩ arity (.inl stays), runs⟩

/-- A machine with a struct of two data members, on which `v` is the tuple of one and two. The
first of the patterns is guarded: its guard writes nine to the second element of `v`. -/
def writingMachine : Machine :=
  let store : Store :=
    { cells := #[#[.none, .none], #[.integer 1, .integer 2],
        #[.conditional 1
            (.isMatch 2 (.integer 9) (.index 3 (.identifier "v") (.integer 1)))
            (.identifier "a") .absent,
          .identifier "b"]]
      scopes := #[{}]
      globals := #[[]]
      nextMark := 4 }
  Machine.bindName { store, scopes := #[⟨0⟩], globals := #[⟨0⟩] } "v" (.tuple ⟨1⟩)

/-- The struct of that machine. -/
def pairTemplate : Template := ⟨0, "A", ["x", "y"], ⟨0⟩⟩

/-- The tuple is matched with the nine that the guard has written, but the object with the two
that it was constructed from. -/
theorem guard_tells_object_from_tuple :
    ∃ memory made tupleMatched objectMatched,
      (within 9).construct pairTemplate (.tuple ⟨1⟩) writingMachine =
        .ok (.object (some pairTemplate) memory) made ∧
      (within 9).unify .binding (.tuple ⟨1⟩) (.tuple ⟨2⟩) made =
        .ok [⟨.identifier "a", .integer 1⟩, ⟨.identifier "b", .integer 9⟩] tupleMatched ∧
      (within 9).unify .binding (.object (some pairTemplate) memory)
          (.apply 4 (.identifier "A") (.tuple ⟨2⟩)) made =
        .ok [⟨.identifier "a", .integer 1⟩, ⟨.identifier "b", .integer 2⟩] objectMatched :=
  ⟨_, _, _, _, rfl, rfl, rfl⟩

end Evaluator
end PatternMachine
