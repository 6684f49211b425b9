import PatternMachine.Proofs.Assignment
import PatternMachine.Proofs.Ownership
import PatternMachine.Proofs.Pattern.Rules
import PatternMachine.Proofs.Sparing.Match

/-!
# Assignments to elements of lists and tuples

An assignment to an index expression resolves the same cell and the same place as reading
the index expression, and so the one succeeds whenever the other does. It writes one slot of
that cell and nothing else, so that the new element is found through every expression that
yields the cell. What is stored is the value as matching hands it on: quotes are looked
through, and a value that may not be matched is not stored.
-/

namespace PatternMachine

/-! ## Places -/

/-- The index is within the bounds of a sequence; negative indices count from its end. -/
def InBounds (index : Int64) (size : Nat) : Prop :=
  -(size : Int) ≤ index.toInt ∧ index.toInt < size

instance (index : Int64) (size : Nat) : Decidable (InBounds index size) :=
  inferInstanceAs (Decidable (_ ∧ _))

/-- An index within the bounds denotes the place that is its remainder by the length. -/
theorem position?_eq (index : Int64) (size : Nat) :
    position? index size =
      if InBounds index size then some (index.toInt % size).toNat else none := by
  unfold position?
  by_cases inBounds : InBounds index size
  · rw [if_pos inBounds]
    obtain ⟨lower, upper⟩ := inBounds
    by_cases negative : index.toInt < 0
    · have wrapped : index.toInt % size = index.toInt + size := by
        rw [← Int.add_emod_right, Int.emod_eq_of_lt] <;> omega
      simp [negative, wrapped]
      omega
    · have same : index.toInt % size = index.toInt := Int.emod_eq_of_lt (by omega) upper
      simp [negative, same]
      omega
  · rw [if_neg inBounds]
    unfold InBounds at inBounds
    split <;> simp <;> omega

/-- Two indices denote the same place when they agree modulo the length. -/
theorem InBounds.place_eq_iff
    {index : Int64}
    {size : Nat}
    (inBounds : InBounds index size)
    (other : Int64) :
    (index.toInt % size).toNat = (other.toInt % size).toNat ↔
      index.toInt % size = other.toInt % size := by
  have nonempty : (size : Int) ≠ 0 := by
    have := inBounds.1
    have := inBounds.2
    omega
  have := Int.emod_nonneg index.toInt nonempty
  have := Int.emod_nonneg other.toInt nonempty
  omega

/-! ## What is stored -/

namespace Term

/-- What matching hands on of a value: quotes are looked through, except around an
identifier or an index expression. -/
def matched : Term -> Term
  | quote (identifier name) => quote (identifier name)
  | quote (index mark subject selector) => quote (index mark subject selector)
  | quote inner => inner.matched
  | term => term

/-- How many quotes matching looks through. -/
def quoteDepth : Term -> Nat
  | quote (identifier _) => 0
  | quote (index _ _ _) => 0
  | quote inner => inner.quoteDepth + 1
  | _ => 0

/-- Whether matching hands the value on to an index expression. -/
def isStorable (value : Term) : Bool :=
  !value.matched.isAbsent && Evaluator.isMatchable value.matched

theorem matched_of_transparent
    {term inner : Term}
    (transparent : term.transparent? = some inner) :
    term.matched = inner.matched ∧ term.quoteDepth = inner.quoteDepth + 1 := by
  cases term with
  | quote value =>
      cases value <;> first | (cases transparent; exact ⟨rfl, rfl⟩) | cases transparent
  | _ => cases transparent

theorem matched_of_solid
    {term : Term}
    (solid : term.transparent? = Option.none) :
    term.matched = term ∧ term.quoteDepth = 0 := by
  cases term with
  | quote inner =>
      cases inner <;> first | exact ⟨rfl, rfl⟩ | cases solid
  | _ => exact ⟨rfl, rfl⟩

end Term

/-! ## Actions that change nothing unless they succeed -/

namespace Action

variable {α β : Type} {base : Store}

/-- On every machine with all cells of `base`, the action has spared what was there if it
stops. -/
def StopsSparing (base : Store) (action : Action α) : Prop :=
  ∀ machine stop after, base.Keeps machine.store -> action machine = .error stop after ->
    machine.store.Spares after.store

namespace StopsSparing

theorem of_sparing
    {action : Action α}
    (sparing : IsSparing base action) :
    StopsSparing base action := by
  intro machine stop after keeps stopped
  have outcome := sparing machine keeps
  rwa [stopped] at outcome

theorem bind
    {action : Action α}
    {next : α -> Action β}
    (first : IsSparing base action)
    (second : ∀ value, StopsSparing base (next value)) :
    StopsSparing base (action >>= next) := by
  intro machine stop after keeps stopped
  have outcome := first machine keeps
  rw [bind_apply] at stopped
  cases run : action machine with
  | error early final =>
      rw [run] at outcome stopped
      cases stopped
      exact outcome
  | ok value final =>
      rw [run] at outcome stopped
      exact outcome.1.trans
        (second value final stop after (keeps.trans outcome.1.cells) stopped)

theorem store_bind
    {next : Store -> Action β}
    (stops : ∀ store, StopsSparing base (next store)) :
    StopsSparing base (Action.store >>= next) :=
  fun machine => stops machine.store machine

/-- A change of the machine does not stop. -/
theorem change {change : Machine -> Machine} :
    StopsSparing base (modify change) := by
  intro machine stop after keeps stopped
  cases stopped

end StopsSparing
end Action

/-- A value has been stored at a place of a cell. The cell keeps its length and its other
elements, and every other cell and every namespace is as it was. -/
structure Machine.StoresAt (before : Machine) (cell : CellRef) (place : Nat) (value : Term)
    (after : Machine) : Prop where
  known : cell.place < after.store.cells.size
  size : (after.store.elements cell).size = (before.store.elements cell).size
  element : (after.store.elements cell)[place]? = some value
  elements : ∀ other, other ≠ place ->
    (after.store.elements cell)[other]? = (before.store.elements cell)[other]?
  cells : ∀ other : CellRef, other ≠ cell -> other.place < before.store.cells.size ->
    after.store.elements other = before.store.elements other
  namespaces : ∀ ref : ScopeRef, ref.place < before.store.scopes.size ->
    after.store.scope ref = before.store.scope ref

/-- Names, literals, and index expressions made of them. -/
def Term.isReference : Term -> Bool
  | integer _ => true
  | real _ => true
  | boolean _ => true
  | text _ => true
  | none => true
  | nil => true
  | identifier _ => true
  | index _ subject selector => subject.isReference && selector.isReference
  | _ => false

/-- Names, literals, and index expressions made of them are harmless. -/
theorem Store.harmless_of_isReference
    (store : Store)
    {term : Term}
    (reference : term.isReference = true) :
    store.Harmless term := by
  have inside : ∀ part, store.Reaches term part -> part.isReference = true := by
    intro part reaches
    induction reaches with
    | here => exact reference
    | @inside outer part _ held inductionHypothesis =>
        cases outer with
        | index mark subject selector =>
            obtain ⟨first, second⟩ := (Bool.and_eq_true _ _).mp inductionHypothesis
            simp only [Term.contents, Term.parts, List.mem_cons, List.not_mem_nil, or_false]
              at held
            rcases held with rfl | rfl <;> assumption
        | _ => first | exact absurd inductionHypothesis Bool.false_ne_true | cases held
  intro part reaches
  have partReference := inside part reaches
  cases part <;> first | exact ⟨rfl, rfl⟩ | cases partReference

namespace Evaluator

open PatternMachine.Action (StopsSparing)

/-! ## Matching with an index expression -/

section Matching

variable {self : Evaluator} {value inner : Term} {mark : Mark} {subject selector : Term}

theorem unifyStep_index_transparent
    (transparent : value.transparent? = some inner) :
    self.unifyStep .binding value (.index mark subject selector) =
      self.unify .binding inner (.index mark subject selector) := by
  cases value with
  | quote quoted =>
      cases quoted <;> first | (cases transparent; rfl) | cases transparent
  | _ => cases transparent

theorem unifyStep_index_solid
    (solid : value.transparent? = none)
    (present : value.isAbsent = false)
    (matchable : isMatchable value = true) :
    self.unifyStep .binding value (.index mark subject selector) =
      pure [⟨.index mark subject selector, value⟩] := by
  cases value with
  | quote quoted => cases quoted <;> first | rfl | cases solid
  | absent => cases present
  | _ => first | rfl | cases matchable

/-- A value that can be stored is handed on to the index expression. -/
theorem unify_index
    {depth : Nat}
    (storable : value.isStorable = true)
    (shallow : value.quoteDepth < depth) :
    (within depth).unify .binding value (.index mark subject selector) =
      pure [⟨.index mark subject selector, value.matched⟩] := by
  -- Each quote that is looked through takes one level of the depth.
  induction depth generalizing value with
  | zero => cases shallow
  | succ depth inductionHypothesis =>
      change (within depth).unifyStep .binding value _ = _
      cases transparent : value.transparent? with
      | some inner =>
          obtain ⟨same, deeper⟩ := Term.matched_of_transparent transparent
          rw [unifyStep_index_transparent transparent, same]
          refine inductionHypothesis ?_ (by omega)
          rwa [Term.isStorable, ← same]
      | none =>
          obtain ⟨same, _⟩ := Term.matched_of_solid transparent
          rw [Term.isStorable, same, Bool.and_eq_true, Bool.not_eq_true'] at storable
          rw [unifyStep_index_solid transparent storable.1 storable.2, same]

/-- A value that cannot be stored is refused, and so is one under too many quotes. -/
theorem unify_index_refuses
    {depth : Nat}
    (refused : ¬ (value.isStorable = true ∧ value.quoteDepth < depth))
    (mark : Mark)
    (subject selector : Term)
    (machine : Machine) :
    ∃ stop, (within depth).unify .binding value (.index mark subject selector) machine =
      .error stop machine := by
  induction depth generalizing value with
  | zero => exact ⟨_, rfl⟩
  | succ depth inductionHypothesis =>
      change ∃ stop, (within depth).unifyStep .binding value _ machine = .error stop machine
      cases transparent : value.transparent? with
      | some inner =>
          obtain ⟨same, deeper⟩ := Term.matched_of_transparent transparent
          rw [unifyStep_index_transparent transparent]
          refine inductionHypothesis fun accepted => refused ⟨?_, by omega⟩
          rw [Term.isStorable, same]
          exact accepted.1
      | none =>
          obtain ⟨same, flat⟩ := Term.matched_of_solid transparent
          cases absent : value.isAbsent with
          | true =>
              have refuses : ((within depth).unifyStep .binding value
                  (.index mark subject selector)).Refuses machine := unifyStep_absent absent
              obtain ⟨stop, stops, _⟩ := refuses
              exact ⟨stop, stops⟩
          | false =>
              have unmatchable : isMatchable value = false := by
                rw [Term.isStorable, same, absent, flat] at refused
                simpa using refused
              have refuses : ((within depth).unifyStep .binding value
                  (.index mark subject selector)).Refuses machine :=
                unifyStep_unmatchable (fun _ => Term.noConfusion) rfl unmatchable
              obtain ⟨stop, stops, _⟩ := refuses
              exact ⟨stop, stops⟩

end Matching

/-! ## Resolving an index expression -/

theorem positionOrRaise_of_inBounds
    {index : Int64}
    {size : Nat}
    (inBounds : InBounds index size) :
    positionOrRaise index size = pure (index.toInt % size).toNat := by
  delta positionOrRaise
  rw [position?_eq, if_pos inBounds]

theorem positionOrRaise_refuses
    {index : Int64}
    {size : Nat}
    (outside : ¬ InBounds index size) :
    ∃ message, positionOrRaise index size = Action.raise .valueError message := by
  delta positionOrRaise
  rw [position?_eq, if_neg outside]
  exact ⟨_, rfl⟩

/-- The subject evaluates to a list or tuple and the selector to an integer, and both are
harmless, as names, literals and index expressions are. -/
structure Resolves (depth : Nat) (subject selector : Term) (machine seen ready : Machine)
    (cell : CellRef) (index : Int64) : Prop where
  subjectHarmless : machine.store.Harmless subject
  selectorHarmless : machine.store.Harmless selector
  located : (within depth).walk subject machine = .ok (.list cell) seen ∨
    (within depth).walk subject machine = .ok (.tuple cell) seen
  known : cell.place < seen.store.cells.size
  indexed : (within depth).walk selector seen = .ok (.integer index) ready

theorem walk_spares
    {depth : Nat}
    {base : Store}
    {term value : Term}
    {machine after : Machine}
    (harmless : base.Harmless term)
    (keeps : base.Keeps machine.store)
    (walked : (within depth).walk term machine = .ok value after) :
    machine.store.Spares after.store ∧ after.scopes = machine.scopes := by
  constructor
  · have spares := ((within_sparing depth).walk term harmless).after keeps
    rwa [Action.after_ok walked] at spares
  · have evolves := ((within_lawful depth).walk term term.respects_trivial).evolves
      machine.respects_trivial
    rw [Action.after_ok walked] at evolves
    exact evolves.sameFrame.scopes

namespace Resolves

variable {depth : Nat} {subject selector : Term} {machine seen ready : Machine} {cell : CellRef}
  {index : Int64}

theorem seen_spares
    (resolves : Resolves depth subject selector machine seen ready cell index) :
    machine.store.Spares seen.store ∧ seen.scopes = machine.scopes := by
  rcases resolves.located with walked | walked <;>
    exact walk_spares resolves.subjectHarmless (.refl machine.store) walked

theorem ready_spares
    (resolves : Resolves depth subject selector machine seen ready cell index) :
    seen.store.Spares ready.store ∧ ready.scopes = seen.scopes :=
  walk_spares resolves.selectorHarmless resolves.seen_spares.1.cells resolves.indexed

/-- The selector leaves the elements of the cell as they are. -/
theorem elements_ready
    (resolves : Resolves depth subject selector machine seen ready cell index) :
    ready.store.elements cell = seen.store.elements cell :=
  resolves.ready_spares.1.cells.elements cell resolves.known

/-- A list and a tuple are read alike once the selector has been evaluated. -/
theorem readIndex_elements
    (indexed : (within depth).walk selector seen = .ok (.integer index) ready)
    (cell : CellRef) :
    (within depth).readIndex (.list cell) selector seen =
        selectElements (ready.store.elements cell).toList Action.newList (.integer index) ready ∧
      (within depth).readIndex (.tuple cell) selector seen =
        selectElements (ready.store.elements cell).toList Action.newTuple (.integer index)
          ready := by
  constructor <;>
  · change ((within depth).walk selector >>= fun index => _) seen = _
    rw [Action.bind_apply, indexed]
    rfl

/-- Reading takes the elements of the cell once the selector has been evaluated. -/
theorem walk_index_eq
    (resolves : Resolves depth subject selector machine seen ready cell index)
    (mark : Mark) :
    ∃ rebuild, (rebuild = Action.newList ∨ rebuild = Action.newTuple) ∧
      (within (depth + 1)).walk (.index mark subject selector) machine =
        selectElements (seen.store.elements cell).toList rebuild (.integer index) ready := by
  have read : ∀ container, (within depth).walk subject machine = .ok container seen ->
      (within (depth + 1)).walk (.index mark subject selector) machine =
        (within depth).readIndex container selector seen := by
    intro container located
    change ((within depth).walk subject >>= fun container =>
      (within depth).readIndex container selector) machine = _
    rw [Action.bind_apply, located]
  obtain ⟨ofList, ofTuple⟩ := readIndex_elements resolves.indexed cell
  rw [← resolves.elements_ready]
  rcases resolves.located with located | located
  · exact ⟨_, .inl rfl, (read _ located).trans ofList⟩
  · exact ⟨_, .inr rfl, (read _ located).trans ofTuple⟩

/-- Writing checks the bounds once the selector has been evaluated. -/
theorem writeIndex_eq
    (resolves : Resolves depth subject selector machine seen ready cell index)
    (value : Term) :
    (within depth).writeIndex subject selector value machine =
      (positionOrRaise index (seen.store.elements cell).size >>= fun place =>
        modify fun machine =>
          { machine with store := machine.store.writeElement cell place value }) ready := by
  rw [← resolves.elements_ready]
  unfold writeIndex
  rw [Action.bind_apply]
  rcases resolves.located with located | located <;>
  · rw [located]
    change ((within depth).walk selector >>= fun index => _) seen = _
    rw [Action.bind_apply, resolves.indexed]
    rfl

/-- Reading yields the element that is held, unless it is missing. -/
theorem walk_index
    (resolves : Resolves depth subject selector machine seen ready cell index)
    (mark : Mark)
    (inBounds : InBounds index (seen.store.elements cell).size)
    {element : Term}
    (held : (seen.store.elements cell)[(index.toInt % (seen.store.elements cell).size).toNat]? =
      some element)
    (present : element.isAbsent = false) :
    (within (depth + 1)).walk (.index mark subject selector) machine = .ok element ready := by
  obtain ⟨rebuild, _, read⟩ := resolves.walk_index_eq mark
  rw [read, selectElements, Array.length_toList, positionOrRaise_of_inBounds inBounds,
    Action.bind_apply, Action.pure_apply]
  dsimp only
  rw [Array.getElem?_toList, held, Option.getD_some]
  cases element <;> first | rfl | cases present

/-- Reading succeeds within the bounds, where a missing element reads as an empty
container, and only there. -/
theorem walk_index_ok_iff
    (resolves : Resolves depth subject selector machine seen ready cell index)
    (mark : Mark) :
    (∃ element after,
        (within (depth + 1)).walk (.index mark subject selector) machine = .ok element after) ↔
      InBounds index (seen.store.elements cell).size := by
  obtain ⟨rebuild, made, read⟩ := resolves.walk_index_eq mark
  rw [read, selectElements, Array.length_toList]
  constructor
  · rintro ⟨element, after, ended⟩
    by_contra outside
    obtain ⟨message, refused⟩ := positionOrRaise_refuses outside
    rw [refused] at ended
    cases ended
  · intro inBounds
    rw [positionOrRaise_of_inBounds inBounds, Action.bind_apply, Action.pure_apply]
    dsimp only
    generalize ((seen.store.elements cell).toList[(_ : Nat)]?).getD Term.absent = element
    cases element with
    | absent => rcases made with rfl | rfl <;> exact ⟨_, _, rfl⟩
    | _ => exact ⟨_, _, rfl⟩

/-- Within the bounds, writing overwrites the element. -/
theorem writeIndex_of_inBounds
    (resolves : Resolves depth subject selector machine seen ready cell index)
    (inBounds : InBounds index (seen.store.elements cell).size)
    (value : Term) :
    (within depth).writeIndex subject selector value machine =
      .ok () { ready with
        store := ready.store.writeElement cell
          (index.toInt % (seen.store.elements cell).size).toNat value } := by
  rw [resolves.writeIndex_eq, positionOrRaise_of_inBounds inBounds]
  rfl

/-- Out of bounds, writing is refused. -/
theorem writeIndex_refuses
    (resolves : Resolves depth subject selector machine seen ready cell index)
    (outside : ¬ InBounds index (seen.store.elements cell).size)
    (value : Term) :
    ∃ stop, (within depth).writeIndex subject selector value machine = .error stop ready := by
  obtain ⟨message, refused⟩ := positionOrRaise_refuses outside
  rw [resolves.writeIndex_eq, refused]
  exact ⟨_, rfl⟩

end Resolves

/-! ## Writing that fails -/

section Stopping

variable {base : Store} {self : Evaluator} {subject selector value : Term}

theorem writeElement_stops
    (walks : self.WalksSparingly base)
    (harmless : base.Harmless selector)
    {cell : CellRef} :
    StopsSparing base (self.writeElement cell selector value) := by
  refine .bind (walks selector harmless) fun index => ?_
  split
  · refine .store_bind fun store => .bind ?_ fun place => .change
    delta positionOrRaise
    split
    · exact .done
    · exact .raise
  · exact .of_sparing .raise

theorem writeMember_stops
    (walks : self.WalksSparingly base)
    (harmless : base.Harmless selector)
    {struct : Option Template}
    {memory : CellRef} :
    StopsSparing base (self.writeMember struct memory selector value) := by
  refine .bind (memberName_sparing walks harmless) fun name => .store_bind fun store => ?_
  split
  · exact .change
  · exact .of_sparing .raise

/-- Writing through a harmless index expression changes nothing if it fails. -/
theorem writeIndex_stops
    (walks : self.WalksSparingly base)
    (subjectHarmless : base.Harmless subject)
    (selectorHarmless : base.Harmless selector) :
    StopsSparing base (self.writeIndex subject selector value) := by
  refine .bind (walks subject subjectHarmless) fun container => ?_
  split
  · exact writeMember_stops walks selectorHarmless
  · exact writeElement_stops walks selectorHarmless
  · exact writeElement_stops walks selectorHarmless
  · exact .of_sparing .raise
  · exact .of_sparing .raise

end Stopping

/-! ## The assignment -/

section Execution

variable {depth : Nat} {mark : Mark} {expression subject selector value : Term}
  {machine middle : Machine}

theorem exec_index
    (evaluated : (within depth).walk expression machine = .ok value middle) :
    (within depth).exec (.evaluate expression (.index mark subject selector)) machine =
      ((within depth).unify .binding value (.index mark subject selector) >>= fun bindings =>
        (within depth).declareAll bindings >>= fun _ => pure value) middle := by
  change ((within depth).walk expression >>= fun value => _) machine = _
  rw [Action.bind_apply, evaluated]
  rfl

/-- A value that can be stored is written through the index expression. -/
theorem exec_index_storable
    (evaluated : (within depth).walk expression machine = .ok value middle)
    (storable : value.isStorable = true)
    (shallow : value.quoteDepth < depth) :
    (within depth).exec (.evaluate expression (.index mark subject selector)) machine =
      ((within depth).writeIndex subject selector value.matched >>= fun _ => pure value)
        middle := by
  rw [exec_index evaluated, unify_index storable shallow, pure_bind]
  change (((within depth).writeIndex subject selector value.matched >>= fun _ => pure ()) >>=
    fun _ => pure value) middle = _
  rw [bind_assoc]
  rfl

/-- A value that cannot be stored is refused before anything is written. -/
theorem exec_index_refuses
    (evaluated : (within depth).walk expression machine = .ok value middle)
    (refused : ¬ (value.isStorable = true ∧ value.quoteDepth < depth))
    (mark : Mark)
    (subject selector : Term) :
    ∃ stop, (within depth).exec (.evaluate expression (.index mark subject selector)) machine =
      .error stop middle := by
  obtain ⟨stop, refuses⟩ := unify_index_refuses refused mark subject selector middle
  rw [exec_index evaluated, Action.bind_apply, refuses]
  exact ⟨stop, rfl⟩

/-- An assignment that fails changes nothing. -/
theorem exec_index_stops
    (evaluated : (within depth).walk expression machine = .ok value middle)
    (subjectHarmless : middle.store.Harmless subject)
    (selectorHarmless : middle.store.Harmless selector)
    {stop : Stop}
    {after : Machine}
    (stopped : (within depth).exec (.evaluate expression (.index mark subject selector)) machine =
      .error stop after) :
    middle.store.Spares after.store := by
  by_cases accepted : value.isStorable = true ∧ value.quoteDepth < depth
  · rw [exec_index_storable evaluated accepted.1 accepted.2, Action.bind_apply] at stopped
    cases written : (within depth).writeIndex subject selector value.matched middle with
    | ok _ final => simp [written] at stopped
    | error early final =>
        rw [written] at stopped
        cases stopped
        exact writeIndex_stops (within_sparing depth).walk subjectHarmless selectorHarmless
          middle _ _ (.refl middle.store) written
  · obtain ⟨_, refused⟩ := exec_index_refuses evaluated accepted mark subject selector
    rw [refused] at stopped
    cases stopped
    exact .refl middle.store

/-- An assignment leaves the stack of scopes as the evaluation of its expression left it. -/
theorem scopes_exec_index
    (evaluated : (within depth).walk expression machine = .ok value middle) :
    (((within depth).exec (.evaluate expression (.index mark subject selector))).after
      machine).scopes = middle.scopes := by
  have executed := (exec_lawful (within_lawful depth)
    (Statement.respects_trivial (.evaluate expression (.index mark subject selector)))).evolves
      machine.respects_trivial
  have walked := ((within_lawful depth).walk expression expression.respects_trivial).evolves
    machine.respects_trivial
  rw [Action.after_ok evaluated] at walked
  rw [executed.sameFrame.scopes, walked.sameFrame.scopes]

/-- An assignment succeeds only for a value that can be stored and within the bounds. -/
theorem storable_of_exec_index
    (evaluated : (within depth).walk expression machine = .ok value middle)
    {seen ready after : Machine}
    {cell : CellRef}
    {index : Int64}
    {result : Term}
    (resolves : Resolves depth subject selector middle seen ready cell index)
    (executed : (within depth).exec (.evaluate expression (.index mark subject selector)) machine =
      .ok result after) :
    value.isStorable = true ∧ InBounds index (seen.store.elements cell).size := by
  by_cases accepted : value.isStorable = true ∧ value.quoteDepth < depth
  · refine ⟨accepted.1, ?_⟩
    by_contra outside
    obtain ⟨_, refused⟩ := resolves.writeIndex_refuses outside value.matched
    rw [exec_index_storable evaluated accepted.1 accepted.2, Action.bind_apply, refused]
      at executed
    cases executed
  · obtain ⟨_, refused⟩ := exec_index_refuses evaluated accepted mark subject selector
    rw [refused] at executed
    cases executed

/-- Within the bounds, an assignment stores the value. -/
theorem exec_index_of_inBounds
    (evaluated : (within depth).walk expression machine = .ok value middle)
    (storable : value.isStorable = true)
    (shallow : value.quoteDepth < depth)
    {seen ready : Machine}
    {cell : CellRef}
    {index : Int64}
    (resolves : Resolves depth subject selector middle seen ready cell index)
    (inBounds : InBounds index (seen.store.elements cell).size) :
    ∃ after,
      (within depth).exec (.evaluate expression (.index mark subject selector)) machine =
        .ok value after ∧
      seen.StoresAt cell (index.toInt % (seen.store.elements cell).size).toNat value.matched
        after := by
  have inside : (index.toInt % (seen.store.elements cell).size).toNat <
      (seen.store.elements cell).size :=
    lt_of_position? ((position?_eq _ _).trans (if_pos inBounds))
  have executed : (within depth).exec
      (.evaluate expression (.index mark subject selector)) machine =
        .ok value { ready with
          store := ready.store.writeElement cell
            (index.toInt % (seen.store.elements cell).size).toNat value.matched } := by
    rw [exec_index_storable evaluated storable shallow, Action.bind_apply,
      resolves.writeIndex_of_inBounds inBounds]
    rfl
  have insideReady : (index.toInt % (seen.store.elements cell).size).toNat <
      (ready.store.elements cell).size := by
    rwa [resolves.elements_ready]
  have writes := writesSlot_writeElement insideReady value.matched
  have spares := resolves.ready_spares.1
  exact ⟨_, executed,
    { size := by simp [Store.elements_writeElement, resolves.elements_ready]
      known := by rw [writes.size]; exact Nat.lt_of_lt_of_le resolves.known spares.cells.size
      element := writes.slot
      elements := fun other apart => by rw [writes.slots other apart, resolves.elements_ready]
      cells := fun other apart known => by
        rw [writes.cells other apart, spares.cells.elements other known]
      namespaces := spares.namespaces }⟩

/-- Wherever an index expression leads to the cell and denotes the place, it reads the value
that was stored; for another place, it reads what was there before. -/
theorem walk_index_of_storesAt
    (mark : Mark)
    {before after found final : Machine}
    {cell : CellRef}
    {place : Nat}
    (stores : before.StoresAt cell place value after)
    (present : value.isAbsent = false)
    {other : Int64}
    (resolves : Resolves depth subject selector after found final cell other)
    (inBounds : InBounds other (before.store.elements cell).size) :
    ((other.toInt % (before.store.elements cell).size).toNat = place ->
      (within (depth + 1)).walk (.index mark subject selector) after = .ok value final) ∧
    ((other.toInt % (before.store.elements cell).size).toNat ≠ place ->
      ∀ old, (before.store.elements cell)[(other.toInt % (before.store.elements cell).size).toNat]? =
          some old ->
        old.isAbsent = false ->
          (within (depth + 1)).walk (.index mark subject selector) after = .ok old final) := by
  have same : found.store.elements cell = after.store.elements cell :=
    resolves.seen_spares.1.cells.elements cell stores.known
  have size : (found.store.elements cell).size = (before.store.elements cell).size := by
    rw [same, stores.size]
  have inside : InBounds other (found.store.elements cell).size := by rwa [size]
  have read := @Resolves.walk_index _ _ _ _ _ _ _ _ resolves mark inside
  rw [size, same] at read
  constructor
  · intro denoted
    exact read (by rw [denoted, stores.element]) present
  · intro apart old held
    exact read (by rw [stores.elements _ apart, held])

/-- An assignment to an index expression, once its expression has a value. If it fails, then
nothing has changed. If the index expression leads to a cell of a list or tuple and an
integer index, then it succeeds when the value can be stored and the index is within the
bounds, which is when reading the index expression succeeds. Then the value as matching hands
it on is stored at that place: reading an index that denotes the same place of the cell yields
it, through every expression that leads to the cell, and other indices yield what was there.
All other cells and all namespaces are as they were. -/
theorem index_assignment
    (evaluated : (within depth).walk expression machine = .ok value middle)
    (shallow : value.quoteDepth < depth)
    (subjectHarmless : middle.store.Harmless subject)
    (selectorHarmless : middle.store.Harmless selector) :
    let assignment :=
      (within depth).exec (.evaluate expression (.index mark subject selector)) machine
    (∀ stop after, assignment = .error stop after ->
      middle.store.Spares after.store ∧ after.scopes = middle.scopes) ∧
    ∀ seen ready cell index, Resolves depth subject selector middle seen ready cell index ->
      let size := (seen.store.elements cell).size
      ((∃ result after, assignment = .ok result after) ↔
        value.isStorable = true ∧ InBounds index size) ∧
      ((∃ element after,
          (within (depth + 1)).walk (.index mark subject selector) middle = .ok element after) ↔
        InBounds index size) ∧
      ∀ result after, assignment = .ok result after ->
        result = value ∧
        after.scopes = middle.scopes ∧
        middle.store.Spares seen.store ∧
        seen.StoresAt cell (index.toInt % size).toNat value.matched after ∧
        ∀ reading otherMark otherSubject otherSelector found final otherIndex,
          Resolves reading otherSubject otherSelector after found final cell otherIndex ->
          InBounds otherIndex size ->
          (otherIndex.toInt % size = index.toInt % size ->
            (within (reading + 1)).walk (.index otherMark otherSubject otherSelector) after =
              .ok value.matched final) ∧
          (otherIndex.toInt % size ≠ index.toInt % size ->
            ∀ old, (seen.store.elements cell)[(otherIndex.toInt % size).toNat]? = some old ->
              old.isAbsent = false ->
              (within (reading + 1)).walk (.index otherMark otherSubject otherSelector) after =
                .ok old final) := by
  intro assignment
  have frame : (((within depth).exec (.evaluate expression (.index mark subject selector))).after
      machine).scopes = middle.scopes := scopes_exec_index evaluated
  refine ⟨fun stop after stopped => ?_, fun seen ready cell index resolves => ?_⟩
  · rw [Action.after_error stopped] at frame
    exact ⟨exec_index_stops evaluated subjectHarmless selectorHarmless stopped, frame⟩
  intro size
  have executes : value.isStorable = true -> InBounds index size ->
      ∃ after, assignment = .ok value after ∧
        seen.StoresAt cell (index.toInt % size).toNat value.matched after :=
    fun storable inBounds => exec_index_of_inBounds evaluated storable shallow resolves inBounds
  have succeeds : (∃ result after, assignment = .ok result after) ↔
      value.isStorable = true ∧ InBounds index size := by
    constructor
    · rintro ⟨result, after, executed⟩
      exact storable_of_exec_index evaluated resolves executed
    · rintro ⟨storable, inBounds⟩
      obtain ⟨after, executed, _⟩ := executes storable inBounds
      exact ⟨value, after, executed⟩
  refine ⟨succeeds, resolves.walk_index_ok_iff mark, fun result after executed => ?_⟩
  obtain ⟨storable, inBounds⟩ := succeeds.mp ⟨result, after, executed⟩
  obtain ⟨_, stored, stores⟩ := executes storable inBounds
  obtain ⟨rfl, rfl⟩ := EStateM.Result.ok.inj (stored.symm.trans executed)
  rw [Action.after_ok executed] at frame
  have present : value.matched.isAbsent = false := by
    simpa using ((Bool.and_eq_true _ _).mp storable).1
  refine ⟨rfl, frame, resolves.seen_spares.1, stores, ?_⟩
  intro reading otherMark otherSubject otherSelector found final otherIndex otherResolves
    otherInBounds
  obtain ⟨same, apart⟩ := walk_index_of_storesAt otherMark stores present otherResolves
    otherInBounds
  have agree := otherInBounds.place_eq_iff index
  exact ⟨fun denoted => same (agree.mpr denoted),
    fun different => apart fun denoted => different (agree.mp denoted)⟩

end Execution

/-- A machine on which `grid` is a list of two lists and `row` is the second one. -/
def gridMachine : Machine :=
  let store : Store :=
    { Store.initial with
      cells := #[#[.none, .none], #[.integer 1, .integer 2], #[.integer 3, .integer 4],
        #[.list ⟨1⟩, .list ⟨2⟩]] }
  ((Machine.fresh store).bindName "grid" (.list ⟨3⟩)).bindName "row" (.list ⟨2⟩)

/-- Assigning to `grid@1@0` changes the inner list: `row` shows the new first element, from
the end as well, and the old second one. -/
theorem index_assignment_of_grid :
    ∃ after,
      (within 3).exec (.evaluate (.integer 7)
          (.index 1 (.index 2 (.identifier "grid") (.integer 1)) (.integer 0))) gridMachine =
        .ok (.integer 7) after ∧
      (within 2).walk (.index 3 (.identifier "row") (.integer (-2))) after =
        .ok (.integer 7) after ∧
      (within 2).walk (.index 3 (.identifier "row") (.integer 1)) after =
        .ok (.integer 4) after := by
  obtain ⟨after, executed, row, known⟩ : ∃ after,
      (within 3).exec (.evaluate (.integer 7)
          (.index 1 (.index 2 (.identifier "grid") (.integer 1)) (.integer 0))) gridMachine =
        .ok (.integer 7) after ∧
      (within 1).walk (.identifier "row") after = .ok (.list ⟨2⟩) after ∧
      2 < after.store.cells.size := ⟨_, rfl, rfl, by decide⟩
  have resolves : Resolves 3 (.index 2 (.identifier "grid") (.integer 1)) (.integer 0)
      gridMachine gridMachine gridMachine ⟨2⟩ 0 :=
    ⟨Store.harmless_of_isReference _ rfl, Store.harmless_of_isReference _ rfl, .inl rfl,
      by decide, rfl⟩
  have rowResolves : ∀ index, Resolves 1 (.identifier "row") (.integer index) after after after
      ⟨2⟩ index := fun index =>
    ⟨Store.harmless_of_isReference _ rfl, Store.harmless_of_isReference _ rfl, .inl row, known, rfl⟩
  have assigned := @index_assignment 3 1 (.integer 7) _ _ _ _ gridMachine rfl (by decide)
    resolves.subjectHarmless resolves.selectorHarmless
  obtain ⟨_, _, stored⟩ := assigned.2 _ _ _ _ resolves
  obtain ⟨_, _, _, _, reads⟩ := stored _ after executed
  refine ⟨after, executed, ?_, ?_⟩
  · exact (reads 1 3 _ _ _ _ _ (rowResolves (-2)) (by decide)).1 (by decide)
  · exact (reads 1 3 _ _ _ _ _ (rowResolves 1) (by decide)).2 (by decide) _ rfl rfl

/-- A machine on which `xs` is the list of one and two. -/
def pairMachine : Machine :=
  let store : Store :=
    { Store.initial with cells := #[#[.none, .none], #[.integer 1, .integer 2]] }
  (Machine.fresh store).bindName "xs" (.list ⟨1⟩)

/-- Assigning a quoted five to `xs@0` yields the quoted five, but what `xs@0` reads after it
is five. -/
theorem quote_lost_in_assignment :
    ∃ after,
      (within 3).exec (.evaluate (.quote (.integer 5)) (.index 1 (.identifier "xs") (.integer 0)))
        pairMachine = .ok (.quote (.integer 5)) after ∧
      (within 2).walk (.index 1 (.identifier "xs") (.integer 0)) after =
        .ok (.integer 5) after ∧
      Term.integer 5 ≠ .quote (.integer 5) :=
  ⟨_, rfl, rfl, Term.noConfusion⟩

end Evaluator
end PatternMachine
