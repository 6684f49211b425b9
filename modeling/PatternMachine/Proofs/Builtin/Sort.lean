import PatternMachine.Proofs.Builtin.Comparison
import PatternMachine.Proofs.Builtin.Install
import PatternMachine.Proofs.Stability

/-!
# Sorting in the order of the language

Integers and booleans, or texts, are put in the order of the comparison operators, and those
that compare equal keep their order. A text and a number cannot be compared, nor anything
else; where there are such elements, sorting is refused.
-/

namespace PatternMachine

namespace Builtin

/-- Two values compare equal: each is at most the other. -/
def comparesEqual (machine : Machine) (left right : Term) : Bool :=
  Operator.atMost.holds machine left right && Operator.atMost.holds machine right left

/-- A list is the stable rearrangement of another one in the order of the language. -/
structure SortsStably (machine : Machine) (elements sorted : List Term) : Prop where
  perm : sorted.Perm elements
  ascends : sorted.Pairwise fun earlier later => Operator.atMost.holds machine earlier later
  stable : ∀ pivot ∈ elements,
    sorted.filter (comparesEqual machine pivot) = elements.filter (comparesEqual machine pivot)

/-- Where comparing compares ranks, sorting is stable in the order of the language. -/
theorem sortsStably
    {κ : Type}
    [LinearOrder κ]
    {among : Term -> Prop}
    {rank : Term -> κ}
    (compares : ∀ {left right : Term}, among left -> among right ->
      compareValues left right = .ok (compare (rank left) (rank right)))
    {elements : List Term}
    (allAmong : ∀ element ∈ elements, among element)
    (machine : Machine) :
    ∃ sorted, sortTerms elements = .ok sorted ∧ SortsStably machine elements sorted := by
  have comparesBy : ComparesBy among rank := by
    intro left right leftAmong rightAmong
    refine ⟨_, compares leftAmong rightAmong, ?_⟩
    rw [Bool.eq_iff_iff, Ordering.isLT_iff_eq_lt, compare_lt_iff_lt, decide_eq_true_iff]
  have holds : ∀ {left right : Term}, among left -> among right ->
      Operator.atMost.holds machine left right = decide (rank left ≤ rank right) := by
    intro left right leftAmong rightAmong
    rw [Evaluator.atMost_holds (compares leftAmong rightAmong), Bool.eq_iff_iff]
    exact (Ordering.ne_gt_iff_isLE.symm.trans compare_le_iff_le).trans decide_eq_true_iff.symm
  obtain ⟨sorted, done, arranges⟩ := sortTerms_arranges comparesBy allAmong
  have sortedAmong : ∀ element ∈ sorted, among element :=
    fun element member => allAmong element (arranges.level.mem_iff.mp member)
  refine ⟨sorted, done, sortTerms_perm done, ?_, fun pivot member => ?_⟩
  · refine arranges.ascends.imp_of_mem fun earlier later ordered => ?_
    rw [holds (sortedAmong _ earlier) (sortedAmong _ later)]
    exact decide_eq_true ordered
  · have level : ∀ {list : List Term}, (∀ element ∈ list, among element) ->
        list.filter (comparesEqual machine pivot) =
          list.filter fun element => rank element = rank pivot := by
      intro list listAmong
      refine List.filter_congr fun element inside => ?_
      rw [comparesEqual, holds (allAmong pivot member) (listAmong element inside),
        holds (listAmong element inside) (allAmong pivot member), Bool.eq_iff_iff,
        Bool.and_eq_true, decide_eq_true_iff, decide_eq_true_iff, decide_eq_true_iff,
        and_comm, le_antisymm_iff]
    rw [level sortedAmong, level allAmong]
    exact arranges.level (rank pivot)

/-- The elements of a list or tuple are texts, or integers and booleans. -/
def Sortable (elements : List Term) : Prop :=
  (∀ element ∈ elements, element.IsIntegral) ∨ ∀ element ∈ elements, element.kind = .text

/-- A list or tuple has two elements at least, and among them a text and a number, or an
element that is neither. -/
def Unsortable (elements : List Term) : Prop :=
  2 ≤ elements.length ∧
    ((∃ text ∈ elements, ∃ number ∈ elements, text.kind = .text ∧ number.IsNumber) ∨
      ∃ element ∈ elements, element.kind ≠ .text ∧ ¬ element.IsNumber)

/-- An element of a coherent list with two elements at least can be compared with another
one. -/
theorem Coherent.exists_comparable
    {elements : List Term}
    {element : Term}
    (coherent : Coherent elements)
    (several : 2 ≤ elements.length)
    (member : element ∈ elements) :
    ∃ other, Comparable element other := by
  obtain ⟨before, behind, rfl⟩ := List.append_of_mem member
  obtain ⟨_, rest, across⟩ := List.pairwise_append.mp coherent
  cases before with
  | cons first before =>
      exact ⟨first, (across first List.mem_cons_self element List.mem_cons_self).symm⟩
  | nil =>
      cases behind with
      | nil => simp at several
      | cons next behind => exact ⟨next, (List.pairwise_cons.mp rest).1 next List.mem_cons_self⟩

theorem not_isNumber_of_text {term : Term} (text : term.kind = .text) : ¬ term.IsNumber := by
  obtain ⟨value, rfl⟩ := exists_eq_text text
  exact Bool.false_ne_true

theorem Unsortable.not_coherent {elements : List Term} (unsortable : Unsortable elements) :
    ¬ Coherent elements := by
  intro coherent
  obtain ⟨several, ⟨text, textMember, number, numberMember, isText, isNumber⟩ |
    ⟨element, member, notText, notNumber⟩⟩ := unsortable
  · have distinct : text ≠ number := by
      rintro rfl
      exact not_isNumber_of_text isText isNumber
    rcases comparable_iff.mp (coherent.forall textMember numberMember distinct) with
      ⟨_, numberText⟩ | ⟨textNumber, _⟩
    · exact not_isNumber_of_text numberText isNumber
    · exact not_isNumber_of_text isText textNumber
  · obtain ⟨other, comparable⟩ := coherent.exists_comparable several member
    rcases comparable_iff.mp comparable with ⟨text, _⟩ | ⟨number, _⟩
    · exact notText text
    · exact notNumber number

/-- A new cell with the elements of a list or tuple in another order leaves the list or
tuple as it is. -/
theorem sequenceElements?_newCell
    {store : Store}
    {xs : Term}
    {elements sorted : List Term}
    (sequence : store.sequenceElements? xs = some elements)
    (perm : sorted.Perm elements) :
    (store.newCell sorted.toArray).2.sequenceElements? xs = some elements := by
  have kept : ∀ cell, (store.elements cell).toList = elements ->
      ((store.newCell sorted.toArray).2.elements cell).toList = elements := by
    intro cell held
    by_cases known : cell.place < store.cells.size
    · rw [store.elements_newCell_of_lt _ known, held]
    · have missing : store.elements cell = #[] := by
        simp [Store.elements, Array.getElem?_eq_none (Nat.le_of_not_lt known)]
      obtain rfl : [] = elements := by rw [← held, missing]
      rcases store.elements_newCell sorted.toArray cell with new | old
      · rw [new, List.perm_nil.mp perm]
      · rw [old, held]
  cases xs with
  | list cell => exact congrArg some (kept cell (Option.some.inj sequence))
  | tuple cell => exact congrArg some (kept cell (Option.some.inj sequence))
  | _ => cases sequence

end Builtin

namespace Evaluator

/-- Sorting puts integers and booleans, or texts, in the order of the language, keeps those
in order that compare equal, and leaves the list or tuple that is sorted as it is. Where two
of the elements cannot be compared, it raises an error. -/
theorem applyValue_sort
    {function xs : Term}
    {machine : Machine}
    {elements : List Term}
    (callable : Native.sort.Callable "xs" function machine)
    (sequence : machine.store.sequenceElements? xs = some elements)
    (depth : Nat) :
    (Builtin.Sortable elements ->
      ∃ cell store, (within (depth + 1)).Returns function xs machine (.list cell) store ∧
        Builtin.SortsStably machine elements (store.elements cell).toList ∧
        store.sequenceElements? xs = some elements) ∧
    (Builtin.Unsortable elements ->
      ∃ message, (within (depth + 1)).Raises function xs machine
        (.standard .valueError message)) := by
  have present := Store.isAbsent_of_sequenceElements? sequence
  obtain ⟨entered, found, ends⟩ := applyValue_native callable present depth
  have elementsFound := Builtin.listFormal_apply found sequence "sort"
  have sorts : ∀ {sorted}, Builtin.sortTerms elements = .ok sorted ->
      Native.sort.run entered = Action.newList sorted entered := by
    intro sorted done
    change (Builtin.listFormal "sort" >>= _ : Action Term) entered = _
    rw [Action.bind_apply, elementsFound]
    dsimp only
    rw [done]
  have complains : ∀ {message}, Builtin.sortTerms elements = .error message ->
      Native.sort.run entered = Action.raise .valueError message entered := by
    intro message failed
    change (Builtin.listFormal "sort" >>= _ : Action Term) entered = _
    rw [Action.bind_apply, elementsFound]
    dsimp only
    rw [failed]
  constructor
  · intro sortable
    obtain ⟨sorted, done, stably⟩ : ∃ sorted, Builtin.sortTerms elements = .ok sorted ∧
        Builtin.SortsStably machine elements sorted := by
      rcases sortable with integral | texts
      · exact Builtin.sortsStably Builtin.compareValues_integral integral machine
      · exact Builtin.sortsStably Builtin.compareValues_text texts machine
    have returns := ends.returns _ _ ((sorts done).trans (Action.newList_apply sorted entered))
    refine ⟨_, _, returns, ?_, ?_⟩
    · rw [Store.elements_newCell_self]
      exact stably
    · exact Builtin.sequenceElements?_newCell
        ((Builtin.sequenceElements?_entered found xs).trans sequence) stably.perm
  · intro unsortable
    cases done : Builtin.sortTerms elements with
    | ok sorted => exact absurd (Builtin.sortTerms_spec done).2 unsortable.not_coherent
    | error message => exact ⟨message, ends.raises _ _ (complains done)⟩

/-- A store with a list of numbers and a list of a text and a number. -/
def mixedStore : Store :=
  let numbers := Store.initial.newCell #[.integer 2, .boolean true, .integer 1]
  (numbers.2.newCell #[.text "a", .integer 1]).2

/-- A machine that was prepared with the built-in functions over two lists. -/
def mixedMachine : Machine :=
  .prepared mixedStore {} {} true

theorem sequenceElements?_mixedMachine :
    mixedMachine.store.sequenceElements? (.list ⟨1⟩) =
        some [.integer 2, .boolean true, .integer 1] ∧
      mixedMachine.store.sequenceElements? (.list ⟨2⟩) = some [.text "a", .integer 1] := by
  have keeps := (Native.prepared_callable mixedStore).1
  have first := keeps.elements ⟨1⟩ (by decide)
  have second := keeps.elements ⟨2⟩ (by decide)
  constructor
  · exact congrArg (fun elements : Array Term => some elements.toList) first
  · exact congrArg (fun elements : Array Term => some elements.toList) second

/-- The numbers are sorted, and sorting the text and the number is refused. -/
theorem applyValue_sort_of_mixed :
    (∃ cell store, (within 1).Returns (.closure "sort" (some Closure.global)) (.list ⟨1⟩)
      mixedMachine (.list cell) store ∧
      Builtin.SortsStably mixedMachine [.integer 2, .boolean true, .integer 1]
        (store.elements cell).toList ∧
      store.sequenceElements? (.list ⟨1⟩) = some [.integer 2, .boolean true, .integer 1]) ∧
    ∃ message, (within 1).Raises (.closure "sort" (some Closure.global)) (.list ⟨2⟩) mixedMachine
      (.standard .valueError message) := by
  have callable : Native.sort.Callable "xs" (.closure "sort" (some Closure.global)) mixedMachine :=
    (Native.prepared_callable mixedStore).2 rfl (by decide)
  obtain ⟨numbers, texts⟩ := sequenceElements?_mixedMachine
  constructor
  · refine (applyValue_sort callable numbers 0).1 (.inl ?_)
    simp [Term.IsIntegral, Term.kind]
  · refine (applyValue_sort callable texts 0).2 ⟨Nat.le_refl 2, .inl ?_⟩
    exact ⟨.text "a", by simp, .integer 1, by simp, rfl, rfl⟩

end Evaluator
end PatternMachine
