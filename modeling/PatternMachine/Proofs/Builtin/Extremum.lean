import PatternMachine.Proofs.Builtin.Comparison
import PatternMachine.Proofs.Builtin.Install
import PatternMachine.Proofs.Number.Nearest

/-!
# The smallest and the largest element

The extremes of a list are found by comparing reals. Rounding keeps the order, so that the
element that is found is the smallest one, or the largest, but for elements that are rounded
to the same real. Of these the first one is found.
-/

namespace PatternMachine

open Number (nearest)

namespace Builtin

/-- The order in which the best element is looked for: an element is better if its key is
smaller. -/
def BetterBy (better : Float -> Float -> Bool) (key : Int -> Int) : Prop :=
  ∀ first second : Int64,
    better (Number.exact first).toReal (Number.exact second).toReal =
      decide (key first.toInt < key second.toInt)

theorem lt_betterBy : BetterBy (fun left right => left < right) nearest := by
  intro first second
  rw [decide_eq_decide]
  exact (Number.ofInteger_whole first).lt_iff (Number.ofInteger_whole second)

theorem gt_betterBy : BetterBy (fun left right => left > right) (fun value => -nearest value) := by
  intro first second
  rw [decide_eq_decide, Int.neg_lt_neg_iff]
  exact (Number.ofInteger_whole second).lt_iff (Number.ofInteger_whole first)

variable {function : String} {better : Float -> Float -> Bool} {key : Int -> Int}

/-- An element is the first of those with the smallest key. -/
def FirstLeast (key : Int -> Int) (elements : List Term) (found : Term) : Prop :=
  ∃ before behind, elements = before ++ found :: behind ∧
    (∀ element ∈ before, key found.integralValue < key element.integralValue) ∧
    ∀ element ∈ behind, key found.integralValue ≤ key element.integralValue

namespace FirstLeast

variable {elements : List Term} {found : Term}

theorem mem (firstLeast : FirstLeast key elements found) : found ∈ elements := by
  obtain ⟨before, behind, rfl, _, _⟩ := firstLeast
  exact List.mem_append_right _ List.mem_cons_self

theorem le (firstLeast : FirstLeast key elements found) :
    ∀ element ∈ elements, key found.integralValue ≤ key element.integralValue := by
  obtain ⟨before, behind, rfl, above, least⟩ := firstLeast
  intro element member
  rcases List.mem_append.mp member with earlier | later
  · exact Int.le_of_lt (above element earlier)
  · rcases List.mem_cons.mp later with rfl | behind
    · exact Int.le_refl _
    · exact least element behind

/-- An element with a larger key may stand before. -/
theorem cons
    {first : Term}
    (firstLeast : FirstLeast key elements found)
    (larger : key found.integralValue < key first.integralValue) :
    FirstLeast key (first :: elements) found := by
  obtain ⟨before, behind, rfl, above, least⟩ := firstLeast
  exact ⟨first :: before, behind, rfl, List.forall_mem_cons.mpr ⟨larger, above⟩, least⟩

/-- An element whose key is not smaller than the first one may stand behind the first. -/
theorem insert_second
    {first second : Term}
    (firstLeast : FirstLeast key (first :: elements) found)
    (larger : key first.integralValue ≤ key second.integralValue) :
    FirstLeast key (first :: second :: elements) found := by
  obtain ⟨before, behind, same, above, least⟩ := firstLeast
  cases before with
  | nil =>
      obtain ⟨rfl, rfl⟩ := List.cons.inj same
      exact ⟨[], second :: elements, rfl, by simp, List.forall_mem_cons.mpr ⟨larger, least⟩⟩
  | cons head before =>
      obtain ⟨rfl, rfl⟩ := List.cons.inj same
      obtain ⟨aboveFirst, aboveRest⟩ := List.forall_mem_cons.mp above
      refine ⟨first :: second :: before, behind, rfl, ?_, least⟩
      exact List.forall_mem_cons.mpr ⟨aboveFirst, List.forall_mem_cons.mpr
        ⟨Int.lt_of_lt_of_le aboveFirst larger, aboveRest⟩⟩

end FirstLeast

/-- The best element is found without a failure. -/
theorem bestOf_apply
    (orders : BetterBy better key)
    {best : Term}
    {value : Int64}
    (number : best.number? = some (.exact value))
    {elements : List Term}
    (integral : ∀ element ∈ elements, element.IsIntegral)
    (machine : Machine) :
    ∃ found,
      bestOf function better best (Number.exact value).toReal elements machine =
        .ok found machine ∧
      FirstLeast key (best :: elements) found := by
  induction elements generalizing best value with
  | nil => exact ⟨best, rfl, [], [], rfl, by simp, by simp⟩
  | cons element rest inductionHypothesis =>
      obtain ⟨elementIntegral, restIntegral⟩ := List.forall_mem_cons.mp integral
      obtain ⟨elementValue, elementNumber, rank⟩ := elementIntegral.number?_eq
      have bestRank : best.integralValue = value.toInt := by
        rw [Term.integralValue, number]
      unfold bestOf
      rw [elementNumber]
      dsimp only
      rw [orders]
      by_cases wins : key elementValue.toInt < key value.toInt
      · rw [if_pos (decide_eq_true wins)]
        obtain ⟨found, ran, firstLeast⟩ := inductionHypothesis elementNumber restIntegral
        refine ⟨found, ran, firstLeast.cons ?_⟩
        rw [bestRank]
        rw [← rank] at wins
        exact Int.lt_of_le_of_lt (firstLeast.le element List.mem_cons_self) wins
      · rw [if_neg (by simpa using wins)]
        obtain ⟨found, ran, firstLeast⟩ := inductionHypothesis number restIntegral
        refine ⟨found, ran, firstLeast.insert_second ?_⟩
        rw [bestRank, rank]
        exact Int.not_lt.mp wins

/-- Looking for the best of integers and booleans finds the first with the smallest key. -/
theorem extremum_apply
    (orders : BetterBy better key)
    {xs : Term}
    {machine entered : Machine}
    {elements : List Term}
    (found : Native.Entered "xs" xs machine entered)
    (sequence : machine.store.sequenceElements? xs = some elements)
    (nonempty : elements ≠ [])
    (integral : ∀ element ∈ elements, element.IsIntegral) :
    ∃ best, extremum function better entered = .ok best entered ∧
      FirstLeast key elements best := by
  obtain ⟨first, rest, rfl⟩ := List.exists_cons_of_ne_nil nonempty
  obtain ⟨firstIntegral, restIntegral⟩ := List.forall_mem_cons.mp integral
  obtain ⟨value, number, _⟩ := firstIntegral.number?_eq
  obtain ⟨best, ran, firstLeast⟩ := bestOf_apply orders number restIntegral entered
  refine ⟨best, ?_, firstLeast⟩
  unfold extremum
  rw [Action.bind_apply, formal_apply found]
  dsimp only
  rw [Action.bind_apply, Action.store_apply]
  dsimp only
  rw [sequenceElements?_entered found, sequence]
  dsimp only
  rw [number]
  exact ran

/-- An element of a list is an extreme of it, as far as reals can tell: it is the first of
those whose reals are the smallest, or the largest, and the operator holds between it and
every element that is rounded to another real. -/
structure Extreme (operator : Operator) (key : Int -> Int) (machine : Machine)
    (elements : List Term) (found : Term) : Prop where
  first : FirstLeast key elements found
  holds : ∀ element ∈ elements, operator.holds machine found element ∨
    nearest found.integralValue = nearest element.integralValue
  exact : (∀ element ∈ elements, nearest element.integralValue = element.integralValue) ->
    ∀ element ∈ elements, operator.holds machine found element

/-- Where the operator is the order of the values and the key keeps it, the first element
with the smallest key is an extreme. -/
theorem FirstLeast.extreme
    {operator : Operator}
    {machine : Machine}
    {elements : List Term}
    {found : Term}
    (firstLeast : FirstLeast key elements found)
    (decides : ∀ element ∈ elements,
      key found.integralValue ≤ key element.integralValue ->
        operator.holds machine found element ∨
          nearest found.integralValue = nearest element.integralValue)
    (reflexive : ∀ element ∈ elements, found.integralValue = element.integralValue ->
      operator.holds machine found element) :
    Extreme operator key machine elements found where
  first := firstLeast
  holds element member := decides element member (firstLeast.le element member)
  exact same element member := by
    rcases decides element member (firstLeast.le element member) with holds | rounded
    · exact holds
    · rw [same found firstLeast.mem, same element member] at rounded
      exact reflexive element member rounded

end Builtin

namespace Evaluator

/-- The smallest element of a list of integers and booleans is at most every element, and
the largest at least every element, but for elements that are rounded to the same real. -/
theorem applyValue_extremum
    {smallest largest xs : Term}
    {machine : Machine}
    {elements : List Term}
    (smallestCallable : Native.min.Callable "xs" smallest machine)
    (largestCallable : Native.max.Callable "xs" largest machine)
    (sequence : machine.store.sequenceElements? xs = some elements)
    (nonempty : elements ≠ [])
    (integral : ∀ element ∈ elements, element.IsIntegral)
    (depth : Nat) :
    (∃ found store, (within (depth + 1)).Returns smallest xs machine found store ∧
      Builtin.Extreme .atMost nearest machine elements found) ∧
    ∃ found store, (within (depth + 1)).Returns largest xs machine found store ∧
      Builtin.Extreme .atLeast (fun value => -nearest value) machine elements found := by
  have present := Store.isAbsent_of_sequenceElements? sequence
  constructor
  · obtain ⟨entered, found, ends⟩ := applyValue_native smallestCallable present depth
    obtain ⟨best, ran, firstLeast⟩ :=
      Builtin.extremum_apply Builtin.lt_betterBy found sequence nonempty integral
    have bestIntegral := integral best firstLeast.mem
    refine ⟨best, _, ends.returns _ _ ran, firstLeast.extreme ?_ ?_⟩
    · intro element member ordered
      rw [bestIntegral.atMost_iff (integral element member)]
      have := @Number.nearest_mono element.integralValue best.integralValue
      omega
    · intro element member same
      exact (bestIntegral.atMost_iff (integral element member) machine).mpr (Int.le_of_eq same)
  · obtain ⟨entered, found, ends⟩ := applyValue_native largestCallable present depth
    obtain ⟨best, ran, firstLeast⟩ :=
      Builtin.extremum_apply Builtin.gt_betterBy found sequence nonempty integral
    have bestIntegral := integral best firstLeast.mem
    refine ⟨best, _, ends.returns _ _ ran, firstLeast.extreme ?_ ?_⟩
    · intro element member ordered
      rw [bestIntegral.atLeast_iff (integral element member)]
      have := @Number.nearest_mono best.integralValue element.integralValue
      omega
    · intro element member same
      exact (bestIntegral.atLeast_iff (integral element member) machine).mpr
        (Int.le_of_eq same.symm)

/-- A machine that was prepared with the built-in functions over the list of `2 ^ 53 + 1`,
`2 ^ 53` and true. -/
def adjacentMachine : Machine :=
  .prepared (Store.initial.newCell
    #[.integer 9007199254740993, .integer 9007199254740992, .boolean true]).2 {} {} true

/-- The smallest element of the list is at most every element, and the largest is at least
every element that is rounded to another real. -/
theorem applyValue_extremum_of_adjacent :
    (∃ found store, (within 1).Returns (.closure "min" (some Closure.global)) (.list ⟨1⟩)
      adjacentMachine found store ∧ Builtin.Extreme .atMost nearest adjacentMachine
        [.integer 9007199254740993, .integer 9007199254740992, .boolean true] found) ∧
    ∃ found store, (within 1).Returns (.closure "max" (some Closure.global)) (.list ⟨1⟩)
      adjacentMachine found store ∧
      Builtin.Extreme .atLeast (fun value => -nearest value) adjacentMachine
        [.integer 9007199254740993, .integer 9007199254740992, .boolean true] found := by
  have prepared := Native.prepared_callable (Store.initial.newCell
    #[.integer 9007199254740993, .integer 9007199254740992, .boolean true]).2
  have sequence : adjacentMachine.store.sequenceElements? (.list ⟨1⟩) =
      some [.integer 9007199254740993, .integer 9007199254740992, .boolean true] :=
    congrArg (fun elements : Array Term => some elements.toList)
      (prepared.1.elements ⟨1⟩ (by decide))
  exact applyValue_extremum (prepared.2 rfl (by decide)) (prepared.2 rfl (by decide)) sequence
    (by simp) (by simp [Term.IsIntegral, Term.kind]) 0

end Evaluator
end PatternMachine
