import Mathlib.Data.List.GetD
import Mathlib.Data.String.Basic
import Mathlib.Data.Int.Order.Basic
import PatternMachine.Proofs.Sorting

/-!
# Sorting puts elements in order and is stable

Where every element has a rank, and comparing two elements compares their ranks, no
comparison fails. The sorted list ascends, and of the elements of one rank it has the same
ones in the same order as the list it was made from. Every step of the sort keeps both: a
block is sorted by insertion, and two sorted lists are merged.
-/

namespace PatternMachine
namespace Builtin

/-- The run comes to a result of a kind without asking anything that has no answer. -/
def Sorting.Yields {α : Type} (sorting : Sorting α) (result : α -> Prop) : Prop :=
  ∃ value, sorting = pure value ∧ result value

namespace Sorting.Yields

variable {α β : Type} {sorting : Sorting α} {result : α -> Prop}

theorem pure {value : α} (holds : result value) : Yields (Pure.pure value) result :=
  ⟨value, rfl, holds⟩

theorem bind
    {next : α -> Sorting β}
    {last : β -> Prop}
    (first : Yields sorting result)
    (second : ∀ value, result value -> Yields (next value) last) :
    Yields (sorting >>= next) last := by
  obtain ⟨value, rfl, holds⟩ := first
  rw [pure_bind]
  exact second value holds

theorem imp
    {weaker : α -> Prop}
    (yields : Yields sorting result)
    (implies : ∀ value, result value -> weaker value) :
    Yields sorting weaker := by
  obtain ⟨value, same, holds⟩ := yields
  exact ⟨value, same, implies value holds⟩

end Sorting.Yields

open Sorting (Yields)

variable {κ : Type} [LinearOrder κ]

/-- Comparing two elements of a kind compares their ranks. -/
def ComparesBy (among : Term -> Prop) (rank : Term -> κ) : Prop :=
  ∀ {left right : Term}, among left -> among right ->
    ∃ order, compareValues left right = .ok order ∧ order.isLT = decide (rank left < rank right)

/-- A list ascends. -/
abbrev Ascends (rank : Term -> κ) (elements : List Term) : Prop :=
  elements.Pairwise fun earlier later => rank earlier ≤ rank later

/-- Two lists have the same elements of each rank, in the same order. -/
def Level (rank : Term -> κ) (source result : List Term) : Prop :=
  ∀ key, (result.filter fun element => rank element = key) =
    source.filter fun element => rank element = key

/-- The result ascends, and has the elements of each rank in the order of the source. -/
structure Arranges (rank : Term -> κ) (source result : List Term) : Prop where
  ascends : Ascends rank result
  level : Level rank source result

variable {rank : Term -> κ}

namespace Level

variable {source result : List Term}

/-- The elements are the same. -/
theorem mem_iff (level : Level rank source result) {element : Term} :
    element ∈ result ↔ element ∈ source := by
  have found : ∀ list : List Term,
      element ∈ list ↔ element ∈ list.filter fun other => rank other = rank element := by
    simp
  rw [found result, level (rank element), ← found source]

theorem trans
    {middle : List Term}
    (first : Level rank source middle)
    (second : Level rank middle result) :
    Level rank source result :=
  fun key => (second key).trans (first key)

theorem append
    {source' result' : List Term}
    (first : Level rank source result)
    (second : Level rank source' result') :
    Level rank (source ++ source') (result ++ result') := by
  intro key
  rw [List.filter_append, List.filter_append, first key, second key]

end Level

namespace Arranges

theorem of_ascends {elements : List Term} (ascends : Ascends rank elements) :
    Arranges rank elements elements :=
  ⟨ascends, fun _ => rfl⟩

/-- Two lists that are merged part by part are merged as a whole, if nothing in the first
parts has to stand after anything in the second parts. On equal ranks the left list comes
first, so that the first part of the right list has to be strictly below the second part
of the left one. -/
theorem join
    {left left' right right' first second : List Term}
    (firstArranges : Arranges rank (left ++ right) first)
    (secondArranges : Arranges rank (left' ++ right') second)
    (leftAscends : ∀ a ∈ left, ∀ b ∈ left', rank a ≤ rank b)
    (rightAscends : ∀ a ∈ right, ∀ b ∈ right', rank a ≤ rank b)
    (outer : ∀ a ∈ left, ∀ b ∈ right', rank a ≤ rank b)
    (inner : ∀ a ∈ right, ∀ b ∈ left', rank a < rank b) :
    Arranges rank ((left ++ left') ++ (right ++ right')) (first ++ second) := by
  constructor
  · refine List.pairwise_append.mpr ⟨firstArranges.ascends, secondArranges.ascends, ?_⟩
    intro a inFirst b inSecond
    rw [firstArranges.level.mem_iff, List.mem_append] at inFirst
    rw [secondArranges.level.mem_iff, List.mem_append] at inSecond
    rcases inFirst with inLeft | inRight <;> rcases inSecond with inLeft' | inRight'
    · exact leftAscends a inLeft b inLeft'
    · exact outer a inLeft b inRight'
    · exact (inner a inRight b inLeft').le
    · exact rightAscends a inRight b inRight'
  · intro key
    -- Elements of one rank cannot stand in both of the parts that change places.
    have swap : (right.filter fun element => rank element = key) ++
          (left'.filter fun element => rank element = key) =
        (left'.filter fun element => rank element = key) ++
          (right.filter fun element => rank element = key) := by
      rcases List.eq_nil_or_concat (right.filter fun element => rank element = key) with
        none | ⟨_, held, some⟩
      · rw [none, List.nil_append, List.append_nil]
      · have member : held ∈ right.filter fun element => rank element = key := by simp [some]
        simp only [List.mem_filter, decide_eq_true_eq] at member
        have none : (left'.filter fun element => rank element = key) = [] := by
          rw [List.filter_eq_nil_iff]
          intro other inLeft' same
          rw [decide_eq_true_eq] at same
          have below := inner held member.1 other inLeft'
          rw [member.2, same] at below
          exact absurd below (lt_irrefl _)
        rw [none, List.nil_append, List.append_nil]
    have first := firstArranges.level key
    have second := secondArranges.level key
    simp only [List.filter_append] at first second ⊢
    rw [first, second, List.append_assoc, ← List.append_assoc _ _ (right'.filter _), swap]
    simp only [List.append_assoc]

end Arranges

variable {among : Term -> Prop}

theorem precedes_eq
    (compares : ComparesBy among rank)
    {left right : Term}
    (leftAmong : among left)
    (rightAmong : among right) :
    precedes left right = pure (decide (rank left < rank right)) := by
  obtain ⟨order, compared, below⟩ := compares leftAmong rightAmong
  unfold precedes
  rw [compared, ← below]

/-- Two elements that stand at places of two lists are compared by their ranks. -/
theorem precedesAt_eq
    (compares : ComparesBy among rank)
    {left right : List Term}
    (leftAmong : ∀ element ∈ left, among element)
    (rightAmong : ∀ element ∈ right, among element)
    {leftPlace rightPlace : Nat}
    (inLeft : leftPlace < left.length)
    (inRight : rightPlace < right.length) :
    precedesAt left.toArray right.toArray leftPlace rightPlace =
      pure (decide (rank (left.getD leftPlace .none) < rank (right.getD rightPlace .none))) := by
  unfold precedesAt
  simp only [List.getElem?_toArray, List.getElem?_eq_getElem inLeft,
    List.getElem?_eq_getElem inRight, Option.getD_some, List.getD_eq_getElem?_getD]
  exact precedes_eq compares (leftAmong _ (List.getElem_mem inLeft))
    (rightAmong _ (List.getElem_mem inRight))

/-- A search stops at a place where the answers turn from yes to no. -/
theorem bisect_yields
    {question : Nat -> Sorting Bool}
    (answer : Nat -> Bool)
    {low high : Nat}
    (answers : ∀ place, low ≤ place -> place < high -> question place = pure (answer place))
    (ordered : low ≤ high) :
    Yields (bisect question low high) fun place => low ≤ place ∧ place ≤ high ∧
      (place < high -> answer place = false) ∧ (low < place -> answer (place - 1) = true) := by
  induction low, high using bisect.induct with
  | case1 low high room middle right left =>
      have inside : low ≤ middle ∧ middle < high := by omega
      rw [bisect, if_pos room]
      dsimp only
      rw [answers _ inside.1 inside.2, pure_bind]
      cases answered : answer ((low + high) / 2) with
      | true =>
          refine (right (fun place above below => answers place (by omega) below) inside.2).imp ?_
          rintro place ⟨above, below, stops, goes⟩
          refine ⟨by omega, below, stops, fun _ => ?_⟩
          by_cases next : middle + 1 < place
          · exact goes next
          · obtain rfl : place = middle + 1 := by omega
            exact answered
      | false =>
          refine (left (fun place above below => answers place above (by omega)) inside.1).imp ?_
          rintro place ⟨above, below, stops, goes⟩
          refine ⟨above, by omega, fun _ => ?_, goes⟩
          by_cases next : place < middle
          · exact stops next
          · obtain rfl : place = middle := by omega
            exact answered
  | case2 low high closed =>
      rw [bisect, if_neg closed]
      exact .pure ⟨Nat.le_refl _, ordered, fun room => absurd room closed,
        fun below => absurd below (Nat.lt_irrefl _)⟩

namespace Ascends

variable {elements : List Term} {place : Nat} {element : Term}

theorem getD_le
    (ascends : Ascends rank elements)
    (first second : Nat)
    (inside : second < elements.length)
    (ordered : first ≤ second) :
    rank (elements.getD first .none) ≤ rank (elements.getD second .none) := by
  rw [List.getD_eq_getElem _ _ inside, List.getD_eq_getElem _ _ (by omega)]
  rcases Nat.lt_or_eq_of_le ordered with below | rfl
  · exact List.pairwise_iff_getElem.mp ascends first second (by omega) inside below
  · exact le_refl _

/-- The elements before a place are not above the last of them. -/
theorem le_last_of_mem_take
    (ascends : Ascends rank elements)
    (member : element ∈ elements.take place)
    (inside : place ≤ elements.length) :
    rank element ≤ rank (elements.getD (place - 1) .none) := by
  obtain ⟨index, below, rfl⟩ := List.mem_take_iff_getElem.mp member
  have := ascends.getD_le index (place - 1) (by omega) (by omega)
  rwa [List.getD_eq_getElem _ _ (by omega)] at this

/-- The elements from a place on are not below the first of them. -/
theorem first_le_of_mem_drop
    (ascends : Ascends rank elements)
    (member : element ∈ elements.drop place) :
    rank (elements.getD place .none) ≤ rank element := by
  obtain ⟨index, below, rfl⟩ := List.mem_drop_iff_getElem.mp member
  have := ascends.getD_le place (place + index) (by omega) (by omega)
  rwa [List.getD_eq_getElem _ _ (show place + index < elements.length by omega)] at this

/-- The elements before a place are not above those from the place on. -/
theorem take_le_drop
    (ascends : Ascends rank elements)
    (place : Nat) :
    ∀ a ∈ elements.take place, ∀ b ∈ elements.drop place, rank a ≤ rank b := by
  rw [Ascends, ← List.take_append_drop place elements, List.pairwise_append] at ascends
  exact ascends.2.2

theorem take (ascends : Ascends rank elements) (place : Nat) :
    Ascends rank (elements.take place) :=
  ascends.sublist (List.take_sublist place elements)

theorem drop (ascends : Ascends rank elements) (place : Nat) :
    Ascends rank (elements.drop place) :=
  ascends.sublist (List.drop_sublist place elements)

end Ascends

/-- What stands before a place or behind it shows that there is a place before or behind. -/
theorem pos_of_mem_take
    {elements : List Term}
    {place : Nat}
    {element : Term}
    (member : element ∈ elements.take place) :
    0 < place := by
  rcases Nat.eq_zero_or_pos place with rfl | above
  · simp at member
  · exact above

theorem lt_length_of_mem_drop
    {elements : List Term}
    {place : Nat}
    {element : Term}
    (member : element ∈ elements.drop place) :
    place < elements.length := by
  have := List.length_pos_of_mem member
  rw [List.length_drop] at this
  omega

/-- Two ascending lists are cut at places, so that what stands before the cuts is not above
what stands behind them; this is told by the elements next to the cuts. Then they are merged
by merging their parts. -/
theorem Arranges.cut
    {left right first second : List Term}
    (place other : Nat)
    (leftAscends : Ascends rank left)
    (rightAscends : Ascends rank right)
    (inLeft : place ≤ left.length)
    (inRight : other ≤ right.length)
    (outer : 0 < place -> other < right.length ->
      rank (left.getD (place - 1) .none) ≤ rank (right.getD other .none))
    (inner : 0 < other -> place < left.length ->
      rank (right.getD (other - 1) .none) < rank (left.getD place .none))
    (firstArranges : Arranges rank (left.take place ++ right.take other) first)
    (secondArranges : Arranges rank (left.drop place ++ right.drop other) second) :
    Arranges rank (left ++ right) (first ++ second) := by
  have joined := firstArranges.join secondArranges (leftAscends.take_le_drop place)
    (rightAscends.take_le_drop other) ?_ ?_
  · rwa [List.take_append_drop, List.take_append_drop] at joined
  · intro a before b behind
    calc rank a
      _ ≤ rank (left.getD (place - 1) .none) := leftAscends.le_last_of_mem_take before inLeft
      _ ≤ rank (right.getD other .none) :=
          outer (pos_of_mem_take before) (lt_length_of_mem_drop behind)
      _ ≤ rank b := rightAscends.first_le_of_mem_drop behind
  · intro a before b behind
    calc rank a
      _ ≤ rank (right.getD (other - 1) .none) := rightAscends.le_last_of_mem_take before inRight
      _ < rank (left.getD place .none) :=
          inner (pos_of_mem_take before) (lt_length_of_mem_drop behind)
      _ ≤ rank b := leftAscends.first_le_of_mem_drop behind

/-- Before what ascends from a place on stands an element that is not above the first. -/
theorem Ascends.cons_drop
    {elements : List Term}
    {element : Term}
    {place : Nat}
    (ascends : Ascends rank elements)
    (below : place < elements.length -> rank element ≤ rank (elements.getD place .none)) :
    Ascends rank (element :: elements.drop place) := by
  refine List.pairwise_cons.mpr ⟨fun other member => ?_, ascends.drop place⟩
  exact (below (lt_length_of_mem_drop member)).trans (ascends.first_le_of_mem_drop member)

/-- Behind what ascends up to a place stands an element that is not below the last. -/
theorem Ascends.take_concat
    {elements : List Term}
    {element : Term}
    {place : Nat}
    (ascends : Ascends rank elements)
    (inside : place ≤ elements.length)
    (above : 0 < place -> rank (elements.getD (place - 1) .none) ≤ rank element) :
    Ascends rank (elements.take place ++ [element]) := by
  refine List.pairwise_append.mpr ⟨ascends.take place, List.pairwise_singleton _ _, ?_⟩
  intro other member last single
  obtain rfl := List.mem_singleton.mp single
  exact (ascends.le_last_of_mem_take member inside).trans (above (pos_of_mem_take member))

/-! ## Merging -/

variable (compares : ComparesBy among rank)

include compares

theorem mergeShort_yields
    {left right : List Term}
    (leftAmong : ∀ element ∈ left, among element)
    (rightAmong : ∀ element ∈ right, among element)
    (leftAscends : Ascends rank left)
    (rightAscends : Ascends rank right)
    (short : ¬ (1 < left.length ∧ 1 < right.length)) :
    Yields (mergeShort left right) (Arranges rank (left ++ right)) := by
  match left, right with
  | [], right => exact .pure (.of_ascends rightAscends)
  | first :: left, [] =>
      rw [List.append_nil]
      exact .pure (.of_ascends leftAscends)
  | [element], second :: right =>
      rw [mergeShort]
      · refine (bisect_yields (fun place =>
          decide (rank ((second :: right).getD place .none) < rank element)) ?_
          (Nat.zero_le _)).bind ?_
        · exact fun place _ below =>
            precedesAt_eq compares rightAmong leftAmong (by simpa using below) Nat.zero_lt_one
        · rintro place ⟨_, inside, stops, goes⟩
          rw [List.size_toArray] at inside stops
          refine .pure (.cut 0 place leftAscends rightAscends (Nat.zero_le _) inside
            (fun above => absurd above (Nat.lt_irrefl 0)) (fun above _ => ?_)
            (.of_ascends (rightAscends.take place))
            (.of_ascends (rightAscends.cons_drop fun below => ?_)))
          · exact of_decide_eq_true (goes above)
          · exact not_lt.mp (of_decide_eq_false (stops below))
      · simp
  | first :: other :: left, element :: right =>
      obtain rfl : right = [] := by
        simp only [List.length_cons] at short
        exact List.eq_nil_of_length_eq_zero (by omega)
      rw [mergeShort]
      · refine (bisect_yields (fun place =>
          !decide (rank element < rank ((first :: other :: left).getD place .none))) ?_
          (Nat.zero_le _)).bind ?_
        · intro place _ below
          rw [precedesAt_eq compares rightAmong leftAmong Nat.zero_lt_one (by simpa using below)]
          rfl
        · rintro place ⟨_, inside, stops, goes⟩
          rw [List.size_toArray] at inside stops
          have ascends : Ascends rank ((first :: other :: left).take place ++ [element]) :=
            leftAscends.take_concat inside fun above => by simpa using goes above
          have arranged : Arranges rank ((first :: other :: left) ++ [element])
              (((first :: other :: left).take place ++ [element]) ++
                (first :: other :: left).drop place) := by
            refine .cut place 1 leftAscends rightAscends inside (Nat.le_refl 1)
              (fun _ below => absurd below (Nat.lt_irrefl 1)) (fun _ below => ?_)
              (.of_ascends ascends) ?_
            · simpa using stops below
            · simpa using Arranges.of_ascends (leftAscends.drop place)
          rw [List.append_assoc] at arranged
          exact .pure arranged
      all_goals simp

theorem merge_yields
    {left right : List Term}
    (leftAmong : ∀ element ∈ left, among element)
    (rightAmong : ∀ element ∈ right, among element)
    (leftAscends : Ascends rank left)
    (rightAscends : Ascends rank right) :
    Yields (merge left right) (Arranges rank (left ++ right)) := by
  induction left, right using merge.induct with
  | case1 left right long half first second =>
      rw [merge, if_pos long]
      have sizes : 1 < left.length ∧ 1 < right.length := long
      refine (bisect_yields (fun place =>
        !decide (rank (right.getD (half - 1 - place) .none) < rank (left.getD place .none))) ?_
        (by omega)).bind ?_
      · intro place above below
        rw [precedesAt_eq compares rightAmong leftAmong (by omega) (by omega)]
        rfl
      · rintro place ⟨above, inside, stops, goes⟩
        have inLeft : ∀ element ∈ left.take place, among element :=
          fun element member => leftAmong element (List.mem_of_mem_take member)
        have inRight : ∀ element ∈ right.take (half - place), among element :=
          fun element member => rightAmong element (List.mem_of_mem_take member)
        refine (first place inLeft inRight (leftAscends.take place)
          (rightAscends.take (half - place))).bind fun start startArranges => ?_
        refine (second place
          (fun element member => leftAmong element (List.mem_of_mem_drop member))
          (fun element member => rightAmong element (List.mem_of_mem_drop member))
          (leftAscends.drop place) (rightAscends.drop (half - place))).bind
          fun rest restArranges => .pure ?_
        refine .cut place (half - place) leftAscends rightAscends (by omega) (by omega)
          (fun before behind => ?_) (fun before behind => ?_) startArranges restArranges
        · have answered := goes (by omega)
          rw [show half - 1 - (place - 1) = half - place by omega] at answered
          simpa using answered
        · have answered := stops (by omega)
          rw [show half - 1 - place = half - place - 1 by omega] at answered
          simpa using answered
  | case2 left right short =>
      rw [merge, if_neg short]
      exact mergeShort_yields compares leftAmong rightAmong leftAscends rightAscends short

/-- Neighbouring ascending lists become ascending lists. -/
theorem mergePairs_yields
    {runs : List (List Term)}
    (allAmong : ∀ run ∈ runs, ∀ element ∈ run, among element)
    (ascend : ∀ run ∈ runs, Ascends rank run) :
    Yields (mergePairs runs) fun fewer =>
      (∀ run ∈ fewer, Ascends rank run) ∧ 2 * fewer.length ≤ runs.length + 1 ∧
        Level rank runs.flatten fewer.flatten := by
  induction runs using mergePairs.induct with
  | case1 first second rest inductionHypothesis =>
      simp only [List.forall_mem_cons] at allAmong ascend
      obtain ⟨firstAmong, secondAmong, restAmong⟩ := allAmong
      obtain ⟨firstAscends, secondAscends, restAscend⟩ := ascend
      refine (merge_yields compares firstAmong secondAmong firstAscends secondAscends).bind
        fun merged arranges => (inductionHypothesis restAmong restAscend).bind ?_
      rintro fewer ⟨fewerAscend, length, level⟩
      refine .pure ⟨List.forall_mem_cons.mpr ⟨arranges.ascends, fewerAscend⟩, ?_, ?_⟩
      · simp only [List.length_cons]
        omega
      · rw [List.flatten_cons, List.flatten_cons, List.flatten_cons, ← List.append_assoc]
        exact arranges.level.append level
  | case2 runs short =>
      rw [mergePairs]
      · refine .pure ⟨ascend, ?_, fun _ => rfl⟩
        rcases runs with _ | ⟨run, _ | ⟨second, rest⟩⟩
        · exact Nat.zero_le 1
        · exact Nat.le_refl 2
        · exact absurd rfl (short run second rest)
      · exact short

/-- Ascending lists become one, if there are enough rounds. -/
theorem mergeAll_yields
    {rounds : Nat}
    {runs : List (List Term)}
    (allAmong : ∀ run ∈ runs, ∀ element ∈ run, among element)
    (ascend : ∀ run ∈ runs, Ascends rank run)
    (enough : runs.length ≤ rounds + 1) :
    Yields (mergeAll rounds runs) (Arranges rank runs.flatten) := by
  induction rounds generalizing runs with
  | zero =>
      refine .pure ⟨?_, fun _ => rfl⟩
      match runs with
      | [] => exact .nil
      | [run] => simpa using ascend
      | _ :: _ :: _ => simp at enough
  | succ rounds inductionHypothesis =>
      match runs with
      | [] => exact .pure (.of_ascends .nil)
      | [run] =>
          rw [List.flatten_singleton]
          exact .pure (.of_ascends (ascend run (List.mem_singleton_self run)))
      | first :: second :: rest =>
          refine (mergePairs_yields compares allAmong ascend).bind ?_
          rintro fewer ⟨fewerAscend, length, level⟩
          have fewerAmong : ∀ run ∈ fewer, ∀ element ∈ run, among element := by
            intro run held element member
            have old := level.mem_iff.mp (List.mem_flatten_of_mem held member)
            obtain ⟨source, listed, inside⟩ := List.mem_flatten.mp old
            exact allAmong source listed element inside
          simp only [List.length_cons] at enough length
          refine (inductionHypothesis fewerAmong fewerAscend (by omega)).imp ?_
          exact fun joined arranges => ⟨arranges.ascends, level.trans arranges.level⟩

/-! ## Insertion -/

/-- An element that is inserted comes behind its equals. -/
theorem insertBackwards_yields
    {element : Term}
    {sorted : List Term}
    (elementAmong : among element)
    (sortedAmong : ∀ other ∈ sorted, among other)
    (ascends : Ascends rank sorted.reverse) :
    Yields (insertBackwards element sorted) fun longer =>
      Arranges rank (sorted.reverse ++ [element]) longer.reverse := by
  induction sorted with
  | nil => exact .pure (.of_ascends (List.pairwise_singleton _ _))
  | cons last rest inductionHypothesis =>
      obtain ⟨lastAmong, restAmong⟩ := List.forall_mem_cons.mp sortedAmong
      rw [List.reverse_cons] at ascends ⊢
      have before : ∀ other ∈ rest.reverse, rank other ≤ rank last := fun other member =>
        (List.pairwise_append.mp ascends).2.2 other member last (List.mem_singleton_self last)
      have restAscends : Ascends rank rest.reverse := (List.pairwise_append.mp ascends).1
      rw [insertBackwards, precedes_eq compares elementAmong lastAmong, pure_bind]
      by_cases below : rank element < rank last
      · rw [if_pos (decide_eq_true below)]
        refine (inductionHypothesis restAmong restAscends).bind fun longer arranges => .pure ?_
        have lastArranges : Arranges rank ([last] ++ []) [last] :=
          .of_ascends (List.pairwise_singleton _ _)
        have joined := arranges.join lastArranges (by simpa using before) (by simp) (by simp)
          (by simpa using below)
        simpa using joined
      · rw [if_neg (by simpa using below)]
        refine .pure ?_
        rw [List.reverse_cons, List.reverse_cons]
        refine .of_ascends (List.pairwise_append.mpr ⟨ascends, List.pairwise_singleton _ _, ?_⟩)
        intro other member behind single
        obtain rfl := List.mem_singleton.mp single
        rcases List.mem_append.mp member with earlier | same
        · exact (before other earlier).trans (not_lt.mp below)
        · rw [List.mem_singleton.mp same]
          exact not_lt.mp below

theorem insertionSort_yields
    {sorted elements : List Term}
    (sortedAmong : ∀ element ∈ sorted, among element)
    (elementsAmong : ∀ element ∈ elements, among element)
    (ascends : Ascends rank sorted.reverse) :
    Yields (insertionSort sorted elements) fun longer =>
      Arranges rank (sorted.reverse ++ elements) longer.reverse := by
  induction elements generalizing sorted with
  | nil =>
      rw [List.append_nil]
      exact .pure (.of_ascends ascends)
  | cons element rest inductionHypothesis =>
      obtain ⟨elementAmong, restAmong⟩ := List.forall_mem_cons.mp elementsAmong
      refine (insertBackwards_yields compares elementAmong sortedAmong ascends).bind
        fun longer arranges => ?_
      have longerAmong : ∀ other ∈ longer, among other := by
        intro other member
        have old := arranges.level.mem_iff.mp (List.mem_reverse.mpr member)
        rcases List.mem_append.mp old with earlier | new
        · exact sortedAmong other (List.mem_reverse.mp earlier)
        · rwa [List.mem_singleton.mp new]
      refine (inductionHypothesis longerAmong restAmong arranges.ascends).imp ?_
      intro longest final
      refine ⟨final.ascends, Level.trans ?_ final.level⟩
      rw [List.append_cons]
      exact arranges.level.append fun _ => rfl

/-- Every block is put in order. -/
theorem sortBlocks_yields
    {lists : List (List Term)}
    (allAmong : ∀ block ∈ lists, ∀ element ∈ block, among element) :
    Yields (sortBlocks lists) fun runs =>
      (∀ run ∈ runs, Ascends rank run) ∧ runs.length = lists.length ∧
        Level rank lists.flatten runs.flatten := by
  induction lists with
  | nil => exact .pure ⟨by simp, rfl, fun _ => rfl⟩
  | cons block rest inductionHypothesis =>
      obtain ⟨blockAmong, restAmong⟩ := List.forall_mem_cons.mp allAmong
      refine (insertionSort_yields compares (by simp) blockAmong .nil).bind
        fun backwards arranges => (inductionHypothesis restAmong).bind ?_
      rintro runs ⟨ascend, length, level⟩
      refine .pure ⟨List.forall_mem_cons.mpr ⟨arranges.ascends, ascend⟩, ?_, ?_⟩
      · rw [List.length_cons, List.length_cons, length]
      · exact arranges.level.append level

/-! ## The whole sort -/

/-- Where all elements have ranks, sorting puts them in order and keeps the order of those
of one rank. -/
theorem sortTerms_arranges
    {elements : List Term}
    (allAmong : ∀ element ∈ elements, among element) :
    ∃ sorted, sortTerms elements = .ok sorted ∧ Arranges rank elements sorted := by
  have blocksAmong : ∀ block ∈ blocks elements.length elements, ∀ element ∈ block,
      among element := by
    intro block listed element member
    refine allAmong element ?_
    rw [← flatten_blocks (Nat.le_refl elements.length)]
    exact List.mem_flatten_of_mem listed member
  have sorts : Yields (sorting elements) (Arranges rank elements) := by
    refine (sortBlocks_yields compares blocksAmong).bind ?_
    rintro runs ⟨ascend, length, level⟩
    rw [flatten_blocks (Nat.le_refl _)] at level
    have runsAmong : ∀ run ∈ runs, ∀ element ∈ run, among element := fun run held element member =>
      allAmong element (level.mem_iff.mp (List.mem_flatten_of_mem held member))
    have enough := length_blocks_le elements.length elements
    refine (mergeAll_yields compares runsAmong ascend (by omega)).imp fun joined arranges => ?_
    exact ⟨arranges.ascends, level.trans arranges.level⟩
  obtain ⟨sorted, run, arranges⟩ := sorts
  refine ⟨sorted, ?_, arranges⟩
  rw [sortTerms_eq, run]
  rfl

end Builtin
end PatternMachine
