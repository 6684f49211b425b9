import Mathlib.Data.List.Pairwise
import PatternMachine.Builtin.List

/-!
# Sorting rearranges and compares

Whatever the comparisons answer, a sorted list has the elements of the list it was made
from, each as often as before. A sort that comes to its end without a failed comparison
has connected all elements by comparisons, so that any two of them can be compared.
-/

namespace PatternMachine
namespace Builtin

/-! ## Sorting without a failure -/

/-- No comparison has failed at the end only if none had failed before, and then the
result is as described. -/
def Sorting.Ensures {α : Type} (sorting : Sorting α) (result : α -> Prop) : Prop :=
  ∀ failure, (sorting failure).2 = none -> failure = none ∧ result (sorting failure).1

namespace Sorting.Ensures

variable {α β : Type} {sorting : Sorting α} {result : α -> Prop}

theorem pure {value : α} (holds : result value) : Ensures (Pure.pure value) result :=
  fun _ unfailing => ⟨unfailing, holds⟩

theorem imp
    {weaker : α -> Prop}
    (ensures : Ensures sorting result)
    (implies : ∀ value, result value -> weaker value) :
    Ensures sorting weaker :=
  fun failure unfailing => (ensures failure unfailing).imp_right (implies _)

theorem bind
    {next : α -> Sorting β}
    {last : β -> Prop}
    (first : Ensures sorting result)
    (second : ∀ value, Ensures (next value) fun final => result value -> last final) :
    Ensures (sorting >>= next) last := by
  intro failure unfailing
  obtain ⟨between, described⟩ := second (sorting failure).1 (sorting failure).2 unfailing
  obtain ⟨before, reached⟩ := first failure between
  exact ⟨before, described reached⟩

theorem map
    {change : α -> β}
    {described : Prop}
    (ensures : Ensures sorting fun _ => described) :
    Ensures (change <$> sorting) fun _ => described :=
  ensures.bind fun _ => pure id

end Sorting.Ensures

/-! ## Terms that can be compared -/

/-- Two terms can be compared. -/
def Comparable (left right : Term) : Prop :=
  ∃ order, compareValues left right = .ok order

theorem exists_eq_text {term : Term} (text : term.kind = .text) :
    ∃ value, term = .text value := by
  cases term <;> simp [Term.kind] at text ⊢ <;> grind

theorem compareValues_of_not_text
    {left : Term}
    (other : left.kind ≠ .text)
    (right : Term) :
    compareValues left right =
      match left.number?, right.number? with
      | some leftNumber, some rightNumber => .ok (leftNumber.order rightNumber)
      | _, _ => .error ("cannot compare " ++ left.typeName ++ " with " ++ right.typeName) := by
  cases left <;> first | rfl | exact absurd rfl other

/-- Two texts can be compared, and two numbers; nothing else. -/
theorem comparable_iff {left right : Term} :
    Comparable left right ↔
      (left.kind = .text ∧ right.kind = .text) ∨
        (left.number?.isSome ∧ right.number?.isSome) := by
  unfold Comparable
  by_cases text : left.kind = .text
  · obtain ⟨value, rfl⟩ := exists_eq_text text
    cases right <;> simp [compareValues, Term.number?, Term.kind] <;> grind
  · rw [compareValues_of_not_text text]
    cases left.number? <;> cases right.number? <;> simp [text]

theorem Comparable.symm {left right : Term} (comparable : Comparable left right) :
    Comparable right left := by
  rw [comparable_iff] at comparable ⊢
  exact comparable.imp And.symm And.symm

instance : Std.Symm Comparable := ⟨fun _ _ => Comparable.symm⟩

theorem Comparable.trans
    {left middle right : Term}
    (first : Comparable left middle)
    (second : Comparable middle right) :
    Comparable left right := by
  rw [comparable_iff] at *
  rcases first with ⟨isText, middleText⟩ | ⟨isNumber, middleNumber⟩
  · rcases second with ⟨_, rightText⟩ | ⟨middleNumber, _⟩
    · exact .inl ⟨isText, rightText⟩
    · cases middle <;> simp [Term.kind, Term.number?] at middleText middleNumber
  · rcases second with ⟨middleText, _⟩ | ⟨_, rightNumber⟩
    · cases middle <;> simp [Term.kind, Term.number?] at middleText middleNumber
    · exact .inr ⟨isNumber, rightNumber⟩

/-- Any two elements of a list at different places can be compared. -/
abbrev Coherent (elements : List Term) : Prop :=
  elements.Pairwise Comparable

theorem Coherent.perm
    {elements others : List Term}
    (coherent : Coherent elements)
    (rearranged : others.Perm elements) :
    Coherent others :=
  (rearranged.pairwise_iff Comparable.symm).mpr coherent

/-- An element of a coherent list can be compared with all that one of its elements can be
compared with. -/
theorem Coherent.comparable_of_mem
    {elements : List Term}
    {element other term : Term}
    (coherent : Coherent elements)
    (member : element ∈ elements)
    (otherMember : other ∈ elements)
    (comparable : Comparable other term) :
    Comparable element term := by
  by_cases same : element = other
  · rw [same]
    exact comparable
  · exact (coherent.forall member otherMember same).trans comparable

/-- A comparison connects two lists: if both have elements, then an element of one can be
compared with an element of the other. -/
def Connected (left right : List Term) : Prop :=
  left ≠ [] -> right ≠ [] -> ∃ first ∈ left, ∃ second ∈ right, Comparable first second

/-- Two coherent lists that are connected are coherent together. -/
theorem Coherent.append
    {left right : List Term}
    (leftCoherent : Coherent left)
    (rightCoherent : Coherent right)
    (connected : Connected left right) :
    Coherent (left ++ right) := by
  refine List.pairwise_append.mpr ⟨leftCoherent, rightCoherent, fun a inLeft b inRight => ?_⟩
  obtain ⟨first, firstMember, second, secondMember, comparable⟩ :=
    connected (List.ne_nil_of_mem inLeft) (List.ne_nil_of_mem inRight)
  have reached : Comparable a second :=
    leftCoherent.comparable_of_mem inLeft firstMember comparable
  exact (rightCoherent.comparable_of_mem inRight secondMember reached.symm).symm

/-! ## Each step rearranges and connects -/

open Sorting (Ensures)

theorem precedes_ensures (left right : Term) :
    Ensures (precedes left right) fun _ => Comparable left right := by
  intro failure unfailing
  unfold precedes at unfailing ⊢
  cases compared : compareValues left right with
  | ok order =>
      rw [compared] at unfailing
      exact ⟨unfailing, order, compared⟩
  | error message =>
      rw [compared] at unfailing
      cases failure <;> cases unfailing

/-- A search that looks at a place at all asks a question about a place in its range. -/
theorem bisect_ensures
    {question : Nat -> Sorting Bool}
    {asked : Nat -> Prop}
    (asks : ∀ place, Ensures (question place) fun _ => asked place)
    (low high : Nat) :
    Ensures (bisect question low high) fun _ =>
      low < high -> ∃ place, low ≤ place ∧ place < high ∧ asked place := by
  induction low, high using bisect.induct with
  | case1 low high room middle right left =>
      rw [bisect, if_pos room]
      refine (asks _).bind fun answer => ?_
      have found : asked middle -> ∃ place, low ≤ place ∧ place < high ∧ asked place :=
        fun holds => ⟨middle, by omega, by omega, holds⟩
      cases answer with
      | true => exact right.imp fun _ _ holds _ => found holds
      | false => exact left.imp fun _ _ holds _ => found holds
  | case2 low high closed =>
      rw [bisect, if_neg closed]
      exact .pure fun room => absurd room closed

/-- A merge rearranges its two lists and connects them. -/
def Merges (left right merged : List Term) : Prop :=
  merged.Perm (left ++ right) ∧ Connected left right

/-- A question about two elements at places inside of two lists connects the lists. -/
theorem precedesAt_ensures (left right : List Term) (leftPlace rightPlace : Nat) :
    Ensures (precedesAt left.toArray right.toArray leftPlace rightPlace) fun _ =>
      leftPlace < left.length -> rightPlace < right.length -> Connected right left := by
  refine (precedes_ensures _ _).imp fun _ comparable inLeft inRight _ _ => ?_
  simp only [List.getElem?_toArray, List.getElem?_eq_getElem inLeft,
    List.getElem?_eq_getElem inRight, Option.getD_some] at comparable
  exact ⟨_, List.getElem_mem inRight, _, List.getElem_mem inLeft, comparable.symm⟩

/-- An element put between the two parts of a list. -/
theorem take_cons_drop_perm (element : Term) (list : List Term) (place : Nat) :
    (list.take place ++ element :: list.drop place).Perm (element :: list) := by
  refine List.perm_middle.trans (.of_eq ?_)
  rw [List.take_append_drop]

theorem mergeShort_ensures
    {left right : List Term}
    (short : ¬ (1 < left.length ∧ 1 < right.length)) :
    Ensures (mergeShort left right) (Merges left right) := by
  match left, right with
  | [], right => exact .pure ⟨.refl _, fun nonempty => absurd rfl nonempty⟩
  | first :: left, [] =>
      exact .pure ⟨.of_eq (List.append_nil _).symm, fun _ nonempty => absurd rfl nonempty⟩
  | [element], second :: right =>
      rw [mergeShort]
      · refine (bisect_ensures (fun place => precedesAt_ensures (second :: right) [element] place 0)
          0 (second :: right).toArray.size).bind fun place => .pure fun asked => ?_
        obtain ⟨place, _, inside, connected⟩ := asked (by simp)
        exact ⟨take_cons_drop_perm .., connected (by simpa using inside) (by simp)⟩
      · simp
  | first :: other :: left, element :: right =>
      have single : right = [] := by
        simp only [List.length_cons] at short
        exact List.eq_nil_of_length_eq_zero (by omega)
      subst single
      rw [mergeShort]
      · refine (bisect_ensures (fun place => (precedesAt_ensures [element] (first :: other :: left)
          0 place).map) 0 (first :: other :: left).toArray.size).bind
          fun place => .pure fun asked => ?_
        obtain ⟨place, _, inside, connected⟩ := asked (by simp)
        exact ⟨(take_cons_drop_perm ..).trans (List.perm_append_singleton ..).symm,
          connected (by simp) (by simpa using inside)⟩
      all_goals simp

/-- The elements of two lists that were cut in two come together again. -/
theorem cut_append_perm (left right : List Term) (place other : Nat) :
    ((left.take place ++ right.take other) ++ (left.drop place ++ right.drop other)).Perm
      (left ++ right) := by
  calc (left.take place ++ right.take other) ++ (left.drop place ++ right.drop other)
    _ |>.Perm ((left.take place ++ left.drop place) ++ (right.take other ++ right.drop other)) := by
        simp only [List.append_assoc]
        exact (List.perm_append_comm_assoc ..).append_left _
    _ = left ++ right := by rw [List.take_append_drop, List.take_append_drop]

theorem merge_ensures (left right : List Term) :
    Ensures (merge left right) (Merges left right) := by
  induction left, right using merge.induct with
  | case1 left right long half first second =>
      rw [merge, if_pos long]
      refine (bisect_ensures (fun place =>
        (precedesAt_ensures right left (half - 1 - place) place).map) _ _).bind
        fun place => (first place).bind fun start => (second place).bind fun rest => .pure ?_
      rintro ⟨secondPerm, _⟩ ⟨firstPerm, _⟩ asked
      -- Both lists have two elements at least, so the search has a place to ask about.
      obtain ⟨asked, _, inside, connected⟩ := asked (by omega)
      exact ⟨(firstPerm.append secondPerm).trans (cut_append_perm ..),
        connected (by omega) (by omega)⟩
  | case2 left right short =>
      rw [merge, if_neg short]
      exact mergeShort_ensures short

theorem Merges.coherent
    {left right merged : List Term}
    (merges : Merges left right merged)
    (leftCoherent : Coherent left)
    (rightCoherent : Coherent right) :
    Coherent merged :=
  (leftCoherent.append rightCoherent merges.2).perm merges.1

/-- Neighbouring runs have become one: the elements are rearranged, half of the runs are
left, and coherent runs give coherent ones. -/
structure Halves (runs fewer : List (List Term)) : Prop where
  perm : fewer.flatten.Perm runs.flatten
  length : 2 * fewer.length ≤ runs.length + 1
  coherent : (∀ run ∈ runs, Coherent run) -> ∀ run ∈ fewer, Coherent run

theorem mergePairs_ensures (runs : List (List Term)) :
    Ensures (mergePairs runs) (Halves runs) := by
  induction runs using mergePairs.induct with
  | case1 first second rest inductionHypothesis =>
      refine (merge_ensures first second).bind fun merged =>
        inductionHypothesis.bind fun others => .pure fun halves merges => ?_
      refine ⟨?_, ?_, ?_⟩
      · rw [List.flatten_cons, List.flatten_cons, List.flatten_cons, ← List.append_assoc]
        exact merges.1.append halves.perm
      · have := halves.length
        simp only [List.length_cons]
        omega
      · simp only [List.forall_mem_cons]
        rintro ⟨firstCoherent, secondCoherent, restCoherent⟩
        exact ⟨merges.coherent firstCoherent secondCoherent, halves.coherent restCoherent⟩
  | case2 runs short =>
      rw [mergePairs]
      · refine .pure ⟨.refl _, ?_, id⟩
        match runs with
        | [] => exact Nat.zero_le 1
        | [run] => exact Nat.le_refl 2
        | first :: second :: rest => exact absurd rfl (short first second rest)
      · exact short

/-- The runs have become one list, which is coherent if the runs were and there were enough
rounds. -/
structure Joins (rounds : Nat) (runs : List (List Term)) (joined : List Term) : Prop where
  perm : joined.Perm runs.flatten
  coherent : runs.length ≤ rounds + 1 -> (∀ run ∈ runs, Coherent run) -> Coherent joined

theorem Joins.of_single (rounds : Nat) (run : List Term) : Joins rounds [run] run where
  perm := .of_eq (List.append_nil run).symm
  coherent := fun _ coherent => coherent run (List.mem_singleton_self run)

theorem mergeAll_ensures (rounds : Nat) (runs : List (List Term)) :
    Ensures (mergeAll rounds runs) (Joins rounds runs) := by
  induction rounds generalizing runs with
  | zero =>
      refine .pure ⟨.refl _, fun enough coherent => ?_⟩
      match runs with
      | [] => exact .nil
      | [run] =>
          rw [List.flatten_singleton]
          exact coherent run (List.mem_singleton_self run)
      | _ :: _ :: _ => simp at enough
  | succ rounds inductionHypothesis =>
      match runs with
      | [] => exact .pure ⟨.refl _, fun _ _ => .nil⟩
      | [run] => exact .pure (.of_single _ run)
      | first :: second :: rest =>
          refine (mergePairs_ensures _).bind fun fewer =>
            (inductionHypothesis fewer).imp fun joined joins halves => ?_
          refine ⟨joins.perm.trans halves.perm, fun enough coherent => ?_⟩
          have := halves.length
          simp only [List.length_cons] at enough this
          exact joins.coherent (by omega) (halves.coherent coherent)

theorem insertBackwards_ensures (element : Term) (sorted : List Term) :
    Ensures (insertBackwards element sorted) (Merges [element] sorted) := by
  induction sorted with
  | nil => exact .pure ⟨.refl _, fun _ nonempty => absurd rfl nonempty⟩
  | cons last rest inductionHypothesis =>
      have connected (comparable : Comparable element last) : Connected [element] (last :: rest) :=
        fun _ _ => ⟨element, List.mem_singleton_self _, last, List.mem_cons_self, comparable⟩
      refine (precedes_ensures element last).bind fun before => ?_
      cases before with
      | true =>
          refine inductionHypothesis.bind fun longer => .pure fun merges comparable => ?_
          exact ⟨(merges.1.cons last).trans (.swap element last rest), connected comparable⟩
      | false => exact .pure fun comparable => ⟨.refl _, connected comparable⟩

theorem insertionSort_ensures (sorted elements : List Term) :
    Ensures (insertionSort sorted elements) fun longer =>
      longer.Perm (sorted ++ elements) ∧ (Coherent sorted -> Coherent longer) := by
  induction elements generalizing sorted with
  | nil => exact .pure ⟨.of_eq (List.append_nil sorted).symm, id⟩
  | cons element rest inductionHypothesis =>
      refine (insertBackwards_ensures element sorted).bind fun longer =>
        (inductionHypothesis longer).imp fun longest ⟨perm, coherent⟩ merges => ?_
      refine ⟨?_, fun sortedCoherent =>
        coherent (merges.coherent (List.pairwise_singleton _ _) sortedCoherent)⟩
      calc longest
        _ |>.Perm (longer ++ rest) := perm
        _ |>.Perm ((element :: sorted) ++ rest) := merges.1.append_right rest
        _ |>.Perm (sorted ++ element :: rest) := List.perm_middle.symm

/-- Sorted blocks are coherent, and together they are a rearrangement of the blocks. -/
theorem sortBlocks_ensures (lists : List (List Term)) :
    Ensures (sortBlocks lists) fun runs =>
      runs.flatten.Perm lists.flatten ∧ runs.length = lists.length ∧
        ∀ run ∈ runs, Coherent run := by
  induction lists with
  | nil => exact .pure ⟨.refl _, rfl, by simp⟩
  | cons block rest inductionHypothesis =>
      refine (insertionSort_ensures [] block).bind fun backwards =>
        inductionHypothesis.bind fun others => .pure ?_
      rintro ⟨othersPerm, length, othersCoherent⟩ ⟨perm, coherent⟩
      have forwards := List.reverse_perm backwards
      refine ⟨?_, ?_, List.forall_mem_cons.mpr ⟨(coherent .nil).perm forwards, othersCoherent⟩⟩
      · exact (forwards.trans perm).append othersPerm
      · rw [List.length_cons, List.length_cons, length]

/-! ## The whole sort -/

/-- As many blocks as there are elements hold the whole list. -/
theorem flatten_blocks
    {count : Nat}
    {elements : List Term}
    (enough : elements.length ≤ count) :
    (blocks count elements).flatten = elements := by
  induction count generalizing elements with
  | zero => simp_all [blocks]
  | succ count inductionHypothesis =>
      cases elements with
      | nil => simp [blocks]
      | cons element rest =>
          have shorter : ((element :: rest).drop blockLength).length ≤ count := by
            simp only [List.length_drop, List.length_cons, blockLength] at enough ⊢
            omega
          rw [blocks, if_neg (by simp), List.flatten_cons, inductionHypothesis shorter,
            List.take_append_drop]

theorem length_blocks_le (count : Nat) (elements : List Term) :
    (blocks count elements).length ≤ count := by
  induction count generalizing elements with
  | zero => simp [blocks]
  | succ count inductionHypothesis =>
      unfold blocks
      split
      · simp
      · simpa using inductionHypothesis _

/-- The sort as one run: the blocks are sorted and merged. -/
def sorting (elements : List Term) : Sorting (List Term) :=
  sortBlocks (blocks elements.length elements) >>= mergeAll elements.length

theorem sortTerms_eq (elements : List Term) :
    sortTerms elements =
      match sorting elements none with
      | (sorted, none) => .ok sorted
      | (_, some message) => .error message := rfl

theorem sorting_ensures (elements : List Term) :
    Ensures (sorting elements) fun sorted => sorted.Perm elements ∧ Coherent elements := by
  refine (sortBlocks_ensures _).bind fun runs => (mergeAll_ensures _ runs).imp ?_
  rintro sorted ⟨joined, coherent⟩ ⟨perm, length, runsCoherent⟩
  rw [flatten_blocks (Nat.le_refl _)] at perm
  have rearranged := joined.trans perm
  have enough : runs.length ≤ elements.length + 1 := by
    have := length_blocks_le elements.length elements
    omega
  exact ⟨rearranged, (coherent enough runsCoherent).perm rearranged.symm⟩

/-- A sort that succeeds has rearranged the elements, and any two of them can be compared. -/
theorem sortTerms_spec
    {elements sorted : List Term}
    (done : sortTerms elements = .ok sorted) :
    sorted.Perm elements ∧ Coherent elements := by
  have ensures := sorting_ensures elements none
  rw [sortTerms_eq] at done
  generalize sorting elements none = outcome at ensures done
  obtain ⟨result, failure⟩ := outcome
  cases failure with
  | some message => cases done
  | none =>
      obtain rfl := Except.ok.inj done
      exact (ensures rfl).2

/-- A sorted list is a rearrangement of the list it was made from. -/
theorem sortTerms_perm
    {elements sorted : List Term}
    (done : sortTerms elements = .ok sorted) :
    sorted.Perm elements :=
  (sortTerms_spec done).1

end Builtin
end PatternMachine
