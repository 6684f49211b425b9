import Mathlib.Data.List.Induction
import PatternMachine.Interpreter
import PatternMachine.Proofs.Scope
import PatternMachine.Proofs.Text.ByteOrder

/-!
# Suggestions for names that are not bound

The name suggested for a misspelt one is the nearest of those that are visible, and of
several nearest ones the first in the order of their bytes. Which names are visible decides
it, and not in which scope or in which order they were bound. The distance of texts may be
any function.
-/

namespace PatternMachine

namespace Namespace

variable {scope : Namespace} {name : String}

/-- A name is bound when it stands in an entry. -/
theorem contains_iff : scope.contains name = true ↔ name ∈ scope.entries.map Prod.fst := by
  have missing : scope.contains name = false ↔ name ∉ scope.entries.map Prod.fst := by
    unfold contains get?
    rw [Option.isSome_eq_false_iff, Option.isNone_iff_eq_none, List.lookup_eq_none_iff]
    simp only [bne_iff_ne, List.mem_map, not_exists, not_and]
    exact forall_congr' fun entry => forall_congr' fun held => ne_comm
  rw [← not_iff_not, ← missing, Bool.not_eq_true]

theorem mem_names_iff : name ∈ scope.names ↔ scope.contains name = true := by
  rw [names, List.mem_mergeSort, contains_iff]

end Namespace

namespace Machine

variable {machine : Machine} {name : String}

theorem findBelow?_isSome_iff (below : Nat) :
    (machine.findBelow? name below).isSome = true ↔
      ∃ level < below, ∃ scope, machine.scopes[level]? = some scope ∧
        (machine.store.scope scope).contains name = true := by
  induction below with
  | zero => simp [findBelow?]
  | succ below inductionHypothesis =>
      unfold findBelow?
      simp only [Nat.lt_succ_iff_lt_or_eq, or_and_right, exists_or, exists_eq_left,
        ← inductionHypothesis]
      cases machine.scopes[below]? with
      | none => simp
      | some scope =>
          cases bound : (machine.store.scope scope).contains name with
          | true => simp [bound]
          | false => simp [bound]

/-- A name is visible when one of the active scopes binds it. -/
theorem find?_isSome_iff :
    (machine.find? name).isSome = true ↔
      ∃ scope ∈ machine.scopes.toList, (machine.store.scope scope).contains name = true := by
  unfold find?
  rw [findBelow?_isSome_iff]
  constructor
  · rintro ⟨level, _, scope, active, bound⟩
    exact ⟨scope, Array.mem_toList_iff.mpr (Array.mem_of_getElem? active), bound⟩
  · rintro ⟨scope, active, bound⟩
    obtain ⟨level, inside, rfl⟩ := Array.mem_iff_getElem.mp (Array.mem_toList_iff.mp active)
    exact ⟨level, inside, _, Array.getElem?_eq_getElem inside, bound⟩

theorem mem_names_iff : name ∈ machine.names ↔ (machine.find? name).isSome = true := by
  rw [find?_isSome_iff]
  simp only [names, List.mem_mergeSort, List.mem_eraseDups, List.mem_flatMap,
    Namespace.mem_names_iff]

theorem pairwise_names (machine : Machine) : machine.names.Pairwise (· ≤ ·) := by
  have sorted : machine.names.Pairwise fun left right => decide (left ≤ right) = true :=
    List.pairwise_mergeSort (by simpa using fun _ _ _ => String.le_trans)
      (by simpa using String.le_total) _
  simpa using sorted

/-! ## The nearest name -/

/-- A visible name that may be suggested: it does not start with two underscores. -/
def IsSuggestible (machine : Machine) (candidate : String) : Prop :=
  (machine.find? candidate).isSome = true ∧ candidate.startsWith "__" = false

/-- Of the candidates within a distance of two, the nearest one, and the first of these in the
order of their bytes. -/
structure IsNearest
    (distance : List Char -> List Char -> Nat)
    (candidates : String -> Prop)
    (name nearest : String) :
    Prop where
  candidate : candidates nearest
  near : spellingDistance distance name nearest ≤ 2
  least : ∀ other, candidates other ->
    spellingDistance distance name nearest ≤ spellingDistance distance name other
  first : ∀ other, candidates other ->
    spellingDistance distance name other = spellingDistance distance name nearest ->
    Text.bytesOf nearest ≤ Text.bytesOf other

/-- What is known of the candidates that have been looked at: none is near, or the nearest one
is at hand with its distance. -/
def Found
    (distance : List Char -> List Char -> Nat)
    (candidates : String -> Prop)
    (name : String)
    (best : String × Nat) :
    Prop :=
  (best = ("", suggestionDistance + 1) ∧
    ∀ other, candidates other -> 2 < spellingDistance distance name other) ∨
  (IsNearest distance candidates name best.1 ∧ best.2 = spellingDistance distance name best.1)

/-- The names of a list that may be suggested. -/
def offered (names : List String) (candidate : String) : Prop :=
  candidate ∈ names ∧ candidate.startsWith "__" = false

/-- A candidate with two underscores in front is passed over. -/
theorem offered_append_of_hidden
    {names : List String}
    {candidate : String}
    (hidden : candidate.startsWith "__" = true) :
    offered (names ++ [candidate]) = offered names := by
  funext other
  simp only [offered, List.mem_append, List.mem_singleton, or_and_right, eq_iff_iff,
    or_iff_left_iff_imp]
  rintro ⟨rfl, shown⟩
  simp [hidden] at shown

theorem forall_offered_append
    {names : List String}
    {candidate : String}
    {property : String -> Prop}
    (each : ∀ other, offered names other -> property other)
    (last : property candidate) :
    ∀ other, offered (names ++ [candidate]) other -> property other := by
  rintro other ⟨held, shown⟩
  rcases List.mem_append.mp held with inside | same
  · exact each other ⟨inside, shown⟩
  · obtain rfl := List.mem_singleton.mp same
    exact last

variable {distance : List Char -> List Char -> Nat}

/-- One more candidate, which comes behind all others. -/
theorem Found.nearer
    {names : List String}
    {best : String × Nat}
    {candidate : String}
    (found : Found distance (offered names) name best)
    (last : ∀ earlier ∈ names, earlier ≤ candidate) :
    Found distance (offered (names ++ [candidate])) name
      (nearer distance name best candidate) := by
  unfold Machine.nearer
  split
  · rename_i hidden
    rwa [offered_append_of_hidden hidden]
  · rename_i shown
    have offers : offered (names ++ [candidate]) candidate := ⟨by simp, by simpa using shown⟩
    dsimp only
    rcases found with ⟨rfl, far⟩ | ⟨nearest, same⟩
    · split
      · rename_i near
        have close : spellingDistance distance name candidate ≤ 2 := Nat.le_of_lt_succ near
        refine .inr ⟨⟨offers, close, ?_, ?_⟩, rfl⟩
        · exact forall_offered_append (fun other held => close.trans (far other held).le) le_rfl
        · refine forall_offered_append (fun other held equal => ?_) fun _ => List.le_refl _
          exact absurd (equal.trans_le close) (far other held).not_ge
      · rename_i distant
        exact .inl ⟨rfl, forall_offered_append far (Nat.le_of_not_lt distant)⟩
    · split
      · rename_i nearer
        rw [same] at nearer
        refine .inr ⟨⟨offers, nearer.le.trans nearest.near, ?_, ?_⟩, rfl⟩
        · exact forall_offered_append
            (fun other held => nearer.le.trans (nearest.least other held)) le_rfl
        · refine forall_offered_append (fun other held equal => ?_) fun _ => List.le_refl _
          exact absurd (equal.trans_lt nearer) (nearest.least other held).not_gt
      · rename_i behind
        rw [same, Nat.not_lt] at behind
        have before := Text.bytesOf_le_iff.mpr (last best.1 nearest.candidate.1)
        refine .inr ⟨⟨⟨List.mem_append_left _ nearest.candidate.1, nearest.candidate.2⟩,
          nearest.near, ?_, ?_⟩, same⟩
        · exact forall_offered_append nearest.least behind
        · exact forall_offered_append nearest.first fun _ => before

/-- Looking at all names in their order finds the nearest one. -/
theorem found_foldl
    (name : String)
    {names : List String}
    (sorted : names.Pairwise (· ≤ ·)) :
    Found distance (offered names) name
      (names.foldl (nearer distance name) ("", suggestionDistance + 1)) := by
  induction names using List.reverseRecOn with
  | nil => exact .inl ⟨rfl, fun _ held => absurd held.1 (by simp)⟩
  | append_singleton names candidate inductionHypothesis =>
      obtain ⟨sortedNames, _, last⟩ := List.pairwise_append.mp sorted
      rw [List.foldl_append]
      exact (inductionHypothesis sortedNames).nearer fun earlier held =>
        last earlier held candidate List.mem_cons_self

/-- The visible names that may be suggested are those that are looked at. -/
theorem offered_names (machine : Machine) : offered machine.names = machine.IsSuggestible := by
  funext candidate
  simp only [offered, IsSuggestible, mem_names_iff]

/-- Of several names that may be suggested at most one is the nearest and first. -/
theorem IsNearest.unique
    {candidates : String -> Prop}
    {nearest other : String}
    (is : IsNearest distance candidates name nearest)
    (otherIs : IsNearest distance candidates name other) :
    nearest = other := by
  have equal : spellingDistance distance name nearest = spellingDistance distance name other :=
    Nat.le_antisymm (is.least other otherIs.candidate) (otherIs.least nearest is.candidate)
  have earlier := Text.bytesOf_le_iff.mp (is.first other otherIs.candidate equal.symm)
  have later := Text.bytesOf_le_iff.mp (otherIs.first nearest is.candidate equal)
  exact String.le_antisymm earlier later

theorem suggestBy_cases
    (machine : Machine)
    (distance : List Char -> List Char -> Nat)
    (name : String) :
    (machine.suggestBy distance name = "" ∧
      ∀ candidate, machine.IsSuggestible candidate ->
        2 < spellingDistance distance name candidate) ∨
    IsNearest distance machine.IsSuggestible name (machine.suggestBy distance name) := by
  have found : Found distance _ name _ := found_foldl name machine.pairwise_names
  rw [offered_names] at found
  rcases found with ⟨none, far⟩ | ⟨nearest, _⟩
  · exact .inl ⟨congrArg Prod.fst none, far⟩
  · exact .inr nearest

/-- Which names are visible decides what is suggested. -/
theorem suggestBy_congr
    {other : Machine}
    (same : ∀ candidate, (other.find? candidate).isSome = (machine.find? candidate).isSome)
    (distance : List Char -> List Char -> Nat)
    (name : String) :
    other.suggestBy distance name = machine.suggestBy distance name := by
  have alike : other.IsSuggestible = machine.IsSuggestible := by
    funext candidate
    simp only [IsSuggestible, same]
  have otherCases := other.suggestBy_cases distance name
  rw [alike] at otherCases
  rcases machine.suggestBy_cases distance name with ⟨none, far⟩ | nearest <;>
    rcases otherCases with ⟨otherNone, otherFar⟩ | otherNearest
  · rw [none, otherNone]
  · exact absurd otherNearest.near (far _ otherNearest.candidate).not_ge
  · exact absurd nearest.near (otherFar _ nearest.candidate).not_ge
  · exact otherNearest.unique nearest

/-- Suggestions are optimal. As long as the empty name is not bound, nothing is suggested just
when no name that may be suggested is within a distance of two; else the nearest one is, and of
several nearest ones the first in the order of their bytes. On nothing but which names are
visible does it depend. -/
theorem suggestBy_optimal
    (machine : Machine)
    (distance : List Char -> List Char -> Nat)
    (name : String)
    (unnamed : machine.find? "" = none) :
    (machine.suggestBy distance name = "" ↔
      ¬ ∃ candidate, machine.IsSuggestible candidate ∧
        spellingDistance distance name candidate ≤ 2) ∧
    (machine.suggestBy distance name ≠ "" ->
      IsNearest distance machine.IsSuggestible name (machine.suggestBy distance name)) ∧
    ∀ other : Machine,
      (∀ candidate, (other.find? candidate).isSome = (machine.find? candidate).isSome) ->
      other.suggestBy distance name = machine.suggestBy distance name := by
  have visible : ¬ machine.IsSuggestible "" := by simp [IsSuggestible, unnamed]
  refine ⟨⟨fun none => ?_, fun far => ?_⟩, fun some => ?_,
    fun other same => suggestBy_congr same distance name⟩
  · rintro ⟨candidate, offered, near⟩
    rcases machine.suggestBy_cases distance name with ⟨_, far⟩ | nearest
    · exact absurd near (far candidate offered).not_ge
    · exact visible (none ▸ nearest.candidate)
  · rcases machine.suggestBy_cases distance name with ⟨none, _⟩ | nearest
    · exact none
    · exact absurd ⟨_, nearest.candidate, nearest.near⟩ far
  · rcases machine.suggestBy_cases distance name with ⟨none, _⟩ | nearest
    · exact absurd none some
    · exact nearest

/-- A machine with two scopes. The global one binds `motel` and `Total`, the innermost one a
hidden name, `hotels` and `motel` again. -/
def motelMachine : Machine :=
  let global := ((Machine.fresh Store.initial).bindName "motel" .none).bindName "Total" .none
  ((global.pushScope.bindName "__totel" .none).bindName "hotels" .none).bindName "motel" .nil

theorem motelMachine_names {candidate : String} :
    (motelMachine.find? candidate).isSome = true ↔
      candidate ∈ ["Exception", "motel", "Total", "__totel", "hotels", "motel"] := by
  have spelled : (motelMachine.scopes.toList.flatMap fun scope =>
      (motelMachine.store.scope scope).entries.map Prod.fst) =
        ["Exception", "motel", "Total", "__totel", "hotels", "motel"] := rfl
  rw [find?_isSome_iff, ← spelled, List.mem_flatMap]
  simp only [Namespace.contains_iff]

/-- `Total` and `motel` are as near, and a capital letter comes first. -/
theorem isNearest_total :
    IsNearest Text.editDistance motelMachine.IsSuggestible "toteL" "Total" := by
  have each : ∀ {property : String -> Prop}, property "Exception" -> property "motel" ->
      property "Total" -> property "hotels" ->
      ∀ other, motelMachine.IsSuggestible other -> property other := by
    rintro property onException onMotel onTotal onHotels other ⟨visible, shown⟩
    have listed := motelMachine_names.mp visible
    simp only [List.mem_cons, List.not_mem_nil, or_false] at listed
    rcases listed with rfl | rfl | rfl | rfl | rfl | rfl
    · exact onException
    · exact onMotel
    · exact onTotal
    · exact absurd shown (by decide +kernel)
    · exact onHotels
    · exact onMotel
  have candidate : motelMachine.IsSuggestible "Total" :=
    ⟨motelMachine_names.mpr (by simp), by decide +kernel⟩
  refine ⟨candidate, by decide +kernel, each ?_ ?_ ?_ ?_, each ?_ ?_ ?_ ?_⟩
  all_goals decide +kernel

/-- The nearest name is suggested for `toteL`, and no name for `zebra`. -/
theorem suggestBy_optimal_of_tie :
    motelMachine.find? "" = none ∧
      motelMachine.suggest "toteL" = "Total" ∧
      motelMachine.suggest "zebra" = "" := by
  have unnamed : motelMachine.find? "" = none := by decide +kernel
  have optimal := fun name => suggestBy_optimal motelMachine Text.editDistance name unnamed
  refine ⟨unnamed, ?_, (optimal "zebra").1.mpr ?_⟩
  · obtain ⟨nothing, nearest, _⟩ := optimal "toteL"
    have found : motelMachine.suggest "toteL" ≠ "" := fun none =>
      nothing.mp none ⟨_, isNearest_total.candidate, isNearest_total.near⟩
    exact (nearest found).unique isNearest_total
  · rintro ⟨candidate, ⟨visible, _⟩, near⟩
    have distant : ∀ other ∈ ["Exception", "motel", "Total", "__totel", "hotels", "motel"],
        2 < spellingDistance Text.editDistance "zebra" other := by decide +kernel
    exact absurd near (distant candidate (motelMachine_names.mp visible)).not_ge

end Machine
end PatternMachine
