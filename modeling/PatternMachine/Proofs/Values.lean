import Mathlib.Data.Set.Finite.Basic
import PatternMachine.Proofs.Framing
import PatternMachine.Proofs.ProgramRun

/-!
# Values stay values

A program without quotes runs on values alone: what evaluation yields, what
names are bound to, what containers, structs and objects hold and what errors
carry are values at every moment of a run. A value can be evaluated again: that
only adds cells, and yields a copy unless some part of the value contains itself.
-/

namespace PatternMachine

/-- Whether a term is of a kind that values have. -/
def Term.isValue : Term -> Bool
  | .integer _ => true
  | .real _ => true
  | .boolean _ => true
  | .text _ => true
  | .none => true
  | .nil => true
  | .list _ => true
  | .tuple _ => true
  | .pair _ _ => true
  | .sequence _ _ _ => true
  | .closure _ _ => true
  | .struct _ => true
  | .object _ _ => true
  | .method _ _ _ => true
  | .foreign _ _ => true
  | _ => false

/-- Everything that can be met in a term, itself included, is of a kind that values
have, with its cells in the store. -/
def Store.IsValue (store : Store) (term : Term) : Prop :=
  ∀ part, store.Reaches term part -> part.isValue = true ∧ part.isPlaced store = true

/-- Every name is bound to a value, and the terms in hand are values. -/
structure Machine.HoldsValues (machine : Machine) (hand : List Term) : Prop where
  bound : ∀ ref, ∀ entry ∈ (machine.store.scope ref).entries, machine.store.IsValue entry.2
  inHand : ∀ term ∈ hand, machine.store.IsValue term

/-! ## Data is made of values -/

namespace Store.Sound

variable {ledger : Ledger} {store : Store}

/-- Without quoting, data is a value. -/
theorem isValue
    (sound : store.Sound false ledger)
    {term : Term}
    (data : term.IsData false ledger) :
    store.IsValue term := by
  intro part reaches
  have partData := sound.reaches_isData data reaches
  refine ⟨?_, sound.isPlaced_of_isData partData⟩
  cases part <;> first | rfl | simp [Term.IsData] at partData

end Store.Sound

/-- A sound machine without quoting holds values. -/
theorem holdsValues_isSafe : Evaluator.IsSafe false fun _ => Machine.HoldsValues := by
  intro _ ledger machine hand _ sound data
  exact
    { bound := fun ref entry inside =>
        sound.store.isValue (sound.store.scopes ref entry inside)
      inHand := fun term inside => sound.store.isValue (data term inside) }

/-! ## Values in a store that grows -/

namespace Store

variable {before after : Store}

/-- A value stays a value. -/
theorem IsValue.keeps
    (keeps : before.Keeps after)
    {term : Term}
    (value : before.IsValue term) :
    after.IsValue term := by
  intro part reaches
  have reached : before.Reaches term part :=
    reaches.of_alike fun part inside => contents_keeps keeps (value part inside).2
  exact ⟨(value part reached).1, isPlaced_keeps keeps (value part reached).2⟩

/-- What a value holds is a value. -/
theorem IsValue.part
    {store : Store}
    {term part : Term}
    (value : store.IsValue term)
    (held : part ∈ term.contents store) :
    store.IsValue part :=
  fun inner reaches => value inner (reaches.onwards held)

end Store

/-! ## Copies -/

/-- Two values are made alike: they are the same, or lists, tuples, pairs or
sequences of values that are made alike. -/
inductive Store.Copies (store : Store) : Term -> Term -> Prop
  | same (term : Term) : store.Copies term term
  | list {cell copy : CellRef}
      (known : cell.place < store.cells.size)
      (made : copy.place < store.cells.size)
      (size : (store.elements cell).size = (store.elements copy).size)
      (each : ∀ pair ∈ (store.elements cell).toList.zip (store.elements copy).toList,
        store.Copies pair.1 pair.2) :
      store.Copies (.list cell) (.list copy)
  | tuple {cell copy : CellRef}
      (known : cell.place < store.cells.size)
      (made : copy.place < store.cells.size)
      (size : (store.elements cell).size = (store.elements copy).size)
      (each : ∀ pair ∈ (store.elements cell).toList.zip (store.elements copy).toList,
        store.Copies pair.1 pair.2) :
      store.Copies (.tuple cell) (.tuple copy)
  | pair {first second firstCopy secondCopy : Term}
      (onFirst : store.Copies first firstCopy)
      (onSecond : store.Copies second secondCopy) :
      store.Copies (.pair first second) (.pair firstCopy secondCopy)
  | sequence {mark other : Mark} {first second firstCopy secondCopy : Term}
      (onFirst : store.Copies first firstCopy)
      (onSecond : store.Copies second secondCopy) :
      store.Copies (.sequence mark first second) (.sequence other firstCopy secondCopy)

theorem Store.Copies.keeps
    {before after : Store}
    (keeps : before.Keeps after)
    {term copy : Term}
    (copies : before.Copies term copy) :
    after.Copies term copy := by
  induction copies with
  | same term => exact .same term
  | list known made size each inductionHypothesis =>
      refine .list (Nat.lt_of_lt_of_le known keeps.size) (Nat.lt_of_lt_of_le made keeps.size) ?_ ?_
      · rwa [keeps.elements _ known, keeps.elements _ made]
      · rwa [keeps.elements _ known, keeps.elements _ made]
  | tuple known made size each inductionHypothesis =>
      refine .tuple (Nat.lt_of_lt_of_le known keeps.size) (Nat.lt_of_lt_of_le made keeps.size) ?_ ?_
      · rwa [keeps.elements _ known, keeps.elements _ made]
      · rwa [keeps.elements _ known, keeps.elements _ made]
  | pair _ _ onFirst onSecond => exact .pair onFirst onSecond
  | sequence _ _ onFirst onSecond => exact .sequence onFirst onSecond

/-- Lists of values that are made alike, place by place. -/
def Store.CopiesAll (store : Store) : List Term -> List Term -> Prop
  | [], [] => True
  | term :: terms, copy :: copies => store.Copies term copy ∧ store.CopiesAll terms copies
  | _, _ => False

namespace Store.CopiesAll

variable {store : Store} {terms copies : List Term}

theorem length (copied : store.CopiesAll terms copies) : terms.length = copies.length := by
  induction terms generalizing copies with
  | nil =>
      cases copies with
      | nil => rfl
      | cons copy rest => exact copied.elim
  | cons term others inductionHypothesis =>
      cases copies with
      | nil => exact copied.elim
      | cons copy rest => simpa using inductionHypothesis copied.2

theorem each
    (copied : store.CopiesAll terms copies) :
    ∀ pair ∈ terms.zip copies, store.Copies pair.1 pair.2 := by
  induction terms generalizing copies with
  | nil => simp
  | cons term others inductionHypothesis =>
      cases copies with
      | nil => exact copied.elim
      | cons copy rest =>
          rw [List.zip_cons_cons]
          exact List.forall_mem_cons.mpr ⟨copied.1, inductionHypothesis copied.2⟩

theorem both
    {first second : Term}
    (copied : store.CopiesAll [first, second] copies) :
    ∃ firstCopy secondCopy, copies = [firstCopy, secondCopy] ∧
      store.Copies first firstCopy ∧ store.Copies second secondCopy := by
  match copies with
  | [] => exact copied.elim
  | [_] => exact copied.2.elim
  | [firstCopy, secondCopy] => exact ⟨firstCopy, secondCopy, rfl, copied.1, copied.2.1⟩
  | _ :: _ :: _ :: _ => exact copied.2.2.elim

end Store.CopiesAll

/-! ## Evaluating values again -/

/-- The terms that are evaluated again when a value is. -/
def Term.evaluated (store : Store) : Term -> List Term
  | .list cell => (store.elements cell).toList
  | .tuple cell => (store.elements cell).toList
  | .pair first second => [first, second]
  | .sequence _ first second => [first, second]
  | _ => []

/-- Lists, tuples, pairs and sequences are nested less deep than a given depth. -/
def Store.NestsWithin (store : Store) : Nat -> Term -> Prop
  | 0, _ => False
  | depth + 1, term => ∀ part ∈ term.evaluated store, store.NestsWithin depth part

/-- The terms that are evaluated again when a value is, those inside them, and so on. -/
abbrev Store.Evaluates (store : Store) : Term -> Term -> Prop :=
  Term.Reaches (Term.evaluated store)

/-- No list, tuple, pair or sequence that is evaluated again with a value contains
itself. -/
def Store.IsAcyclic (store : Store) (value : Term) : Prop :=
  ∀ term, store.Evaluates value term -> ∀ part ∈ term.evaluated store, ¬ store.Evaluates part term

namespace Store

variable {store : Store} {before after : Store}

theorem evaluated_subset
    {term part : Term}
    (inside : part ∈ term.evaluated store) :
    part ∈ term.contents store := by
  cases term <;> first | exact inside | simp [Term.evaluated] at inside

theorem evaluated_keeps
    (keeps : before.Keeps after)
    {term : Term}
    (placed : term.isPlaced before = true) :
    term.evaluated after = term.evaluated before := by
  cases term with
  | list cell => simp [Term.evaluated, keeps.elements cell (of_decide_eq_true placed)]
  | tuple cell => simp [Term.evaluated, keeps.elements cell (of_decide_eq_true placed)]
  | _ => rfl

theorem nestsWithin_keeps
    (keeps : before.Keeps after)
    {depth : Nat}
    {term : Term}
    (value : before.IsValue term) :
    after.NestsWithin depth term ↔ before.NestsWithin depth term := by
  induction depth generalizing term with
  | zero => exact Iff.rfl
  | succ depth inductionHypothesis =>
      unfold NestsWithin
      rw [evaluated_keeps keeps (value term .here).2]
      refine forall_congr' fun part => ?_
      exact forall_congr' fun inside => inductionHypothesis (value.part (evaluated_subset inside))

end Store

/-! ### Values that do not contain themselves -/

/-- A term, and the terms that are written in it as the parts of pairs and sequences. -/
def Term.written : Term -> List Term
  | .pair first second => .pair first second :: (first.written ++ second.written)
  | .sequence mark first second =>
      .sequence mark first second :: (first.written ++ second.written)
  | term => [term]

namespace Term

theorem mem_written_self (term : Term) : term ∈ term.written := by
  cases term <;> exact List.mem_cons_self

theorem written_subset
    {root term : Term}
    (inside : term ∈ root.written) :
    term.written ⊆ root.written := by
  induction root with
  | pair first second onFirst onSecond | sequence mark first second onFirst onSecond =>
      rcases List.mem_cons.mp inside with rfl | within
      · exact List.Subset.refl _
      · rcases List.mem_append.mp within with left | right
        · exact fun part held =>
            List.mem_cons_of_mem _ (List.mem_append_left _ (onFirst left held))
        · exact fun part held =>
            List.mem_cons_of_mem _ (List.mem_append_right _ (onSecond right held))
  | _ =>
      obtain rfl := List.mem_singleton.mp inside
      exact List.Subset.refl _

end Term

namespace Store

variable {store : Store} {value term : Term} {depth deeper : Nat}

/-- What is evaluated again with a value is written in it or in a cell: these terms are
finitely many. -/
theorem finite_evaluates (store : Store) (value : Term) :
    {term | store.Evaluates value term}.Finite := by
  let terms := value.written ++
    store.cells.toList.flatMap fun elements => elements.toList.flatMap Term.written
  have inCells : ∀ cell, ∀ part ∈ (store.elements cell).toList, part ∈ terms := by
    intro cell part held
    unfold elements at held
    cases found : store.cells[cell.place]? with
    | none => simp [found] at held
    | some elements =>
        rw [found] at held
        refine List.mem_append_right _ (List.mem_flatMap.mpr ⟨elements, ?_, ?_⟩)
        · exact Array.mem_toList_iff.mpr (Array.mem_of_getElem? found)
        · exact List.mem_flatMap.mpr ⟨part, held, part.mem_written_self⟩
  have inTerm : ∀ term ∈ terms, term.written ⊆ terms := by
    intro term held
    rcases List.mem_append.mp held with inValue | inCell
    · exact fun part inside => List.mem_append_left _ (Term.written_subset inValue inside)
    · obtain ⟨elements, known, inside⟩ := List.mem_flatMap.mp inCell
      obtain ⟨root, placed, written⟩ := List.mem_flatMap.mp inside
      exact fun part more => List.mem_append_right _ (List.mem_flatMap.mpr
        ⟨elements, known, List.mem_flatMap.mpr
          ⟨root, placed, Term.written_subset written more⟩⟩)
  refine terms.finite_toSet.subset fun term reaches => reaches.mem_of_closed terms ?_
    (List.mem_append_left _ value.mem_written_self)
  intro term held part inside
  cases term with
  | list cell | tuple cell => exact inCells cell part inside
  | pair first second | sequence mark first second =>
      refine inTerm _ held (List.mem_cons_of_mem _ (List.mem_append.mpr ?_))
      rcases List.mem_pair.mp inside with rfl | rfl
      · exact .inl part.mem_written_self
      · exact .inr part.mem_written_self
  | _ => cases inside

theorem NestsWithin.mono
    (nests : store.NestsWithin depth term)
    (further : depth ≤ deeper) :
    store.NestsWithin deeper term := by
  induction depth generalizing deeper term with
  | zero => exact nests.elim
  | succ depth inductionHypothesis =>
      obtain ⟨deeper, rfl⟩ := Nat.exists_eq_add_of_le' (Nat.lt_of_lt_of_le (Nat.succ_pos _) further)
      exact fun part held => inductionHypothesis (nests part held) (Nat.le_of_succ_le_succ further)

/-- Terms that are nested within some depths are all nested within the same one. -/
theorem exists_nestsWithin_all
    {terms : List Term}
    (each : ∀ term ∈ terms, ∃ depth, store.NestsWithin depth term) :
    ∃ depth, ∀ term ∈ terms, store.NestsWithin depth term := by
  induction terms with
  | nil => exact ⟨0, by simp⟩
  | cons term rest inductionHypothesis =>
      obtain ⟨⟨depth, nests⟩, restNests⟩ := List.forall_mem_cons.mp each
      obtain ⟨deeper, allNest⟩ := inductionHypothesis restNests
      refine ⟨max depth deeper, List.forall_mem_cons.mpr ⟨nests.mono (Nat.le_max_left _ _), ?_⟩⟩
      exact fun other held => (allNest other held).mono (Nat.le_max_right _ _)

/-- What is evaluated again with a value is nested no deeper. -/
theorem NestsWithin.of_evaluates
    (nests : store.NestsWithin depth value)
    (reaches : store.Evaluates value term) :
    store.NestsWithin depth term := by
  induction reaches with
  | here => exact nests
  | inside _ held inductionHypothesis =>
      cases depth with
      | zero => exact inductionHypothesis.elim
      | succ depth => exact (inductionHypothesis _ held).mono (Nat.le_succ depth)

/-- A value contains itself nowhere if and only if it is nested within some depth. -/
theorem isAcyclic_iff_nestsWithin :
    store.IsAcyclic value ↔ ∃ depth, store.NestsWithin depth value := by
  constructor
  · intro acyclic
    -- Among the finitely many terms that are evaluated again, to stand inside another one
    -- is a strict order, and so it is well-founded.
    let Inside (inner outer : {term // store.Evaluates value term}) : Prop :=
      ∃ part ∈ outer.1.evaluated store, store.Evaluates part inner.1
    have finite : Finite {term // store.Evaluates value term} :=
      (store.finite_evaluates value).to_subtype
    have transitive : IsTrans _ Inside :=
      ⟨fun _ _ _ ⟨_, held, reaches⟩ ⟨_, further, outer⟩ =>
        ⟨_, further, (outer.inside held).trans reaches⟩⟩
    have irreflexive : Std.Irrefl Inside :=
      ⟨fun term ⟨part, held, reaches⟩ => acyclic term.1 term.2 part held reaches⟩
    have wellFounded : WellFounded Inside := Finite.wellFounded_of_trans_of_irrefl Inside
    suffices nests : ∀ term : {term // store.Evaluates value term},
        ∃ depth, store.NestsWithin depth term.1 from nests ⟨value, .here⟩
    intro term
    induction term using wellFounded.induction with
    | h term inductionHypothesis =>
        obtain ⟨depth, nests⟩ := exists_nestsWithin_all fun part held =>
          inductionHypothesis ⟨part, term.2.inside held⟩ ⟨part, held, .here⟩
        exact ⟨depth + 1, nests⟩
  · rintro ⟨depth, nests⟩ term reaches part held returns
    have nested := nests.of_evaluates reaches
    -- The term would be nested one level less deep, again and again.
    clear nests reaches
    induction depth with
    | zero => exact nested
    | succ depth inductionHypothesis =>
        exact inductionHypothesis ((nested part held).of_evaluates returns)

end Store

/-- What evaluating a value again comes to. -/
def Machine.Recopies (machine : Machine) (depth : Nat) (value : Term) :
    EStateM.Result Stop Machine Term -> Prop
  | .ok copy after =>
      machine.store.NestsWithin depth value ∧ machine.Adds after ∧ after.store.Copies value copy
  | .error stop after =>
      ¬ machine.store.NestsWithin depth value ∧ stop = .exhausted ∧ machine.Adds after

namespace Machine.Recopies

variable {machine : Machine} {depth : Nat} {value : Term} {action : Action Term}

/-- Evaluating a value again adds cells at most. -/
theorem adds (recopies : machine.Recopies depth value (action machine)) :
    machine.Adds (action.after machine) := by
  unfold Action.after
  revert recopies
  cases action machine with
  | ok copy after => exact fun recopies => recopies.2.1
  | error stop after => exact fun recopies => recopies.2.2

/-- A value that is not nested too deep is copied. -/
theorem yields
    (recopies : machine.Recopies depth value (action machine))
    (nests : machine.store.NestsWithin depth value) :
    ∃ copy after, action machine = .ok copy after ∧ after.store.Copies value copy := by
  cases run : action machine with
  | ok copy after =>
      rw [run] at recopies
      exact ⟨copy, after, rfl, recopies.2.2⟩
  | error stop after =>
      rw [run] at recopies
      exact absurd nests recopies.1

end Machine.Recopies

namespace Evaluator

/-- Values are evaluated again one after the other. -/
theorem walkAll_values
    {depth : Nat}
    (walks : ∀ (machine : Machine) (value : Term), machine.store.IsValue value ->
      machine.Recopies depth value ((within depth).walk value machine))
    {sites : List Site}
    {values : List Term}
    {machine : Machine}
    (spreads : machine.store.Spreads sites values)
    (areValues : ∀ value ∈ values, machine.store.IsValue value) :
    match (within depth).walkAll sites machine with
    | .ok copies after =>
        (∀ value ∈ values, machine.store.NestsWithin depth value) ∧ machine.Adds after ∧
          after.store.CopiesAll values copies
    | .error stop after =>
        (∃ value ∈ values, ¬ machine.store.NestsWithin depth value) ∧ stop = .exhausted ∧
          machine.Adds after := by
  induction values generalizing machine sites with
  | nil =>
      obtain rfl : sites = [] := List.map_eq_nil_iff.mp (spreads _ (.refl _))
      exact ⟨by simp, .refl _, trivial⟩
  | cons value rest inductionHypothesis =>
      obtain ⟨isValue, restValues⟩ := List.forall_mem_cons.mp areValues
      obtain ⟨site, sites, rfl, found, spreadsRest⟩ := spreads.cons
      have first := walks machine value isValue
      unfold walkAll
      rw [Action.bind_apply, Action.find_apply, found]
      dsimp only
      rw [Action.bind_apply]
      revert first
      cases (within depth).walk value machine with
      | error stop after =>
          rintro ⟨deep, exhausted, adds⟩
          exact ⟨⟨value, List.mem_cons_self, deep⟩, exhausted, adds⟩
      | ok copy after =>
          rintro ⟨nests, adds, copies⟩
          have others := inductionHypothesis (spreadsRest.keeps adds.keeps)
            fun value inside => (restValues value inside).keeps adds.keeps
          dsimp only
          rw [Action.bind_apply]
          revert others
          have same : ∀ value ∈ rest, (after.store.NestsWithin depth value ↔
              machine.store.NestsWithin depth value) :=
            fun value inside => Store.nestsWithin_keeps adds.keeps (restValues value inside)
          cases (within depth).walkAll sites after with
          | error stop last =>
              rintro ⟨⟨other, inside, deep⟩, exhausted, onwards⟩
              refine ⟨⟨other, List.mem_cons_of_mem _ inside, ?_⟩, exhausted, adds.trans onwards⟩
              rwa [← same other inside]
          | ok others last =>
              rintro ⟨othersNest, onwards, othersCopied⟩
              refine ⟨List.forall_mem_cons.mpr ⟨nests, fun other inside => ?_⟩,
                adds.trans onwards, copies.keeps onwards.keeps, othersCopied⟩
              rw [← same other inside]
              exact othersNest other inside

/-- A value whose parts are evaluated again, and put together in the same way, is
copied. -/
theorem rebuild_recopies
    {depth : Nat}
    (walks : ∀ (machine : Machine) (value : Term), machine.store.IsValue value ->
      machine.Recopies depth value ((within depth).walk value machine))
    {machine : Machine}
    {value : Term}
    {sites : List Site}
    (isValue : machine.store.IsValue value)
    (spreads : machine.store.Spreads sites (value.evaluated machine.store))
    (build : List Term -> Action Term)
    (builds : ∀ copies after, machine.Adds after ->
      after.store.CopiesAll (value.evaluated machine.store) copies ->
      ∃ copy last, build copies after = .ok copy last ∧ after.Adds last ∧
        last.store.Copies value copy) :
    machine.Recopies (depth + 1) value
      (((within depth).walkAll sites >>= build) machine) := by
  have partsValue : ∀ part ∈ value.evaluated machine.store, machine.store.IsValue part :=
    fun part inside => isValue.part (Store.evaluated_subset inside)
  have parts := walkAll_values walks spreads partsValue
  rw [Action.bind_apply]
  revert parts
  cases (within depth).walkAll sites machine with
  | error stop after =>
      rintro ⟨⟨part, inside, deep⟩, exhausted, adds⟩
      exact ⟨fun nests => deep (nests part inside), exhausted, adds⟩
  | ok copies after =>
      rintro ⟨nests, adds, copied⟩
      obtain ⟨copy, last, built, onwards, copiedWhole⟩ := builds copies after adds copied
      dsimp only
      rw [built]
      exact ⟨nests, adds.trans onwards, copiedWhole⟩

/-- Build from the copies of two parts. -/
def buildBoth (build : Term -> Term -> Action Term) : List Term -> Action Term
  | [firstCopy, secondCopy] => build firstCopy secondCopy
  | _ => throw .exhausted

/-- The same for a value of two parts. -/
theorem rebuildBoth_recopies
    {depth : Nat}
    (walks : ∀ (machine : Machine) (value : Term), machine.store.IsValue value ->
      machine.Recopies depth value ((within depth).walk value machine))
    {machine : Machine}
    {value first second : Term}
    (isValue : machine.store.IsValue value)
    (parts : value.evaluated machine.store = [first, second])
    (build : Term -> Term -> Action Term)
    (builds : ∀ firstCopy secondCopy after, after.store.Copies first firstCopy ->
      after.store.Copies second secondCopy ->
      ∃ copy last, build firstCopy secondCopy after = .ok copy last ∧ after.Adds last ∧
        last.store.Copies value copy) :
    machine.Recopies (depth + 1) value
      (((within depth).walk first >>= fun firstCopy =>
        (within depth).walk second >>= fun secondCopy => build firstCopy secondCopy)
          machine) := by
  have spreads : machine.store.Spreads [.given first, .given second]
      (value.evaluated machine.store) := parts ▸ machine.store.spreads_given [first, second]
  have rebuilt := rebuild_recopies walks isValue spreads (buildBoth build)
    fun copies after _ copied => ?_
  · simpa [parts, walkAll, buildBoth] using rebuilt
  · rw [parts] at copied
    obtain ⟨firstCopy, secondCopy, rfl, onFirst, onSecond⟩ := copied.both
    exact builds firstCopy secondCopy after onFirst onSecond

/-- The copy of the elements of a cell is put into a new cell. -/
theorem newCell_copies
    {machine after : Machine}
    {cell : CellRef}
    (known : cell.place < machine.store.cells.size)
    (adds : machine.Adds after)
    {copies : List Term}
    (copied : after.store.CopiesAll (machine.store.elements cell).toList copies)
    (tally : Tally) :
    let store := (after.store.newCell copies.toArray).2
    after.Adds { after with tally, store } ∧
      cell.place < store.cells.size ∧ after.store.cells.size < store.cells.size ∧
      (store.elements cell).size = (store.elements ⟨after.store.cells.size⟩).size ∧
      ∀ pair ∈ (store.elements cell).toList.zip
          (store.elements ⟨after.store.cells.size⟩).toList,
        store.Copies pair.1 pair.2 := by
  have keeps := Store.Keeps.newCell after.store copies.toArray
  have same := (adds.keeps.trans keeps).elements cell known
  have new : (after.store.newCell copies.toArray).2.elements ⟨after.store.cells.size⟩ =
      copies.toArray := after.store.elements_newCell_self copies.toArray
  refine ⟨⟨rfl, rfl, rfl, keeps⟩, Nat.lt_of_lt_of_le known (adds.keeps.trans keeps).size,
    after.store.newCell_known copies.toArray, ?_, ?_⟩
  · rw [same, new]
    simpa using copied.length
  · rw [same, new]
    exact fun pair inside => (copied.each pair inside).keeps keeps

/-- A value evaluates to a copy of itself, or uses up the depth when it is nested
deeper than that; it only adds cells. -/
theorem walk_value
    (depth : Nat)
    (machine : Machine)
    (value : Term)
    (isValue : machine.store.IsValue value) :
    machine.Recopies depth value ((within depth).walk value machine) := by
  induction depth generalizing machine value with
  | zero => exact ⟨id, rfl, .refl _⟩
  | succ depth inductionHypothesis =>
      have itself : value.evaluated machine.store = [] ->
          machine.Recopies (depth + 1) value (.ok value machine) := by
        intro flat
        refine ⟨?_, .refl _, .same value⟩
        unfold Store.NestsWithin
        simp [flat]
      obtain ⟨kind, placed⟩ := isValue value .here
      cases value with
      | list cell =>
          refine rebuild_recopies inductionHypothesis isValue
            (machine.store.spreads_places cell) Action.newList ?_
          intro copies after adds copied
          obtain ⟨onwards, known, made, size, each⟩ :=
            newCell_copies (of_decide_eq_true placed) adds copied (after.tally.count .list)
          exact ⟨_, _, Action.newList_apply copies after, onwards, .list known made size each⟩
      | tuple cell =>
          refine rebuild_recopies inductionHypothesis isValue
            (machine.store.spreads_places cell) Action.newTuple ?_
          intro copies after adds copied
          obtain ⟨onwards, known, made, size, each⟩ :=
            newCell_copies (of_decide_eq_true placed) adds copied (after.tally.count .tuple)
          exact ⟨_, _, rfl, onwards, .tuple known made size each⟩
      | pair first second =>
          refine rebuildBoth_recopies inductionHypothesis isValue rfl Action.newPair ?_
          intro firstCopy secondCopy after onFirst onSecond
          exact ⟨_, _, rfl, ⟨rfl, rfl, rfl, .refl _⟩, .pair onFirst onSecond⟩
      | sequence mark first second =>
          refine rebuildBoth_recopies inductionHypothesis isValue rfl
            Action.newSequence ?_
          intro firstCopy secondCopy after onFirst onSecond
          have keeps : after.store.Keeps after.store.freshMark.2 := ⟨Nat.le_refl _, fun _ _ => rfl⟩
          exact ⟨_, _, rfl, ⟨rfl, rfl, rfl, keeps⟩,
            .sequence (onFirst.keeps keeps) (onSecond.keeps keeps)⟩
      | integer => exact itself rfl
      | real => exact itself rfl
      | boolean => exact itself rfl
      | text => exact itself rfl
      | none => exact itself rfl
      | nil => exact itself rfl
      | closure => exact itself rfl
      | struct => exact itself rfl
      | object => exact itself rfl
      | method => exact itself rfl
      | foreign => exact itself rfl
      | _ => simp [Term.isValue] at kind

end Evaluator

/-! ## Programs without quotes -/

/-- Whether no quote is written in a term; its cells are not looked into. -/
def Term.isQuoteFree : Term -> Bool
  | .pair first second => first.isQuoteFree && second.isQuoteFree
  | .range _ _ start stop stride =>
      start.isQuoteFree && stop.isQuoteFree && stride.isQuoteFree
  | .headTail _ _ head tail => head.isQuoteFree && tail.isQuoteFree
  | .sequence _ first second => first.isQuoteFree && second.isQuoteFree
  | .apply _ callee argument => callee.isQuoteFree && argument.isQuoteFree
  | .index _ subject selector => subject.isQuoteFree && selector.isQuoteFree
  | .conditional _ condition consequent alternative =>
      condition.isQuoteFree && consequent.isQuoteFree && alternative.isQuoteFree
  | .isMatch _ subject pattern => subject.isQuoteFree && pattern.isQuoteFree
  | .membership _ element container => element.isQuoteFree && container.isQuoteFree
  | .evaluation _ expression => expression.isQuoteFree
  | .named _ _ pattern => pattern.isQuoteFree
  | .constraint _ pattern => pattern.isQuoteFree
  | .quote _ => false
  | .deref _ expression => expression.isQuoteFree
  | .method _ receiver body => receiver.isQuoteFree && body.isQuoteFree
  | .dataMember _ value => value.isQuoteFree
  | .initMember _ value pattern => value.isQuoteFree && pattern.isQuoteFree
  | _ => true

namespace Program

/-- Whether no quote is written in a program or in a cell of its store. -/
def isQuoteFree (program : Program) (store : Store) : Bool :=
  program.terms.all Term.isQuoteFree &&
    store.cells.toList.all fun elements => elements.toList.all Term.isQuoteFree

theorem contents_isQuoteFree
    {store : Store}
    (cells : ∀ cell, ∀ element ∈ store.elements cell, element.isQuoteFree = true)
    {term part : Term}
    (free : term.isQuoteFree = true)
    (held : part ∈ term.contents store) :
    part.isQuoteFree = true := by
  have elements : ∀ cell, part ∈ (store.elements cell).toList -> part.isQuoteFree = true :=
    fun cell inside => cells cell part (Array.mem_toList_iff.mp inside)
  cases term with
  | list cell => exact elements cell held
  | tuple cell => exact elements cell held
  | struct template => exact elements template.memory held
  | object template memory =>
      cases template with
      | none => exact elements memory held
      | some template =>
          rcases List.mem_cons.mp held with rfl | inside
          · rfl
          · exact elements memory inside
  | _ => simp_all [Term.contents, Term.parts, Term.isQuoteFree] <;> grind

/-- A program in which no quote is written mentions none. -/
theorem unquoted_of_isQuoteFree
    {program : Program}
    {store : Store}
    (free : program.isQuoteFree store = true) :
    ∀ inner, ¬ program.Mentions store (.quote inner) := by
  simp only [isQuoteFree, Bool.and_eq_true, List.all_eq_true, Array.mem_toList_iff] at free
  have cells : ∀ cell, ∀ element ∈ store.elements cell, element.isQuoteFree = true := by
    intro cell element inside
    unfold Store.elements at inside
    cases found : store.cells[cell.place]? with
    | none => simp [found] at inside
    | some elements =>
        rw [found] at inside
        exact free.2 elements (Array.mem_of_getElem? found) element inside
  have mentioned : ∀ term, program.Mentions store term -> term.isQuoteFree = true := by
    rintro term ⟨root, present, reaches⟩
    induction reaches with
    | here => exact free.1 root present
    | inside outer held inductionHypothesis =>
        exact contents_isQuoteFree cells inductionHypothesis held
  intro inner present
  simpa [Term.isQuoteFree] using mentioned _ present

/-- What a run leaves behind holds values, and the outcome or the error carries
values. -/
def EndsWithValues : EStateM.Result Stop Machine Outcome -> Prop
  | .ok outcome after => after.HoldsValues outcome.terms
  | .error stop after => after.HoldsValues stop.terms

/-- In every run of a loaded program that mentions no quote, values stay values. A
run that is supervised for it, and gives up at the first moment at which a name is
bound to something else or something else is yielded, bound or raised, is the run
itself; and so it ends. A value can be evaluated again on any machine: that adds
cells at most, however it ends; and if no list, tuple, pair or sequence in the value
contains itself, it yields a copy. -/
theorem values_stay_values
    {name : String}
    {node : Document.Node}
    {program : Program}
    {store : Store}
    (loads : read name node Store.initial = .ok program store)
    (unquoted : ∀ inner, ¬ program.Mentions store (.quote inner))
    (settings : Settings)
    (tracer : Tracer)
    (withBuiltins : Bool)
    (depth : Nat) :
    let machine := Machine.prepared store settings tracer withBuiltins
    (Evaluator.supervised Machine.HoldsValues depth).runProgram program machine =
        (Evaluator.within depth).runProgram program machine ∧
      EndsWithValues ((Evaluator.within depth).runProgram program machine) ∧
      ∀ (machine : Machine) (value : Term), machine.store.IsValue value ->
        (∀ depth, machine.Adds (((Evaluator.within depth).walk value).after machine)) ∧
          (machine.store.IsAcyclic value -> ∃ level, ∀ depth, level ≤ depth ->
            ∃ copy after, (Evaluator.within depth).walk value machine = .ok copy after ∧
              after.store.Copies value copy) := by
  have loaded : program.Loaded false store := loaded_of_read loads fun _ => unquoted
  obtain ⟨final, _, same, ends⟩ :=
    loaded.run_supervised holdsValues_isSafe settings tracer withBuiltins depth
  refine ⟨same, ?_, fun machine value isValue => ⟨fun depth => ?_, fun acyclic => ?_⟩⟩
  · revert ends
    cases (Evaluator.within depth).runProgram program
        (.prepared store settings tracer withBuiltins) with
    | ok outcome after => exact id
    | error stop after => exact id
  · exact (Evaluator.walk_value depth machine value isValue).adds
  · obtain ⟨level, nests⟩ := Store.isAcyclic_iff_nestsWithin.mp acyclic
    refine ⟨level, fun depth deep => ?_⟩
    exact (Evaluator.walk_value depth machine value isValue).yields (nests.mono deep)

/-- A program with one function, `twin`, which makes a list of its argument twice;
the list is bound to `xs`, and its first element is overwritten. -/
def twinNode : Document.Node :=
  let key (text : String) := Document.Node.scalar 1 "!!str" text
  let identifier (text : String) := Document.Node.mapping 1 "!!map" [(key "id", key text)]
  let number (text : String) := Document.Node.scalar 1 "!!int" text
  .mapping 1 "!!map"
    [(key "functions", .mapping 1 "!!map"
      [(key "twin", .sequence 1 "!!seq" [.mapping 1 "!!map"
        [(key "pattern", identifier "x"),
          (key "body", .sequence 1 "!!seq" [.mapping 1 "!!map"
            [(key "expr", .sequence 1 "!!seq" [identifier "x", identifier "x"])]])]])]),
      (key "program", .sequence 1 "!!seq"
        [.mapping 1 "!!map"
          [(key "expr", .mapping 1 "!!map"
            [(key "call", .sequence 1 "!!seq" [key "twin", number "5"])]),
            (key "let", identifier "xs")],
          .mapping 1 "!!map"
            [(key "expr", number "9"),
              (key "let", .mapping 1 "!!map"
                [(key "index", .sequence 1 "!!seq" [identifier "xs", number "0"])])]])]

/-- The program that is read from `twinNode`. -/
def twin : Program where
  name := "main"
  functions := [⟨"twin", [⟨.identifier "x", [.evaluate (.list ⟨1⟩) .absent]⟩]⟩]
  statements :=
    [.evaluate (.function 3 "twin") (.identifier "twin"),
      .evaluate (.apply 1 (.identifier "twin") (.integer 5)) (.identifier "xs"),
      .evaluate (.integer 9) (.index 2 (.identifier "xs") (.integer 0))]

/-- The store that `twinNode` is read into. -/
def twinStore : Store :=
  { Store.initial with
    cells := #[#[.none, .none], #[.identifier "x", .identifier "x"]]
    nextMark := 4 }

theorem twinNode_read : read "main" twinNode Store.initial = .ok twin twinStore := rfl

/-- The run of `twin` finishes with a value, and its values stay values. -/
theorem values_stay_values_of_twin :
    let machine := Machine.prepared twinStore {} {} false
    (match (Evaluator.within 9).runProgram twin machine with
      | .ok (.finished (.integer value)) _ => value == 9
      | _ => false) = true ∧
      (Evaluator.supervised Machine.HoldsValues 9).runProgram twin machine =
        (Evaluator.within 9).runProgram twin machine ∧
      EndsWithValues ((Evaluator.within 9).runProgram twin machine) ∧
      ∀ (machine : Machine) (value : Term), machine.store.IsValue value ->
        (∀ depth, machine.Adds (((Evaluator.within depth).walk value).after machine)) ∧
          (machine.store.IsAcyclic value -> ∃ level, ∀ depth, level ≤ depth ->
            ∃ copy after, (Evaluator.within depth).walk value machine = .ok copy after ∧
              after.store.Copies value copy) :=
  ⟨by decide +kernel,
    values_stay_values twinNode_read (unquoted_of_isQuoteFree rfl) {} {} false 9⟩

/-- A program that binds `xs` to a list and makes the list its own second element. -/
def knotNode : Document.Node :=
  let key (text : String) := Document.Node.scalar 1 "!!str" text
  let identifier (text : String) := Document.Node.mapping 1 "!!map" [(key "id", key text)]
  let number (text : String) := Document.Node.scalar 1 "!!int" text
  .mapping 1 "!!map"
    [(key "program", .sequence 1 "!!seq"
      [.mapping 1 "!!map"
        [(key "expr", .sequence 1 "!!seq" [number "1", number "2"]), (key "let", identifier "xs")],
        .mapping 1 "!!map"
          [(key "expr", identifier "xs"),
            (key "let", .mapping 1 "!!map"
              [(key "index", .sequence 1 "!!seq" [identifier "xs", number "1"])])]])]

/-- The program that is read from `knotNode`. -/
def knot : Program where
  name := "main"
  functions := []
  statements :=
    [.evaluate (.list ⟨1⟩) (.identifier "xs"),
      .evaluate (.identifier "xs") (.index 1 (.identifier "xs") (.integer 1))]

/-- The store that `knotNode` is read into. -/
def knotStore : Store :=
  { Store.initial with
    cells := #[#[.none, .none], #[.integer 1, .integer 2]]
    nextMark := 2 }

/-- In `knot` no quote is written, and a run of it leaves `xs` bound to a value. But
evaluating that value again never comes to an end. -/
theorem knot_not_evaluated_again :
    read "main" knotNode Store.initial = .ok knot knotStore ∧
      (∀ inner, ¬ knot.Mentions knotStore (.quote inner)) ∧
      ∃ outcome after value,
        (Evaluator.within 9).runProgram knot (.prepared knotStore {} {} false) = .ok outcome after ∧
          after.lookup? "xs" = some value ∧ after.store.IsValue value ∧
          ∀ depth copy last, (Evaluator.within depth).walk value after ≠ .ok copy last := by
  obtain ⟨outcome, after, run, bound, known, held⟩ : ∃ outcome after,
      (Evaluator.within 9).runProgram knot (.prepared knotStore {} {} false) = .ok outcome after ∧
        after.lookup? "xs" = some (.list ⟨2⟩) ∧ 2 < after.store.cells.size ∧
        (after.store.elements ⟨2⟩).toList = [.integer 1, .list ⟨2⟩] :=
    ⟨_, _, rfl, rfl, by decide, rfl⟩
  have isValue : after.store.IsValue (.list ⟨2⟩) := by
    intro part reaches
    have listed := reaches.mem_of_closed [.list ⟨2⟩, .integer 1]
      (by simp [Term.contents, Term.parts, held]) List.mem_cons_self
    simp only [List.mem_cons, List.not_mem_nil, or_false] at listed
    rcases listed with rfl | rfl
    · exact ⟨rfl, decide_eq_true known⟩
    · exact ⟨rfl, rfl⟩
  refine ⟨rfl, unquoted_of_isQuoteFree rfl, outcome, after, _, run, bound, isValue, ?_⟩
  intro depth copy last walked
  have recopies := Evaluator.walk_value depth after _ isValue
  rw [walked] at recopies
  have acyclic := Store.isAcyclic_iff_nestsWithin.mpr ⟨depth, recopies.1⟩
  have inside : .list ⟨2⟩ ∈ (Term.list ⟨2⟩).evaluated after.store :=
    show .list ⟨2⟩ ∈ (after.store.elements ⟨2⟩).toList from held ▸ by simp
  exact acyclic _ .here _ inside .here

end Program
end PatternMachine
