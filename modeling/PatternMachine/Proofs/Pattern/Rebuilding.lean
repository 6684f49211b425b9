import PatternMachine.Proofs.Assignment
import PatternMachine.Proofs.Framing
import PatternMachine.Proofs.Likeness
import PatternMachine.Proofs.Pattern.Success

/-!
# Taking a value apart and putting it together again

A pattern made of names, literals, lists, tuples and head-tail constructs also reads as
an expression. When a value matches it, evaluating the pattern with the names bound to
their parts makes a value that is equal to the one that was matched.
-/

namespace PatternMachine

/-- What reads as an expression as well as a pattern. -/
def Term.isBlueprint : Term -> Bool
  | .identifier name => name != "_" && name != "this"
  | .integer _ => true
  | .boolean _ => true
  | .none => true
  | .nil => true
  | .list _ => true
  | .tuple _ => true
  | .headTail _ _ _ _ => true
  | _ => false

/-! ## Names that are bound -/

namespace Machine

variable {machine after : Machine}

/-- Every name that the bindings bind has its value. -/
def Grants (machine : Machine) (bindings : List Binding) : Prop :=
  ∀ binding ∈ bindings, ∀ name, binding.target = .identifier name ->
    machine.lookup? name = some binding.value

theorem Grants.adds
    {bindings : List Binding}
    (grants : machine.Grants bindings)
    (adds : machine.Adds after) :
    after.Grants bindings := by
  intro binding held name target
  rw [adds.lookup?, grants binding held name target]

/-- What the innermost scope binds is found. -/
theorem lookup?_innermost
    {scope : ScopeRef}
    {name : String}
    {value : Term}
    (innermost : machine.scopes.back? = some scope)
    (held : (machine.store.scope scope).get? name = some value) :
    machine.lookup? name = some value := by
  rw [Array.back?_eq_getElem?] at innermost
  obtain ⟨inside, _⟩ := Array.getElem?_eq_some_iff.mp innermost
  obtain ⟨below, size⟩ : ∃ below, machine.scopes.size = below + 1 :=
    ⟨machine.scopes.size - 1, by omega⟩
  rw [size, Nat.add_sub_cancel] at innermost
  have found : machine.find? name = some below := by
    rw [find?, size, findBelow?, innermost]
    dsimp only
    rw [if_pos (by rw [Namespace.contains, held]; rfl)]
  rw [lookup?_of_find? found innermost, held]

/-- A machine comes to another one by adding a copy of a value. -/
structure Restores (machine : Machine) (value copy : Term) (after : Machine) : Prop where
  adds : machine.Adds after
  alike : after.store.Alike copy value
  placed : copy.isPlaced after.store = true
  list : ∀ cell, value = .list cell -> ∃ copied, copy = .list copied

end Machine

namespace Evaluator

variable {self : Evaluator} {machine after : Machine}

/-- As long as its names are bound, a pattern evaluates to a copy of the value. -/
def GivesBack (self : Evaluator) (machine : Machine) (bindings : List Binding)
    (pattern value : Term) : Prop :=
  ∀ later, machine.store.Keeps later.store -> later.Grants bindings ->
    ∃ copy last, self.walk pattern later = .ok copy last ∧ later.Restores value copy last

/-- A match takes a value apart in such a way that it can be put together again. -/
structure TakesApart (evaluator : Evaluator) (machine : Machine) (pattern value : Term)
    (bindings : List Binding) (after : Machine) : Prop where
  keeps : machine.store.Keeps after.store
  names : ∀ level names, machine.store.binders? level pattern = some names ->
    bindings.map Binding.target = names.map Term.identifier
  givesBack : evaluator.GivesBack after bindings pattern value

/-- Every successful match of a blueprint takes its value apart. -/
def Inverts (self : Evaluator) : Prop :=
  ∀ {machine after : Machine} {pattern value : Term} {bindings : List Binding},
    machine.store.Consists Term.isBlueprint pattern ->
    machine.store.Consists Term.isRebuildable value ->
    self.unify .binding value pattern machine = .ok bindings after ->
    self.TakesApart machine pattern value bindings after

/-- Values in a row are taken apart one after the other, and put together again in the
same order. -/
theorem unifyEach_takesApart
    (inverts : self.Inverts)
    {sites patternSites : List Site}
    {values patterns : List Term}
    {bindings : List Binding}
    (spreads : machine.store.Spreads sites values)
    (patternSpreads : machine.store.Spreads patternSites patterns)
    (lengths : values.length = patterns.length)
    (rebuildable : ∀ value ∈ values, machine.store.Consists Term.isRebuildable value)
    (blueprints : ∀ pattern ∈ patterns, machine.store.Consists Term.isBlueprint pattern)
    (matched : self.unifyEach .binding (sites.zip patternSites) machine = .ok bindings after) :
    machine.store.Keeps after.store ∧
      (∀ level names, patterns.mapM (machine.store.binders? level) = some names ->
        bindings.map Binding.target = names.flatten.map Term.identifier) ∧
      ∀ later places, after.store.Keeps later.store -> later.Grants bindings ->
        later.store.Spreads places patterns ->
        ∃ copies last, self.walkAll places later = .ok copies last ∧ later.Adds last ∧
          last.store.AlikeAll copies values := by
  induction values generalizing sites patternSites patterns machine bindings with
  | nil =>
      obtain rfl : patterns = [] := List.length_eq_zero_iff.mp lengths.symm
      obtain rfl : sites = [] := List.map_eq_nil_iff.mp (spreads _ (.refl _))
      obtain ⟨rfl, rfl⟩ := EStateM.Result.ok.inj matched
      refine ⟨.refl _, ?_, ?_⟩
      · intro level names bound
        obtain rfl := Option.some.inj bound
        rfl
      · intro later places _ _ onwards
        obtain rfl : places = [] := List.map_eq_nil_iff.mp (onwards _ (.refl _))
        exact ⟨[], later, rfl, .refl _, Store.alikeAll_nil⟩
  | cons value values inductionHypothesis =>
      cases patterns with
      | nil => simp at lengths
      | cons pattern patterns =>
          obtain ⟨site, sites, rfl, found, spreadsRest⟩ := spreads.cons
          obtain ⟨patternSite, patternSites, rfl, patternFound, patternsRest⟩ :=
            patternSpreads.cons
          obtain ⟨valueRebuildable, restRebuildable⟩ := List.forall_mem_cons.mp rebuildable
          obtain ⟨blueprint, restBlueprints⟩ := List.forall_mem_cons.mp blueprints
          obtain ⟨own, middle, others, matchedFirst, matchedRest, rfl⟩ :=
            unifyEach_cons_eq_ok.mp matched
          rw [found, patternFound] at matchedFirst
          have first := inverts blueprint valueRebuildable matchedFirst
          obtain ⟨keepsRest, namesRest, givesBackRest⟩ := inductionHypothesis
            (spreadsRest.keeps first.keeps) (patternsRest.keeps first.keeps)
            (Nat.succ.inj lengths)
            (fun value held => (restRebuildable value held).keeps first.keeps)
            (fun pattern held => (restBlueprints pattern held).keeps first.keeps) matchedRest
          refine ⟨first.keeps.trans keepsRest, ?_, ?_⟩
          · intro level names bound
            obtain ⟨ownNames, otherNames, boundFirst, boundRest, rfl⟩ :=
              List.mapM_cons_eq_some.mp bound
            rw [List.map_append, List.flatten_cons, List.map_append,
              first.names level _ boundFirst]
            refine congrArg _ (namesRest level otherNames ?_)
            rw [← boundRest]
            exact List.mapM_congr_of_mem fun pattern held =>
              Store.binders?_keeps first.keeps (restBlueprints pattern held) level
          · intro later places kept grants onwards
            obtain ⟨place, places, rfl, held, onwardsRest⟩ := onwards.cons
            obtain ⟨copy, next, walked, restores⟩ := first.givesBack later
              (keepsRest.trans kept) fun binding inside =>
                grants binding (List.mem_append_left _ inside)
            obtain ⟨copies, last, walkedRest, addsRest, alikeRest⟩ := givesBackRest next places
              (kept.trans restores.adds.keeps)
              (Machine.Grants.adds
                (fun binding inside => grants binding (List.mem_append_right _ inside))
                restores.adds)
              (onwardsRest.keeps restores.adds.keeps)
            refine ⟨copy :: copies, last, ?_, restores.adds.trans addsRest,
              .cons (restores.alike.keeps addsRest.keeps) alikeRest⟩
            unfold walkAll
            rw [Action.bind_apply, Action.find_apply, held]
            dsimp only
            rw [Action.bind_apply, walked]
            dsimp only
            rw [Action.bind_apply, walkedRest]
            rfl

theorem solid_of_consists
    {value : Term}
    (rebuildable : machine.store.Consists Term.isRebuildable value) :
    value.transparent? = none := by
  obtain ⟨kind, _⟩ := rebuildable value .here
  cases value with
  | quote => simp [Term.isRebuildable] at kind
  | _ => rfl

/-- A literal that matches a value that looks like it takes nothing apart. -/
theorem takesApart_literal
    {pattern value : Term}
    (inside : pattern.yielding machine.store = [])
    (nameless : pattern.ownNames = [])
    (itself : ∀ later, self.walk pattern later = .ok pattern later)
    (alike : ∀ store : Store, store.Alike pattern value)
    (placed : ∀ store, pattern.isPlaced store = true)
    (noList : ∀ cell, value ≠ .list cell) :
    self.TakesApart machine pattern value [] machine where
  keeps := .refl _
  names level names bound := by
    rw [Store.eq_ownNames_of_leaf inside bound, nameless]
    rfl
  givesBack later _ _ :=
    ⟨pattern, later, itself later, .refl _, alike _, placed _,
      fun cell same => absurd same (noList cell)⟩

theorem takesApart_number
    {depth : Nat}
    {pattern value : Term}
    {bindings : List Binding}
    (literal : (∃ number, pattern = .integer number) ∨ ∃ truth, pattern = .boolean truth)
    (rebuildable : machine.store.Consists Term.isRebuildable value)
    (matched : (within (depth + 1)).unify .binding value pattern machine = .ok bindings after) :
    (within (depth + 1)).TakesApart machine pattern value bindings after := by
  obtain ⟨expected, patternNumber, core, itself, inside, nameless, placed⟩ : ∃ expected,
      pattern.number? = some (.exact expected) ∧ pattern.isCore = true ∧
        (∀ later, (within (depth + 1)).walk pattern later = .ok pattern later) ∧
        pattern.yielding machine.store = [] ∧ pattern.ownNames = [] ∧
        ∀ store, pattern.isPlaced store = true := by
    rcases literal with ⟨number, rfl⟩ | ⟨truth, rfl⟩ <;>
      exact ⟨_, rfl, rfl, fun _ => rfl, rfl, rfl, fun _ => rfl⟩
  have direct : value.isDirect .binding = true := by cases value <;> rfl
  by_cases equal : ∃ actual, value.number? = some actual ∧ actual.equal (.exact expected) = true
  · obtain ⟨actual, number, equal⟩ := equal
    obtain ⟨rfl, rfl⟩ := EStateM.Result.ok.inj
      ((unifyStep_number core direct number patternNumber equal).symm.trans matched)
    obtain ⟨kind, _⟩ := rebuildable value .here
    refine takesApart_literal inside nameless itself (fun store => ?_) placed ?_
    · -- No real is involved, so the numbers are the same and the order does not matter.
      refine Store.alike_number patternNumber number ?_
      cases value <;> simp [Term.number?, Term.isRebuildable] at number kind <;>
        subst number <;> simp_all [Number.equal]
    · rintro cell rfl
      simp [Term.number?] at number
  · refine ((unifyStep_number_refuses core direct (solid_of_consists rebuildable) patternNumber
      fun actual number => ?_).not_ok matched).elim
    exact Bool.eq_false_iff.mpr fun same => equal ⟨actual, number, same⟩

/-- None and nil are matched by themselves alone. -/
theorem takesApart_self
    {depth : Nat}
    {pattern value : Term}
    {bindings : List Binding}
    (literal : pattern = .none ∨ pattern = .nil)
    (rebuildable : machine.store.Consists Term.isRebuildable value)
    (matched : (within (depth + 1)).unify .binding value pattern machine = .ok bindings after) :
    (within (depth + 1)).TakesApart machine pattern value bindings after := by
  by_cases same : value = pattern
  · subst same
    change unifyStep (within depth) .binding value value machine = _ at matched
    rw [unifyStep_self literal] at matched
    obtain ⟨rfl, rfl⟩ := EStateM.Result.ok.inj matched
    rcases literal with rfl | rfl <;>
      exact takesApart_literal rfl rfl (fun _ => rfl) (Store.alike_self · _) (fun _ => rfl)
        (by simp)
  · have direct : value.isDirect .binding = true := by cases value <;> rfl
    exact ((unifyStep_self_refuses literal direct (solid_of_consists rebuildable) same).not_ok
      matched).elim

/-- A name takes the whole value. -/
theorem takesApart_identifier
    {depth : Nat}
    {name : String}
    {value : Term}
    {bindings : List Binding}
    (notBlank : name ≠ "_")
    (rebuildable : machine.store.Consists Term.isRebuildable value)
    (matched : (within (depth + 1)).unify .binding value (.identifier name) machine =
      .ok bindings after) :
    (within (depth + 1)).TakesApart machine (.identifier name) value bindings after := by
  rw [unify_identifier notBlank] at matched
  split at matched
  · cases matched
  · obtain ⟨rfl, rfl⟩ := EStateM.Result.ok.inj matched
    refine ⟨.refl _, fun level names bound => ?_, fun later kept grants => ?_⟩
    · rw [Store.eq_ownNames_of_leaf rfl bound]
      simp [Term.ownNames, notBlank]
    · have bound := grants _ List.mem_cons_self name rfl
      exact ⟨value, later, walk_identifier bound depth, .refl _, later.store.alike_self value,
        ((rebuildable.keeps kept) value .here).2, fun cell same => ⟨cell, same⟩⟩

/-- The copies of the elements of a cell are put into a new cell. -/
theorem newCell_alike
    {cell : CellRef}
    {copies : List Term}
    (known : cell.place < machine.store.cells.size)
    (adds : machine.Adds after)
    (alike : after.store.AlikeAll copies (machine.store.elements cell).toList)
    (tally : Tally) :
    let store := (after.store.newCell copies.toArray).2
    machine.Adds { after with tally, store } ∧ cell.place < store.cells.size ∧
      after.store.cells.size < store.cells.size ∧
      store.AlikeAll (store.elements ⟨after.store.cells.size⟩).toList
        (store.elements cell).toList := by
  have keeps := Store.Keeps.newCell after.store copies.toArray
  have same := (adds.keeps.trans keeps).elements cell known
  have new : (after.store.newCell copies.toArray).2.elements ⟨after.store.cells.size⟩ =
      copies.toArray := after.store.elements_newCell_self copies.toArray
  refine ⟨adds.trans ⟨rfl, rfl, rfl, keeps⟩, Nat.lt_of_lt_of_le known (adds.keeps.trans keeps).size,
    after.store.newCell_known _, ?_⟩
  rw [new, same]
  exact alike.keeps keeps

/-- A list of copies restores a list. -/
theorem newList_restores
    {cell : CellRef}
    {copies : List Term}
    (known : cell.place < machine.store.cells.size)
    (adds : machine.Adds after)
    (alike : after.store.AlikeAll copies (machine.store.elements cell).toList) :
    ∃ copy last, Action.newList copies after = .ok copy last ∧
      machine.Restores (.list cell) copy last := by
  obtain ⟨addsAll, kept, made, alikeAll⟩ :=
    newCell_alike known adds alike (after.tally.count .list)
  refine ⟨_, _, Action.newList_apply copies after, addsAll, ?_, ?_, fun _ _ => ⟨_, rfl⟩⟩
  · exact (Store.alike_list made kept).mpr alikeAll
  · exact decide_eq_true made

/-- A tuple of copies restores a tuple. -/
theorem newTuple_restores
    {cell : CellRef}
    {copies : List Term}
    (known : cell.place < machine.store.cells.size)
    (adds : machine.Adds after)
    (alike : after.store.AlikeAll copies (machine.store.elements cell).toList) :
    ∃ copy last, Action.newTuple copies after = .ok copy last ∧
      machine.Restores (.tuple cell) copy last := by
  obtain ⟨addsAll, kept, made, alikeAll⟩ :=
    newCell_alike known adds alike (after.tally.count .tuple)
  refine ⟨.tuple ⟨after.store.cells.size⟩, _, rfl, addsAll, ?_, ?_, ?_⟩
  · exact Store.alike_tuple made kept alikeAll
  · exact decide_eq_true made
  · rintro _ ⟨⟩

/-- A container binds the names of its elements. -/
theorem names_of_elements
    {cell : CellRef}
    {pattern : Term}
    {bindings : List Binding}
    (elements : pattern.yielding machine.store = (machine.store.elements cell).toList)
    (nameless : pattern.ownNames = [])
    (each : ∀ level names,
      (machine.store.elements cell).toList.mapM (machine.store.binders? level) = some names ->
        bindings.map Binding.target = names.flatten.map Term.identifier) :
    ∀ level names, machine.store.binders? level pattern = some names ->
      bindings.map Binding.target = names.map Term.identifier := by
  intro level names bound
  cases level with
  | zero => cases bound
  | succ level =>
      obtain ⟨inner, inside, rfl⟩ := Store.binders?_succ.mp bound
      rw [elements] at inside
      rw [each level inner inside, nameless, List.append_nil]

/-- A container is taken apart and put together element by element. -/
theorem takesApart_elements
    {depth : Nat}
    (inverts : (within depth).Inverts)
    {cell patternCell : CellRef}
    {value pattern : Term}
    {bindings : List Binding}
    (blueprint : machine.store.Consists Term.isBlueprint pattern)
    (rebuildable : machine.store.Consists Term.isRebuildable value)
    (held : value.yielding machine.store = (machine.store.elements cell).toList)
    (patternHeld : pattern.yielding machine.store = (machine.store.elements patternCell).toList)
    (known : cell.place < machine.store.cells.size)
    (patternKnown : patternCell.place < machine.store.cells.size)
    (nameless : pattern.ownNames = [])
    (lengths : (machine.store.elements cell).toList.length =
      (machine.store.elements patternCell).toList.length)
    (matched : (within depth).unifyEach .binding
      ((machine.store.places cell).zip (machine.store.places patternCell)) machine =
        .ok bindings after)
    {build : List Term -> Action Term}
    (walks : ∀ later, (within (depth + 1)).walk pattern later =
      ((within depth).walkAll (later.store.places patternCell) >>= build) later)
    (builds : ∀ {later after : Machine} {copies : List Term},
      cell.place < later.store.cells.size -> later.Adds after ->
      after.store.AlikeAll copies (later.store.elements cell).toList ->
      ∃ copy last, build copies after = .ok copy last ∧ later.Restores value copy last) :
    (within (depth + 1)).TakesApart machine pattern value bindings after := by
  obtain ⟨keeps, names, givesBack⟩ := unifyEach_takesApart inverts
    (machine.store.spreads_places cell) (machine.store.spreads_places patternCell) lengths
    (fun value inside => rebuildable.part (held ▸ inside))
    (fun pattern inside => blueprint.part (patternHeld ▸ inside)) matched
  refine ⟨keeps, names_of_elements patternHeld nameless names, fun later kept grants => ?_⟩
  have onwards := keeps.trans kept
  obtain ⟨copies, last, walked, adds, alike⟩ := givesBack later
    (later.store.places patternCell) kept grants
    (onwards.elements patternCell patternKnown ▸ later.store.spreads_places patternCell)
  rw [← onwards.elements cell known] at alike
  obtain ⟨copy, final, made, restores⟩ :=
    builds (Nat.lt_of_lt_of_le known onwards.size) adds alike
  refine ⟨copy, final, ?_, restores⟩
  rw [walks, Action.bind_apply, walked]
  exact made

theorem takesApart_list
    {depth : Nat}
    (inverts : (within depth).Inverts)
    {patternCell : CellRef}
    {value : Term}
    {bindings : List Binding}
    (blueprint : machine.store.Consists Term.isBlueprint (.list patternCell))
    (rebuildable : machine.store.Consists Term.isRebuildable value)
    (matched : (within (depth + 1)).unify .binding value (.list patternCell) machine =
      .ok bindings after) :
    (within (depth + 1)).TakesApart machine (.list patternCell) value bindings after := by
  obtain ⟨cell, rfl, lengths, matchedAll⟩ :=
    unifyStep_list_eq_ok (solid_of_consists rebuildable) matched
  exact takesApart_elements inverts blueprint rebuildable rfl rfl
    (of_decide_eq_true (rebuildable _ .here).2) (of_decide_eq_true (blueprint _ .here).2)
    rfl lengths (unifyLinear_eq_ok matchedAll).1 (fun _ => rfl) newList_restores

theorem takesApart_tuple
    {depth : Nat}
    (inverts : (within depth).Inverts)
    {patternCell : CellRef}
    {value : Term}
    {bindings : List Binding}
    (blueprint : machine.store.Consists Term.isBlueprint (.tuple patternCell))
    (rebuildable : machine.store.Consists Term.isRebuildable value)
    (matched : (within (depth + 1)).unify .binding value (.tuple patternCell) machine =
      .ok bindings after) :
    (within (depth + 1)).TakesApart machine (.tuple patternCell) value bindings after := by
  obtain ⟨terms, elements, lengths, matchedAll⟩ :=
    unifyStep_tuple_eq_ok (solid_of_consists rebuildable) rfl matched
  -- A pair would match as well, but the value is none.
  obtain ⟨cell, rfl⟩ : ∃ cell, value = .tuple cell := by
    obtain ⟨kind, _⟩ := rebuildable value .here
    cases value <;> simp [Store.tupleElements?, Term.isRebuildable] at elements kind ⊢
  obtain rfl := Option.some.inj elements
  exact takesApart_elements inverts blueprint rebuildable rfl rfl
    (of_decide_eq_true (rebuildable _ .here).2) (of_decide_eq_true (blueprint _ .here).2)
    rfl lengths (unifyLinear_eq_ok matchedAll).1 (fun _ => rfl) newTuple_restores

/-- A copy of the first element in front of a copy of the list of the others. -/
theorem givesBack_headTail
    {depth : Nat}
    {middle : Machine}
    {cell remainder : CellRef}
    {head tail first : Term}
    {rest : List Term}
    {onHead onTail : List Binding}
    (headBack : (within depth).GivesBack middle onHead head first)
    (tailBack : (within depth).GivesBack after onTail tail (.list remainder))
    (onwards : middle.store.Keeps after.store)
    (elements : (after.store.elements cell).toList = first :: rest)
    (remaining : after.store.elements remainder = rest.toArray)
    (known : cell.place < after.store.cells.size)
    (remainderKnown : remainder.place < after.store.cells.size)
    (raw : Bool)
    (mark : Mark) :
    (within (depth + 1)).GivesBack after (onHead ++ onTail) (.headTail raw mark head tail)
      (.list cell) := by
  intro later kept grants
  obtain ⟨copy, next, walkedHead, restored⟩ := headBack later (onwards.trans kept)
    fun binding held => grants binding (List.mem_append_left _ held)
  have grantsTail : next.Grants onTail :=
    Machine.Grants.adds (fun binding held => grants binding (List.mem_append_right _ held))
      restored.adds
  obtain ⟨tailCopy, last, walkedTail, tailRestored⟩ :=
    tailBack next (kept.trans restored.adds.keeps) grantsTail
  obtain ⟨copied, rfl⟩ := tailRestored.list _ rfl
  have adds := restored.adds.trans tailRestored.adds
  have tailAlike := (Store.alike_list (of_decide_eq_true tailRestored.placed)
    (Nat.lt_of_lt_of_le remainderKnown (kept.trans adds.keeps).size)).mp tailRestored.alike
  rw [(kept.trans adds.keeps).elements _ remainderKnown, remaining] at tailAlike
  have alike : last.store.AlikeAll (copy :: (last.store.elements copied).toList)
      (later.store.elements cell).toList := by
    rw [kept.elements cell known, elements]
    exact .cons (restored.alike.keeps tailRestored.adds.keeps) tailAlike
  obtain ⟨whole, final, put, restores⟩ :=
    newList_restores (Nat.lt_of_lt_of_le known kept.size) adds alike
  refine ⟨whole, final, ?_, restores⟩
  change (within depth).walkHeadTail head tail later = _
  unfold walkHeadTail
  rw [Action.bind_apply, walkedHead]
  dsimp only
  rw [Action.bind_apply, walkedTail]
  exact put

theorem takesApart_headTail
    {depth : Nat}
    (inverts : (within depth).Inverts)
    {raw : Bool}
    {mark : Mark}
    {head tail value : Term}
    {bindings : List Binding}
    (blueprint : machine.store.Consists Term.isBlueprint (.headTail raw mark head tail))
    (rebuildable : machine.store.Consists Term.isRebuildable value)
    (matched : (within (depth + 1)).unify .binding value (.headTail raw mark head tail) machine =
      .ok bindings after) :
    (within (depth + 1)).TakesApart machine (.headTail raw mark head tail) value bindings
      after := by
  obtain ⟨cell, first, rest, split, rfl, elements, made, _, matchedBoth⟩ :=
    unifyStep_headTail_eq_ok (solid_of_consists rebuildable) matched
  obtain ⟨onHead, middle, others, matchedHead, matchedOthers, rfl⟩ :=
    unifyEach_cons_eq_ok.mp (unifyLinear_eq_ok matchedBoth).1
  obtain ⟨onTail, last, nothing, matchedTail, finished, rfl⟩ :=
    unifyEach_cons_eq_ok.mp matchedOthers
  obtain ⟨rfl, rfl⟩ := EStateM.Result.ok.inj finished
  rw [List.append_nil]
  -- The list of the other elements is made before anything is matched.
  have grown : machine.store.Keeps split.store := made ▸ .newCell machine.store rest.toArray
  have remainderKnown : (machine.store.newCell rest.toArray).1.place < split.store.cells.size :=
    made ▸ machine.store.newCell_known rest.toArray
  have remaining : split.store.elements (machine.store.newCell rest.toArray).1 = rest.toArray :=
    made ▸ machine.store.elements_newCell_self rest.toArray
  have headBlueprint : machine.store.Consists Term.isBlueprint head :=
    blueprint.part (by simp [Term.yielding])
  have tailBlueprint : machine.store.Consists Term.isBlueprint tail :=
    blueprint.part (by simp [Term.yielding])
  have inList : ∀ part ∈ first :: rest, split.store.Consists Term.isRebuildable part :=
    fun part held => (rebuildable.part (by simpa [Term.yielding, elements] using held)).keeps grown
  have remainderRebuildable : split.store.Consists Term.isRebuildable
      (.list (machine.store.newCell rest.toArray).1) := by
    refine Store.Consists.of_parts rfl (decide_eq_true remainderKnown) fun part held => ?_
    rw [Term.yielding, remaining] at held
    exact inList part (List.mem_cons_of_mem _ held)
  have headApart := inverts (headBlueprint.keeps grown) (inList first List.mem_cons_self)
    matchedHead
  have beforeTail := grown.trans headApart.keeps
  have tailApart := inverts (tailBlueprint.keeps beforeTail)
    (remainderRebuildable.keeps headApart.keeps) matchedTail
  have keeps := beforeTail.trans tailApart.keeps
  refine ⟨keeps, ?_, ?_⟩
  · intro level names bound
    cases level with
    | zero => cases bound
    | succ level =>
        obtain ⟨inner, inside, rfl⟩ := Store.binders?_succ.mp bound
        obtain ⟨headNames, others, headBound, othersBound, rfl⟩ :=
          List.mapM_cons_eq_some.mp inside
        obtain ⟨tailNames, none, tailBound, finished, rfl⟩ :=
          List.mapM_cons_eq_some.mp othersBound
        obtain rfl := Option.some.inj finished
        rw [← Store.binders?_keeps grown headBlueprint] at headBound
        rw [← Store.binders?_keeps beforeTail tailBlueprint] at tailBound
        simp [headApart.names level _ headBound, tailApart.names level _ tailBound,
          Term.ownNames]
  · have known : cell.place < machine.store.cells.size :=
      of_decide_eq_true (rebuildable _ .here).2
    have sinceSplit := headApart.keeps.trans tailApart.keeps
    exact givesBack_headTail headApart.givesBack tailApart.givesBack tailApart.keeps
      (by rw [keeps.elements cell known, elements])
      (by rw [sinceSplit.elements _ remainderKnown, remaining])
      (Nat.lt_of_lt_of_le known keeps.size)
      (Nat.lt_of_lt_of_le remainderKnown sinceSplit.size) raw mark

/-- At every depth, a match of a blueprint takes its value apart. -/
theorem within_inverts (depth : Nat) : (within depth).Inverts := by
  induction depth with
  | zero =>
      intro machine after pattern value bindings _ _ matched
      cases matched
  | succ depth inductionHypothesis =>
      intro machine after pattern value bindings blueprint rebuildable matched
      obtain ⟨kind, _⟩ := blueprint pattern .here
      cases pattern with
      | identifier name =>
          have notBlank : name ≠ "_" := by
            rintro rfl
            simp [Term.isBlueprint] at kind
          exact takesApart_identifier notBlank rebuildable matched
      | integer number => exact takesApart_number (.inl ⟨number, rfl⟩) rebuildable matched
      | boolean truth => exact takesApart_number (.inr ⟨truth, rfl⟩) rebuildable matched
      | none => exact takesApart_self (.inl rfl) rebuildable matched
      | nil => exact takesApart_self (.inr rfl) rebuildable matched
      | list cell => exact takesApart_list inductionHypothesis blueprint rebuildable matched
      | tuple cell => exact takesApart_tuple inductionHypothesis blueprint rebuildable matched
      | headTail raw mark head tail =>
          exact takesApart_headTail inductionHypothesis blueprint rebuildable matched
      | _ => simp [Term.isBlueprint] at kind

/-! ## Committing the bindings -/

/-- Names that are bound in a scope of their own have their values there. -/
theorem declareAll_innermost
    {scope : ScopeRef}
    {bindings : List Binding}
    {names : List String}
    (innermost : machine.scopes.back? = some scope)
    (nowhereGlobal : ∀ name, machine.isGlobal name = false)
    (targets : bindings.map Binding.target = names.map Term.identifier)
    (distinct : names.Nodup)
    (ordinary : ∀ name ∈ names, name ≠ "_" ∧ name ≠ "this") :
    ∃ declared, self.declareAll bindings machine = .ok () declared ∧
      declared.store.cells = machine.store.cells ∧ declared.scopes = machine.scopes ∧
      declared.dispatch = machine.dispatch ∧
      (∀ binding ∈ bindings, ∀ name, binding.target = .identifier name ->
        (declared.store.scope scope).get? name = some binding.value) ∧
      ∀ name, name ∉ names ->
        (declared.store.scope scope).get? name = (machine.store.scope scope).get? name := by
  induction bindings generalizing machine names with
  | nil => exact ⟨machine, rfl, rfl, rfl, rfl, by simp, fun _ _ => rfl⟩
  | cons binding rest inductionHypothesis =>
      obtain ⟨target, value⟩ := binding
      cases names with
      | nil => simp at targets
      | cons name others =>
          simp only [List.map_cons, List.cons.injEq] at targets
          obtain ⟨rfl, restTargets⟩ := targets
          obtain ⟨unseen, restDistinct⟩ := List.nodup_cons.mp distinct
          obtain ⟨⟨notBlank, notThis⟩, restOrdinary⟩ := List.forall_mem_cons.mp ordinary
          have receives : machine.bindingScope? name = some scope := by
            rw [Machine.bindingScope?, nowhereGlobal name, ← innermost]
            rfl
          have bound : machine.bindName name value =
              { machine with store := machine.store.bind scope name value } := by
            rw [Machine.bindName, receives]
          have declares : self.declareAll (⟨.identifier name, value⟩ :: rest) machine =
              self.declareAll rest (machine.bindName name value) := by
            change (self.declare ⟨.identifier name, value⟩ >>= fun _ => self.declareAll rest)
              machine = _
            unfold declare
            dsimp only
            rw [if_neg (by simpa using notBlank), if_neg (by simpa using notThis)]
            rfl
          have stillInnermost : (machine.bindName name value).scopes.back? = some scope := by
            rw [Machine.scopes_bindName, innermost]
          obtain ⟨declared, committed, cells, scopes, dispatch, values, untouched⟩ :=
            inductionHypothesis stillInnermost
              (fun other => (Machine.isGlobal_bindName _ _ _ _).trans (nowhereGlobal other))
              restTargets restDistinct restOrdinary
          refine ⟨declared, declares.trans committed, ?_, ?_, ?_, ?_, ?_⟩
          · rw [cells, bound]
            rfl
          · rw [scopes, Machine.scopes_bindName]
          · rw [dispatch, bound]
          · refine List.forall_mem_cons.mpr ⟨?_, values⟩
            rintro other same
            obtain rfl := Term.identifier.inj same
            rw [untouched _ unseen, Machine.get?_bindName receives]
          · intro other missing
            obtain ⟨apart, missing⟩ := List.ne_and_not_mem_of_not_mem_cons missing
            rw [untouched other missing, bound]
            exact (congrArg (·.get? other) (Store.scope_bind_self _ _ _ _)).trans
              (Namespace.get?_insert_of_ne _ apart value)

/-- The bindings of distinct names that are committed in a new scope are granted there. -/
theorem declareAll_pushScope
    {bindings : List Binding}
    {names : List String}
    (targets : bindings.map Binding.target = names.map Term.identifier)
    (distinct : names.Nodup)
    (ordinary : ∀ name ∈ names, name ≠ "_" ∧ name ≠ "this") :
    ∃ declared, self.declareAll bindings machine.pushScope = .ok () declared ∧
      machine.store.Keeps declared.store ∧ declared.Grants bindings := by
  have innermost : machine.pushScope.scopes.back? = some ⟨machine.store.scopes.size⟩ := by
    rw [Machine.scopes_pushScope, Array.back?_push]
  have nowhereGlobal : ∀ name, machine.pushScope.isGlobal name = false := by
    intro name
    rw [Machine.isGlobal, Machine.globals_pushScope, Array.back?_push]
    dsimp only
    rw [Machine.globalNames_pushScope]
    simp [Store.globalNames]
  obtain ⟨declared, committed, cells, scopes, _, values, _⟩ :=
    declareAll_innermost innermost nowhereGlobal targets distinct ordinary
  refine ⟨declared, committed, ?_, ?_⟩
  · have same : ∀ cell, declared.store.elements cell = machine.store.elements cell := by
      intro cell
      rw [Store.elements, cells]
      rfl
    exact ⟨Nat.le_of_eq (congrArg Array.size cells).symm, fun cell _ => same cell⟩
  · intro binding held name target
    rw [← scopes] at innermost
    exact Machine.lookup?_innermost innermost (values binding held name target)

/-- Matching takes a value apart, and reading the pattern as an expression in a scope with
the bindings puts it together again, provided that the value can be compared with itself. -/
theorem matched_value_rebuilt
    {depth level : Nat}
    {pattern value : Term}
    {names : List String}
    {bindings : List Binding}
    (blueprint : machine.store.Consists Term.isBlueprint pattern)
    (rebuildable : machine.store.Consists Term.isRebuildable value)
    (comparable : machine.store.IsComparable value)
    (bound : machine.store.binders? level pattern = some names)
    (distinct : names.Nodup)
    (matched : (within depth).unify .binding value pattern machine = .ok bindings after) :
    ∃ declared copy last,
      (within depth).declareAll bindings after.pushScope = .ok () declared ∧
      (within depth).walk pattern declared = .ok copy last ∧
      machine.store.Keeps last.store ∧ last.store.equal copy value = true := by
  have apart := within_inverts depth blueprint rebuildable matched
  have ordinary : ∀ name ∈ names, name ≠ "_" ∧ name ≠ "this" := by
    intro name listed
    obtain ⟨part, reaches, named⟩ := Store.mem_binders? bound listed
    obtain ⟨kind, _⟩ := blueprint part reaches
    cases part <;> simp [Term.ownNames, Term.isBlueprint] at named kind
    obtain ⟨_, rfl⟩ := named
    exact kind
  obtain ⟨declared, committed, kept, grants⟩ :=
    declareAll_pushScope (apart.names level names bound) distinct ordinary
  obtain ⟨copy, last, walked, restores⟩ := apart.givesBack declared kept grants
  have keeps := (apart.keeps.trans kept).trans restores.adds.keeps
  exact ⟨declared, copy, last, committed, walked, keeps,
    restores.alike.equal rebuildable comparable keeps⟩

/-- A machine with a list of seven, a tuple and true, and with the pattern of a list whose
second element is a tuple and whose last one is one. -/
def nestedMachine : Machine where
  store :=
    { cells := #[
        #[.none, .none],
        #[.integer 7, .tuple ⟨2⟩, .boolean true],
        #[.none, .text "a"],
        #[.tuple ⟨4⟩, .integer 1],
        #[.none, .identifier "y"]]
      scopes := #[{}]
      globals := #[[]]
      nextMark := 2 }
  scopes := #[⟨0⟩]
  globals := #[⟨0⟩]

/-- The pattern of a list by its first element and the list of the others. -/
def nestedPattern : Term :=
  .headTail false 1 (.identifier "x") (.list ⟨3⟩)

/-- The list is taken apart into two values and put together again. -/
theorem matched_value_rebuilt_of_headTail :
    ∃ bindings after declared copy last,
      (within 4).unify .binding (.list ⟨1⟩) nestedPattern nestedMachine = .ok bindings after ∧
      (within 4).declareAll bindings after.pushScope = .ok () declared ∧
      (within 4).walk nestedPattern declared = .ok copy last ∧
      last.store.equal copy (.list ⟨1⟩) = true := by
  have blueprint : nestedMachine.store.Consists Term.isBlueprint nestedPattern := by
    intro part reaches
    have listed := reaches.mem_of_closed
      [nestedPattern, .identifier "x", .list ⟨3⟩, .tuple ⟨4⟩, .integer 1, .none, .identifier "y"]
      (by simp [nestedPattern, nestedMachine, Term.yielding, Store.elements]) List.mem_cons_self
    simp only [List.mem_cons, List.not_mem_nil, or_false] at listed
    rcases listed with rfl | rfl | rfl | rfl | rfl | rfl | rfl <;> exact ⟨rfl, rfl⟩
  have rebuildable : nestedMachine.store.Consists Term.isRebuildable (.list ⟨1⟩) := by
    intro part reaches
    have listed := reaches.mem_of_closed
      [.list ⟨1⟩, .integer 7, .tuple ⟨2⟩, .boolean true, .none, .text "a"]
      (by simp [nestedMachine, Term.yielding, Store.elements]) List.mem_cons_self
    simp only [List.mem_cons, List.not_mem_nil, or_false] at listed
    rcases listed with rfl | rfl | rfl | rfl | rfl | rfl <;> exact ⟨rfl, rfl⟩
  have comparable : nestedMachine.store.IsComparable (.list ⟨1⟩) :=
    Store.IsFinite.isComparable ⟨3, _, rfl⟩
  have bound : nestedMachine.store.binders? 4 nestedPattern = some ["x", "y"] := rfl
  obtain ⟨bindings, after, matched⟩ : ∃ bindings after,
      (within 4).unify .binding (.list ⟨1⟩) nestedPattern nestedMachine = .ok bindings after :=
    ⟨_, _, rfl⟩
  obtain ⟨declared, copy, last, committed, walked, _, equal⟩ :=
    matched_value_rebuilt blueprint rebuildable comparable bound (by simp) matched
  exact ⟨bindings, after, declared, copy, last, matched, committed, walked, equal⟩

/-- A machine with a list whose only element is the list itself. -/
def knottedMachine : Machine where
  store := { Store.initial with cells := #[#[.none, .none], #[.list ⟨1⟩]] }
  scopes := #[⟨0⟩]
  globals := #[⟨0⟩]

/-- A name is bound to the list, and evaluating the name gives it back; but comparing it with
itself never comes to an end. -/
theorem rebuilt_list_incomparable :
    knottedMachine.store.Consists Term.isBlueprint (.identifier "x") ∧
      knottedMachine.store.Consists Term.isRebuildable (.list ⟨1⟩) ∧
      ∃ bindings after declared last,
        (within 2).unify .binding (.list ⟨1⟩) (.identifier "x") knottedMachine =
          .ok bindings after ∧
        (within 2).declareAll bindings after.pushScope = .ok () declared ∧
        (within 2).walk (.identifier "x") declared = .ok (.list ⟨1⟩) last ∧
        last.store.equal? (.list ⟨1⟩) (.list ⟨1⟩) = none := by
  refine ⟨fun part reaches => ?_, fun part reaches => ?_, _, _, _, _, rfl, rfl, rfl, ?_⟩
  · have listed := reaches.mem_of_closed [.identifier "x"] (by simp [Term.yielding])
      List.mem_cons_self
    obtain rfl := List.mem_singleton.mp listed
    exact ⟨rfl, rfl⟩
  · have listed := reaches.mem_of_closed [.list ⟨1⟩]
      (by simp [knottedMachine, Term.yielding, Store.elements]) List.mem_cons_self
    obtain rfl := List.mem_singleton.mp listed
    exact ⟨rfl, rfl⟩
  · rw [← Option.not_isSome_iff_eq_none, Option.isSome_iff_exists]
    have held : (knottedMachine.store.elements ⟨1⟩).toList = [.list ⟨1⟩] := rfl
    exact Store.not_isComparable held

end Evaluator
end PatternMachine
