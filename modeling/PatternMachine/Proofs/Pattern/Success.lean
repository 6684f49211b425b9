import PatternMachine.Proofs.Pattern.Binders
import PatternMachine.Proofs.Pattern.Rules

/-!
# What a successful match tells

A match that succeeds has gone through one rule. For each pattern with parts, the rule
tells what the term was and how the parts were matched.
-/

namespace PatternMachine

/-- An action that refuses yields nothing. -/
theorem Action.Refuses.not_ok
    {α : Type}
    {action : Action α}
    {machine after : Machine}
    {result : α}
    (refuses : action.Refuses machine) :
    action machine ≠ .ok result after := by
  obtain ⟨stop, stopped, _⟩ := refuses
  rw [stopped]
  rintro ⟨⟩

namespace Evaluator

variable {self : Evaluator} {machine after : Machine}

/-- A first match succeeds, and then the others do. -/
theorem unifyEach_cons_eq_ok
    {mode : Mode}
    {termSite patternSite : Site}
    {rest : List (Site × Site)}
    {bindings : List Binding} :
    self.unifyEach mode ((termSite, patternSite) :: rest) machine = .ok bindings after ↔
      ∃ first middle others,
        self.unify mode (machine.store.find termSite) (machine.store.find patternSite) machine =
          .ok first middle ∧
        self.unifyEach mode rest middle = .ok others after ∧
        bindings = first ++ others := by
  rw [unifyEach_cons, Action.bind_eq_ok]
  constructor
  · rintro ⟨first, middle, matched, rest⟩
    obtain ⟨others, last, matchedRest, joined⟩ := Action.bind_eq_ok.mp rest
    obtain ⟨rfl, rfl⟩ := EStateM.Result.ok.inj joined
    exact ⟨first, middle, others, matched, matchedRest, rfl⟩
  · rintro ⟨first, middle, others, matched, matchedRest, rfl⟩
    exact ⟨first, middle, matched, Action.bind_eq_ok.mpr ⟨others, after, matchedRest, rfl⟩⟩

/-- Bindings in which no name is repeated bind distinct names. -/
theorem nodup_of_repeatedName?
    {seen : List String}
    {bindings : List Binding}
    (linear : repeatedName? seen bindings = none) :
    (Binding.names bindings).Nodup ∧ ∀ name ∈ Binding.names bindings, name ∉ seen := by
  induction bindings generalizing seen with
  | nil => simp [Binding.names]
  | cons binding rest inductionHypothesis =>
      obtain ⟨target, value⟩ := binding
      cases target with
      | identifier name =>
          simp only [repeatedName?] at linear
          split at linear
          · cases linear
          · rename_i unseen
            obtain ⟨distinct, apart⟩ := inductionHypothesis linear
            refine ⟨List.nodup_cons.mpr ⟨fun again => ?_, distinct⟩, ?_⟩
            · exact apart name again List.mem_cons_self
            · refine List.forall_mem_cons.mpr ⟨by simpa using unseen, fun other later => ?_⟩
              exact fun known => apart other later (List.mem_cons_of_mem _ known)
      | _ => exact inductionHypothesis linear

/-- The check for names bound twice yields the bindings it is given. Unless the settings
allow it, no name is bound twice. -/
theorem checkLinear_eq_ok
    {mode : Mode}
    {bindings checked : List Binding}
    (passed : checkLinear mode bindings machine = .ok checked after) :
    checked = bindings ∧ after = machine ∧
      (mode = .binding -> machine.settings.allowNonLinear = false ->
        (Binding.names bindings).Nodup) := by
  unfold checkLinear at passed
  rw [Action.bind_apply, Action.get_apply] at passed
  revert passed
  dsimp only
  split
  · cases linear : repeatedName? [] bindings with
    | some name => rintro ⟨⟩
    | none =>
        rintro ⟨⟩
        exact ⟨rfl, rfl, fun _ _ => (nodup_of_repeatedName? linear).1⟩
  · rename_i unchecked
    rintro ⟨⟩
    refine ⟨rfl, rfl, ?_⟩
    rintro rfl strict
    simp [strict] at unchecked

theorem unifyLinear_eq_ok
    {mode : Mode}
    {terms patterns : List Site}
    {bindings : List Binding}
    (matched : self.unifyLinear mode terms patterns machine = .ok bindings after) :
    self.unifyEach mode (terms.zip patterns) machine = .ok bindings after ∧
      (mode = .binding -> after.settings.allowNonLinear = false ->
        (Binding.names bindings).Nodup) := by
  obtain ⟨yielded, middle, each, passed⟩ := Action.bind_eq_ok.mp matched
  obtain ⟨rfl, rfl, distinct⟩ := checkLinear_eq_ok passed
  exact ⟨each, distinct⟩

/-! ## Containers -/

/-- The parts of a container that matches are matched one by one. -/
theorem unifyStep_list_eq_ok
    {value : Term}
    {patternCell : CellRef}
    {bindings : List Binding}
    (solid : value.transparent? = none)
    (matched : self.unifyStep .binding value (.list patternCell) machine = .ok bindings after) :
    ∃ cell, value = .list cell ∧
      (machine.store.elements cell).toList.length =
        (machine.store.elements patternCell).toList.length ∧
      self.unifyLinear .binding (machine.store.places cell) (machine.store.places patternCell)
        machine = .ok bindings after := by
  have direct : value.isDirect .binding = true := by cases value <;> rfl
  by_cases fits : ∃ cell, value = .list cell ∧
      (machine.store.elements cell).toList.length =
        (machine.store.elements patternCell).toList.length
  · obtain ⟨cell, rfl, lengths⟩ := fits
    rw [unifyStep_list lengths] at matched
    exact ⟨cell, rfl, lengths, matched⟩
  · refine ((unifyStep_list_refuses direct solid fun cell same lengths => ?_).not_ok matched).elim
    exact fits ⟨cell, same, lengths⟩

theorem unifyStep_tuple_eq_ok
    {value pattern : Term}
    {patterns : List Term}
    {bindings : List Binding}
    (solid : value.transparent? = none)
    (patternElements : machine.store.tupleElements? pattern = some patterns)
    (matched : self.unifyStep .binding value pattern machine = .ok bindings after) :
    ∃ terms, machine.store.tupleElements? value = some terms ∧
      terms.length = patterns.length ∧
      self.unifyLinear .binding (machine.store.sites value) (machine.store.sites pattern)
        machine = .ok bindings after := by
  have direct : value.isDirect .binding = true := by cases value <;> rfl
  by_cases fits : ∃ terms, machine.store.tupleElements? value = some terms ∧
      terms.length = patterns.length
  · obtain ⟨terms, elements, lengths⟩ := fits
    rw [unifyStep_tuple elements patternElements lengths] at matched
    exact ⟨terms, elements, lengths, matched⟩
  · refine ((unifyStep_tuple_refuses direct solid patternElements
      fun terms elements lengths => ?_).not_ok matched).elim
    exact fits ⟨terms, elements, lengths⟩

/-- The first element of a list and a new list of the others are matched. -/
theorem unifyStep_headTail_eq_ok
    {raw : Bool}
    {mark : Mark}
    {value head tail : Term}
    {bindings : List Binding}
    (solid : value.transparent? = none)
    (matched : self.unifyStep .binding value (.headTail raw mark head tail) machine =
      .ok bindings after) :
    ∃ cell first rest split, value = .list cell ∧
      (machine.store.elements cell).toList = first :: rest ∧
      split.store = (machine.store.newCell rest.toArray).2 ∧
      split.settings = machine.settings ∧
      self.unifyLinear .binding
        [.given first, .given (.list (machine.store.newCell rest.toArray).1)]
        [.given head, .given tail] split = .ok bindings after := by
  have direct : value.isDirect .binding = true := by cases value <;> rfl
  by_cases fits : ∃ cell first rest, value = .list cell ∧
      (machine.store.elements cell).toList = first :: rest
  · obtain ⟨cell, first, rest, rfl, elements⟩ := fits
    rw [unifyStep_headTail elements] at matched
    obtain ⟨remainder, split, made, matchedBoth⟩ := Action.bind_eq_ok.mp matched
    rw [Action.newList_apply] at made
    obtain ⟨rfl, rfl⟩ := EStateM.Result.ok.inj made
    refine ⟨cell, first, rest, _, rfl, elements, ?_, ?_, matchedBoth⟩ <;> rfl
  · refine ((unifyStep_headTail_refuses direct solid (fun cell same => ?_) (by simp)).not_ok
      matched).elim
    cases elements : (machine.store.elements cell).toList with
    | nil => rfl
    | cons first rest => exact absurd ⟨cell, first, rest, same, elements⟩ fits

/-! ## Patterns with a pattern inside -/

/-- A named pattern adds its own name to the bindings of the pattern inside. -/
theorem unifyStep_named_eq_ok
    {mark : Mark}
    {name : String}
    {value inner : Term}
    {bindings : List Binding}
    (matched : self.unifyStep .binding value (.named mark name inner) machine =
      .ok bindings after) :
    ∃ first middle, self.unify .binding value inner machine = .ok first middle ∧
      bindings = first ++ [⟨.identifier name, value⟩] ∧
      (middle.settings.allowNonLinear = false -> (Binding.names bindings).Nodup) := by
  cases absent : value.isAbsent with
  | true => exact ((unifyStep_absent absent).not_ok matched).elim
  | false =>
      cases matchable : isMatchable value with
      | false =>
          exact ((unifyStep_unmatchable (by simp) (by cases value <;> rfl) matchable).not_ok
            matched).elim
      | true =>
          rw [unifyStep_named (by cases value <;> rfl) absent matchable] at matched
          obtain ⟨first, middle, inside, rest⟩ := Action.bind_eq_ok.mp matched
          obtain ⟨target, counted, made, passed⟩ := Action.bind_eq_ok.mp rest
          obtain ⟨rfl, rfl⟩ := EStateM.Result.ok.inj made
          obtain ⟨rfl, rfl, distinct⟩ := checkLinear_eq_ok passed
          exact ⟨first, middle, inside, rfl, distinct rfl⟩

/-- A guarded pattern yields the bindings of the pattern under the guard. -/
theorem unifyStep_guarded_eq_ok
    {mark : Mark}
    {value condition consequent alternative : Term}
    {bindings : List Binding}
    (matched : self.unifyStep .binding value
      (.conditional mark condition consequent alternative) machine = .ok bindings after) :
    ∃ middle, self.unify .binding value consequent machine = .ok bindings middle := by
  have guarded : self.unifyGuarded .binding value mark condition consequent alternative
      machine = .ok bindings after := by
    cases value <;> first | exact matched | cases matched
  unfold unifyGuarded at guarded
  split at guarded
  · cases guarded
  · obtain ⟨first, middle, inside, rest⟩ := Action.bind_eq_ok.mp guarded
    obtain ⟨verdict, judged, _, rest⟩ := Action.bind_eq_ok.mp rest
    obtain ⟨store, _, _, rest⟩ := Action.bind_eq_ok.mp rest
    revert rest
    split
    · rintro ⟨⟩
      exact ⟨middle, inside⟩
    · exact fun failed =>
        ((Action.Refuses.display_bind fun _ => refuses_mismatch _).not_ok failed).elim

/-- A quoted pattern is looked through. -/
theorem unifyStep_quote_eq_ok
    {value inner : Term}
    {bindings : List Binding}
    (unquoted : ∀ inner, value ≠ .quote inner)
    (matched : self.unifyStep .binding value (.quote inner) machine = .ok bindings after) :
    self.unify .binding value inner machine = .ok bindings after := by
  cases value with
  | quote inner => exact absurd rfl (unquoted inner)
  | _ => first | exact matched | cases matched

/-! ## Objects -/

/-- Only an object matches an object, member by member. -/
theorem unifyStep_object_eq_ok
    {value : Term}
    {patternOwner : Option Template}
    {patternMemory : CellRef}
    {bindings : List Binding}
    (unquoted : ∀ inner, value ≠ .quote inner)
    (matched : self.unifyStep .binding value (.object patternOwner patternMemory) machine =
      .ok bindings after) :
    ∃ owner memory, value = .object owner memory ∧
      (machine.store.elements memory).toList.length =
        (machine.store.elements patternMemory).toList.length ∧
      self.unifyLinear .binding (machine.store.places memory)
        (machine.store.places patternMemory) machine = .ok bindings after := by
  have last (apart : value.kind ≠ .object) :
      unifyEqual value (.object patternOwner patternMemory) machine ≠ .ok bindings after :=
    Action.Refuses.not_ok (unifyEqual_refuses apart)
  cases value with
  | object owner memory =>
      have objects : self.unifyObjects .binding (.object owner memory)
          (.object patternOwner patternMemory) machine = .ok bindings after := matched
      unfold unifyObjects at objects
      dsimp only at objects
      rw [Action.bind_apply, Action.store_apply] at objects
      dsimp only at objects
      split at objects
      · cases objects
      · split at objects
        · cases objects
        · rename_i lengths
          exact ⟨owner, memory, rfl, by simpa using lengths, objects⟩
  | quote inner => exact absurd rfl (unquoted inner)
  | headTail raw => cases raw <;> exact (last (by simp [Term.kind]) matched).elim
  | _ => first
      | cases matched
      | exact (last (by simp [Term.kind]) matched).elim

/-- The data members of an object match the elements of the argument of a constructor, or
the first of them matches the argument. -/
theorem unifyConstructor_eq_ok
    {owner : Option Template}
    {memory : CellRef}
    {callee argument : Term}
    {bindings : List Binding}
    (matched : self.unifyConstructor .binding owner memory callee argument machine =
      .ok bindings after) :
    (∃ members patterns, machine.store.tupleElements? argument = some patterns ∧
      members.length = patterns.length ∧
      self.unifyLinear .binding members (machine.store.sites argument) machine =
        .ok bindings after) ∨
    ∃ member, self.unify .binding member argument machine = .ok bindings after := by
  cases callee with
  | identifier name =>
      unfold unifyConstructor at matched
      dsimp only at matched
      split at matched
      · cases matched
      · split at matched
        · cases matched
        · rename_i template _
          rw [Action.bind_apply, Action.store_apply] at matched
          dsimp only at matched
          cases elements : machine.store.tupleElements? argument with
          | some patterns =>
              rw [elements] at matched
              dsimp only at matched
              split at matched
              · cases matched
              · rename_i lengths
                have same : patterns.length = (machine.store.dataSlots template).length := by
                  simpa using lengths
                exact .inl ⟨_, patterns, rfl, by rw [List.length_map, same], matched⟩
          | none =>
              rw [elements] at matched
              cases slots : machine.store.dataSlots template with
              | nil =>
                  rw [slots] at matched
                  cases matched
              | cons slot rest =>
                  rw [slots] at matched
                  exact .inr ⟨_, matched⟩
  | _ => exact ((Action.Refuses.display_bind fun _ => refuses_mismatch _).not_ok matched).elim

/-- Only an object matches the pattern of a constructor. -/
theorem unifyStep_apply_eq_ok
    {value callee argument : Term}
    {mark : Mark}
    {bindings : List Binding}
    (unquoted : ∀ inner, value ≠ .quote inner)
    (evaluated : ∀ mark callee argument, value ≠ .apply mark callee argument)
    (matched : self.unifyStep .binding value (.apply mark callee argument) machine =
      .ok bindings after) :
    ∃ owner memory, value = .object owner memory ∧
      self.unifyConstructor .binding owner memory callee argument machine =
        .ok bindings after := by
  have last (apart : value.kind ≠ .apply) :
      unifyEqual value (.apply mark callee argument) machine ≠ .ok bindings after :=
    Action.Refuses.not_ok (unifyEqual_refuses apart)
  cases value with
  | object owner memory => exact ⟨owner, memory, rfl, matched⟩
  | quote inner => exact absurd rfl (unquoted inner)
  | apply mark callee argument => exact absurd rfl (evaluated mark callee argument)
  | headTail raw => cases raw <;> exact (last (by simp [Term.kind]) matched).elim
  | _ => first
      | cases matched
      | exact (last (by simp [Term.kind]) matched).elim

end Evaluator
end PatternMachine
