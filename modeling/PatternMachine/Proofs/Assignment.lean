import PatternMachine.Proofs.Reachable

/-!
# Reading a name after assigning it

An assignment binds a name in the innermost scope, and there it is found first. A name
that is declared global is bound in the global scope instead, but still looked for from
the innermost scope outwards: a binding that was made before the declaration, or in a
scope around it, hides what was assigned.
-/

namespace PatternMachine
namespace Machine

/-- The name is bound at the level. -/
def BindsAt (machine : Machine) (name : String) (level : Nat) : Prop :=
  ∃ scope, machine.scopes[level]? = some scope ∧
    (machine.store.scope scope).contains name = true

theorem findBelow?_bindsAt
    {machine : Machine}
    {name : String}
    {below level : Nat}
    (found : machine.findBelow? name below = some level) :
    level < below ∧ machine.BindsAt name level := by
  induction below with
  | zero => cases found
  | succ below inductionHypothesis =>
      have further : machine.findBelow? name below = some level ->
          level < below + 1 ∧ machine.BindsAt name level := fun found =>
        (inductionHypothesis found).imp_left Nat.lt_succ_of_lt
      unfold findBelow? at found
      cases active : machine.scopes[below]? with
      | none =>
          rw [active] at found
          exact further found
      | some scope =>
          rw [active] at found
          dsimp only at found
          split at found
          · rename_i bound
            cases found
            exact ⟨Nat.lt_succ_self _, scope, active, bound⟩
          · exact further found

/-- A name that is bound at a level is found there or further inwards. -/
theorem BindsAt.findBelow?
    {machine : Machine}
    {name : String}
    {below level : Nat}
    (binds : machine.BindsAt name level)
    (inside : level < below) :
    ∃ found, machine.findBelow? name below = some found ∧ level ≤ found := by
  induction below with
  | zero => cases inside
  | succ below inductionHypothesis =>
      obtain ⟨scope, active, bound⟩ := binds
      rcases Nat.lt_succ_iff_lt_or_eq.mp inside with further | rfl
      · obtain ⟨found, same, deeper⟩ := inductionHypothesis further
        unfold Machine.findBelow?
        split
        · split
          · exact ⟨below, rfl, Nat.le_of_lt further⟩
          · exact ⟨found, same, deeper⟩
        · exact ⟨found, same, deeper⟩
      · unfold Machine.findBelow?
        rw [active]
        dsimp only
        rw [if_pos bound]
        exact ⟨level, rfl, Nat.le_refl _⟩

/-- The name is declared global in the innermost scope, but found in an active scope
inside the global one. -/
def HidesGlobal (machine : Machine) (name : String) : Prop :=
  machine.isGlobal name = true ∧ ∃ level, machine.find? name = some (level + 1)

theorem lookup?_of_find?
    {machine : Machine}
    {name : String}
    {level : Nat}
    {scope : ScopeRef}
    (found : machine.find? name = some level)
    (active : machine.scopes[level]? = some scope) :
    machine.lookup? name = (machine.store.scope scope).get? name := by
  unfold lookup?
  rw [found, Option.bind_eq_bind, Option.bind_some, active, Option.bind_eq_bind, Option.bind_some]

/-! ## What binding a name does to the name -/

variable {machine : Machine} {name : String} {value : Term}

@[simp] theorem scopes_bindName (machine : Machine) (name : String) (value : Term) :
    (machine.bindName name value).scopes = machine.scopes := by
  rcases machine.bindName_eq name value with ⟨scope, _, bound⟩ | same
  · rw [bound]
  · rw [same]

@[simp] theorem isGlobal_bindName (machine : Machine) (name other : String) (value : Term) :
    (machine.bindName name value).isGlobal other = machine.isGlobal other := by
  rcases machine.bindName_eq name value with ⟨scope, _, bound⟩ | same
  · rw [bound]
    rfl
  · rw [same]

theorem get?_bindName
    {scope : ScopeRef}
    (binding : machine.bindingScope? name = some scope) :
    ((machine.bindName name value).store.scope scope).get? name = some value := by
  unfold bindName
  rw [binding]
  exact (congrArg (·.get? name) (Store.scope_bind_self _ _ _ _)).trans
    (Namespace.get?_insert_self _ _ _)

/-- A name that was bound is found at the level where it was bound, or further inwards. -/
theorem find?_bindName
    (value : Term)
    {scope : ScopeRef}
    {level : Nat}
    (binding : machine.bindingScope? name = some scope)
    (active : machine.scopes[level]? = some scope) :
    ∃ found, (machine.bindName name value).find? name = some found ∧ level ≤ found ∧
      found < machine.scopes.size := by
  have bound : (machine.bindName name value).BindsAt name level := by
    refine ⟨scope, by rwa [scopes_bindName], ?_⟩
    rw [Namespace.contains, get?_bindName binding, Option.isSome_some]
  obtain ⟨inside, _⟩ := Array.getElem?_eq_some_iff.mp active
  rw [← machine.scopes_bindName name value] at inside
  obtain ⟨found, same, deeper⟩ := bound.findBelow? inside
  have within := (findBelow?_bindsAt same).1
  rw [scopes_bindName] at within
  exact ⟨found, same, deeper, within⟩

/-- What a name was bound to is found, unless the binding is hidden. -/
theorem lookup?_bindName
    (nonempty : 0 < machine.scopes.size)
    (visible : ¬ (machine.bindName name value).HidesGlobal name) :
    (machine.bindName name value).lookup? name = some value := by
  have located : ∀ (level : Nat) (scope : ScopeRef), machine.bindingScope? name = some scope ->
      machine.scopes[level]? = some scope ->
      (machine.bindName name value).find? name = some level ->
      (machine.bindName name value).lookup? name = some value := by
    intro level scope binding active found
    rw [lookup?_of_find? found (by rwa [scopes_bindName]), get?_bindName binding]
  cases declared : machine.isGlobal name with
  | true =>
      have outermost := Array.getElem?_eq_getElem nonempty
      have binding : machine.bindingScope? name = some machine.scopes[0] := by
        rw [bindingScope?, declared, if_pos rfl, outermost]
      obtain ⟨level, found, _⟩ := find?_bindName value binding outermost
      cases level with
      | zero => exact located 0 _ binding outermost found
      | succ level =>
          exact absurd ⟨(isGlobal_bindName _ _ _ _).trans declared, level, found⟩ visible
  | false =>
      have innermost : machine.scopes[machine.scopes.size - 1]? = machine.scopes.back? :=
        Array.back?_eq_getElem?.symm
      have inside : machine.scopes.size - 1 < machine.scopes.size := by omega
      have active := Array.getElem?_eq_getElem inside
      have binding : machine.bindingScope? name =
          some machine.scopes[machine.scopes.size - 1] := by
        rw [bindingScope?, declared, ← active, innermost]
        rfl
      obtain ⟨level, found, deeper, within⟩ := find?_bindName value binding active
      obtain rfl : level = machine.scopes.size - 1 := by omega
      exact located _ _ binding active found

/-- A binding that is hidden stands in the global scope, and another one is found. -/
theorem lookup?_bindName_of_hidesGlobal
    {global : ScopeRef}
    (outermost : machine.scopes[0]? = some global)
    (hidden : (machine.bindName name value).HidesGlobal name) :
    ((machine.bindName name value).store.scope global).get? name = some value ∧
      ∃ level scope shown, machine.scopes[level + 1]? = some scope ∧
        ((machine.bindName name value).store.scope scope).get? name = some shown ∧
        (machine.bindName name value).lookup? name = some shown := by
  obtain ⟨declared, level, found⟩ := hidden
  rw [isGlobal_bindName] at declared
  have binding : machine.bindingScope? name = some global := by
    rw [bindingScope?, declared, if_pos rfl, outermost]
  obtain ⟨scope, active, bound⟩ := (findBelow?_bindsAt found).2
  obtain ⟨shown, held⟩ := Option.isSome_iff_exists.mp bound
  refine ⟨get?_bindName binding, level, scope, shown, ?_, held, ?_⟩
  · rwa [scopes_bindName] at active
  · rw [lookup?_of_find? found active, held]

end Machine

namespace Evaluator

/-- Reading a name yields its value and changes nothing. -/
theorem walk_identifier
    {machine : Machine}
    {name : String}
    {value : Term}
    (bound : machine.lookup? name = some value)
    (depth : Nat) :
    (within (depth + 1)).walk (.identifier name) machine = .ok value machine := by
  change walkIdentifier name machine = _
  unfold walkIdentifier Action.lookup?
  simp only [Action.bind_apply, Action.get_apply, Action.pure_apply, bound]

/-- Whatever is there matches a name. -/
theorem unify_identifier
    {name : String}
    (notBlank : name ≠ "_")
    (depth : Nat)
    (value : Term) :
    (within (depth + 1)).unify .binding value (.identifier name) =
      if value.isAbsent then Action.raise .machineError "unify called with a missing node"
      else pure [⟨.identifier name, value⟩] := by
  change unifyStep (within depth) .binding value (.identifier name) = _
  unfold unifyStep
  cases value.isAbsent <;> simp [Term.isAbsent, notBlank]

/-- Committing a binding of a name binds the name. -/
theorem declareAll_identifier
    {self : Evaluator}
    {name : String}
    {value : Term}
    {machine after : Machine}
    (notBlank : name ≠ "_")
    (declared : self.declareAll [⟨.identifier name, value⟩] machine = .ok () after) :
    after = machine.bindName name value := by
  obtain ⟨_, middle, committed, finished⟩ := Action.bind_eq_ok.mp declared
  obtain ⟨_, rfl⟩ := EStateM.Result.ok.inj finished
  unfold declare at committed
  dsimp only at committed
  rw [if_neg (by simpa using notBlank)] at committed
  split at committed
  · cases committed
  · obtain ⟨_, rfl⟩ := EStateM.Result.ok.inj committed
    rfl

/-- All that an assignment does, once its expression has a value, is to bind the name. -/
theorem exec_assignment
    {depth : Nat}
    {expression value : Term}
    {name : String}
    {machine after : Machine}
    (notBlank : name ≠ "_")
    (assigned : (within depth).exec (.evaluate expression (.identifier name)) machine =
      .ok value after) :
    ∃ middle, (within depth).walk expression machine = .ok value middle ∧
      after = middle.bindName name value := by
  have assignment : (within depth).exec (.evaluate expression (.identifier name)) =
      (within depth).walk expression >>= fun value =>
        (within depth).unify .binding value (.identifier name) >>= fun bindings =>
          (within depth).declareAll bindings >>= fun _ => pure value := rfl
  rw [assignment] at assigned
  obtain ⟨result, middle, walked, matching⟩ := Action.bind_eq_ok.mp assigned
  obtain ⟨bindings, matchedMachine, matched, declaring⟩ := Action.bind_eq_ok.mp matching
  obtain ⟨_, final, declared, returned⟩ := Action.bind_eq_ok.mp declaring
  obtain ⟨rfl, rfl⟩ := EStateM.Result.ok.inj returned
  refine ⟨middle, walked, ?_⟩
  cases depth with
  | zero => cases walked
  | succ depth =>
      rw [unify_identifier notBlank] at matched
      split at matched
      · cases matched
      · obtain ⟨rfl, rfl⟩ := EStateM.Result.ok.inj matched
        exact declareAll_identifier notBlank declared

/-- Reading a name after assigning it yields the value that was assigned, unless the name
is declared global in the innermost scope and bound between that and the global scope.
Then the global scope holds the value, and reading yields what the hiding scope holds. -/
theorem read_after_assignment
    {machine after : Machine}
    {hand : List Term}
    (reachable : machine.Reachable hand)
    {expression value : Term}
    (held : expression ∈ hand)
    {name : String}
    (notBlank : name ≠ "_")
    {depth : Nat}
    (assigned : (within depth).exec (.evaluate expression (.identifier name)) machine =
      .ok value after)
    (reading : Nat) :
    (¬ after.HidesGlobal name ->
      (within (reading + 1)).walk (.identifier name) after = .ok value after) ∧
    (after.HidesGlobal name ->
      ∃ global level scope shown, after.scopes[0]? = some global ∧
        (after.store.scope global).get? name = some value ∧
        after.scopes[level + 1]? = some scope ∧
        (after.store.scope scope).get? name = some shown ∧
        (within (reading + 1)).walk (.identifier name) after = .ok shown after) := by
  obtain ⟨middle, walked, rfl⟩ := exec_assignment notBlank assigned
  obtain ⟨root, rooted, respects⟩ := reachable.rooted
  -- The global scope is still there once the expression has been evaluated.
  have evaluated := (within_lawful depth).walk expression (respects expression held)
  have outermost : middle.scopes[0]? = some root := by
    have evolves := evaluated.evolves rooted.respects
    rw [Action.after_ok walked] at evolves
    exact (evolves.rooted rooted).respects.stack
  constructor
  · intro visible
    obtain ⟨nonempty, _⟩ := Array.getElem?_eq_some_iff.mp outermost
    exact walk_identifier (Machine.lookup?_bindName nonempty visible) reading
  · intro hidden
    obtain ⟨written, level, scope, shown, active, hides, found⟩ :=
      Machine.lookup?_bindName_of_hidesGlobal outermost hidden
    refine ⟨root, level, scope, shown, ?_, written, ?_, hides, walk_identifier found reading⟩
    · rwa [Machine.scopes_bindName]
    · rwa [Machine.scopes_bindName]

/-- A machine in a scope that binds `x` and `y` and then declares `x` global. -/
def hidingMachine : Machine :=
  let opened := (Machine.prepared Store.initial {} {} false).pushScope
  let bound := (opened.bindName "x" (.integer 1)).bindName "y" (.integer 1)
  ((Operation.exec (.declareGlobals ["x"])).run (within 1)).after bound

theorem hidingMachine_reachable : hidingMachine.Reachable [.none, .integer 1, .integer 2] := by
  have plain : ∀ term ∈ [Term.integer 1, .integer 2], term.Plain := by
    intro term member property
    rcases List.mem_cons.mp member with rfl | last
    · trivial
    · obtain rfl := List.mem_singleton.mp last
      trivial
  have read := (Machine.Reachable.boot {} {} false).literals plain
  have bound := (read.openScope.bind "x" List.mem_cons_self).bind "y" List.mem_cons_self
  have nothing : ∀ term ∈ (Operation.exec (.declareGlobals ["x"])).terms,
      term ∈ [Term.integer 1, .integer 2] := by
    simp [Operation.terms, Statement.terms]
  exact bound.perform 1 nothing

/-- Both names are assigned two. Reading `y` then yields two, but reading `x` yields one,
and it is the global scope that binds `x` to two. -/
theorem read_after_assignment_of_hiding :
    (∃ after,
      (within 2).exec (.evaluate (.integer 2) (.identifier "y")) hidingMachine =
        .ok (.integer 2) after ∧
      (within 1).walk (.identifier "y") after = .ok (.integer 2) after) ∧
    ∃ after global,
      (within 2).exec (.evaluate (.integer 2) (.identifier "x")) hidingMachine =
        .ok (.integer 2) after ∧
      (within 1).walk (.identifier "x") after = .ok (.integer 1) after ∧
      after.scopes[0]? = some global ∧
      (after.store.scope global).get? "x" = some (.integer 2) := by
  have held : Term.integer 2 ∈ [Term.none, .integer 1, .integer 2] := by simp
  constructor
  · obtain ⟨after, assigned, visible⟩ : ∃ after,
        (within 2).exec (.evaluate (.integer 2) (.identifier "y")) hidingMachine =
          .ok (.integer 2) after ∧ after.isGlobal "y" = false :=
      ⟨_, rfl, rfl⟩
    have read := read_after_assignment hidingMachine_reachable held (by decide) assigned 0
    exact ⟨after, assigned, read.1 fun hidden => Bool.false_ne_true (visible.symm.trans hidden.1)⟩
  · obtain ⟨after, assigned, hidden, reads⟩ : ∃ after,
        (within 2).exec (.evaluate (.integer 2) (.identifier "x")) hidingMachine =
          .ok (.integer 2) after ∧ after.HidesGlobal "x" ∧
        (within 1).walk (.identifier "x") after = .ok (.integer 1) after :=
      ⟨_, rfl, ⟨rfl, 0, rfl⟩, rfl⟩
    have read := read_after_assignment hidingMachine_reachable held (by decide) assigned 0
    obtain ⟨global, _, _, _, outermost, written, _⟩ := read.2 hidden
    exact ⟨after, global, assigned, reads, outermost, written⟩

end Evaluator
end PatternMachine
