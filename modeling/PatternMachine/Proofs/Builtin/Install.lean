import PatternMachine.Program.Run
import PatternMachine.Proofs.Builtin.Call

/-!
# Installing the built-in functions

Installing a built-in function registers its clause and its operation under names of their
own, so that none of the others is lost. In a machine that was prepared with the built-in
functions they can all be called.
-/

namespace PatternMachine

/-- The closure over the global scope alone. -/
def Closure.global : Closure where
  mark := 0
  scopes := #[⟨0⟩]
  globals := #[⟨0⟩]
  level := 0

theorem Dispatch.get?_insert (dispatch : Dispatch) (name other : String) (code : Code) :
    (dispatch.insert name code).get? other =
      if other == name then some code else dispatch.get? other := by
  unfold Dispatch.insert Dispatch.get?
  rw [List.lookup_cons]
  cases other == name <;> rfl

namespace Native

/-- A machine differs from another one in what it has registered and bound, and in cells
that are new. -/
structure Grows (machine after : Machine) : Prop where
  settings : after.settings = machine.settings
  calls : after.callDepth = machine.callDepth
  keeps : machine.store.Keeps after.store

theorem Grows.refl (machine : Machine) : Grows machine machine :=
  ⟨rfl, rfl, .refl _⟩

theorem Grows.trans
    {first second third : Machine}
    (earlier : Grows first second)
    (later : Grows second third) :
    Grows first third where
  settings := later.settings.trans earlier.settings
  calls := later.calls.trans earlier.calls
  keeps := earlier.keeps.trans later.keeps

theorem Grows.bindName (machine : Machine) (name : String) (value : Term) :
    Grows machine (machine.bindName name value) := by
  rcases machine.bindName_eq name value with ⟨scope, _, bound⟩ | same
  · rw [bound]
    exact ⟨rfl, rfl, Nat.le_refl _, fun _ _ => rfl⟩
  · rw [same]
    exact .refl machine

variable {operation : Native} {formal : String} {machine after : Machine} {captured : Closure}

theorem name_injective : Function.Injective name := by
  have found : ∀ operation : Native, ofName? operation.name = some operation := by
    intro operation
    cases operation <;> decide
  exact fun _ _ same =>
    Option.some.inj ((found _).symm.trans ((congrArg ofName? same).trans (found _)))

theorem escapeName_injective : Function.Injective escapeName := by
  intro first second same
  unfold escapeName at same
  exact name_injective ((String.append_right_inj _).mp ((String.append_left_inj _).mp same))

/-- No function has the name of an operation. -/
theorem name_ne_escapeName (operation other : Native) : operation.name ≠ other.escapeName := by
  intro same
  have first : operation.name.toList.head? = some '_' := by
    rw [same, escapeName, String.toList_append, String.toList_append]
    rfl
  revert first
  cases operation <;> decide

/-- Making the pattern for the argument registers nothing. -/
theorem formals_apply (operation : Native) (machine : Machine) :
    ∃ pattern middle, operation.formals machine = .ok pattern middle ∧
      middle.dispatch = machine.dispatch ∧ Grows machine middle ∧
      Receives middle.store operation.formalNames pattern := by
  have fresh : ∀ names : List String, ∃ cell middle,
      Action.newCell (names.map Term.identifier) machine = .ok cell middle ∧
        middle.dispatch = machine.dispatch ∧ Grows machine middle ∧
        cell.place < middle.store.cells.size ∧
        middle.store.elements cell = (names.map Term.identifier).toArray :=
    fun names => ⟨_, _, rfl, rfl, ⟨rfl, rfl, .newCell _ _⟩, Store.newCell_known _ _,
      Store.elements_newCell_self _ _⟩
  unfold formals
  generalize operation.formalNames = names
  rcases names with _ | ⟨first, _ | ⟨second, rest⟩⟩
  case cons.nil => exact ⟨_, machine, rfl, rfl, .refl machine, rfl⟩
  all_goals
    obtain ⟨cell, middle, ran, dispatch, grows, known, held⟩ := fresh _
    exact ⟨.tuple cell, middle, Action.bind_eq_ok.mpr ⟨cell, middle, ran, rfl⟩, dispatch, grows,
      cell, rfl, known, held⟩

/-- Installing a built-in function registers its clause and its operation. -/
theorem install_apply (captured : Closure) (operation : Native) (machine : Machine) :
    ∃ pattern mark after, operation.install captured machine = .ok () after ∧
      after.dispatch = (machine.dispatch.insert operation.escapeName (.native operation)).insert
        operation.name (.clauses operation.name
          [⟨pattern, [.evaluate (.escape mark operation.escapeName) .absent]⟩]) ∧
      Grows machine after ∧ Receives after.store operation.formalNames pattern := by
  have bound : ∀ (middle : Machine) (value : Term),
      (middle.bindName operation.name value).dispatch = middle.dispatch := by
    intro middle value
    rcases middle.bindName_eq operation.name value with ⟨scope, _, bound⟩ | same
    · rw [bound]
    · rw [same]
  obtain ⟨pattern, middle, ran, dispatch, grows, receives⟩ := operation.formals_apply machine
  let mark := middle.store.nextMark
  let registered : Machine :=
    { middle with
      store := middle.store.freshMark.2
      tally := middle.tally.count .closure
      dispatch := (middle.dispatch.insert operation.escapeName (.native operation)).insert
        operation.name (.clauses operation.name
          [⟨pattern, [.evaluate (.escape mark operation.escapeName) .absent]⟩]) }
  have registers : Grows middle registered := ⟨rfl, rfl, Nat.le_refl _, fun _ _ => rfl⟩
  have binds : Grows registered
      (registered.bindName operation.name (.closure operation.name (some captured))) :=
    .bindName _ _ _
  refine ⟨pattern, mark, _, ?_, ?_, grows.trans (registers.trans binds),
    receives.keeps (registers.keeps.trans binds.keeps)⟩
  · unfold install
    rw [Action.bind_apply, ran]
    rfl
  · rw [bound, ← dispatch]

/-- A built-in function is registered by its own installation. -/
theorem registered_of_install
    (ran : operation.install captured machine = .ok () after) :
    operation.Registered after := by
  obtain ⟨pattern, mark, _, same, dispatch, _, receives⟩ :=
    install_apply captured operation machine
  obtain ⟨_, rfl⟩ := EStateM.Result.ok.inj (ran.symm.trans same)
  refine ⟨⟨pattern, mark, receives, ?_⟩, ?_⟩
  · rw [dispatch, Dispatch.get?_insert, beq_self_eq_true, if_pos rfl]
  · rw [dispatch, Dispatch.get?_insert, if_neg, Dispatch.get?_insert, beq_self_eq_true, if_pos rfl]
    simpa using (name_ne_escapeName operation operation).symm

/-- A built-in function that is registered stays so while others are installed. -/
theorem Registered.install
    {other : Native}
    (registered : operation.Registered machine)
    (ran : other.install captured machine = .ok () after) :
    operation.Registered after := by
  by_cases same : operation = other
  · subst same
    exact registered_of_install ran
  · obtain ⟨_, _, _, again, dispatch, grows, _⟩ := install_apply captured other machine
    obtain ⟨_, rfl⟩ := EStateM.Result.ok.inj (ran.symm.trans again)
    have kept : ∀ name, name ≠ other.name -> name ≠ other.escapeName ->
        after.dispatch.get? name = machine.dispatch.get? name := by
      intro name notName notEscape
      rw [dispatch, Dispatch.get?_insert, if_neg (by simpa using notName), Dispatch.get?_insert,
        if_neg (by simpa using notEscape)]
    obtain ⟨pattern, mark, receives, code⟩ := registered.code
    refine ⟨⟨pattern, mark, receives.keeps grows.keeps, ?_⟩, ?_⟩
    · rw [kept _ (name_injective.ne same) (name_ne_escapeName _ _)]
      exact code
    · rw [kept _ (name_ne_escapeName _ _).symm (escapeName_injective.ne same)]
      exact registered.native

/-- After several installations the functions that were registered before are registered,
and those that were installed now. -/
theorem installEach_apply
    (captured : Closure)
    (operations : List Native)
    (machine : Machine) :
    ∃ after, installEach captured operations machine = .ok () after ∧ Grows machine after ∧
      ∀ operation : Native, operation ∈ operations ∨ operation.Registered machine ->
        operation.Registered after := by
  induction operations generalizing machine with
  | nil =>
      exact ⟨machine, rfl, .refl machine, fun _ covered => covered.resolve_left List.not_mem_nil⟩
  | cons first rest inductionHypothesis =>
      obtain ⟨_, _, middle, ran, _, grows, _⟩ := install_apply captured first machine
      obtain ⟨after, finished, more, registers⟩ := inductionHypothesis middle
      refine ⟨after, ?_, grows.trans more, fun operation covered => registers operation ?_⟩
      · rw [installEach, Action.bind_apply, ran]
        exact finished
      · rcases covered with listed | registered
        · rcases List.mem_cons.mp listed with rfl | later
          · exact .inr (registered_of_install ran)
          · exact .inl later
        · exact .inr (registered.install ran)

/-- Installing all built-in functions registers each of them. -/
theorem installAll_apply (machine : Machine) :
    ∃ after, installAll machine = .ok () after ∧ Grows machine after ∧
      ∀ operation : Native, operation.Registered after := by
  have listed : ∀ operation : Native, operation ∈ all := by
    intro operation
    cases operation <;> decide
  obtain ⟨captured, middle, ran, captures⟩ : ∃ captured middle,
      Action.capture machine = .ok captured middle ∧ Grows machine middle :=
    ⟨_, _, rfl, rfl, rfl, Nat.le_refl _, fun _ _ => rfl⟩
  obtain ⟨after, finished, grows, registers⟩ := installEach_apply captured all middle
  refine ⟨after, ?_, captures.trans grows, fun operation => registers _ (.inl (listed _))⟩
  rw [installAll, Action.bind_apply, ran]
  exact finished

-- Opening the installation of all built-in functions would run it.
attribute [local irreducible] installAll in
/-- A machine that was prepared with the built-in functions keeps the cells it was given,
and every built-in function can be called. -/
theorem prepared_available (store : Store) :
    store.Keeps (Machine.prepared store {} {} true).store ∧
      ∀ (operation : Native) {captured : Closure}, captured.scopes ≠ #[] ->
        operation.Available (.closure operation.name (some captured))
          (Machine.prepared store {} {} true) := by
  let machine : Machine :=
    { store := store.newScope.2.newGlobals.2
      scopes := #[store.newScope.1]
      globals := #[store.newScope.2.newGlobals.1] }
  let fresh := machine.bindName Template.exception.name (.struct Template.exception)
  have binds : Grows machine fresh := .bindName _ _ _
  have kept : store.Keeps machine.store := ⟨Nat.le_refl _, fun _ _ => rfl⟩
  obtain ⟨after, ran, grows, registers⟩ :=
    installAll_apply { Machine.fresh store with settings := {}, tracer := {} }
  have prepared : Machine.prepared store {} {} true = after := by
    unfold Machine.prepared
    dsimp only
    rw [if_pos rfl, ran]
  rw [prepared]
  refine ⟨kept.trans (binds.keeps.trans grows.keeps), fun operation _ nonempty => ?_⟩
  refine ⟨registers operation, ⟨_, rfl, nonempty⟩, fun exceeds => ?_⟩
  have limit : after.settings.maxDepth = 10000 := congrArg Settings.maxDepth grows.settings
  have calls : after.callDepth = 0 := grows.calls.trans binds.calls
  have depth : after.beginCall.callDepth = after.callDepth + 1 := rfl
  have within := exceeds.2
  rw [depth, calls] at within
  change after.settings.maxDepth < _ at within
  rw [limit] at within
  omega

/-- In particular those of one formal can. -/
theorem prepared_callable (store : Store) :
    store.Keeps (Machine.prepared store {} {} true).store ∧
      ∀ {operation : Native} {formal : String} {captured : Closure},
        operation.formalNames = [formal] -> captured.scopes ≠ #[] ->
        operation.Callable formal (.closure operation.name (some captured))
          (Machine.prepared store {} {} true) :=
  (prepared_available store).imp_right fun available {_ _ _} single nonempty =>
    (available _ nonempty).callable single

end Native
end PatternMachine
