import PatternMachine.Proofs.Calling
import PatternMachine.Proofs.Pattern.Rebuilding
import PatternMachine.Proofs.Pattern.Rules

/-!
# Calling a built-in function

A built-in function of one formal takes any argument under the name of the formal, and one
of two formals takes the elements of a pair or of a tuple of two. The function runs its
operation. The call hands on what the operation yields or raises, and the caller gets its
scopes and its position back.
-/

namespace PatternMachine

/-- A note changes the trace only. -/
theorem Machine.noting_keeps (machine : Machine) (event : TraceEvent) :
    (machine.noting event).store = machine.store ∧
      (machine.noting event).scopes = machine.scopes ∧
      (machine.noting event).globals = machine.globals ∧
      (machine.noting event).dispatch = machine.dispatch := by
  unfold noting
  split <;> exact ⟨rfl, rfl, rfl, rfl⟩

namespace Native

/-- The clause of a built-in function of one formal: it takes the whole argument and
escapes to the operation. -/
def clause (operation : Native) (mark : Mark) (formal : String) : Clause :=
  ⟨.identifier formal, [.evaluate (.escape mark operation.escapeName) .absent]⟩

/-- A built-in function of one formal is installed: its name and the name of its operation
stand for the code that was made for them. -/
structure Installed (operation : Native) (formal : String) (machine : Machine) : Prop where
  single : operation.formalNames = [formal]
  code : ∃ mark, machine.dispatch.get? operation.name =
    some (.clauses operation.name [operation.clause mark formal])
  native : machine.dispatch.get? operation.escapeName = some (.native operation)

/-- A value is a built-in function that is installed, and there is room for one more call. -/
structure Callable (operation : Native) (formal : String) (function : Term)
    (machine : Machine) : Prop extends operation.Installed formal machine where
  closure : ∃ captured, function = .closure operation.name (some captured) ∧
    captured.scopes ≠ #[]
  room : ¬ machine.beginCall.ExceedsDepth

/-- An operation was entered: it finds the argument under the name of its formal, and the
cells are those of the caller. -/
structure Entered (formal : String) (argument : Term) (machine entered : Machine) : Prop where
  bound : entered.lookup? formal = some argument
  cells : entered.store.cells = machine.store.cells

/-- A pattern takes an argument apart into formals: one formal takes the whole argument, and
several formals take the elements of a tuple. -/
def Receives (store : Store) : List String -> Term -> Prop
  | [name], pattern => pattern = .identifier name
  | names, pattern => ∃ cell : CellRef, pattern = .tuple cell ∧
      cell.place < store.cells.size ∧ store.elements cell = (names.map Term.identifier).toArray

/-- A built-in function is registered: its name stands for a clause that takes the argument
apart into the formals and escapes to the operation. -/
structure Registered (operation : Native) (machine : Machine) : Prop where
  code : ∃ pattern mark, Receives machine.store operation.formalNames pattern ∧
    machine.dispatch.get? operation.name = some (.clauses operation.name
      [⟨pattern, [.evaluate (.escape mark operation.escapeName) .absent]⟩])
  native : machine.dispatch.get? operation.escapeName = some (.native operation)

/-- A value is a built-in function that is registered, and there is room for one more
call. -/
structure Available (operation : Native) (function : Term) (machine : Machine) : Prop
    extends operation.Registered machine where
  closure : ∃ captured, function = .closure operation.name (some captured) ∧
    captured.scopes ≠ #[]
  room : ¬ machine.beginCall.ExceedsDepth

/-- The formals of an operation are names that a pattern binds, each once. -/
theorem formalNames_bindable (operation : Native) :
    operation.formalNames.Nodup ∧ ∀ name ∈ operation.formalNames, name ≠ "_" ∧ name ≠ "this" := by
  cases operation <;> decide

variable {operation : Native} {function : Term} {machine later : Machine}

/-- A single formal is the pattern for the argument. -/
theorem Registered.installed
    {formal : String}
    (registered : operation.Registered machine)
    (single : operation.formalNames = [formal]) :
    operation.Installed formal machine := by
  obtain ⟨pattern, mark, receives, code⟩ := registered.code
  rw [single] at receives
  obtain rfl : pattern = .identifier formal := receives
  exact ⟨single, ⟨mark, code⟩, registered.native⟩

theorem Available.callable
    {formal : String}
    (available : operation.Available function machine)
    (single : operation.formalNames = [formal]) :
    operation.Callable formal function machine :=
  ⟨available.toRegistered.installed single, available.closure, available.room⟩

theorem Callable.available
    {formal : String}
    (callable : operation.Callable formal function machine) :
    operation.Available function machine := by
  obtain ⟨mark, code⟩ := callable.code
  refine ⟨⟨⟨_, mark, ?_, code⟩, callable.native⟩, callable.closure, callable.room⟩
  rw [callable.single]
  exact rfl

/-- A pattern for the argument stays one as long as no cell changes. -/
theorem Receives.keeps
    {before after : Store}
    {names : List String}
    {pattern : Term}
    (receives : Receives before names pattern)
    (keeps : before.Keeps after) :
    Receives after names pattern := by
  rcases names with _ | ⟨first, _ | ⟨second, rest⟩⟩
  case cons.nil => exact receives
  all_goals
    obtain ⟨cell, same, known, held⟩ := receives
    exact ⟨cell, same, Nat.lt_of_lt_of_le known keeps.size, (keeps.elements cell known).trans held⟩

/-- A function that can be called still can be when cells were added. -/
theorem Available.keeps
    (available : operation.Available function machine)
    {store : Store}
    (keeps : machine.store.Keeps store) :
    operation.Available function { machine with store := store } := by
  obtain ⟨pattern, mark, receives, code⟩ := available.code
  exact ⟨⟨⟨pattern, mark, receives.keeps keeps, code⟩, available.native⟩, available.closure,
    available.room⟩

end Native

namespace Evaluator

open PatternMachine.Action (recordCalled recordRaised recordReturned whenFollowed)

variable {self : Evaluator} {machine : Machine}

/-- Applying a function to an argument yields a value and leaves a store; the caller goes
on in its own scopes and at its own position. -/
def Returns (self : Evaluator) (function argument : Term) (machine : Machine) (value : Term)
    (store : Store) : Prop :=
  ∃ final, self.applyValue function argument machine = .ok value final ∧
    final.store = store ∧ final.scopes = machine.scopes ∧
    final.globals = machine.globals ∧ final.position = machine.position

/-- Applying a function to an argument raises a payload. -/
def Raises (self : Evaluator) (function argument : Term) (machine : Machine)
    (payload : Payload) : Prop :=
  ∃ exception final, self.applyValue function argument machine = .error (.raised exception) final ∧
    exception.payload = payload

/-- Applying a function to an argument ends like an action that is run on another machine: it
returns, raises an error or gives up where the action does. -/
structure EndsLike (evaluator : Evaluator) (function argument : Term) (machine : Machine)
    (action : Action Term) (entered : Machine) : Prop where
  returns : ∀ value after, action entered = .ok value after ->
    evaluator.Returns function argument machine value after.store
  raises : ∀ exception after, action entered = .error (.raised exception) after ->
    evaluator.Raises function argument machine exception.payload
  exhausted : ∀ after, action entered = .error .exhausted after ->
    ∃ final, evaluator.applyValue function argument machine = .error .exhausted final

/-- Entering a function without a receiver opens a scope in which no name is global. -/
theorem enterFunction_absent
    {captured : Closure}
    (nonempty : captured.scopes ≠ #[])
    (machine : Machine) :
    ∃ entered, enterFunction captured .absent machine = .ok () entered ∧
      entered.dispatch = machine.dispatch ∧ entered.store.cells = machine.store.cells ∧
      0 < entered.scopes.size ∧ ∀ name, entered.isGlobal name = false := by
  rcases Action.install_apply captured machine.store.globals.size with
    ⟨empty, _⟩ | ⟨size, extra, globals, positive, installs⟩
  · exact absurd empty nonempty
  · obtain ⟨inner, installed, dispatch, cells⟩ : ∃ inner,
        Action.install captured machine = .ok () inner ∧ inner.dispatch = machine.dispatch ∧
          inner.store.cells = machine.store.cells :=
      ⟨_, installs machine rfl, rfl, rfl⟩
    refine ⟨inner.pushScope, ?_, dispatch, cells, by simp, fun name => ?_⟩
    · unfold enterFunction
      rw [Action.bind_apply, installed]
      rfl
    · simp [Machine.isGlobal, Machine.pushScope, Store.newScope, Store.newGlobals,
        Store.globalNames]

/-- Recording that a clause was tried changes the trace only. -/
theorem recordClause_keeps
    (name : String)
    (place : Nat)
    (pattern : Term)
    (matched : Bool)
    (machine : Machine) :
    ∃ noted, recordClause name place pattern matched machine = .ok () noted ∧
      noted.store = machine.store ∧ noted.scopes = machine.scopes ∧
      noted.globals = machine.globals ∧ noted.dispatch = machine.dispatch := by
  have run : recordClause name place pattern matched machine =
      if machine.tracer.follows name then
        .ok () (machine.noting (.tried name place (machine.store.display pattern) matched))
      else .ok () machine := by
    unfold recordClause
    rw [Action.bind_apply]
    change (if machine.tracer.follows name then _ else _ : Action Unit) machine = _
    split <;> rfl
  rw [run]
  split
  · exact ⟨_, rfl, machine.noting_keeps _⟩
  · exact ⟨machine, rfl, rfl, rfl, rfl, rfl⟩

/-- A block that escapes to an operation runs the operation. -/
theorem execBlock_escape
    {name : String}
    {operation : Action Term}
    (mark : Mark)
    (escape : self.walk (.escape mark name) machine = operation machine) :
    self.execBlock [.evaluate (.escape mark name) .absent] .none machine =
      Action.located operation machine := by
  have statement : self.exec (.evaluate (.escape mark name) .absent) machine =
      operation machine := by
    change (self.walk (.escape mark name) >>= pure) machine = _
    rw [bind_pure, escape]
  change (Action.located (self.exec (.evaluate (.escape mark name) .absent)) >>= pure) machine = _
  rw [bind_pure, Action.located_apply, Action.located_apply, statement]

/-- A call has just opened a scope of its own, in which no name is global. -/
structure Opened (machine called : Machine) : Prop where
  cells : called.store.cells = machine.store.cells
  dispatch : called.dispatch = machine.dispatch
  active : 0 < called.scopes.size
  unmarked : ∀ name, called.isGlobal name = false

/-- The code of a built-in function binds its formals to what the pattern takes out of the
argument and runs the operation. -/
theorem runCode_clause
    {operation : Native}
    {argument pattern : Term}
    {bindings : List Binding}
    {called : Machine}
    {depth : Nat}
    (opened : Opened machine called)
    (native : machine.dispatch.get? operation.escapeName = some (.native operation))
    (matched : (within (depth + 1)).unify .binding argument pattern called = .ok bindings called)
    (targets : bindings.map Binding.target = operation.formalNames.map Term.identifier)
    (mark : Mark) :
    ∃ entered : Machine, entered.Grants bindings ∧ entered.store.cells = machine.store.cells ∧
      (within (depth + 1)).runCode (.clauses operation.name
          [⟨pattern, [.evaluate (.escape mark operation.escapeName) .absent]⟩]) argument called =
        Action.located operation.run entered := by
  obtain ⟨noted, recorded, store, scopes, globals, dispatch⟩ :=
    recordClause_keeps operation.name 0 pattern true called
  obtain ⟨scope, innermost⟩ : ∃ scope, noted.scopes.back? = some scope := by
    rw [scopes, Array.back?_eq_getElem?]
    exact ⟨_, Array.getElem?_eq_getElem (Nat.sub_lt opened.active Nat.zero_lt_one)⟩
  have nowhereGlobal : ∀ name, noted.isGlobal name = false := by
    intro name
    rw [← opened.unmarked name, Machine.isGlobal, Machine.isGlobal, globals, store]
  obtain ⟨distinct, ordinary⟩ := operation.formalNames_bindable
  obtain ⟨entered, declared, cells, sameScopes, sameDispatch, values, _⟩ :=
    declareAll_innermost innermost nowhereGlobal targets distinct ordinary
  refine ⟨entered, fun binding held name target => ?_, ?_, ?_⟩
  · rw [← sameScopes] at innermost
    exact Machine.lookup?_innermost innermost (values binding held name target)
  · rw [cells, store, opened.cells]
  · have escape : (within (depth + 1)).walk (.escape mark operation.escapeName) entered =
        operation.run entered := by
      change (within depth).walkEscape operation.escapeName _ = _
      unfold walkEscape
      rw [Action.bind_apply, Action.get_apply]
      dsimp only
      rw [sameDispatch, dispatch, opened.dispatch, native]
      rfl
    unfold runCode tryClauses
    dsimp only
    rw [Action.bind_apply, Action.orNoMatch_apply, matched]
    dsimp only
    rw [Action.bind_apply, recorded]
    dsimp only
    rw [Action.bind_apply, declared]
    exact execBlock_escape mark escape

/-- The note of a return changes the trace only. -/
theorem recordReturned_store
    (followed : Bool)
    (body : String)
    (result : Term)
    (machine : Machine) :
    ∃ noted, whenFollowed followed (recordReturned body result) machine = .ok () noted ∧
      noted.store = machine.store := by
  cases followed with
  | false => exact ⟨machine, rfl, rfl⟩
  | true =>
      refine ⟨machine.noting
        (.returned body (if result.isAbsent then "none" else machine.store.display result)), ?_,
        (machine.noting_keeps _).1⟩
      unfold whenFollowed recordReturned
      cases result.isAbsent <;> rfl

/-- A traced call hands on what its code yields or raises, and gives up where its code does. -/
theorem runTraced_apply
    (self : Evaluator)
    (body : String)
    (code : Code)
    (argument : Term)
    (machine : Machine) :
    ∃ called : Machine, called.store = machine.store ∧ called.scopes = machine.scopes ∧
      called.globals = machine.globals ∧ called.dispatch = machine.dispatch ∧
      (∀ value after, self.runCode code argument called = .ok value after ->
        ∃ final, self.runTraced body code argument machine = .ok value final ∧
          final.store = after.store) ∧
      (∀ exception after, self.runCode code argument called = .error (.raised exception) after ->
        ∃ left final, self.runTraced body code argument machine = .error (.raised left) final ∧
          left.payload = exception.payload) ∧
      ∀ after, self.runCode code argument called = .error .exhausted after ->
        ∃ final, self.runTraced body code argument machine = .error .exhausted final := by
  let called := machine.noting (.called body (machine.store.display argument) machine.position)
  have traced : self.runTraced body code argument machine =
      (recordRaised body (Action.located (self.runCode code argument)) >>= fun result =>
        whenFollowed (machine.tracer.follows body) (recordReturned body result) >>= fun _ =>
          pure result) called := by
    rw [runTraced_eq, Action.bind_apply]
    change (whenFollowed (machine.tracer.follows body) _ >>= _ : Action Term) machine = _
    rw [Action.bind_apply, recordCalled_apply]
  obtain ⟨store, scopes, globals, dispatch⟩ := machine.noting_keeps
    (.called body (machine.store.display argument) machine.position)
  refine ⟨called, store, scopes, globals, dispatch, fun value after ran => ?_,
    fun exception after ran => ?_, fun after ran => ⟨after.notingStop body .exhausted, ?_⟩⟩
  · obtain ⟨noted, recorded, kept⟩ :=
      recordReturned_store (machine.tracer.follows body) body value after
    refine ⟨noted, ?_, kept⟩
    rw [traced, Action.bind_apply, Action.recordRaised_apply, Action.located_apply, ran]
    dsimp only
    rw [Action.bind_apply, recorded]
    rfl
  · refine ⟨exception.locate after.position,
      after.notingStop body (.raised (exception.locate after.position)), ?_, rfl⟩
    rw [traced, Action.bind_apply, Action.recordRaised_apply, Action.located_apply, ran]
    rfl
  · rw [traced, Action.bind_apply, Action.recordRaised_apply, Action.located_apply, ran]
    rfl

/-- Applying a function whose body is registered runs the code in a scope of its own, and ends
like the code. -/
theorem applyValue_registered
    (self : Evaluator)
    {body : String}
    {code : Code}
    {captured : Closure}
    (registered : machine.dispatch.get? body = some code)
    (nonempty : captured.scopes ≠ #[])
    (room : ¬ machine.beginCall.ExceedsDepth)
    (argument : Term) :
    ∃ called, Opened machine called ∧
      self.EndsLike (.closure body (some captured)) argument machine
        (self.runCode code argument) called := by
  obtain ⟨inner, enters, dispatch, cells, active, unmarked⟩ :=
    enterFunction_absent nonempty machine.beginCall
  obtain ⟨called, store, scopes, globals, kept, yields, raises, exhausted⟩ :=
    self.runTraced_apply body code argument inner
  have opened : Opened machine called :=
    { cells := by
        rw [store, cells]
        rfl
      dispatch := kept.trans dispatch
      active := scopes ▸ active
      unmarked := by
        intro name
        rw [← unmarked name, Machine.isGlobal, Machine.isGlobal, globals, store] }
  have admitted : checkDepth body machine.beginCall = .ok () machine.beginCall := by
    rcases checkDepth_apply body machine.beginCall with ⟨_, passed⟩ | ⟨exceeds, _⟩
    · exact passed
    · exact absurd exceeds room
  have applied : self.applyValue (.closure body (some captured)) argument machine =
      Action.ensuring (Action.ensuring (self.runTraced body code argument)
        fun after =>
          { after with
            scopes := machine.scopes
            globals := machine.globals
            position := machine.position }) Machine.endCall inner := by
    refine (call_apply registered .absent captured argument).trans ?_
    rw [Action.ensuring_apply, Action.ensuring_apply, runFunction, Action.bind_apply, admitted]
    dsimp only
    rw [Action.ensuring_apply, Action.bind_apply, enters]
    rfl
  refine ⟨called, opened, fun value after ran => ?_, fun exception after ran => ?_,
    fun after ran => ?_⟩
  · obtain ⟨final, finished, left⟩ := yields value after ran
    rw [Returns, applied, Action.ensuring_apply, Action.ensuring_apply, finished]
    exact ⟨_, rfl, left, rfl, rfl, rfl⟩
  · obtain ⟨left, final, stopped, same⟩ := raises exception after ran
    rw [Raises, applied, Action.ensuring_apply, Action.ensuring_apply, stopped]
    exact ⟨_, _, rfl, same⟩
  · obtain ⟨final, stopped⟩ := exhausted after ran
    rw [applied, Action.ensuring_apply, Action.ensuring_apply, stopped]
    exact ⟨_, rfl⟩

/-- Applying a built-in function runs its operation on a machine that holds what the pattern
takes out of the argument, and ends like the operation. -/
theorem applyValue_available
    {operation : Native}
    {function : Term}
    (available : operation.Available function machine)
    (argument : Term)
    (bindings : List Binding)
    (depth : Nat)
    (targets : bindings.map Binding.target = operation.formalNames.map Term.identifier)
    (matched : ∀ {pattern called},
      Native.Receives machine.store operation.formalNames pattern ->
      called.store.cells = machine.store.cells ->
      (within (depth + 1)).unify .binding argument pattern called = .ok bindings called) :
    ∃ entered : Machine, entered.Grants bindings ∧ entered.store.cells = machine.store.cells ∧
      (within (depth + 1)).EndsLike function argument machine operation.run entered := by
  obtain ⟨pattern, mark, receives, code⟩ := available.code
  obtain ⟨captured, rfl, nonempty⟩ := available.closure
  obtain ⟨called, opened, ends⟩ :=
    (within (depth + 1)).applyValue_registered code nonempty available.room argument
  obtain ⟨entered, grants, cells, runs⟩ :=
    runCode_clause opened available.native (matched receives opened.cells) targets mark
  refine ⟨entered, grants, cells, fun value after ran => ?_, fun exception after ran => ?_,
    fun after ran => ?_⟩
  · exact ends.returns value after (by rw [runs, Action.located_apply, ran])
  · exact ends.raises (exception.locate after.position) after (by
      rw [runs, Action.located_apply, ran]
      rfl)
  · exact ends.exhausted after (by
      rw [runs, Action.located_apply, ran]
      rfl)

/-- A built-in function of one formal finds the argument under the name of its formal. -/
theorem applyValue_native
    {operation : Native}
    {formal : String}
    {function argument : Term}
    (callable : operation.Callable formal function machine)
    (present : argument.isAbsent = false)
    (depth : Nat) :
    ∃ entered, Native.Entered formal argument machine entered ∧
      (within (depth + 1)).EndsLike function argument machine operation.run entered := by
  have bindable := operation.formalNames_bindable.2 formal (by simp [callable.single])
  obtain ⟨entered, grants, cells, ends⟩ := applyValue_available callable.available argument
    [⟨.identifier formal, argument⟩] depth (by rw [callable.single]; rfl) fun receives _ => by
      rw [callable.single] at receives
      obtain rfl := receives
      rw [unify_identifier bindable.1, present]
      rfl
  exact ⟨entered, ⟨grants _ List.mem_cons_self _ rfl, cells⟩, ends⟩

/-- A tuple of two names takes two values apart. -/
theorem unify_names
    {first second : String}
    {argument left right : Term}
    {cell : CellRef}
    (distinct : first ≠ second)
    (bindable : first ≠ "_" ∧ second ≠ "_")
    (held : machine.store.elements cell = #[.identifier first, .identifier second])
    (elements : machine.store.tupleElements? argument = some [left, right])
    (present : left.isAbsent = false ∧ right.isAbsent = false)
    (depth : Nat) :
    (within (depth + 2)).unify .binding argument (.tuple cell) machine =
      .ok [⟨.identifier first, left⟩, ⟨.identifier second, right⟩] machine := by
  have patterns : machine.store.tupleElements? (.tuple cell) =
      some [.identifier first, .identifier second] := by
    rw [Store.tupleElements?, held]
  have two : ∀ {sites : List Site} {one other : Term}, machine.store.Spreads sites [one, other] ->
      ∃ site next, sites = [site, next] ∧ machine.store.find site = one ∧
        machine.store.find next = other := by
    intro sites one other spreads
    obtain ⟨site, rest, rfl, found, spreadsRest⟩ := spreads.cons
    obtain ⟨next, none, rfl, foundNext, spreadsNone⟩ := spreadsRest.cons
    obtain rfl := List.map_eq_nil_iff.mp (spreadsNone _ (.refl _))
    exact ⟨site, next, rfl, found, foundNext⟩
  obtain ⟨site, next, sites, foundLeft, foundRight⟩ := two (Store.spreads_tuple elements)
  obtain ⟨patternSite, nextPattern, patternSites, foundFirst, foundSecond⟩ :=
    two (Store.spreads_tuple patterns)
  have one : ∀ {name : String} {value : Term}, name ≠ "_" -> value.isAbsent = false ->
      (within (depth + 1)).unify .binding value (.identifier name) machine =
        .ok [⟨.identifier name, value⟩] machine := by
    intro name value named valued
    rw [unify_identifier named, valued]
    rfl
  have each : (within (depth + 1)).unifyEach .binding
      [(site, patternSite), (next, nextPattern)] machine =
        .ok [⟨.identifier first, left⟩, ⟨.identifier second, right⟩] machine := by
    rw [unifyEach_cons, Action.bind_apply, foundLeft, foundFirst, one bindable.1 present.1]
    dsimp only
    rw [Action.bind_apply, unifyEach_cons, Action.bind_apply, foundRight, foundSecond,
      one bindable.2 present.2]
    rfl
  change (within (depth + 1)).unifyStep .binding argument (.tuple cell) machine = _
  rw [unifyStep_tuple elements patterns rfl, sites, patternSites]
  unfold unifyLinear
  rw [Action.bind_apply, List.zip_cons_cons, List.zip_cons_cons, List.zip_nil_left, each]
  dsimp only
  unfold checkLinear
  rw [Action.bind_apply, Action.get_apply]
  dsimp only
  split
  · simp [repeatedName?, distinct.symm]
  · rfl

/-- A built-in function of two formals finds the two values of its argument under the names
of its formals. -/
theorem applyValue_pair
    {operation : Native}
    {first second : String}
    {function argument left right : Term}
    (available : operation.Available function machine)
    (formals : operation.formalNames = [first, second])
    (elements : machine.store.tupleElements? argument = some [left, right])
    (present : left.isAbsent = false ∧ right.isAbsent = false)
    (depth : Nat) :
    ∃ entered, Native.Entered first left machine entered ∧
      Native.Entered second right machine entered ∧
      (within (depth + 2)).EndsLike function argument machine operation.run entered := by
  obtain ⟨nodup, ordinary⟩ := operation.formalNames_bindable
  rw [formals] at nodup ordinary
  simp only [List.nodup_cons, List.mem_cons, List.not_mem_nil, or_false, forall_eq_or_imp,
    forall_eq] at nodup ordinary
  obtain ⟨entered, grants, cells, ends⟩ := applyValue_available available argument
    [⟨.identifier first, left⟩, ⟨.identifier second, right⟩] (depth + 1)
    (by rw [formals]; rfl) fun {pattern called} receives same => by
      rw [formals] at receives
      obtain ⟨cell, rfl, _, held⟩ := receives
      have kept : ∀ cell, called.store.elements cell = machine.store.elements cell := by
        intro cell
        rw [Store.elements, Store.elements, same]
      refine unify_names nodup.1 ⟨ordinary.1.1, ordinary.2.1⟩ ((kept cell).trans held) ?_ present
        depth
      rw [← elements]
      cases argument <;> simp [Store.tupleElements?, kept]
  have rightFound : entered.lookup? second = some right :=
    grants _ (List.mem_cons_of_mem _ List.mem_cons_self) _ rfl
  exact ⟨entered, ⟨grants _ List.mem_cons_self _ rfl, cells⟩, ⟨rightFound, cells⟩, ends⟩

end Evaluator

namespace Builtin

variable {name : String} {argument : Term} {machine entered : Machine}

/-- The operation finds its argument. -/
theorem formal_apply (found : Native.Entered name argument machine entered) :
    formal name entered = .ok argument entered := by
  unfold formal Action.lookup?
  simp only [Action.bind_apply, Action.get_apply, Action.pure_apply, found.bound]

/-- The operation finds a text it is given. -/
theorem textFormal_apply
    {value : String}
    (found : Native.Entered name (.text value) machine entered)
    (function : String) :
    textFormal function name entered = .ok value entered := by
  unfold textFormal
  rw [Action.bind_apply, formal_apply found]
  rfl

/-- The elements of a list or tuple are those it has for the caller. -/
theorem sequenceElements?_entered
    (found : Native.Entered name argument machine entered)
    (term : Term) :
    entered.store.sequenceElements? term = machine.store.sequenceElements? term := by
  unfold Store.sequenceElements? Store.elements
  rw [found.cells]

/-- The operation finds the elements of the list or tuple it is given. -/
theorem listFormal_apply
    {elements : List Term}
    (found : Native.Entered "xs" argument machine entered)
    (sequence : machine.store.sequenceElements? argument = some elements)
    (function : String) :
    listFormal function entered = .ok elements entered := by
  unfold listFormal
  rw [Action.bind_apply, formal_apply found]
  dsimp only
  rw [Action.bind_apply, Action.store_apply]
  dsimp only
  rw [sequenceElements?_entered found, sequence]
  rfl

end Builtin

end PatternMachine
