import PatternMachine.Proofs.Scope

/-!
# Balanced scope operations

A sequence of operations on the active scopes that opens a scope first and closes it last,
with any operations between, leaves the scopes outside as they are. Only names that were
declared global at the level they were bound at outlive it: those bindings are made in the
global scope.
-/

namespace PatternMachine

/-- An operation on the active scopes. -/
inductive ScopeOperation
  | push
  | pop
  | enter (name : String) (value : Term)
  | declareGlobal (name : String)

namespace ScopeOperation

/-- Perform an operation. -/
def run : ScopeOperation -> Action Unit
  | push => modify Machine.pushScope
  | pop => Action.popScope
  | enter name value => Action.bindName name value
  | declareGlobal name => modify fun machine => machine.declareGlobal name

/-- Perform operations in order. -/
def runAll : List ScopeOperation -> Action Unit
  | [] => return ()
  | operation :: rest => do
      operation.run
      runAll rest

/-- Whether operations close as many scopes as are open at the start and all scopes they
open themselves, the outermost one last of all. -/
def closes : Nat -> List ScopeOperation -> Bool
  | 0, operations => operations.isEmpty
  | _ + 1, [] => false
  | depth + 1, push :: rest => closes (depth + 2) rest
  | depth + 1, pop :: rest => closes depth rest
  | depth + 1, _ :: rest => closes (depth + 1) rest

/-- Operations that open a scope first and close it last. -/
def IsBalanced (operations : List ScopeOperation) : Prop :=
  ∃ inner, operations = push :: inner ∧ closes 1 inner = true

/-- The names declared global at each level that was opened, the innermost first, after one
more operation. -/
def declaredAfter (levels : List (List String)) : ScopeOperation -> List (List String)
  | push => [] :: levels
  | pop => levels.tail
  | enter _ _ => levels
  | declareGlobal name => levels.modifyHead (List.insert name)

/-- The binding an operation makes in the global scope: that of a name that was declared
global at the innermost level since the level was opened. -/
def globalWrite? (levels : List (List String)) : ScopeOperation -> Option (String × Term)
  | enter name value => if (levels.headD []).contains name then some (name, value) else none
  | _ => none

/-- The bindings operations make in the global scope, in their order. -/
def globalWrites : List (List String) -> List ScopeOperation -> List (String × Term)
  | _, [] => []
  | levels, operation :: rest =>
      (operation.globalWrite? levels).toList ++ globalWrites (operation.declaredAfter levels) rest

/-- What is open after one operation tells what the others have to close. -/
theorem closes_cons
    {levels : List (List String)}
    (deep : 0 < levels.length)
    (operation : ScopeOperation)
    (rest : List ScopeOperation) :
    closes levels.length (operation :: rest) =
      closes (operation.declaredAfter levels).length rest := by
  cases levels with
  | nil => cases deep
  | cons declared levels =>
      cases operation with
      | declareGlobal name => simp [closes, declaredAfter]
      | _ => rfl

/-- The value that operations bind a name to last in the global scope. -/
def lastGlobalWrite? (operations : List ScopeOperation) (name : String) : Option Term :=
  (globalWrites [] operations).reverse.lookup name

end ScopeOperation

namespace Namespace

/-- Bind names one after the other. -/
def insertAll (scope : Namespace) (writes : List (String × Term)) : Namespace :=
  writes.foldl (fun scope write => scope.insert write.1 write.2) scope

/-- A name that is bound one or more times has the value it was bound to last. -/
theorem get?_insertAll
    (scope : Namespace)
    (writes : List (String × Term))
    (name : String) :
    (scope.insertAll writes).get? name = (writes.reverse.lookup name).or (scope.get? name) := by
  induction writes generalizing scope with
  | nil => rfl
  | cons write rest inductionHypothesis =>
      have first : (scope.insert write.1 write.2).get? name =
          ([write].lookup name).or (scope.get? name) := by
        obtain ⟨bound, value⟩ := write
        by_cases same : name = bound
        · obtain rfl := same
          simp
        · have unequal : (name == bound) = false := by simpa using same
          simp [get?_insert_of_ne _ same, List.lookup_cons, unequal]
      rw [List.reverse_cons, List.lookup_append, Option.or_assoc, ← first]
      exact inductionHypothesis (scope.insert write.1 write.2)

end Namespace

namespace Store

/-- Declaring a name global changes no other set of global names. -/
theorem globalNames_declareGlobal_of_ne
    (store : Store)
    {target ref : GlobalsRef}
    (other : ref ≠ target)
    (name : String) :
    (store.declareGlobal target name).globalNames ref = store.globalNames ref := by
  have apart : ¬ target.place = ref.place := by
    intro equal
    exact other (by cases ref; cases target; simp_all)
  simp [Store.globalNames, declareGlobal, Array.getElem?_modify, apart]

theorem globalNames_declareGlobal_self
    (store : Store)
    {ref : GlobalsRef}
    (existing : ref.place < store.globals.size)
    (name : String) :
    (store.declareGlobal ref name).globalNames ref = (store.globalNames ref).insert name := by
  simp only [Store.globalNames, declareGlobal, Array.getElem?_modify, if_true,
    Array.getElem?_eq_getElem existing, Option.map_some, Option.getD_some]
  rfl

end Store

namespace Machine

/-- The active scopes form a symbol table: there is a global scope, the namespaces and the
sets of global names are in the store, and no namespace stands at two levels. -/
structure IsTable (machine : Machine) : Prop where
  nonempty : 0 < machine.scopes.size
  scopes : ∀ ref ∈ machine.scopes, ref.place < machine.store.scopes.size
  globals : ∀ ref ∈ machine.globals, ref.place < machine.store.globals.size
  distinct : machine.scopes.toList.Nodup

/-- The global scope is in the store. -/
theorem IsTable.outermost {machine : Machine} (table : machine.IsTable) :
    ∃ global, machine.scopes[0]? = some global ∧
      global.place < machine.store.scopes.size := by
  have found := Array.getElem?_eq_getElem table.nonempty
  exact ⟨_, found, table.scopes _ (Array.mem_of_getElem? found)⟩

/-- A level that was opened: its namespace and its set of global names. -/
structure Level where
  scope : ScopeRef
  globals : GlobalsRef

/-- A machine with some levels opened above those of another one, the innermost first, when
the names declared global at these levels and the bindings made in the global scope are the
given ones. Nothing that was in the store is changed but the global scope. -/
structure OpensAbove (base : Machine) (opened : List Level) (levels : List (List String))
    (writes : List (String × Term)) (machine : Machine) : Prop where
  scopes : machine.scopes.toList =
    base.scopes.toList ++ (opened.map Level.scope).reverse
  globals : machine.globals.toList =
    base.globals.toList ++ (opened.map Level.globals).reverse
  declared : opened.map (fun level => machine.store.globalNames level.globals) = levels
  fresh : ∀ level ∈ opened, base.store.scopes.size ≤ level.scope.place ∧
    base.store.globals.size ≤ level.globals.place
  known : ∀ level ∈ opened, level.globals.place < machine.store.globals.size
  distinct : (opened.map Level.globals).Nodup
  sizes : base.store.scopes.size ≤ machine.store.scopes.size ∧
    base.store.globals.size ≤ machine.store.globals.size
  namespaces : ∀ ref, ref.place < base.store.scopes.size -> base.scopes[0]? ≠ some ref ->
    machine.store.scope ref = base.store.scope ref
  sets : ∀ ref, ref.place < base.store.globals.size ->
    machine.store.globalNames ref = base.store.globalNames ref
  global : ∀ ref, base.scopes[0]? = some ref ->
    machine.store.scope ref = (base.store.scope ref).insertAll writes
  others : machine =
    { base with
      scopes := machine.scopes
      globals := machine.globals
      store :=
        { base.store with scopes := machine.store.scopes, globals := machine.store.globals } }

namespace OpensAbove

variable {base machine : Machine} {opened : List Level} {levels : List (List String)}
  {writes : List (String × Term)} {level : Level}

/-- A machine is itself with no level opened. -/
theorem refl (machine : Machine) : machine.OpensAbove [] [] [] machine where
  scopes := by simp
  globals := by simp
  declared := rfl
  fresh := by simp
  known := by simp
  distinct := .nil
  sizes := ⟨Nat.le_refl _, Nat.le_refl _⟩
  namespaces _ _ _ := rfl
  sets _ _ := rfl
  global _ _ := rfl
  others := rfl

/-- The innermost level is the one that was opened last. -/
theorem back? (above : base.OpensAbove (level :: opened) levels writes machine) :
    machine.scopes.back? = some level.scope ∧ machine.globals.back? = some level.globals := by
  rw [← Array.getLast?_toList, ← Array.getLast?_toList, above.scopes, above.globals]
  simp

/-- The global scope stays the outermost one. -/
theorem outermost
    (above : base.OpensAbove opened levels writes machine)
    (table : base.IsTable) :
    machine.scopes[0]? = base.scopes[0]? := by
  rw [← Array.getElem?_toList, above.scopes,
    List.getElem?_append_left (by simpa using table.nonempty), Array.getElem?_toList]

theorem isGlobal
    (above : base.OpensAbove (level :: opened) levels writes machine)
    (name : String) :
    machine.isGlobal name = (levels.headD []).contains name := by
  rw [Machine.isGlobal, above.back?.2, ← above.declared]
  rfl

/-! ### One operation -/

/-- A scope that is opened is a new level without global names. -/
theorem push (above : base.OpensAbove opened levels writes machine) :
    base.OpensAbove
      (⟨⟨machine.store.scopes.size⟩, ⟨machine.store.globals.size⟩⟩ :: opened) ([] :: levels)
      writes machine.pushScope where
  scopes := by simp [above.scopes]
  globals := by simp [above.globals]
  declared := by
    simp only [List.map_cons, globalNames_pushScope, above.declared]
    simp [Store.globalNames]
  fresh := by
    simp only [List.forall_mem_cons]
    exact ⟨above.sizes, above.fresh⟩
  known := by
    have size : machine.pushScope.store.globals.size = machine.store.globals.size + 1 := by
      simp [pushScope, Store.newGlobals, Store.newScope]
    simp only [List.forall_mem_cons, size]
    exact ⟨Nat.lt_succ_self _, fun level held => Nat.lt_succ_of_lt (above.known level held)⟩
  distinct := by
    refine List.nodup_cons.mpr ⟨fun held => ?_, above.distinct⟩
    obtain ⟨level, inside, same⟩ := List.mem_map.mp held
    have known := above.known level inside
    rw [same] at known
    exact Nat.lt_irrefl _ known
  sizes := by
    have sizes := above.sizes
    constructor <;> simp [pushScope, Store.newGlobals, Store.newScope] <;> omega
  namespaces ref inside other :=
    (scope_pushScope machine ref).trans (above.namespaces ref inside other)
  sets ref inside := (globalNames_pushScope machine ref).trans (above.sets ref inside)
  global ref outermost := (scope_pushScope machine ref).trans (above.global ref outermost)
  others := by
    rw [above.others]
    rfl

/-- The level that is closed is the innermost one. -/
theorem pop (above : base.OpensAbove (level :: opened) levels writes machine) :
    base.OpensAbove opened levels.tail writes machine.popScope where
  scopes := by simp [popScope, above.scopes]
  globals := by simp [popScope, above.globals]
  declared := by
    rw [← above.declared]
    rfl
  fresh := (List.forall_mem_cons.mp above.fresh).2
  known := (List.forall_mem_cons.mp above.known).2
  distinct := (List.nodup_cons.mp above.distinct).2
  sizes := above.sizes
  namespaces := above.namespaces
  sets := above.sets
  global := above.global
  others := by
    rw [above.others]
    rfl

/-- A name that is declared global is added to the set of the innermost level. -/
theorem declareGlobal
    (above : base.OpensAbove (level :: opened) levels writes machine)
    (name : String) :
    base.OpensAbove (level :: opened) (levels.modifyHead (List.insert name)) writes
      (machine.declareGlobal name) := by
  have innermost : machine.declareGlobal name =
      { machine with store := machine.store.declareGlobal level.globals name } := by
    rw [Machine.declareGlobal, above.back?.2]
  have size : (machine.store.declareGlobal level.globals name).globals.size =
      machine.store.globals.size := Array.size_modify
  rw [innermost]
  exact {
    scopes := above.scopes
    globals := above.globals
    declared := by
      rw [← above.declared, List.map_cons, List.map_cons, List.modifyHead_cons,
        Store.globalNames_declareGlobal_self _ (above.known level List.mem_cons_self)]
      refine congrArg (_ :: ·) (List.map_congr_left fun other inside => ?_)
      apply Store.globalNames_declareGlobal_of_ne
      intro same
      refine (List.nodup_cons.mp above.distinct).1 ?_
      rw [← same]
      exact List.mem_map_of_mem inside
    fresh := above.fresh
    known := fun other inside => size ▸ above.known other inside
    distinct := above.distinct
    sizes := ⟨above.sizes.1, size ▸ above.sizes.2⟩
    namespaces := above.namespaces
    sets := fun ref inside => by
      rw [← above.sets ref inside]
      apply Store.globalNames_declareGlobal_of_ne
      rintro rfl
      exact Nat.lt_irrefl _ (Nat.lt_of_lt_of_le inside (above.fresh level List.mem_cons_self).2)
    global := above.global
    others := by
      rw [above.others]
      rfl }

/-- A binding in a namespace keeps all there is to say but for that namespace. -/
theorem bind
    (above : base.OpensAbove opened levels writes machine)
    {scope : ScopeRef}
    {name : String}
    {value : Term}
    {more : List (String × Term)}
    (elsewhere : ∀ ref, ref.place < base.store.scopes.size -> base.scopes[0]? ≠ some ref ->
      ref ≠ scope)
    (global : ∀ ref, base.scopes[0]? = some ref ->
      (machine.store.bind scope name value).scope ref =
        (base.store.scope ref).insertAll (writes ++ more)) :
    base.OpensAbove opened levels (writes ++ more)
      { machine with store := machine.store.bind scope name value } where
  scopes := above.scopes
  globals := above.globals
  declared := above.declared
  fresh := above.fresh
  known := above.known
  distinct := above.distinct
  sizes := ⟨Nat.le_trans above.sizes.1 (Store.size_le_size_bind _ _ _ _), above.sizes.2⟩
  namespaces ref inside other := by
    rw [← above.namespaces ref inside other]
    exact Store.scope_bind_of_ne _ (elsewhere ref inside other) name value
  sets := above.sets
  global := global
  others := by
    rw [above.others]
    rfl

/-- A name is bound in the global scope if it was declared global at the innermost level,
and otherwise in a namespace that was not there before. -/
theorem enter
    (above : base.OpensAbove (level :: opened) levels writes machine)
    (table : base.IsTable)
    (name : String)
    (value : Term) :
    base.OpensAbove (level :: opened) levels
      (writes ++ ((ScopeOperation.enter name value).globalWrite? levels).toList)
      (machine.bindName name value) := by
  obtain ⟨global, outermost, placed⟩ := table.outermost
  unfold bindName bindingScope?
  rw [above.isGlobal, above.outermost table, above.back?.1, outermost,
    ScopeOperation.globalWrite?]
  cases declared : (levels.headD []).contains name with
  | true =>
      refine above.bind (fun ref _ other => ?_) fun ref found => ?_
      · rintro rfl
        exact other outermost
      · obtain rfl := Option.some.inj (outermost.symm.trans found)
        rw [Store.scope_bind_self, above.global _ outermost]
        simp [Namespace.insertAll]
  | false =>
      have fresh := (above.fresh level List.mem_cons_self).1
      refine above.bind (fun ref inside _ => ?_) fun ref found => ?_
      · rintro rfl
        omega
      · obtain rfl := Option.some.inj (outermost.symm.trans found)
        rw [Store.scope_bind_of_ne _ (fun same => ?_), above.global _ outermost]
        · simp
        · rw [same] at placed
          omega

/-- One operation at a level that was opened. -/
theorem operation
    (above : base.OpensAbove (level :: opened) levels writes machine)
    (table : base.IsTable)
    (operation : ScopeOperation) :
    ∃ openedAfter after, operation.run machine = .ok () after ∧
      base.OpensAbove openedAfter (operation.declaredAfter levels)
        (writes ++ (operation.globalWrite? levels).toList) after := by
  have same : writes ++ (none : Option (String × Term)).toList = writes := by simp
  cases operation with
  | push => exact ⟨_, _, rfl, same.symm ▸ above.push⟩
  | pop =>
      have nested : ¬ machine.scopes.size ≤ 1 := by
        have length := congrArg List.length above.scopes
        have nonempty := table.nonempty
        simp only [Array.length_toList, List.map_cons, List.reverse_cons, List.length_append,
          List.length_singleton] at length
        omega
      refine ⟨_, _, ?_, same.symm ▸ above.pop⟩
      simp only [ScopeOperation.run, Action.popScope, Action.bind_apply, Action.get_apply, nested]
      rfl
  | enter name value => exact ⟨_, _, rfl, above.enter table name value⟩
  | declareGlobal name => exact ⟨_, _, rfl, same.symm ▸ above.declareGlobal name⟩

/-! ### Many operations -/

/-- Operations that close all levels that were opened come to an end with none open. -/
theorem operations
    {operations : List ScopeOperation}
    (above : base.OpensAbove opened levels writes machine)
    (table : base.IsTable)
    (closed : ScopeOperation.closes levels.length operations = true) :
    ∃ after, ScopeOperation.runAll operations machine = .ok () after ∧
      base.OpensAbove [] [] (writes ++ ScopeOperation.globalWrites levels operations) after := by
  induction operations generalizing machine opened levels writes with
  | nil =>
      have none : levels = [] := by
        cases levels with
        | nil => rfl
        | cons => cases closed
      obtain rfl : opened = [] := List.map_eq_nil_iff.mp (above.declared.trans none)
      subst none
      exact ⟨machine, rfl, by simpa [ScopeOperation.globalWrites] using above⟩
  | cons operation rest inductionHypothesis =>
      cases opened with
      | nil =>
          obtain rfl := above.declared
          cases closed
      | cons level opened =>
          obtain ⟨openedNext, middle, ran, aboveNext⟩ := above.operation table operation
          rw [ScopeOperation.closes_cons (by simp [← above.declared])] at closed
          obtain ⟨after, ranRest, aboveRest⟩ := inductionHypothesis aboveNext closed
          refine ⟨after, ?_, ?_⟩
          · rw [ScopeOperation.runAll, Action.bind_apply, ran]
            exact ranRest
          · rwa [List.append_assoc] at aboveRest

end OpensAbove

/-- Operations on a symbol table that open a scope first and close it last come to an end
with the same stack of namespaces and of sets of global names. Every namespace inside the
global one and every set of global names is as before. A name of the global scope has the
value it was bound to last at a level where it had been declared global since the level was
opened, and the value it had before if there is no such binding. Nothing else of the machine
changes. -/
theorem balanced_operations
    {machine : Machine}
    {operations : List ScopeOperation}
    (table : machine.IsTable)
    (balanced : ScopeOperation.IsBalanced operations) :
    ∃ after, ScopeOperation.runAll operations machine = .ok () after ∧
      after.scopes = machine.scopes ∧ after.globals = machine.globals ∧
      (∀ (level : Nat) (ref : ScopeRef), 0 < level -> machine.scopes[level]? = some ref ->
        after.store.scope ref = machine.store.scope ref) ∧
      (∀ (level : Nat) (ref : GlobalsRef), machine.globals[level]? = some ref ->
        after.store.globalNames ref = machine.store.globalNames ref) ∧
      (∀ (global : ScopeRef) (name : String), machine.scopes[0]? = some global ->
        (after.store.scope global).get? name =
          (ScopeOperation.lastGlobalWrite? operations name).or
            ((machine.store.scope global).get? name)) ∧
      after =
        { machine with
          store :=
            { machine.store with
              scopes := after.store.scopes
              globals := after.store.globals } } := by
  obtain ⟨inner, rfl, closed⟩ := balanced
  obtain ⟨after, ran, above⟩ := (OpensAbove.refl machine).push.operations table closed
  have scopes : after.scopes = machine.scopes := Array.toList_inj.mp (by simpa using above.scopes)
  have globals : after.globals = machine.globals :=
    Array.toList_inj.mp (by simpa using above.globals)
  refine ⟨after, ran, scopes, globals, fun level ref inside found => ?_, fun level ref found => ?_,
    fun global name found => ?_, ?_⟩
  · refine above.namespaces ref (table.scopes ref (Array.mem_of_getElem? found)) fun outermost => ?_
    rw [← Array.getElem?_toList] at found outermost
    have same := (List.getElem?_inj (by simpa using table.nonempty) table.distinct).mp
      (outermost.trans found.symm)
    omega
  · exact above.sets ref (table.globals ref (Array.mem_of_getElem? found))
  · rw [above.global global found, Namespace.get?_insertAll]
    rfl
  · rw [← scopes, ← globals]
    exact above.others

/-- A machine with a scope inside the global one. Both bind the name `x`. -/
def shadowingMachine : Machine where
  store :=
    { Store.initial with
      scopes := #[⟨[("x", .integer 1)]⟩, ⟨[("x", .integer 2)]⟩]
      globals := #[[], ["x"]] }
  scopes := #[⟨0⟩, ⟨1⟩]
  globals := #[⟨0⟩, ⟨1⟩]

/-- The name is declared global in a scope that is opened, bound there, bound in a further
scope for which the declaration does not count, and bound again. -/
def shadowingOperations : List ScopeOperation :=
  [.push, .enter "y" .nil, .declareGlobal "x", .enter "x" (.integer 3), .push,
    .enter "x" (.integer 4), .pop, .enter "x" (.integer 5), .pop]

/-- Afterwards the global scope has the last value, and the scope inside it its own. -/
theorem balanced_operations_of_shadowing :
    ∃ after, ScopeOperation.runAll shadowingOperations shadowingMachine = .ok () after ∧
      after.scopes = shadowingMachine.scopes ∧
      (after.store.scope ⟨0⟩).get? "x" = some (.integer 5) ∧
      (after.store.scope ⟨0⟩).get? "y" = none ∧
      after.store.scope ⟨1⟩ = ⟨[("x", .integer 2)]⟩ ∧ after.store.globalNames ⟨1⟩ = ["x"] := by
  have table : shadowingMachine.IsTable :=
    ⟨by decide, by decide, by decide, by decide⟩
  have balanced : ScopeOperation.IsBalanced shadowingOperations := ⟨_, rfl, rfl⟩
  obtain ⟨after, ran, scopes, _, namespaces, sets, global, _⟩ := balanced_operations table balanced
  exact ⟨after, ran, scopes, global ⟨0⟩ "x" rfl, global ⟨0⟩ "y" rfl,
    namespaces 1 ⟨1⟩ (by decide) rfl, sets 1 ⟨1⟩ rfl⟩

end Machine
end PatternMachine
