import PatternMachine.Scope
import PatternMachine.Proofs.Action
import PatternMachine.Proofs.Store

/-!
# What the scope operations do

Opening and closing scopes, binding names and installing a captured stack.
-/

namespace PatternMachine
namespace Machine

@[simp] theorem scopes_pushScope (machine : Machine) :
    machine.pushScope.scopes = machine.scopes.push ⟨machine.store.scopes.size⟩ := rfl

@[simp] theorem globals_pushScope (machine : Machine) :
    machine.pushScope.globals = machine.globals.push ⟨machine.store.globals.size⟩ := rfl

@[simp] theorem elements_pushScope (machine : Machine) (cell : CellRef) :
    machine.pushScope.store.elements cell = machine.store.elements cell := rfl

@[simp] theorem scope_pushScope (machine : Machine) (ref : ScopeRef) :
    machine.pushScope.store.scope ref = machine.store.scope ref :=
  Store.scope_newScope machine.store ref

@[simp] theorem globalNames_pushScope (machine : Machine) (ref : GlobalsRef) :
    machine.pushScope.store.globalNames ref = machine.store.globalNames ref :=
  Store.globalNames_newGlobals machine.store.newScope.2 ref

/-- Binding a name binds it in some namespace, or does nothing when there is no
scope at all. -/
theorem bindName_eq
    (machine : Machine)
    (name : String)
    (value : Term) :
    (∃ scope, machine.bindingScope? name = some scope ∧
      machine.bindName name value =
        { machine with store := machine.store.bind scope name value }) ∨
      machine.bindName name value = machine := by
  unfold bindName
  cases machine.bindingScope? name with
  | some scope => exact .inl ⟨scope, rfl, rfl⟩
  | none => exact .inr rfl

/-- Declaring a name global changes the innermost set of global names only. -/
theorem declareGlobal_eq
    (machine : Machine)
    (name : String) :
    (∃ names, machine.globals.back? = some names ∧
      machine.declareGlobal name =
        { machine with store := machine.store.declareGlobal names name }) ∨
      machine.declareGlobal name = machine := by
  unfold declareGlobal
  cases machine.globals.back? with
  | some names => exact .inl ⟨names, rfl, rfl⟩
  | none => exact .inr rfl

/-- Names are found in the namespaces of the active scopes and nowhere else. -/
theorem find?_congr
    (machine other : Machine)
    (stack : other.scopes = machine.scopes)
    (namespaces : other.store.scopes = machine.store.scopes)
    (name : String) :
    other.find? name = machine.find? name := by
  have found : ∀ below, other.findBelow? name below = machine.findBelow? name below := by
    intro below
    induction below with
    | zero => rfl
    | succ below inductionHypothesis =>
        simp only [findBelow?, inductionHypothesis, stack, Store.scope, namespaces]
        rfl
  rw [find?, find?, found, stack]

theorem lookup?_congr
    (machine other : Machine)
    (stack : other.scopes = machine.scopes)
    (namespaces : other.store.scopes = machine.store.scopes)
    (name : String) :
    other.lookup? name = machine.lookup? name := by
  simp only [lookup?, find?_congr machine other stack namespaces, stack, Store.scope, namespaces]

end Machine

namespace Action

/-- Fresh sets of global names are appended to the store one after the other and
hold nothing. -/
theorem foldl_newGlobals
    (count : Nat)
    (refs : List GlobalsRef)
    (store : Store) :
    (List.range count).foldl
      (fun (refs, store) _ =>
        let (ref, store) := Store.newGlobals store
        (refs ++ [ref], store))
      (refs, store) =
    (refs ++ (List.range count).map fun place => ⟨store.globals.size + place⟩,
      { store with globals := store.globals ++ Array.replicate count [] }) := by
  induction count with
  | zero => simp
  | succ count inductionHypothesis =>
      rw [List.range_succ, List.foldl_append, inductionHypothesis]
      simp [Store.newGlobals, Array.replicate_succ]

/-- Aligning sets of global names only adds empty sets to the store. Which sets
they are is told by the number of sets there are. -/
theorem alignGlobals_apply
    (size count : Nat)
    (given : List GlobalsRef) :
    ∃ extra globals, ∀ machine : Machine, machine.store.globals.size = count ->
      alignGlobals size given machine =
        .ok globals
          { machine with
            store := { machine.store with
              globals := machine.store.globals ++ Array.replicate extra [] } } := by
  refine ⟨size - (given.take size).length,
    (given.take size ++
      (List.range (size - (given.take size).length)).map fun place =>
        GlobalsRef.mk (count + place)).toArray, ?_⟩
  rintro machine rfl
  simp only [alignGlobals, modifyGet_apply, foldl_newGlobals, List.nil_append]

/-- An empty snapshot cannot be installed on any machine. Installing another one
replaces the scope stack by an initial part of the snapshot and adds empty sets of
global names to the store. Which sets they are is told by the number of sets there
are. -/
theorem install_apply
    (captured : Closure)
    (count : Nat) :
    (captured.scopes = #[] ∧ ∃ explanation, ∀ machine, install captured machine =
      .error (.fatal (Contract.assertionReport explanation)) machine) ∨
    ∃ size extra globals, 0 < size ∧
      ∀ machine : Machine, machine.store.globals.size = count ->
        install captured machine =
          .ok () { machine with
            store := { machine.store with
              globals := machine.store.globals ++ Array.replicate extra [] }
            scopes := captured.scopes.extract 0 size
            globals := globals } := by
  unfold install
  by_cases empty : captured.scopes.isEmpty
  · left
    simp only [empty, if_true]
    exact ⟨Array.isEmpty_iff.mp empty, _, fun _ => rfl⟩
  · right
    have nonempty : 0 < captured.scopes.size := by
      simpa [Array.isEmpty, Nat.pos_iff_ne_zero] using empty
    rw [if_neg empty]
    dsimp only
    generalize sizeEquation :
      (if (captured.scopes.size : Int) < captured.level + 1 || captured.level + 1 < 1 then
        captured.scopes.size else (captured.level + 1).toNat) = size
    obtain ⟨extra, globals, aligned⟩ := alignGlobals_apply size count captured.globals.toList
    refine ⟨size, extra, globals, ?_, ?_⟩
    · rw [← sizeEquation]
      split
      · exact nonempty
      · rename_i inside
        simp only [Bool.or_eq_true, decide_eq_true_eq, not_or] at inside
        omega
    · intro machine counted
      simp only [bind_apply, aligned machine counted, modify_apply]

/-- Installing a snapshot replaces the scope stack by an initial part of the
snapshot and adds empty sets of global names to the store. -/
theorem install_eq_ok
    {captured : Closure}
    {machine entered : Machine}
    (installed : install captured machine = .ok () entered) :
    ∃ size extra globals, 0 < size ∧
      entered = { machine with
        store := { machine.store with
          globals := machine.store.globals ++ Array.replicate extra [] }
        scopes := captured.scopes.extract 0 size
        globals := globals } := by
  rcases install_apply captured machine.store.globals.size with
    ⟨empty, explanation, refused⟩ | ⟨size, extra, globals, positive, entering⟩
  · simp [refused] at installed
  · rw [entering machine rfl, EStateM.Result.ok.injEq] at installed
    exact ⟨size, extra, globals, positive, installed.2.symm⟩

/-- Only an empty snapshot cannot be installed, and it leaves the machine alone. -/
theorem install_eq_error
    {captured : Closure}
    {machine after : Machine}
    {stop : Stop}
    (failed : install captured machine = .error stop after) :
    captured.scopes = #[] ∧ (∃ message, stop = .fatal message) ∧ after = machine := by
  rcases install_apply captured machine.store.globals.size with
    ⟨empty, explanation, refused⟩ | ⟨size, extra, globals, positive, entering⟩
  · rw [refused, EStateM.Result.error.injEq] at failed
    exact ⟨empty, ⟨_, failed.1.symm⟩, failed.2.symm⟩
  · simp [entering machine rfl] at failed

/-- Empty sets that are added to the store change no set of global names. -/
@[simp] theorem globalNames_append_replicate
    (store : Store)
    (extra : Nat)
    (ref : GlobalsRef) :
    ({ store with globals := store.globals ++ Array.replicate extra [] } :
      Store).globalNames ref = store.globalNames ref := by
  simp only [Store.globalNames, Array.getElem?_append]
  split
  · rfl
  · rename_i outside
    rw [Array.getElem?_eq_none (Nat.le_of_not_lt outside), Array.getElem?_replicate]
    split <;> rfl

end Action
end PatternMachine
