import PatternMachine.Proofs.Lockstep.Walk
import PatternMachine.Proofs.Reachable

/-!
# Functions see the scopes they captured, not those of their callers

A call runs in the scopes its function captured, with a set of global names of
its own. So it does the same whatever scopes its caller has, and whatever the
caller declared global: the same value or the same error, the same output, the
same changes to cells and namespaces.
-/

namespace PatternMachine
namespace Machine

/-- The same machine with other active scopes, and with other names declared
global. -/
def underScopes (machine : Machine) (scopes : Array ScopeRef) (globals : Array GlobalsRef)
    (sets : Array (List String)) : Machine :=
  { machine.withSets sets with scopes, globals }

theorem agree_underScopes
    (machine : Machine)
    (scopes : Array ScopeRef)
    (globals : Array GlobalsRef)
    {sets : Array (List String)}
    (count : sets.size = machine.store.globals.size) :
    machine.Agree machine.store.globals.size (machine.underScopes scopes globals sets) where
  eq := rfl
  known := Nat.le_refl _
  count := count
  declared := by
    intro ref young
    have missing : machine.store.globals[ref.place]? = none :=
      Array.getElem?_eq_none young
    have otherMissing : sets[ref.place]? = none :=
      Array.getElem?_eq_none (count ▸ young)
    simp [Store.globalNames, underScopes, withSets, Store.withSets, missing, otherMissing]

variable {property : StackProperty} {machine after : Machine} {base : Nat}

/-- The innermost set of global names is the new one. -/
theorem innermost_pushScope
    (known : base ≤ machine.store.globals.size)
    (ref : GlobalsRef)
    (found : machine.pushScope.globals.back? = some ref) :
    base ≤ ref.place := by
  obtain rfl : ⟨machine.store.globals.size⟩ = ref := by simpa using found
  exact known

/-- Entering a function declares nothing global. -/
theorem globalNames_install_pushScope
    {captured : Closure}
    {entered : Machine}
    (installed : Action.install captured machine = .ok () entered)
    (ref : GlobalsRef) :
    entered.pushScope.store.globalNames ref = machine.store.globalNames ref := by
  rw [globalNames_pushScope]
  obtain ⟨size, extra, names, _, rfl⟩ := Action.install_eq_ok installed
  exact Action.globalNames_append_replicate machine.store extra ref

/-- Sets of global names older than the innermost one keep their names. -/
theorem Evolves.keepsSets
    (evolves : machine.Evolves property after)
    (known : base ≤ machine.store.globals.size)
    (innermost : ∀ ref : GlobalsRef, machine.globals.back? = some ref -> base ≤ ref.place)
    (ref : GlobalsRef)
    (old : ref.place < base) :
    after.store.globalNames ref = machine.store.globalNames ref := by
  induction evolves with
  | refl machine => rfl
  | trans first second earlier later =>
      have laterInnermost := innermost
      rw [← first.sameFrame.globals] at laterInnermost
      rw [later (Nat.le_trans known first.grows.globals) laterInnermost, earlier known innermost]
  | bindName machine name respects =>
      rcases bindName_eq machine name _ with ⟨scope, _, changed⟩ | same
      · rw [changed]
        rfl
      · rw [same]
  | declareGlobal machine name =>
      rcases declareGlobal_eq machine name with ⟨names, found, changed⟩ | same
      · have young := innermost names found
        have apart : names.place ≠ ref.place := by omega
        rw [changed]
        simp [Store.globalNames, Store.declareGlobal, Array.getElem?_modify, apart]
      · rw [same]
  | freshMark machine => rfl
  | newCell machine respects => rfl
  | writeElement machine cell place respects => rfl
  | record machine => rfl
  | @inScope machine inner inside kept =>
      have grown := (Store.Grows.pushScope machine).globals
      have opened := kept (Nat.le_trans known grown) (innermost_pushScope known)
      rw [globalNames_pushScope] at opened
      exact opened
  | @inFunction machine entered inner captured respects installed inside kept =>
      have entering := Nat.le_trans known (Store.Grows.install installed).globals
      have grown := (Store.Grows.pushScope entered).globals
      have opened := kept (Nat.le_trans entering grown) (innermost_pushScope entering)
      rw [globalNames_install_pushScope installed] at opened
      exact opened
  | inCall inside kept => exact kept known innermost
  | inConstraint inside kept => exact kept known innermost
  | inEvaluation inside kept => exact kept known innermost

end Machine

namespace Evaluator

open PatternMachine.Action (EndAlike)

/-- A call leaves the sets of global names that were there before as they are. -/
theorem CallOutcome.keepsSets
    {property : StackProperty}
    {captured : Option Closure}
    {caller after : Machine}
    (outcome : CallOutcome property captured caller after)
    (ref : GlobalsRef)
    (old : ref.place < caller.store.globals.size) :
    after.store.globalNames ref = caller.store.globalNames ref := by
  rcases outcome with rfl | rfl | ⟨closure, entered, inner, _, _, installed, inside, rfl⟩
  · rfl
  · rfl
  · have entering : caller.store.globals.size ≤ entered.store.globals.size :=
      (Store.Grows.install installed).globals
    have grown := (Store.Grows.pushScope entered).globals
    have kept := inside.keepsSets (Nat.le_trans entering grown)
      (Machine.innermost_pushScope entering) ref old
    rw [Machine.globalNames_install_pushScope installed] at kept
    exact kept

/-- What two calls with different callers leave behind: machines that are the same
under the scopes of their callers. Names declared global on the way are the
same, and what each caller declared global is left alone. -/
structure SameEffect (caller otherCaller after otherAfter : Machine) : Prop where
  same : otherAfter =
    after.underScopes otherCaller.scopes otherCaller.globals otherAfter.store.globals
  scopes : after.scopes = caller.scopes
  globals : after.globals = caller.globals
  declared : ∀ ref : GlobalsRef, caller.store.globals.size ≤ ref.place ->
    otherAfter.store.globalNames ref = after.store.globalNames ref
  kept : ∀ ref : GlobalsRef, ref.place < caller.store.globals.size ->
    after.store.globalNames ref = caller.store.globalNames ref ∧
      otherAfter.store.globalNames ref = otherCaller.store.globalNames ref

/-- The outcome of a call does not depend on the scopes of its caller, nor on what
the caller declared global: it is the same value or the same error, raised at
the same position, and the same effect. -/
theorem call_ignores_caller
    (depth : Nat)
    (receiver : Term)
    (body : String)
    (captured : Option Closure)
    (argument : Term)
    (machine : Machine)
    (scopes : Array ScopeRef)
    (globals : Array GlobalsRef)
    (sets : Array (List String))
    (count : sets.size = machine.store.globals.size) :
    let other := machine.underScopes scopes globals sets
    EndAlike (SameEffect machine other)
      ((within depth).call receiver body captured argument machine)
      ((within depth).call receiver body captured argument other) := by
  intro other
  have agree := machine.agree_underScopes scopes globals count
  have ends := call_agrees (within_inStep depth) agree receiver body captured argument
  have left : ∀ caller : Machine, CallOutcome .trivial captured caller
      (((within depth).call receiver body captured argument).after caller) :=
    fun caller => call_leaves (within_lawful depth) receiver.respects_trivial
      (Term.respects_trivial _) argument.respects_trivial caller.respects_trivial
  refine ends.leaving.mono ?_
  rintro after otherAfter ⟨calls, rfl, rfl⟩
  refine ⟨?_, calls.scopes, calls.globals, calls.agree.declared, fun ref old => ⟨?_, ?_⟩⟩
  · have same := calls.agree.eq
    rw [calls.otherScopes, calls.otherGlobals] at same
    exact same
  · exact (left machine).keepsSets ref old
  · exact (left other).keepsSets ref (count ▸ old)

/-- The clause of a function that yields the value of the name `y`. -/
def readerClause : Clause where
  pattern := .identifier "_"
  body := [.evaluate (.identifier "y") .absent]

/-- The global scope, in which `y` is one. -/
def readerHome : Machine :=
  ((Interpreter.defineFunction "f" [readerClause]).after
    (.prepared Store.initial {} {} false)).bindName "y" (.integer 1)

/-- A caller of the function with a local name `y` of its own, which is seven. -/
def readerCaller : Machine :=
  readerHome.pushScope.bindName "y" (.integer 7)

/-- The function yields the global `y`, whether its caller has a `y` of its own or is
the global scope itself, with `y` declared global there. -/
theorem call_ignores_caller_of_shadowing :
    let captured : Closure := { mark := 1, scopes := #[⟨0⟩], globals := #[⟨0⟩], level := 0 }
    let other := readerCaller.underScopes #[⟨0⟩] #[⟨0⟩] #[["y"], []]
    readerCaller.lookup? "y" = some (.integer 7) ∧
      (∃ after, (within 9).call .absent "f" (some captured) .none readerCaller =
        .ok (.integer 1) after) ∧
      EndAlike (SameEffect readerCaller other)
        ((within 9).call .absent "f" (some captured) .none readerCaller)
        ((within 9).call .absent "f" (some captured) .none other) :=
  ⟨rfl, ⟨_, rfl⟩,
    call_ignores_caller 9 .absent "f" _ .none readerCaller #[⟨0⟩] #[⟨0⟩] #[["y"], []] rfl⟩

end Evaluator
end PatternMachine
