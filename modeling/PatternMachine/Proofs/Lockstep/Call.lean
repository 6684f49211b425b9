import PatternMachine.Proofs.Calling
import PatternMachine.Proofs.Lockstep.Builtin
import PatternMachine.Proofs.Lockstep.Match

/-!
# Statements, calls and construction keep step

A call needs less than machines alongside each other: it enters the scopes its
function captured, so that it is enough that the machines agree outside their
own scopes. Each gets its own scopes back when the call ends.
-/

namespace PatternMachine
namespace Evaluator

open PatternMachine.Action (InStep EndAlike)

variable {base : Nat} {self : Evaluator}

/-! ## Statements -/

theorem setPosition_inStep {position : Position} :
    InStep base (modify fun machine => { machine with position := position }) :=
  .change (fun _ _ => rfl) (fun _ => rfl) fun _ => rfl

theorem structMembers_inStep
    (inStep : self.IsInStep base)
    {name : String}
    {members : List Term}
    {names : List String}
    {values : List Term} :
    InStep base (self.structMembers name members names values) := by
  induction members generalizing names values with
  | nil => exact .pure
  | cons declaration rest inductionHypothesis =>
      have added : ∀ (member : String) (value : Term), InStep base
          (if names.contains member then
            Action.raise .valueError
              ("struct " ++ name ++ " declares member " ++ member ++ " more than once")
          else self.structMembers name rest (names ++ [member]) (values ++ [value])) :=
        fun _ _ => .ite .raise inductionHypothesis
      unfold structMembers
      dsimp only
      split
      · exact setPosition_inStep.bind fun _ => inductionHypothesis
      · exact added _ .none
      · exact .raise
      · exact (inStep.walk _).bind fun value => added _ value
      · exact .raise
      · exact .raise

theorem buildStruct_inStep
    (inStep : self.IsInStep base)
    {name : String}
    {members : List Term} :
    InStep base (self.buildStruct name members) :=
  (structMembers_inStep inStep).bind fun _ => .newStruct

theorem declareGlobals_inStep {names : List String} :
    InStep base (modify fun machine => names.foldl Machine.declareGlobal machine) := by
  intro machine other alongside
  refine ⟨rfl, ?_⟩
  induction names generalizing machine other with
  | nil => exact alongside
  | cons name rest inductionHypothesis =>
      exact inductionHypothesis _ _ (alongside.declareGlobal name)

theorem exec_inStep
    (inStep : self.IsInStep base)
    {statement : Statement} :
    InStep base (self.exec statement) := by
  unfold exec
  split
  · exact (buildStruct_inStep inStep).bind fun _ => InStep.bindName.bind fun _ => .pure
  · exact .raise
  · exact declareGlobals_inStep.bind fun _ => .pure
  · refine (inStep.walk _).bind fun value => .ite .pure ?_
    exact (inStep.unify .binding value _).bind fun _ =>
      (declareAll_inStep inStep).bind fun _ => .pure

theorem execBlock_inStep
    (inStep : self.IsInStep base)
    {statements : List Statement}
    {value : Term} :
    InStep base (self.execBlock statements value) := by
  induction statements generalizing value with
  | nil => exact .pure
  | cons statement rest inductionHypothesis =>
      exact (exec_inStep inStep).located.bind fun _ => inductionHypothesis

/-! ## Calls -/

theorem recordClause_inStep
    {name : String}
    {place : Nat}
    {pattern : Term}
    {matched : Bool} :
    InStep base (recordClause name place pattern matched) :=
  InStep.follows.bind fun _ => .ite (InStep.caption.bind fun _ => .record) .pure

theorem tryClauses_inStep
    (inStep : self.IsInStep base)
    {name : String}
    {argument : Term}
    {place : Nat}
    {clauses : List Clause} :
    InStep base (self.tryClauses name argument place clauses) := by
  induction clauses generalizing place with
  | nil => exact .display_raise
  | cons clause rest inductionHypothesis =>
      refine (inStep.unify .binding argument clause.pattern).orNoMatch.bind fun found => ?_
      cases found with
      | none => exact recordClause_inStep.bind fun _ => inductionHypothesis
      | some bindings =>
          exact recordClause_inStep.bind fun _ =>
            (declareAll_inStep inStep).bind fun _ => execBlock_inStep inStep

theorem runCode_inStep
    (inStep : self.IsInStep base)
    (code : Code)
    (argument : Term) :
    InStep base (self.runCode code argument) := by
  cases code with
  | clauses name clauses => exact tryClauses_inStep inStep
  | native operation => exact operation.run_inStep

/-- Noting an error that leaves the code keeps step when running the code does. -/
theorem recordRaised_inStep
    {action : Action Term}
    (body : String)
    (inStep : InStep base action) :
    InStep base (Action.recordRaised body action) := by
  intro machine other alongside
  have ends := inStep machine other alongside
  unfold Action.recordRaised
  revert ends
  cases action machine with
  | ok value after =>
      cases action other with
      | ok otherValue otherAfter => exact id
      | error otherStop otherAfter => exact False.elim
  | error stop after =>
      cases action other with
      | ok otherValue otherAfter => exact False.elim
      | error otherStop otherAfter =>
          rintro ⟨rfl, along⟩
          cases otherStop with
          | fatal message => exact ⟨rfl, along⟩
          | exhausted => exact ⟨rfl, along⟩
          | raised exception =>
              have text : otherAfter.store.errorText exception.payload =
                  after.store.errorText exception.payload := by
                rw [along.eq]
                exact congrFun (Store.errorText_withSets _ _) _
              dsimp only [Machine.notingStop]
              rw [text]
              exact ⟨rfl, (InStep.record after otherAfter along).2⟩

theorem runTraced_inStep
    (inStep : self.IsInStep base)
    {body : String}
    {code : Code}
    {argument : Term} :
    InStep base (self.runTraced body code argument) := by
  have ran := recordRaised_inStep body (runCode_inStep inStep code argument).located
  have begun : InStep base (Action.recordCalled body argument) :=
    InStep.caption.bind fun _ => .get_bind (fun _ _ => rfl) fun _ => .record
  have ended : ∀ result, InStep base (Action.recordReturned body result) := fun _ =>
    InStep.bind (.ite .pure .caption) fun _ => .record
  rw [runTraced_eq]
  refine InStep.follows.bind fun followed => (InStep.ite begun .pure).bind fun _ => ?_
  exact ran.bind fun result => (InStep.ite (ended result) .pure).bind fun _ => .pure

/-- Whether a call is nested too deeply is the same for machines that agree. -/
theorem checkDepth_agrees
    {machine other : Machine}
    (agree : machine.Agree base other)
    (body : String) :
    (checkDepth body machine = .ok () machine ∧ checkDepth body other = .ok () other) ∨
      ∃ stop, checkDepth body machine = .error stop machine ∧
        checkDepth body other = .error stop other := by
  have same := checkDepth_congr machine other (by rw [agree.eq]; rfl) (by rw [agree.eq]; rfl)
    (by rw [agree.eq]; rfl) body
  rcases checkDepth_apply body machine with ⟨_, passed⟩ | ⟨_, message, refused⟩
  · rw [passed] at same
    exact .inl ⟨passed, same⟩
  · rw [refused] at same
    exact .inr ⟨.fatal message, refused, same⟩

/-- What two calls leave behind: machines that agree, each with the scopes its
caller had. -/
structure CallsAgree (base : Nat) (caller otherCaller after otherAfter : Machine) : Prop where
  agree : after.Agree base otherAfter
  scopes : after.scopes = caller.scopes
  globals : after.globals = caller.globals
  otherScopes : otherAfter.scopes = otherCaller.scopes
  otherGlobals : otherAfter.globals = otherCaller.globals

/-- Binding the receiver and running the body keep step in the scope opened for
them. -/
theorem runBody_inStep
    (inStep : self.IsInStep base)
    (body : String)
    (code : Code)
    (receiver argument : Term) :
    InStep base
      ((if receiver.isAbsent then pure () else Action.bindName "this" receiver) >>= fun _ =>
        self.runTraced body code argument) :=
  (InStep.ite .pure .bindName).bind fun _ => runTraced_inStep inStep

/-- The position, the depth and the scopes of the callers are put back. -/
theorem CallsAgree.restored
    {caller otherCaller after otherAfter : Machine}
    (callers : caller.Agree base otherCaller)
    (alongside : after.Alongside base otherAfter) :
    CallsAgree base caller otherCaller
      (Machine.endCall { after with
        scopes := caller.scopes
        globals := caller.globals
        position := caller.position })
      (Machine.endCall { otherAfter with
        scopes := otherCaller.scopes
        globals := otherCaller.globals
        position := otherCaller.position }) := by
  have samePosition : otherCaller.position = caller.position := by
    rw [callers.eq]
    rfl
  have back := alongside.agree.change
    (fun inner => Machine.endCall { inner with position := caller.position })
    (fun _ _ _ _ => rfl) (fun _ => rfl) fun _ => ⟨rfl, rfl⟩
  rw [samePosition]
  exact ⟨back.withScopes _ _ _ _, rfl, rfl, rfl, rfl⟩

/-- A function that runs on machines that agree ends alike. -/
theorem runFunction_agrees
    (inStep : self.IsInStep base)
    {machine other : Machine}
    (agree : machine.Agree base other)
    (receiver : Term)
    (body : String)
    (code : Code)
    (captured : Closure)
    (argument : Term) :
    EndAlike (CallsAgree base machine other)
      (Action.ensuring
        (self.runFunction machine.beginCall receiver body code captured argument)
        Machine.endCall machine.beginCall)
      (Action.ensuring
        (self.runFunction other.beginCall receiver body code captured argument)
        Machine.endCall other.beginCall) := by
  have counted := agree.change Machine.beginCall
    (fun _ _ _ _ => rfl) (fun _ => rfl) fun _ => ⟨rfl, rfl⟩
  have unchanged : CallsAgree base machine other machine.beginCall.endCall
      other.beginCall.endCall :=
    ⟨counted.change Machine.endCall (fun _ _ _ _ => rfl) (fun _ => rfl) fun _ => ⟨rfl, rfl⟩,
      rfl, rfl, rfl, rfl⟩
  simp only [Action.ensuring_apply, runFunction, Action.bind_apply (checkDepth body)]
  rcases checkDepth_agrees counted body with ⟨passed, otherPassed⟩ | ⟨stop, refused, otherRefused⟩
  · rw [passed, otherPassed, enterFunction_bind]
    dsimp only
    simp only [Action.bind_apply (Action.install captured)]
    rcases Action.install_agrees counted captured with
      ⟨stop, refused, otherRefused⟩ | ⟨entered, otherEntered, installed, otherInstalled, along⟩
    · rw [refused, otherRefused]
      exact ⟨rfl, unchanged⟩
    · rw [installed, otherInstalled]
      dsimp only
      simp only [Action.bind_apply (modify _), Action.modify_apply]
      have ends := runBody_inStep inStep body code receiver argument _ _ along
      revert ends
      generalize (_ >>= fun _ => self.runTraced body code argument) entered.pushScope = run
      generalize (_ >>= fun _ => self.runTraced body code argument) otherEntered.pushScope =
        otherRun
      intro ends
      cases run with
      | ok result inner =>
          cases otherRun with
          | ok otherResult otherInner =>
              have restored := CallsAgree.restored agree ends.2
              exact ⟨ends.1, restored⟩
          | error otherStop otherInner => exact ends.elim
      | error stop inner =>
          cases otherRun with
          | ok otherResult otherInner => exact ends.elim
          | error otherStop otherInner =>
              have restored := CallsAgree.restored agree ends.2
              exact ⟨ends.1, restored⟩
  · rw [refused, otherRefused]
    exact ⟨rfl, unchanged⟩

/-- A call that is made on machines that agree ends alike: the scopes of its callers
have no part in it. -/
theorem call_agrees
    (inStep : self.IsInStep base)
    {machine other : Machine}
    (agree : machine.Agree base other)
    (receiver : Term)
    (body : String)
    (captured : Option Closure)
    (argument : Term) :
    EndAlike (CallsAgree base machine other)
      (self.call receiver body captured argument machine)
      (self.call receiver body captured argument other) := by
  have unchanged : CallsAgree base machine other machine other := ⟨agree, rfl, rfl, rfl, rfl⟩
  have sameDispatch : other.dispatch = machine.dispatch := by
    rw [agree.eq]
    rfl
  have samePosition : other.position = machine.position := by
    rw [agree.eq]
    rfl
  cases registered : machine.dispatch.get? body with
  | none =>
      unfold call
      simp only [Action.bind_apply, Action.get_apply, sameDispatch, registered]
      exact ⟨by rw [samePosition], unchanged⟩
  | some code =>
      cases captured with
      | none =>
          unfold call
          simp only [Action.bind_apply, Action.get_apply, sameDispatch, registered]
          exact ⟨by rw [samePosition], unchanged⟩
      | some closure =>
          rw [call_apply registered, call_apply (sameDispatch ▸ registered)]
          exact runFunction_agrees inStep agree receiver body code closure argument

theorem call_inStep
    (inStep : self.IsInStep base)
    {receiver : Term}
    {body : String}
    {captured : Option Closure}
    {argument : Term} :
    InStep base (self.call receiver body captured argument) := by
  intro machine other alongside
  refine (call_agrees inStep alongside.agree receiver body captured argument).mono ?_
  intro after otherAfter calls
  refine calls.agree.alongside ?_ ?_ ?_
  · rw [calls.otherScopes, calls.scopes, alongside.scopes]
  · rw [calls.otherGlobals, calls.globals, alongside.globals]
  · rw [calls.globals]
    exact alongside.innermost

/-! ## Construction and application -/

theorem globals_foldl_writeElement
    (memory : CellRef)
    (writes : List (Nat × Term))
    (store : Store) :
    (writes.foldl (fun store (slot, value) => store.writeElement memory slot value)
      store).globals = store.globals := by
  induction writes generalizing store with
  | nil => rfl
  | cons write rest inductionHypothesis => exact inductionHypothesis _

theorem fillSlots_inStep
    {memory : CellRef}
    {slots : List Nat}
    {values : List Term} :
    InStep base (fillSlots memory slots values) := by
  refine .change (fun machine sets => ?_) (fun machine => ?_) fun _ => rfl
  · generalize slots.zip values = writes
    have blind : ∀ store : Store,
        writes.foldl (fun store (slot, value) => store.writeElement memory slot value)
          (store.withSets sets) =
        (writes.foldl (fun store (slot, value) => store.writeElement memory slot value)
          store).withSets sets := by
      induction writes with
      | nil => exact fun _ => rfl
      | cons write rest inductionHypothesis =>
          exact fun store => inductionHypothesis (store.writeElement memory write.1 write.2)
    simp only [Machine.withSets, blind]
  · exact globals_foldl_writeElement memory _ _

theorem construct_inStep
    (inStep : self.IsInStep base)
    {template : Template}
    {argument : Term} :
    InStep base (self.construct template argument) := by
  refine InStep.newObject.bind fun memory => ?_
  refine .store_bind (fun _ _ => rfl) fun store => ?_
  split
  · exact (call_inStep inStep).bind fun _ => .pure
  · refine .store_bind (fun _ _ => by simp [constructorValues]) fun current => ?_
    exact .ite .raise (fillSlots_inStep.bind fun _ => .pure)

theorem applyValue_inStep
    (inStep : self.IsInStep base)
    {callee argument : Term} :
    InStep base (self.applyValue callee argument) := by
  unfold applyValue
  split
  · exact call_inStep inStep
  · exact call_inStep inStep
  · exact .raise
  · exact construct_inStep inStep
  · exact .raise

theorem walkApply_inStep
    (inStep : self.IsInStep base)
    {callee argument : Term} :
    InStep base (self.walkApply callee argument) := by
  have function : ∀ callee, InStep base
      (self.walk callee >>= fun function =>
        self.walk argument >>= fun value => self.applyValue function value) :=
    fun callee => (inStep.walk callee).bind fun _ => (inStep.walk argument).bind fun _ =>
      applyValue_inStep inStep
  unfold walkApply
  split
  · refine (inStep.walk _).bind fun subject => ?_
    refine (readIndex_inStep inStep).bind fun member => ?_
    refine (inStep.walk argument).bind fun value => ?_
    split
    · exact call_inStep inStep
    · exact applyValue_inStep inStep
  · split
    · exact (inStep.walk argument).bind fun _ => applyOperator_inStep
    · exact function _
  · exact function _

theorem walkEscape_inStep
    (inStep : self.IsInStep base)
    {name : String} :
    InStep base (self.walkEscape name) := by
  refine .get_bind (fun _ _ => rfl) fun machine => ?_
  split
  · exact runCode_inStep inStep _ _
  · exact .raise

end Evaluator
end PatternMachine
