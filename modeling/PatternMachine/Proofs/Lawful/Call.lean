import PatternMachine.Proofs.Calling
import PatternMachine.Proofs.Lawful.Builtin
import PatternMachine.Proofs.Lawful.Match

/-!
# Statements, calls and construction are lawful

A call is the one construct that runs under scopes that are not extensions of
the active ones. It is lawful because the scopes were captured by a function
that respects the property, and because the caller gets its own back.
-/

namespace PatternMachine

namespace Evaluator

open PatternMachine.Action (Lawful)

variable {property : StackProperty} {self : Evaluator}

/-! ## Statements -/

theorem structMembers_lawful
    (lawful : self.IsLawful property)
    {name : String}
    {members : List Term}
    {names : List String}
    {values : List Term}
    (membersRespect : ∀ member ∈ members, member.Respects property)
    (valuesRespect : ∀ value ∈ values, value.Respects property) :
    Lawful property (self.structMembers name members names values) fun result =>
      ∀ value ∈ result.2, value.Respects property := by
  induction members generalizing names values with
  | nil => exact .pure valuesRespect
  | cons declaration rest inductionHypothesis =>
      obtain ⟨declarationRespects, restRespect⟩ := List.forall_mem_cons.mp membersRespect
      have added : ∀ (member : String) (value : Term), value.Respects property ->
          Lawful property
            (if names.contains member then
              Action.raise .valueError
                ("struct " ++ name ++ " declares member " ++ member ++ " more than once")
            else self.structMembers name rest (names ++ [member]) (values ++ [value]))
            fun result => ∀ value ∈ result.2, value.Respects property := by
        intro member value valueRespects
        refine .ite (fun _ => .raise) fun _ => inductionHypothesis restRespect ?_
        exact List.forall_mem_append.mpr
          ⟨valuesRespect, List.forall_mem_singleton.mpr valueRespects⟩
      unfold structMembers
      dsimp only
      split
      · exact Lawful.setPosition.bind fun _ _ => inductionHypothesis restRespect valuesRespect
      · exact added _ .none trivial
      · exact .raise
      · refine (lawful.walk _ declarationRespects.1).bind fun value valueRespects => ?_
        exact added _ value valueRespects
      · exact .raise
      · exact .raise

theorem buildStruct_lawful
    (lawful : self.IsLawful property)
    {name : String}
    {members : List Term}
    (respects : ∀ member ∈ members, member.Respects property) :
    Lawful property (self.buildStruct name members) fun _ => True :=
  (structMembers_lawful lawful respects (by simp)).bind fun _ valuesRespect =>
    .newStruct valuesRespect

/-- Declaring several names global is declaring each of them. -/
theorem evolves_declareGlobals
    (machine : Machine)
    (names : List String) :
    machine.Evolves property (names.foldl Machine.declareGlobal machine) := by
  induction names generalizing machine with
  | nil => exact .refl machine
  | cons name rest inductionHypothesis =>
      exact (Machine.Evolves.declareGlobal machine name).trans
        (inductionHypothesis (machine.declareGlobal name))

theorem exec_lawful
    (lawful : self.IsLawful property)
    {statement : Statement}
    (respects : statement.Respects property) :
    Lawful property (self.exec statement) (Term.Respects property) := by
  unfold exec
  split
  · refine (buildStruct_lawful lawful respects).bind fun template _ => ?_
    have bound : Lawful property
        (Action.bindName template.name (.struct template)) fun _ => True :=
      .bindName trivial
    exact bound.bind fun _ _ => .pure trivial
  · exact .raise
  · rename_i names _
    have declared : Lawful property
        (modify fun machine => names.foldl Machine.declareGlobal machine) fun _ => True :=
      .update fun machine _ => evolves_declareGlobals machine names
    exact declared.bind fun _ _ => .pure trivial
  · rename_i expression pattern
    refine (lawful.walk expression respects.1).bind fun value valueRespects => ?_
    refine .ite (fun _ => .pure valueRespects) fun _ => ?_
    refine (lawful.unify .binding value pattern valueRespects respects.2).bind
      fun bindings bindingsRespect => ?_
    exact (declareAll_lawful lawful bindingsRespect).bind fun _ _ => .pure valueRespects

theorem execBlock_lawful
    (lawful : self.IsLawful property)
    {statements : List Statement}
    {value : Term}
    (respects : ∀ statement ∈ statements, statement.Respects property)
    (valueRespects : value.Respects property) :
    Lawful property (self.execBlock statements value) (Term.Respects property) := by
  induction statements generalizing value with
  | nil => exact .pure valueRespects
  | cons statement rest inductionHypothesis =>
      obtain ⟨statementRespects, restRespect⟩ := List.forall_mem_cons.mp respects
      refine (exec_lawful lawful statementRespects).located.bind fun next nextRespects => ?_
      exact inductionHypothesis restRespect nextRespects

/-! ## Calls -/

theorem recordClause_lawful
    {name : String}
    {place : Nat}
    {pattern : Term}
    {matched : Bool} :
    Lawful property (recordClause name place pattern matched) fun _ => True := by
  refine Lawful.follows.bind fun followed _ => ?_
  refine .ite (fun _ => ?_) fun _ => .pure trivial
  exact Lawful.caption.bind fun _ _ => .record

theorem tryClauses_lawful
    (lawful : self.IsLawful property)
    {name : String}
    {argument : Term}
    {place : Nat}
    {clauses : List Clause}
    (argumentRespects : argument.Respects property)
    (respects : ∀ clause ∈ clauses, clause.Respects property) :
    Lawful property (self.tryClauses name argument place clauses)
      (Term.Respects property) := by
  induction clauses generalizing place with
  | nil => exact Lawful.display.bind_raise
  | cons clause rest inductionHypothesis =>
      obtain ⟨clauseRespects, restRespect⟩ := List.forall_mem_cons.mp respects
      have matched := (lawful.unify .binding argument clause.pattern argumentRespects
        clauseRespects.1).orNoMatch
      refine matched.bind fun found foundRespects => ?_
      cases found with
      | none => exact recordClause_lawful.bind fun _ _ => inductionHypothesis restRespect
      | some bindings =>
          refine recordClause_lawful.bind fun _ _ => ?_
          refine (declareAll_lawful lawful (foundRespects bindings rfl)).bind fun _ _ => ?_
          exact execBlock_lawful lawful clauseRespects.2 trivial

theorem runCode_lawful
    (lawful : self.IsLawful property)
    {code : Code}
    {argument : Term}
    (codeRespects : code.Respects property)
    (argumentRespects : argument.Respects property) :
    Lawful property (self.runCode code argument) (Term.Respects property) := by
  cases code with
  | clauses name clauses => exact tryClauses_lawful lawful argumentRespects codeRespects
  | native operation => exact operation.run_lawful

/-- Noting an error that leaves the code is lawful. -/
theorem recordRaised_lawful
    {action : Action Term}
    (body : String)
    (lawful : Lawful property action (Term.Respects property)) :
    Lawful property (Action.recordRaised body action) (Term.Respects property) := by
  intro machine respects
  have outcome := lawful machine respects
  unfold Action.recordRaised
  revert outcome
  cases action machine with
  | ok value after => exact id
  | error stop after =>
      cases stop with
      | fatal message => exact id
      | exhausted => exact id
      | raised exception =>
          intro outcome
          have recorded : Lawful property
              (Action.record (.raised body (after.store.errorText exception.payload)))
              fun _ => True := .record
          exact ⟨outcome.1.trans (recorded after (outcome.1.respects respects)).1, outcome.2⟩

theorem runTraced_lawful
    (lawful : self.IsLawful property)
    {body : String}
    {code : Code}
    {argument : Term}
    (codeRespects : code.Respects property)
    (argumentRespects : argument.Respects property) :
    Lawful property (self.runTraced body code argument) (Term.Respects property) := by
  have ran := recordRaised_lawful body
    (runCode_lawful lawful codeRespects argumentRespects).located
  have begun : Lawful property (Action.recordCalled body argument) fun _ => True :=
    Lawful.caption.bind fun _ _ => Lawful.get.bind fun _ _ => .record
  have ended : ∀ result, Lawful property (Action.recordReturned body result) fun _ => True := by
    intro result
    have noted : Lawful property
        (if result.isAbsent then pure "none" else Action.caption result) fun _ => True :=
      .ite (fun _ => .pure trivial) fun _ => .caption
    exact noted.bind fun _ _ => .record
  rw [runTraced_eq]
  refine Lawful.follows.bind fun followed _ => ?_
  refine (Lawful.ite (fun _ => begun) fun _ => .pure trivial).bind fun _ _ => ?_
  refine ran.bind fun result resultRespects => ?_
  exact (Lawful.ite (fun _ => ended result) fun _ => .pure trivial).bind fun _ _ =>
    .pure resultRespects

/-- Binding the receiver and running the body, in the scope opened for it. -/
theorem runBody_lawful
    (lawful : self.IsLawful property)
    (body : String)
    {code : Code}
    {receiver argument : Term}
    (codeRespects : code.Respects property)
    (receiverRespects : receiver.Respects property)
    (argumentRespects : argument.Respects property) :
    Lawful property
      ((if receiver.isAbsent then pure () else Action.bindName "this" receiver) >>= fun _ =>
        self.runTraced body code argument)
      (Term.Respects property) := by
  have bound : Lawful property
      (if receiver.isAbsent then pure () else Action.bindName "this" receiver)
      fun _ => True :=
    .ite (fun _ => .pure trivial) fun _ => .bindName receiverRespects
  exact bound.bind fun _ _ => runTraced_lawful lawful codeRespects argumentRespects

/-- What a call leaves behind: the machine of the caller as it was, or with one more
call counted, or what is left when the body has run in the captured scopes with
one scope of its own, with the caller's scopes, position and depth put back. -/
def CallOutcome (property : StackProperty) (captured : Option Closure)
    (caller after : Machine) : Prop :=
  after = caller ∨ after = caller.beginCall.endCall ∨
    ∃ closure entered inner,
      captured = some closure ∧
      property.holds closure.scopes ∧
      Action.install closure caller.beginCall = .ok () entered ∧
      entered.pushScope.Evolves property inner ∧
      after = Machine.endCall { inner with
        scopes := caller.scopes
        globals := caller.globals
        position := caller.position }

/-- What a call leaves behind is an evolution. -/
theorem CallOutcome.evolves
    {captured : Option Closure}
    {caller after : Machine}
    (outcome : CallOutcome property captured caller after) :
    caller.Evolves property after := by
  rcases outcome with rfl | rfl | ⟨closure, entered, inner, _, respects, installed, inside, rfl⟩
  · exact .refl after
  · exact .inCall (.refl caller.beginCall)
  · exact .inCall (.inFunction respects installed inside)

/-- The outcome of running a function whose call is counted already. -/
theorem runFunction_outcome
    (lawful : self.IsLawful property)
    (body : String)
    {code : Code}
    {captured : Closure}
    {receiver argument : Term}
    (capturedRespects : property.holds captured.scopes)
    (codeRespects : code.Respects property)
    (receiverRespects : receiver.Respects property)
    (argumentRespects : argument.Respects property)
    {caller : Machine}
    (respects : caller.Respects property) :
    match
      Action.ensuring
        (self.runFunction caller.beginCall receiver body code captured argument)
        Machine.endCall caller.beginCall with
    | .ok value after =>
        CallOutcome property (some captured) caller after ∧ value.Respects property
    | .error stop after =>
        CallOutcome property (some captured) caller after ∧
          property.Allows caller.settings stop := by
  have counted : caller.beginCall.Respects property :=
    ⟨respects.store, respects.dispatch, respects.stack⟩
  rw [Action.ensuring_apply]
  unfold runFunction
  rw [Action.bind_apply (checkDepth body)]
  rcases checkDepth_apply body caller.beginCall with ⟨_, passed⟩ | ⟨exceeds, message, refused⟩
  · rw [passed, enterFunction_bind]
    dsimp only
    rw [Action.ensuring_apply, Action.bind_apply (Action.install captured)]
    cases installed : Action.install captured caller.beginCall with
    | error stop after =>
        obtain ⟨empty, ⟨message, rfl⟩, rfl⟩ := Action.install_eq_error installed
        exact ⟨.inr (.inl rfl), .inr (empty ▸ capturedRespects)⟩
    | ok value entered =>
        have outcome := runBody_lawful lawful body codeRespects receiverRespects
          argumentRespects entered.pushScope
          (counted.install capturedRespects installed).pushScope
        dsimp only
        rw [Action.bind_apply (modify _), Action.modify_apply]
        have settings : entered.pushScope.settings = caller.settings := by
          obtain ⟨_, _, _, _, rfl⟩ := Action.install_eq_ok installed
          rfl
        rw [settings] at outcome
        revert outcome
        dsimp only
        generalize (_ >>= fun _ => self.runTraced body code argument) entered.pushScope = run
        intro outcome
        cases run with
        | ok result inner =>
            refine ⟨.inr (.inr ⟨captured, entered, inner, rfl, capturedRespects, installed, ?_⟩), ?_⟩
            · exact ⟨outcome.1, rfl⟩
            · exact outcome.2
        | error stop inner =>
            refine ⟨.inr (.inr ⟨captured, entered, inner, rfl, capturedRespects, installed, ?_⟩), ?_⟩
            · exact ⟨outcome.1, rfl⟩
            · exact outcome.2
  · rw [refused]
    exact ⟨.inr (.inl rfl), .inl exceeds.1⟩

/-- What a call does, however it ends. -/
theorem call_outcome
    (lawful : self.IsLawful property)
    {receiver : Term}
    {body : String}
    {captured : Option Closure}
    {argument : Term}
    (receiverRespects : receiver.Respects property)
    (functionRespects : (Term.closure body captured).Respects property)
    (argumentRespects : argument.Respects property)
    {caller : Machine}
    (respects : caller.Respects property) :
    match self.call receiver body captured argument caller with
    | .ok value after => CallOutcome property captured caller after ∧ value.Respects property
    | .error stop after =>
        CallOutcome property captured caller after ∧ property.Allows caller.settings stop := by
  cases registered : caller.dispatch.get? body with
  | none =>
      unfold call
      rw [Action.bind_apply, Action.get_apply]
      simp only [registered]
      exact ⟨.inl rfl, trivial⟩
  | some code =>
      cases captured with
      | none =>
          unfold call
          rw [Action.bind_apply, Action.get_apply]
          simp only [registered]
          exact ⟨.inl rfl, trivial⟩
      | some closure =>
          rw [call_apply registered]
          exact runFunction_outcome lawful body functionRespects (respects.code registered)
            receiverRespects argumentRespects respects

/-- What a call leaves behind, however it ends. -/
theorem call_leaves
    (lawful : self.IsLawful property)
    {receiver : Term}
    {body : String}
    {captured : Option Closure}
    {argument : Term}
    (receiverRespects : receiver.Respects property)
    (functionRespects : (Term.closure body captured).Respects property)
    (argumentRespects : argument.Respects property)
    {caller : Machine}
    (respects : caller.Respects property) :
    CallOutcome property captured caller
      ((self.call receiver body captured argument).after caller) := by
  have outcome := call_outcome lawful receiverRespects functionRespects argumentRespects
    respects
  unfold Action.after
  revert outcome
  cases self.call receiver body captured argument caller with
  | ok value after => exact fun outcome => outcome.1
  | error stop after => exact fun outcome => outcome.1

theorem call_lawful
    (lawful : self.IsLawful property)
    {receiver : Term}
    {body : String}
    {captured : Option Closure}
    {argument : Term}
    (receiverRespects : receiver.Respects property)
    (functionRespects : (Term.closure body captured).Respects property)
    (argumentRespects : argument.Respects property) :
    Lawful property (self.call receiver body captured argument) (Term.Respects property) := by
  intro caller respects
  have outcome := call_outcome lawful receiverRespects functionRespects argumentRespects
    respects
  revert outcome
  cases self.call receiver body captured argument caller with
  | ok value after => exact fun outcome => ⟨outcome.1.evolves, outcome.2⟩
  | error stop after => exact fun outcome => ⟨outcome.1.evolves, outcome.2⟩

/-! ## Construction and application -/

/-- Filling the members of an object is writing them one after the other. -/
theorem evolves_fillSlots
    (machine : Machine)
    (memory : CellRef)
    (writes : List (Nat × Term))
    (respects : ∀ write ∈ writes, write.2.Respects property) :
    machine.Evolves property
      { machine with
        store := writes.foldl
          (fun store (slot, value) => store.writeElement memory slot value) machine.store } := by
  induction writes generalizing machine with
  | nil => exact .refl machine
  | cons write rest inductionHypothesis =>
      obtain ⟨writeRespects, restRespect⟩ := List.forall_mem_cons.mp respects
      exact (Machine.Evolves.writeElement machine memory write.1 writeRespects).trans
        (inductionHypothesis _ restRespect)

theorem fillSlots_lawful
    {memory : CellRef}
    {slots : List Nat}
    {values : List Term}
    (respects : ∀ value ∈ values, value.Respects property) :
    Lawful property (fillSlots memory slots values) fun _ => True := by
  refine .update fun machine _ => evolves_fillSlots machine memory (slots.zip values) ?_
  intro write member
  exact respects write.2 (List.of_mem_zip (a := write.1) (b := write.2) member).2

theorem constructorValues_respect
    {store : Store}
    (storeRespects : store.Respects property)
    (slots : List Nat)
    {argument : Term}
    (argumentRespects : argument.Respects property) :
    ∀ value ∈ constructorValues store slots argument, value.Respects property := by
  unfold constructorValues
  split
  · rename_i values found
    exact storeRespects.tupleElements argumentRespects found
  · split
    · simp
    · exact List.forall_mem_singleton.mpr argumentRespects

theorem construct_lawful
    (lawful : self.IsLawful property)
    {template : Template}
    {argument : Term}
    (argumentRespects : argument.Respects property) :
    Lawful property (self.construct template argument) (Term.Respects property) := by
  refine Lawful.newObject.bind fun memory _ => ?_
  refine Lawful.store.bind fun store storeRespects => ?_
  split
  · rename_i body captured found
    have objectRespects : (Term.object (some template) memory).Respects property := trivial
    refine (call_lawful lawful objectRespects (storeRespects.member found)
      argumentRespects).bind fun _ _ => ?_
    exact .pure trivial
  · refine Lawful.store.bind fun current currentRespects => ?_
    refine .ite (fun _ => .raise) fun _ => ?_
    have valuesRespect := constructorValues_respect currentRespects
      (current.dataSlots template) argumentRespects
    exact (fillSlots_lawful valuesRespect).bind fun _ _ => .pure trivial

theorem applyValue_lawful
    (lawful : self.IsLawful property)
    {callee argument : Term}
    (calleeRespects : callee.Respects property)
    (argumentRespects : argument.Respects property) :
    Lawful property (self.applyValue callee argument) (Term.Respects property) := by
  unfold applyValue
  split
  · have absentRespects : Term.absent.Respects property := trivial
    exact call_lawful lawful absentRespects calleeRespects argumentRespects
  · exact call_lawful lawful calleeRespects.1 calleeRespects.2 argumentRespects
  · exact .raise
  · exact construct_lawful lawful argumentRespects
  · exact .raise

/-- A function and its argument are evaluated, and the one is applied to the
other. -/
theorem walkFunction_lawful
    (lawful : self.IsLawful property)
    {callee argument : Term}
    (calleeRespects : callee.Respects property)
    (argumentRespects : argument.Respects property) :
    Lawful property
      (self.walk callee >>= fun function =>
        self.walk argument >>= fun value => self.applyValue function value)
      (Term.Respects property) := by
  refine (lawful.walk callee calleeRespects).bind fun function functionRespects => ?_
  refine (lawful.walk argument argumentRespects).bind fun value valueRespects => ?_
  exact applyValue_lawful lawful functionRespects valueRespects

theorem walkApply_lawful
    (lawful : self.IsLawful property)
    {callee argument : Term}
    (calleeRespects : callee.Respects property)
    (argumentRespects : argument.Respects property) :
    Lawful property (self.walkApply callee argument) (Term.Respects property) := by
  unfold walkApply
  split
  · refine (lawful.walk _ calleeRespects.1).bind fun subject subjectRespects => ?_
    refine (readIndex_lawful lawful calleeRespects.2).bind fun member memberRespects => ?_
    refine (lawful.walk argument argumentRespects).bind fun value valueRespects => ?_
    split
    · exact call_lawful lawful subjectRespects memberRespects valueRespects
    · exact applyValue_lawful lawful memberRespects valueRespects
  · split
    · refine (lawful.walk argument argumentRespects).bind fun value _ => ?_
      exact applyOperator_lawful
    · exact walkFunction_lawful lawful calleeRespects argumentRespects
  · exact walkFunction_lawful lawful calleeRespects argumentRespects

theorem walkEscape_lawful
    (lawful : self.IsLawful property)
    {name : String} :
    Lawful property (self.walkEscape name) (Term.Respects property) := by
  refine Lawful.get.bind fun machine respects => ?_
  split
  · rename_i code registered
    exact runCode_lawful lawful (respects.code registered) trivial
  · exact .raise

end Evaluator
end PatternMachine
