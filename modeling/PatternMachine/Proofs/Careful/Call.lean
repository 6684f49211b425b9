import PatternMachine.Proofs.Calling
import PatternMachine.Proofs.Careful.Builtin
import PatternMachine.Proofs.Careful.Match

/-!
# Statements, calls and construction are careful
-/

namespace PatternMachine
namespace Evaluator

open PatternMachine.Action (Careful Foretold ForetoldData YieldsData)

variable {quoting : Bool} {ledger : Ledger} {told : Ledger -> Evaluator} {self : Evaluator}

/-! ## Statements -/

/-- The members of a struct have different names, and a value each. -/
theorem structMembers_careful
    (careful : self.IsCareful quoting told)
    {name : String}
    {members : List Term}
    {names : List String}
    {values : List Term}
    (codes : ∀ member ∈ members, member.IsCode quoting ledger)
    (distinct : names.Nodup)
    (sized : values.length = names.length)
    (data : ∀ value ∈ values, value.IsData quoting ledger) :
    Foretold quoting ledger (self.structMembers name members names values)
      (fun future => (told future).structMembers name members names values) fun final result =>
      result.1.Nodup ∧ result.2.length = result.1.length ∧
        ∀ value ∈ result.2, value.IsData quoting final := by
  induction members generalizing ledger names values with
  | nil =>
      exact .pure fun _ grows =>
        ⟨distinct, sized, fun value inside => (data value inside).mono grows⟩
  | cons declaration rest inductionHypothesis =>
      obtain ⟨declarationCode, restCode⟩ := List.forall_mem_cons.mp codes
      have added : ∀ {later : Ledger} (member : String) (value : Term),
          ledger.Grows later -> value.IsData quoting later ->
          Foretold quoting later
            (if names.contains member then
              Action.raise .valueError
                ("struct " ++ name ++ " declares member " ++ member ++ " more than once")
            else self.structMembers name rest (names ++ [member]) (values ++ [value]))
            (fun future =>
              if names.contains member then
                Action.raise .valueError
                  ("struct " ++ name ++ " declares member " ++ member ++ " more than once")
              else
                (told future).structMembers name rest (names ++ [member]) (values ++ [value]))
            fun final result => result.1.Nodup ∧ result.2.length = result.1.length ∧
              ∀ value ∈ result.2, value.IsData quoting final := by
        intro later member value grows valueData
        refine .ite (fun _ => .raise) fun new => inductionHypothesis ?_ ?_ ?_ ?_
        · exact fun other inside => (restCode other inside).mono grows
        · refine List.nodup_append.mpr ⟨distinct, by simp, fun other inside last single => ?_⟩
          rw [List.mem_singleton.mp single]
          rintro rfl
          exact new (List.contains_iff_mem.mpr inside)
        · simp [sized]
        · exact List.forall_mem_append.mpr
            ⟨fun other inside => (data other inside).mono grows,
              List.forall_mem_singleton.mpr valueData⟩
      unfold structMembers
      dsimp only
      split
      · refine Foretold.setPosition.bind fun _ _ grows _ =>
          inductionHypothesis ?_ distinct sized ?_
        · exact fun other inside => (restCode other inside).mono grows
        · exact fun other inside => (data other inside).mono grows
      · exact added _ .none (.refl ledger) trivial
      · exact .raise
      · exact (careful.walk declarationCode.1).bind fun _ => added _
      · exact .raise
      · exact .raise

theorem buildStruct_careful
    (careful : self.IsCareful quoting told)
    {name : String}
    {members : List Term}
    (codes : ∀ member ∈ members, member.IsCode quoting ledger) :
    Foretold quoting ledger (self.buildStruct name members)
      (fun future => (told future).buildStruct name members) fun final template =>
      (Term.struct template).IsData quoting final :=
  (structMembers_careful careful codes List.nodup_nil rfl (by simp)).bind
    fun _ _ _ ⟨distinct, sized, data⟩ => .newStruct distinct sized data

theorem declareGlobals_careful {names : List String} :
    Careful quoting ledger
      (modify fun machine => names.foldl Machine.declareGlobal machine) fun _ _ => True := by
  have kept : ∀ machine : Machine,
      (names.foldl Machine.declareGlobal machine).store.cells = machine.store.cells ∧
        (names.foldl Machine.declareGlobal machine).store.scopes = machine.store.scopes ∧
        (names.foldl Machine.declareGlobal machine).dispatch = machine.dispatch := by
    induction names with
    | nil => exact fun _ => ⟨rfl, rfl, rfl⟩
    | cons name rest inductionHypothesis =>
        intro machine
        obtain ⟨cells, scopes, dispatch⟩ := inductionHypothesis (machine.declareGlobal name)
        rw [List.foldl_cons, cells, scopes, dispatch]
        rcases machine.declareGlobal_eq name with ⟨_, _, changed⟩ | same
        · rw [changed]
          exact ⟨rfl, rfl, rfl⟩
        · rw [same]
          exact ⟨rfl, rfl, rfl⟩
  refine .change (fun machine => (kept machine).1) (fun machine ref => ?_)
    fun machine => (kept machine).2.2
  simp only [Store.scope, (kept machine).2.1]

theorem exec_careful
    (careful : self.IsCareful quoting told)
    {statement : Statement}
    (code : statement.IsCode quoting ledger) :
    ForetoldData quoting ledger (self.exec statement)
      (fun future => (told future).exec statement) := by
  unfold exec
  split
  · refine (buildStruct_careful careful code).bind fun _ template _ data => ?_
    exact (Foretold.bindName data).bind fun _ _ grows _ => .pureData (data.mono grows)
  · exact .raise
  · exact declareGlobals_careful.bind fun _ _ _ _ => .pureData trivial
  · refine (careful.walk code.1).bind fun _ value grows data => ?_
    refine .ite (fun _ => .pureData data) fun _ => ?_
    refine (careful.unify .binding data (code.2.mono grows)).bind
      fun _ bindings matched sound => ?_
    exact (declareAll_careful careful sound).bind fun _ _ declared _ =>
      .pureData ((data.mono matched).mono declared)

theorem execBlock_careful
    (careful : self.IsCareful quoting told)
    {statements : List Statement}
    {value : Term}
    (codes : ∀ statement ∈ statements, statement.IsCode quoting ledger)
    (data : value.IsData quoting ledger) :
    ForetoldData quoting ledger (self.execBlock statements value)
      (fun future => (told future).execBlock statements value) := by
  induction statements generalizing ledger value with
  | nil => exact .pureData data
  | cons statement rest inductionHypothesis =>
      obtain ⟨statementCode, restCode⟩ := List.forall_mem_cons.mp codes
      refine (exec_careful careful statementCode).located.bind fun _ next grows nextData => ?_
      exact inductionHypothesis (fun other inside => (restCode other inside).mono grows) nextData

/-! ## Calls -/

theorem recordClause_careful
    {name : String}
    {place : Nat}
    {pattern : Term}
    {matched : Bool} :
    Careful quoting ledger (recordClause name place pattern matched) fun _ _ => True := by
  refine Foretold.follows.bind fun _ followed _ _ => ?_
  refine .ite (fun _ => ?_) fun _ => .pure fun _ _ => trivial
  exact Foretold.caption.bind fun _ _ _ _ => .record _

theorem tryClauses_careful
    (careful : self.IsCareful quoting told)
    {name : String}
    {argument : Term}
    {place : Nat}
    {clauses : List Clause}
    (data : argument.IsData quoting ledger)
    (codes : ∀ clause ∈ clauses, clause.IsCode quoting ledger) :
    ForetoldData quoting ledger (self.tryClauses name argument place clauses)
      (fun future => (told future).tryClauses name argument place clauses) := by
  induction clauses generalizing ledger place with
  | nil => exact .display_raise
  | cons clause rest inductionHypothesis =>
      obtain ⟨clauseCode, restCode⟩ := List.forall_mem_cons.mp codes
      refine (careful.unify .binding data clauseCode.1).orNoMatch.bind
        fun _ found grows sound => ?_
      cases found with
      | none =>
          refine recordClause_careful.bind fun _ _ recorded _ => ?_
          have all := grows.trans recorded
          exact inductionHypothesis (data.mono all)
            fun other inside => (restCode other inside).mono all
      | some bindings =>
          refine recordClause_careful.bind fun _ _ recorded _ => ?_
          refine (declareAll_careful careful ((sound bindings rfl).mono recorded)).bind
            fun _ _ declared _ => execBlock_careful careful ?_ trivial
          intro statement inside
          exact (clauseCode.2 statement inside).mono ((grows.trans recorded).trans declared)

theorem runCode_careful
    (careful : self.IsCareful quoting told)
    {code : Code}
    {argument : Term}
    (isCode : code.IsCode quoting ledger)
    (data : argument.IsData quoting ledger) :
    ForetoldData quoting ledger (self.runCode code argument)
      (fun future => (told future).runCode code argument) := by
  cases code with
  | clauses name clauses => exact tryClauses_careful careful data isCode
  | native operation => exact operation.run_careful

/-- Noting an error that leaves the code is careful when running the code is. -/
theorem recordRaised_careful
    {action : Action Term}
    {toldAction : Ledger -> Action Term}
    (body : String)
    (careful : ForetoldData quoting ledger action toldAction) :
    ForetoldData quoting ledger (Action.recordRaised body action)
      (fun future => Action.recordRaised body (toldAction future)) := by
  intro later machine grows sound
  have outcome := careful later machine grows sound
  unfold Action.recordRaised
  revert outcome
  cases action machine with
  | ok value after =>
      rintro ⟨final, leads, data, same⟩
      exact ⟨final, leads, data, fun future known => by simp only [same future known]⟩
  | error stop after =>
      rintro ⟨final, leads, stopped, same⟩
      cases stop with
      | fatal message =>
          exact ⟨final, leads, stopped, fun future known => by simp only [same future known]⟩
      | exhausted =>
          exact ⟨final, leads, stopped, fun future known => by simp only [same future known]⟩
      | raised exception =>
          obtain ⟨last, onwards, _⟩ :=
            Foretold.record (.raised body (after.store.errorText exception.payload))
              final after (.refl final) leads.sound
          have growing := onwards.grows leads.sound
          refine ⟨last, leads.trans onwards, Stop.IsSound.mono stopped growing, ?_⟩
          exact fun future known => by simp only [same future (growing.trans known)]

theorem runTraced_careful
    (careful : self.IsCareful quoting told)
    {body : String}
    {code : Code}
    {argument : Term}
    (isCode : code.IsCode quoting ledger)
    (data : argument.IsData quoting ledger) :
    ForetoldData quoting ledger (self.runTraced body code argument)
      (fun future => (told future).runTraced body code argument) := by
  have ran := recordRaised_careful body (runCode_careful careful isCode data).located
  have begun : ∀ {later : Ledger},
      Careful quoting later (Action.recordCalled body argument) fun _ _ => True :=
    Foretold.caption.bind fun _ _ _ _ => .get_bind fun _ _ _ _ => .record _
  have ended : ∀ {later : Ledger} (result : Term),
      Careful quoting later (Action.recordReturned body result) fun _ _ => True := by
    intro later result
    have noted : Careful quoting later
        (if result.isAbsent then pure "none" else Action.caption result) fun _ _ => True :=
      .ite (fun _ => .pure fun _ _ => trivial) fun _ => .caption
    exact noted.bind fun _ _ _ _ => .record _
  have skipped : ∀ {later : Ledger}, Careful quoting later (pure ()) fun _ _ => True :=
    .pure fun _ _ => trivial
  simp only [runTraced_eq]
  refine Foretold.follows.bind fun _ followed grows _ => ?_
  refine (Foretold.ite (fun _ => begun) fun _ => skipped).bind fun _ _ noted _ => ?_
  refine (ran.later (grows.trans noted)).bind fun _ result _ resultData => ?_
  refine (Foretold.ite (fun _ => ended result) fun _ => skipped).bind fun _ _ last _ => ?_
  exact .pureData (resultData.mono last)

theorem checkDepth_careful {body : String} :
    Careful quoting ledger (checkDepth body) fun _ _ => True := by
  refine .get_bind fun _ machine _ _ => ?_
  dsimp only
  refine .ite (fun _ => ?_) fun _ => .pure fun _ _ => trivial
  exact .throw fun _ _ => failureReport_ne_bell _

/-- A receiver is data, or there is none. -/
def ReceiverSound (quoting : Bool) (ledger : Ledger) (receiver : Term) : Prop :=
  receiver.isAbsent = false -> receiver.IsData quoting ledger

theorem enterFunction_careful
    {captured : Closure}
    {receiver : Term}
    (sound : ReceiverSound quoting ledger receiver) :
    Careful quoting ledger (enterFunction captured receiver) fun _ _ => True := by
  have opened : ∀ {later : Ledger}, Careful quoting later (modify Machine.pushScope)
      fun _ _ => True :=
    .change (fun _ => rfl) (fun machine ref => machine.scope_pushScope ref) fun _ => rfl
  refine Foretold.install.bind fun _ _ grows _ => ?_
  refine opened.bind fun _ _ openedGrows _ => ?_
  refine .ite (fun _ => .pure fun _ _ => trivial) fun present => .bindName ?_
  exact ((sound (by simpa using present)).mono grows).mono openedGrows

theorem call_careful
    (careful : self.IsCareful quoting told)
    {receiver : Term}
    {body : String}
    {captured : Option Closure}
    {argument : Term}
    (receiverSound : ReceiverSound quoting ledger receiver)
    (data : argument.IsData quoting ledger) :
    ForetoldData quoting ledger (self.call receiver body captured argument)
      (fun future => (told future).call receiver body captured argument) := by
  have counted : ∀ {later : Ledger}, Careful quoting later
      (modify Machine.beginCall)
      fun _ _ => True :=
    .change (fun _ => rfl) (fun _ _ => rfl) fun _ => rfl
  unfold call
  refine .get_bind fun _ machine grows sound => ?_
  split
  · exact .raise
  · rename_i code registered
    split
    · exact .raise
    · rename_i closure
      refine counted.bind fun _ _ countedGrows _ => .get_bind fun later caller gotten _ => ?_
      have all := (grows.trans countedGrows).trans gotten
      have isCode := (sound.code registered).mono (countedGrows.trans gotten)
      let framed (evaluator : Evaluator) : Action Term :=
        checkDepth body >>= fun _ =>
          Action.ensuring
            (enterFunction closure receiver >>= fun _ =>
              evaluator.runTraced body code argument)
            fun machine =>
              { machine with
                scopes := caller.scopes
                globals := caller.globals
                position := caller.position }
      have framedData : ForetoldData quoting later (framed self)
          (fun future => framed (told future)) := by
        refine checkDepth_careful.bind fun _ _ checked _ => ?_
        refine Foretold.ensuring ?_ (fun _ => rfl) fun _ => rfl
        refine (enterFunction_careful fun present => ?_).bind fun _ _ entered _ => ?_
        · exact ((receiverSound present).mono all).mono checked
        · exact runTraced_careful careful ((isCode.mono checked).mono entered)
            (((data.mono all).mono checked).mono entered)
      refine Foretold.ensuring ?_ (fun _ => rfl) fun _ => rfl
      exact .ite (fun _ => framedData) fun _ => framedData

/-! ## Construction and application -/

/-- Filling the members of an object is writing them one after the other. -/
theorem leads_fillSlots
    {machine : Machine}
    (sound : machine.Sound quoting ledger)
    {memory : CellRef}
    (memoryData : ledger.IsData memory)
    (writes : List (Nat × Term))
    (data : ∀ write ∈ writes, write.2.IsData quoting ledger) :
    machine.Leads quoting ledger ledger
      { machine with
        store := writes.foldl
          (fun store (slot, value) => store.writeElement memory slot value) machine.store } := by
  induction writes generalizing machine with
  | nil => exact .refl sound
  | cons write rest inductionHypothesis =>
      obtain ⟨writeData, restData⟩ := List.forall_mem_cons.mp data
      have written := Machine.Leads.writeElement sound memoryData write.1 writeData
      exact written.trans (inductionHypothesis written.sound restData)

theorem fillSlots_careful
    {memory : CellRef}
    {slots : List Nat}
    {values : List Term}
    (memoryData : ledger.IsData memory)
    (data : ∀ value ∈ values, value.IsData quoting ledger) :
    Careful quoting ledger (fillSlots memory slots values) fun _ _ => True := by
  refine .update fun _ machine grows sound =>
    leads_fillSlots sound (memoryData.mono grows) (slots.zip values) ?_
  intro write member
  exact (data write.2 (List.of_mem_zip (a := write.1) (b := write.2) member).2).mono grows

theorem constructorValues_isData
    {store : Store}
    (sound : store.Sound quoting ledger)
    (slots : List Nat)
    {argument : Term}
    (data : argument.IsData quoting ledger) :
    ∀ value ∈ constructorValues store slots argument, value.IsData quoting ledger := by
  unfold constructorValues
  split
  · rename_i values found
    exact sound.tupleElements data found
  · split
    · simp
    · exact List.forall_mem_singleton.mpr data

theorem construct_careful
    (careful : self.IsCareful quoting told)
    {template : Template}
    {argument : Term}
    (templateData : (Term.struct template).IsData quoting ledger)
    (data : argument.IsData quoting ledger) :
    ForetoldData quoting ledger (self.construct template argument)
      (fun future => (told future).construct template argument) := by
  refine (Foretold.newObject templateData).bind fun _ memory made object => ?_
  refine .store_bind fun _ store grows _ => ?_
  have objectLater := object.mono grows
  have dataLater := (data.mono made).mono grows
  split
  · refine (call_careful careful (fun _ => objectLater) dataLater).bind fun _ _ called _ => ?_
    exact .pureData (objectLater.mono called)
  · refine .store_bind fun _ current currentGrows sound => ?_
    have objectNow := objectLater.mono currentGrows
    refine .ite (fun _ => .raise) fun _ => ?_
    have values := constructorValues_isData sound (current.dataSlots template)
      (dataLater.mono currentGrows)
    exact (fillSlots_careful ⟨_, objectNow.1⟩ values).bind fun _ _ filled _ =>
      .pureData ((objectLater.mono currentGrows).mono filled)

theorem applyValue_careful
    (careful : self.IsCareful quoting told)
    {callee argument : Term}
    (calleeData : callee.IsData quoting ledger)
    (data : argument.IsData quoting ledger) :
    ForetoldData quoting ledger (self.applyValue callee argument)
      (fun future => (told future).applyValue callee argument) := by
  unfold applyValue
  split
  · exact call_careful careful (by simp [ReceiverSound, Term.isAbsent]) data
  · exact call_careful careful (fun _ => calleeData.1) data
  · exact .raise
  · exact construct_careful careful calleeData data
  · exact .raise

/-- A function and its argument are evaluated, and the one is applied to the
other. -/
theorem walkFunction_careful
    (careful : self.IsCareful quoting told)
    {callee argument : Term}
    (calleeCode : callee.IsCode quoting ledger)
    (argumentCode : argument.IsCode quoting ledger) :
    ForetoldData quoting ledger
      (self.walk callee >>= fun function =>
        self.walk argument >>= fun value => self.applyValue function value)
      (fun future => (told future).walk callee >>= fun function =>
        (told future).walk argument >>= fun value => (told future).applyValue function value) := by
  refine (careful.walk calleeCode).bind fun _ function grows functionData => ?_
  refine (careful.walk (argumentCode.mono grows)).bind fun _ value valueGrows data => ?_
  exact applyValue_careful careful (functionData.mono valueGrows) data

theorem walkApply_careful
    (careful : self.IsCareful quoting told)
    {callee argument : Term}
    (calleeCode : callee.IsCode quoting ledger)
    (argumentCode : argument.IsCode quoting ledger) :
    ForetoldData quoting ledger (self.walkApply callee argument)
      (fun future => (told future).walkApply callee argument) := by
  unfold walkApply
  split
  · refine (careful.walk calleeCode.1).bind fun _ subject grows subjectData => ?_
    refine (readIndex_careful careful subjectData (calleeCode.2.mono grows)).bind
      fun _ member memberGrows memberData => ?_
    refine (careful.walk ((argumentCode.mono grows).mono memberGrows)).bind
      fun _ value valueGrows data => ?_
    split
    · exact call_careful careful (fun _ => (subjectData.mono memberGrows).mono valueGrows) data
    · exact applyValue_careful careful (memberData.mono valueGrows) data
  · split
    · exact (careful.walk argumentCode).bind fun _ _ _ data => applyOperator_careful data
    · exact walkFunction_careful careful calleeCode argumentCode
  · exact walkFunction_careful careful calleeCode argumentCode

theorem walkEscape_careful
    (careful : self.IsCareful quoting told)
    {name : String} :
    ForetoldData quoting ledger (self.walkEscape name)
      (fun future => (told future).walkEscape name) := by
  refine .get_bind fun _ machine _ sound => ?_
  split
  · rename_i code registered
    exact runCode_careful careful (sound.code registered) trivial
  · exact .raise

end Evaluator
end PatternMachine
