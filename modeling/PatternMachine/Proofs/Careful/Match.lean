import PatternMachine.Match
import PatternMachine.Proofs.Careful.Access

/-!
# Matching is careful

The rules of matching are gone through in the order in which they are tried.
-/

namespace PatternMachine

variable {quoting : Bool} {ledger earlier later : Ledger} {mode : Mode} {term pattern : Term}

namespace Term.IsSubject

theorem isCode (subject : term.IsSubject quoting ledger mode) :
    term.IsCode quoting ledger := by
  cases mode with
  | binding => exact IsData.isCode subject
  | covering => exact subject

theorem mono
    (subject : term.IsSubject quoting earlier mode)
    (grows : earlier.Grows later) :
    term.IsSubject quoting later mode := by
  cases mode with
  | binding => exact IsData.mono subject grows
  | covering => exact IsCode.mono subject grows

theorem ofData (data : term.IsData quoting ledger) : term.IsSubject quoting ledger mode := by
  cases mode with
  | binding => exact data
  | covering => exact data.isCode

end Term.IsSubject

/-- What is found at a site can be matched. -/
def Site.IsSubject (quoting : Bool) (ledger : Ledger) (mode : Mode) : Site -> Prop
  | .given term => term.IsSubject quoting ledger mode
  | .element cell _ => ledger.IsData cell ∨ mode = .covering ∧ ledger cell = some .code

theorem Site.IsSubject.mono
    {site : Site}
    (subject : site.IsSubject quoting earlier mode)
    (grows : earlier.Grows later) :
    site.IsSubject quoting later mode := by
  cases site with
  | given term => exact Term.IsSubject.mono subject grows
  | element cell place =>
      exact subject.imp (fun data => data.mono grows) fun code => ⟨code.1, grows cell _ code.2⟩

namespace Store.Sound

variable {store : Store}

/-- The elements of a list that can be matched can be matched. -/
theorem listSubjects
    (sound : store.Sound quoting ledger)
    {cell : CellRef}
    (subject : (Term.list cell).IsSubject quoting ledger mode) :
    ∀ element ∈ (store.elements cell).toList, element.IsSubject quoting ledger mode := by
  cases mode with
  | binding => exact sound.dataElements ⟨_, subject⟩
  | covering => exact sound.codeElements subject

/-- What is found at a site that can be matched can be matched. -/
theorem findSubject
    (sound : store.Sound quoting ledger)
    {site : Site}
    (subject : site.IsSubject quoting ledger mode) :
    (store.find site).IsSubject quoting ledger mode := by
  cases site with
  | given term => exact subject
  | element cell place =>
      rcases subject with data | ⟨rfl, code⟩
      · exact .ofData (sound.findData data place)
      · exact sound.findCodeElement (.inl code) place

/-- The elements of a term that can be matched stand at sites that can be. -/
theorem subjectSites
    (store : Store)
    (subject : term.IsSubject quoting ledger mode) :
    ∀ site ∈ store.sites term, site.IsSubject quoting ledger mode := by
  have known : ∀ cell, (Term.list cell).IsSubject quoting ledger mode ->
      ∀ site ∈ store.places cell, site.IsSubject quoting ledger mode := by
    intro cell subject
    refine forall_mem_places fun _ => ?_
    cases mode with
    | binding => exact .inl ⟨_, subject⟩
    | covering => exact subject.symm.imp (fun data => ⟨_, data⟩) fun code => ⟨rfl, code⟩
  cases term with
  | list cell => exact known cell subject
  | tuple cell =>
      refine known cell ?_
      cases mode <;> exact subject
  | pair first second =>
      cases mode <;>
        simpa [sites, Site.IsSubject, Term.IsSubject, Term.IsData, Term.IsCode] using subject
  | object owner memory =>
      have data : (Term.object owner memory).IsData quoting ledger := by
        cases mode <;> exact subject
      cases owner with
      | none => exact data.elim
      | some template => exact forall_mem_places fun _ => .inl ⟨_, data.1⟩
  | _ => simp [sites]

end Store.Sound

namespace BindingsSound

theorem nil : BindingsSound quoting mode ledger [] := by
  intro _ binding member
  simp at member

theorem mono
    {bindings : List Binding}
    (sound : BindingsSound quoting mode earlier bindings)
    (grows : earlier.Grows later) :
    BindingsSound quoting mode later bindings := by
  intro binds binding member
  obtain ⟨target, value⟩ := sound binds binding member
  exact ⟨target.mono grows, value.mono grows⟩

theorem append
    {first second : List Binding}
    (firstSound : BindingsSound quoting mode ledger first)
    (secondSound : BindingsSound quoting mode ledger second) :
    BindingsSound quoting mode ledger (first ++ second) :=
  fun binds => List.forall_mem_append.mpr ⟨firstSound binds, secondSound binds⟩

theorem single
    {target value : Term}
    (targetCode : target.IsCode quoting ledger)
    (subject : value.IsSubject quoting ledger mode) :
    BindingsSound quoting mode ledger [⟨target, value⟩] := by
  rintro rfl
  exact List.forall_mem_singleton.mpr ⟨targetCode, subject⟩

end BindingsSound

namespace Evaluator

open PatternMachine.Action (Careful Foretold ForetoldData YieldsData)

variable {told : Ledger -> Evaluator} {self : Evaluator}

/-- A match, and its counterpart. -/
abbrev ForetoldMatch (quoting : Bool) (mode : Mode) (ledger : Ledger)
    (action : Action (List Binding)) (told : Ledger -> Action (List Binding)) : Prop :=
  Foretold quoting ledger action told (BindingsSound quoting mode)

/-- A careful match. -/
abbrev Matches (quoting : Bool) (mode : Mode) (ledger : Ledger)
    (action : Action (List Binding)) : Prop :=
  ForetoldMatch quoting mode ledger action fun _ => action

theorem noBindings_careful : Matches quoting mode ledger (pure []) :=
  .pure fun _ _ => .nil

theorem checkLinear_careful
    {bindings : List Binding}
    (sound : BindingsSound quoting mode ledger bindings) :
    Matches quoting mode ledger (checkLinear mode bindings) := by
  refine .get_bind fun _ machine grows _ => ?_
  have kept : Matches quoting mode _ (pure bindings) :=
    .pure fun _ lastGrows => (sound.mono grows).mono lastGrows
  refine .ite (fun _ => ?_) fun _ => kept
  split
  · exact .raise
  · exact kept

/-- What is found at a site that can be matched can be matched. -/
theorem findSubject_careful
    {site : Site}
    (subject : site.IsSubject quoting ledger mode) :
    Careful quoting ledger (Action.find site) fun final found =>
      found.IsSubject quoting final mode :=
  .store_bind fun _ _ grows sound => .pure fun _ lastGrows =>
    (sound.findSubject (subject.mono grows)).mono lastGrows

theorem unifyEach_careful
    (careful : self.IsCareful quoting told)
    {pairs : List (Site × Site)}
    (subjects : ∀ pair ∈ pairs,
      pair.1.IsSubject quoting ledger mode ∧ pair.2.IsCode quoting ledger) :
    ForetoldMatch quoting mode ledger (self.unifyEach mode pairs)
      (fun future => (told future).unifyEach mode pairs) := by
  induction pairs generalizing ledger with
  | nil => exact noBindings_careful
  | cons pair rest inductionHypothesis =>
      obtain ⟨pairSubject, restSubjects⟩ := List.forall_mem_cons.mp subjects
      refine (findSubject_careful pairSubject.1).bind fun _ term foundTerm subject => ?_
      refine (Foretold.findCode (pairSubject.2.mono foundTerm)).bind
        fun _ pattern foundPattern code => ?_
      refine (careful.unify mode (subject.mono foundPattern) code).bind
        fun _ first grows firstSound => ?_
      have grown := (foundTerm.trans foundPattern).trans grows
      refine (inductionHypothesis fun pair member => ?_).bind
        fun _ others othersGrows othersSound => ?_
      · exact ⟨(restSubjects pair member).1.mono grown, (restSubjects pair member).2.mono grown⟩
      · exact .pure fun _ lastGrows =>
          ((firstSound.mono othersGrows).append othersSound).mono lastGrows

theorem unifyLinear_careful
    (careful : self.IsCareful quoting told)
    {terms patterns : List Site}
    (subjects : ∀ site ∈ terms, site.IsSubject quoting ledger mode)
    (codes : ∀ site ∈ patterns, site.IsCode quoting ledger) :
    ForetoldMatch quoting mode ledger (self.unifyLinear mode terms patterns)
      (fun future => (told future).unifyLinear mode terms patterns) := by
  have pairs : ∀ pair ∈ terms.zip patterns,
      pair.1.IsSubject quoting ledger mode ∧ pair.2.IsCode quoting ledger := by
    intro pair member
    obtain ⟨inTerms, inPatterns⟩ := List.of_mem_zip (a := pair.1) (b := pair.2) member
    exact ⟨subjects _ inTerms, codes _ inPatterns⟩
  exact (unifyEach_careful careful pairs).bind fun _ _ _ => checkLinear_careful

theorem dereference_careful
    (careful : self.IsCareful quoting told)
    {expression : Term}
    (code : expression.IsCode quoting ledger) :
    ForetoldData quoting ledger (self.dereference expression)
      (fun future => (told future).dereference expression) := by
  refine (careful.walk code).bind fun _ value _ data => ?_
  split
  · exact .pureData data.2
  · exact .pureData data

theorem unifyText_careful {text regex : String} :
    Matches quoting mode ledger (unifyText text regex) := by
  unfold unifyText
  split
  · exact .raise
  · exact .ite (fun _ => noBindings_careful) fun _ => .raise

theorem unifyRegex_careful {regex : String} :
    Matches quoting mode ledger (unifyRegex mode term regex) := by
  unfold unifyRegex
  split
  · exact unifyText_careful
  · refine Foretold.display.bind fun _ shown _ _ => ?_
    exact .ite (fun _ => .raise) fun _ => Foretold.count.bind fun _ _ _ _ => unifyText_careful

theorem unifyType_careful {typeName : String} :
    Matches quoting mode ledger (unifyType mode term typeName) := by
  unfold unifyType
  dsimp only
  split
  · exact .ite (fun _ => noBindings_careful) fun _ => .raise
  · refine .ite (fun _ => ?_) fun _ => .ite (fun _ => ?_) fun _ => .ite (fun _ => ?_) fun _ => ?_
    · split
      · exact noBindings_careful
      · exact noBindings_careful
      · exact .raise
    · split
      · exact noBindings_careful
      · exact .raise
    · exact .ite (fun _ => noBindings_careful) fun _ => .raise
    · refine Foretold.lookup?.bind fun _ found _ _ => ?_
      split
      · exact .ite (fun _ => noBindings_careful) fun _ => .raise
      · exact .raise

theorem warnGuard_careful : Careful quoting ledger warnGuard fun _ _ => True := by
  have warned : ∀ later, Careful quoting later
      (modify fun machine => { machine with guardWarned := true }) fun _ _ => True :=
    fun _ => .change (fun _ => rfl) (fun _ _ => rfl) fun _ => rfl
  refine .get_bind fun later machine _ _ => ?_
  refine .ite (fun _ => .pure fun _ _ => trivial) fun _ => ?_
  exact (warned later).bind fun _ _ _ _ => .record _

/-- An action in a scope of its own is careful: scopes start empty. -/
theorem inFreshScope_careful
    {α : Type}
    {action : Action α}
    {toldAction : Ledger -> Action α}
    {answer : Ledger -> α -> Prop}
    (careful : Foretold quoting ledger action toldAction answer) :
    Foretold quoting ledger (inFreshScope action)
      (fun future => inFreshScope (toldAction future)) answer := by
  have opened : Careful quoting ledger (modify Machine.pushScope) fun _ _ => True :=
    .change (fun _ => rfl) (fun machine ref => machine.scope_pushScope ref) fun _ => rfl
  refine opened.bind fun _ _ grows _ => ?_
  exact (careful.later grows).ensuring (fun _ => rfl) fun _ => rfl

theorem unifyGuarded_careful
    (careful : self.IsCareful quoting told)
    {mark : Mark}
    {condition consequent alternative : Term}
    (subject : term.IsSubject quoting ledger mode)
    (conditionCode : condition.IsCode quoting ledger)
    (consequentCode : consequent.IsCode quoting ledger) :
    ForetoldMatch quoting mode ledger
      (self.unifyGuarded mode term mark condition consequent alternative)
      (fun future =>
        (told future).unifyGuarded mode term mark condition consequent alternative) := by
  unfold unifyGuarded
  refine .ite (fun _ => .raise) fun _ => ?_
  split
  · exact warnGuard_careful.bind fun _ _ _ _ => .raise
  · exact .display_display_raise
  · refine (careful.unify .binding subject consequentCode).bind fun _ bindings grows sound => ?_
    have judged : ForetoldData quoting _
        (self.declareAll bindings >>= fun _ => self.walk condition)
        (fun future => (told future).declareAll bindings >>= fun _ =>
          (told future).walk condition) :=
      (declareAll_careful careful sound).bind fun _ _ declared _ =>
        careful.walk ((conditionCode.mono grows).mono declared)
    refine (inFreshScope_careful judged).bind fun _ verdict judgedGrows _ => ?_
    refine .store_bind fun _ store storeGrows _ => ?_
    refine .ite (fun _ => .pure fun _ lastGrows => ?_) fun _ => .display_raise
    exact ((sound.mono judgedGrows).mono storeGrows).mono lastGrows

/-- Matching the first element and the rest of a list. The rest is a new list, of
data in binding mode and of patterns in covering mode. -/
theorem unifyRemainder_careful
    (careful : self.IsCareful quoting told)
    {first head tail : Term}
    {rest : List Term}
    (firstSubject : first.IsSubject quoting ledger mode)
    (restSubjects : ∀ element ∈ rest, element.IsSubject quoting ledger mode)
    (headCode : head.IsCode quoting ledger)
    (tailCode : tail.IsCode quoting ledger) :
    ForetoldMatch quoting mode ledger
      (Action.newList rest >>= fun remainder =>
        self.unifyLinear mode [.given first, .given remainder] [.given head, .given tail])
      (fun future => Action.newList rest >>= fun remainder =>
        (told future).unifyLinear mode [.given first, .given remainder]
          [.given head, .given tail]) := by
  have made : Careful quoting ledger (Action.newList rest) fun final remainder =>
      remainder.IsSubject quoting final mode := by
    cases mode with
    | binding => exact .newList restSubjects
    | covering => exact .newCodeList restSubjects
  refine made.bind fun _ remainder grows remainderSubject => ?_
  refine unifyLinear_careful careful ?_ ?_
  · exact List.forall_mem_cons.mpr
      ⟨firstSubject.mono grows, List.forall_mem_singleton.mpr remainderSubject⟩
  · exact List.forall_mem_cons.mpr
      ⟨headCode.mono grows, List.forall_mem_singleton.mpr (tailCode.mono grows)⟩

theorem unifyHeadTail_careful
    (careful : self.IsCareful quoting told)
    {head tail : Term}
    (subject : term.IsSubject quoting ledger mode)
    (headCode : head.IsCode quoting ledger)
    (tailCode : tail.IsCode quoting ledger) :
    ForetoldMatch quoting mode ledger (self.unifyHeadTail mode term head tail)
      (fun future => (told future).unifyHeadTail mode term head tail) := by
  unfold unifyHeadTail
  split
  · refine .store_bind fun _ store grows sound => ?_
    have elements := sound.listSubjects (subject.mono grows)
    revert elements
    generalize (store.elements _).toList = elements
    intro subjects
    cases elements with
    | nil => exact .raise
    | cons first rest =>
        obtain ⟨firstSubject, restSubjects⟩ := List.forall_mem_cons.mp subjects
        exact unifyRemainder_careful careful firstSubject restSubjects (headCode.mono grows)
          (tailCode.mono grows)
  · exact .raise
  · refine unifyLinear_careful careful ?_ ?_
    · exact List.forall_mem_cons.mpr ⟨subject.1, List.forall_mem_singleton.mpr subject.2⟩
    · exact List.forall_mem_cons.mpr ⟨headCode, List.forall_mem_singleton.mpr tailCode⟩
  · exact .raise

theorem unifyConstructor_careful
    (careful : self.IsCareful quoting told)
    {owner : Option Template}
    {memory : CellRef}
    {callee argument : Term}
    (data : (Term.object owner memory).IsData quoting ledger)
    (argumentCode : argument.IsCode quoting ledger) :
    ForetoldMatch quoting mode ledger (self.unifyConstructor mode owner memory callee argument)
      (fun future => (told future).unifyConstructor mode owner memory callee argument) := by
  unfold unifyConstructor
  split
  · refine .ite (fun _ => .raise) fun _ => ?_
    split
    · exact .raise
    · rename_i template _
      refine .store_bind fun _ store grows sound => ?_
      have members : ∀ slot ∈ store.dataSlots template,
          ((store.elements memory)[slot]?.getD .absent).IsSubject quoting _ mode :=
        fun slot inside => .ofData (sound.dataSlots (data.mono grows) inside)
      dsimp only
      split
      · rename_i patterns found
        refine .ite (fun _ => .raise) fun _ => ?_
        refine unifyLinear_careful careful ?_
          (Store.Sound.codeSites store (argumentCode.mono grows))
        intro value member
        obtain ⟨slot, inside, rfl⟩ := List.mem_map.mp member
        exact members slot inside
      · split
        · exact .raise
        · rename_i slot others slots
          exact careful.unify mode (members slot (by simp [slots])) (argumentCode.mono grows)
  · exact .display_raise

theorem unifyApplications_careful
    (careful : self.IsCareful quoting told)
    {termCallee termArgument callee argument : Term}
    (termArgumentCode : termArgument.IsCode quoting ledger)
    (argumentCode : argument.IsCode quoting ledger) :
    ForetoldMatch quoting .covering ledger
      (self.unifyApplications termCallee termArgument callee argument)
      (fun future => (told future).unifyApplications termCallee termArgument callee argument) := by
  unfold unifyApplications
  dsimp only
  split
  · refine .ite (fun _ => ?_) fun _ => .display_display_raise
    exact careful.unify .covering termArgumentCode argumentCode
  · exact .display_display_raise

theorem unifyEqual_careful : Matches quoting mode ledger (unifyEqual term pattern) := by
  have compared : Careful quoting ledger (agrees term pattern) fun _ _ => True :=
    .ite (fun _ => .equal) fun _ => .pure fun _ _ => trivial
  exact compared.bind fun _ _ _ _ => .ite (fun _ => noBindings_careful) fun _ =>
    .display_display_raise

theorem unifyCompound_careful
    (careful : self.IsCareful quoting told)
    (subject : term.IsSubject quoting ledger mode)
    (code : pattern.IsCode quoting ledger) :
    ForetoldMatch quoting mode ledger (self.unifyCompound mode term pattern)
      (fun future => (told future).unifyCompound mode term pattern) := by
  refine .store_bind fun _ store grows sound => ?_
  have subjectLater := subject.mono grows
  have codeLater := code.mono grows
  split
  · rename_i terms patterns foundTerms foundPatterns
    refine .ite (fun _ => .raise) fun _ => ?_
    exact unifyLinear_careful careful (Store.Sound.subjectSites store subjectLater)
      (Store.Sound.codeSites store codeLater)
  · split
    · exact unifyConstructor_careful careful subjectLater.isCode codeLater.2
    · exact unifyApplications_careful careful subjectLater.2 codeLater.2
    · exact unifyEqual_careful

theorem unifyLists_careful
    (careful : self.IsCareful quoting told)
    (subject : term.IsSubject quoting ledger mode)
    (code : pattern.IsCode quoting ledger) :
    ForetoldMatch quoting mode ledger (self.unifyLists mode term pattern)
      (fun future => (told future).unifyLists mode term pattern) := by
  unfold unifyLists
  dsimp only
  split
  · refine .store_bind fun _ store grows sound => ?_
    refine .ite (fun _ => .raise) fun _ => ?_
    exact unifyLinear_careful careful (Store.Sound.subjectSites store (subject.mono grows))
      (Store.Sound.codeSites store (code.mono grows))
  · exact .raise
  · exact .raise
  · exact unifyCompound_careful careful subject code

/-- A constraint is counted while it is matched; its bindings are dropped. -/
theorem unifyConstraint_careful
    (careful : self.IsCareful quoting told)
    {inner : Term}
    (subject : term.IsSubject quoting ledger mode)
    (code : inner.IsCode quoting ledger) :
    ForetoldMatch quoting mode ledger
      (do
        modify fun machine => { machine with constraintDepth := machine.constraintDepth + 1 }
        let _ ← Action.ensuring (self.unify mode term inner) fun machine =>
          { machine with constraintDepth := machine.constraintDepth - 1 }
        return ([] : List Binding))
      (fun future => do
        modify fun machine => { machine with constraintDepth := machine.constraintDepth + 1 }
        let _ ← Action.ensuring ((told future).unify mode term inner) fun machine =>
          { machine with constraintDepth := machine.constraintDepth - 1 }
        return ([] : List Binding)) := by
  have counted : Careful quoting ledger
      (modify fun machine => { machine with constraintDepth := machine.constraintDepth + 1 })
      fun _ _ => True :=
    .change (fun _ => rfl) (fun _ _ => rfl) fun _ => rfl
  refine counted.bind fun _ _ grows _ => ?_
  have unified := careful.unify mode (subject.mono grows) (code.mono grows)
  refine Foretold.bind (unified.ensuring (fun _ => rfl) fun _ => rfl) fun _ _ _ _ => ?_
  exact noBindings_careful

theorem unifyIndirect_careful
    (careful : self.IsCareful quoting told)
    (subject : term.IsSubject quoting ledger mode)
    (code : pattern.IsCode quoting ledger) :
    ForetoldMatch quoting mode ledger (self.unifyIndirect mode term pattern)
      (fun future => (told future).unifyIndirect mode term pattern) := by
  unfold unifyIndirect
  split
  · exact unifyHeadTail_careful careful subject code.1 code.2
  · split
    · exact .pure fun _ grows => .single (code.mono grows) (subject.mono grows)
    · refine (careful.walk code).bind fun _ value grows data => ?_
      exact careful.unify _ (subject.mono grows) data.isCode
  · rename_i mark expression
    have expressionCode : expression.IsCode quoting ledger := code
    refine (dereference_careful careful expressionCode).bind fun _ value grows data => ?_
    exact careful.unify _ (subject.mono grows) data.isCode
  · exact unifyConstraint_careful careful subject code
  · exact unifyLists_careful careful subject code

/-- What is quoted can be matched if the quote can. -/
theorem isSubject_of_quote
    {expression : Term}
    (subject : (Term.quote expression).IsSubject quoting ledger mode) :
    expression.IsSubject quoting ledger mode := by
  cases mode with
  | binding => exact subject.2
  | covering => exact subject.2.isCode

theorem unifyQuoted_careful
    (careful : self.IsCareful quoting told)
    (subject : term.IsSubject quoting ledger mode)
    (code : pattern.IsCode quoting ledger) :
    ForetoldMatch quoting mode ledger (self.unifyQuoted mode term pattern)
      (fun future => (told future).unifyQuoted mode term pattern) := by
  unfold unifyQuoted
  split
  · exact careful.unify mode (isSubject_of_quote subject) code.2.isCode
  · exact careful.unify mode subject code.2.isCode
  · exact unifyIndirect_careful careful subject code
  · exact unifyIndirect_careful careful subject code
  · exact careful.unify mode (isSubject_of_quote subject) code
  · exact unifyIndirect_careful careful subject code

theorem unifyLiteral_careful
    (careful : self.IsCareful quoting told)
    (subject : term.IsSubject quoting ledger mode)
    (code : pattern.IsCode quoting ledger) :
    ForetoldMatch quoting mode ledger (self.unifyLiteral mode term pattern)
      (fun future => (told future).unifyLiteral mode term pattern) := by
  unfold unifyLiteral
  split
  · exact noBindings_careful
  · exact .display_display_raise
  · split
    · exact noBindings_careful
    · exact noBindings_careful
    · exact unifyQuoted_careful careful subject code

theorem unifyDecorated_careful
    (careful : self.IsCareful quoting told)
    (subject : term.IsSubject quoting ledger mode)
    (code : pattern.IsCode quoting ledger) :
    ForetoldMatch quoting mode ledger (self.unifyDecorated mode term pattern)
      (fun future => (told future).unifyDecorated mode term pattern) := by
  unfold unifyDecorated
  split
  · rename_i mark name inner
    have innerCode : inner.IsCode quoting ledger := code
    refine (careful.unify mode subject innerCode).bind fun _ bindings grows sound => ?_
    refine Foretold.newIdentifier.bind fun _ target targetGrows made => ?_
    subst made
    exact checkLinear_careful ((sound.mono targetGrows).append
      (.single trivial ((subject.mono grows).mono targetGrows)))
  · exact unifyType_careful
  · exact unifyGuarded_careful careful subject code.1 code.2.1
  · split
    · exact careful.unify .covering subject.2.1 code
    · exact unifyLiteral_careful careful subject code

theorem unifyObjects_careful
    (careful : self.IsCareful quoting told)
    (subject : term.IsSubject quoting ledger mode)
    (code : pattern.IsCode quoting ledger) :
    ForetoldMatch quoting mode ledger (self.unifyObjects mode term pattern)
      (fun future => (told future).unifyObjects mode term pattern) := by
  unfold unifyObjects
  split
  · refine .store_bind fun _ store grows sound => ?_
    refine .ite (fun _ => .raise) fun _ => .ite (fun _ => .raise) fun _ => ?_
    exact unifyLinear_careful careful (Store.Sound.subjectSites store (subject.mono grows))
      (Store.Sound.codeSites store (code.mono grows))
  · exact unifyRegex_careful
  · exact unifyDecorated_careful careful subject code

/-- One step of matching is careful. -/
theorem unifyStep_careful
    (careful : self.IsCareful quoting told)
    (subject : term.IsSubject quoting ledger mode)
    (code : pattern.IsCode quoting ledger) :
    ForetoldMatch quoting mode ledger (self.unifyStep mode term pattern)
      (fun future => (told future).unifyStep mode term pattern) := by
  unfold unifyStep
  refine .ite (fun _ => .raise) fun _ => ?_
  split
  · refine .pure fun _ grows => ?_
    split
    · exact .nil
    · exact .single trivial (subject.mono grows)
  · split
    · rename_i mark name inner _
      exact careful.unify .covering (show inner.IsCode quoting ledger from subject) code
    · rename_i mark expression _
      have expressionCode : expression.IsCode quoting ledger := subject
      refine (dereference_careful careful expressionCode).bind fun _ value grows data => ?_
      exact careful.unify .covering data.isCode (code.mono grows)
    · unfold unifyAllowed
      refine .ite (fun _ => .raise) fun _ => .ite (fun _ => .raise) fun _ => ?_
      exact unifyObjects_careful careful subject code

end Evaluator
end PatternMachine
