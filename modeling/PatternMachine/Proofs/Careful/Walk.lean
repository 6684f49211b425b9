import PatternMachine.Interpreter
import PatternMachine.Proofs.Careful.Call

/-!
# Evaluation is careful

Evaluation is gone through kind by kind. The circle of evaluation and matching
is closed by induction on its depth: both are careful at every depth.
-/

namespace PatternMachine
namespace Evaluator

open PatternMachine.Action (Careful Foretold ForetoldData YieldsData)

variable {quoting : Bool} {ledger : Ledger} {told : Ledger -> Evaluator} {self : Evaluator}

theorem walkAll_careful
    (careful : self.IsCareful quoting told)
    {sites : List Site}
    (codes : ∀ site ∈ sites, site.IsCode quoting ledger) :
    Foretold quoting ledger (self.walkAll sites)
      (fun future => (told future).walkAll sites) fun final values =>
      ∀ value ∈ values, value.IsData quoting final := by
  induction sites generalizing ledger with
  | nil => exact .pure fun _ _ => by simp
  | cons site rest inductionHypothesis =>
      obtain ⟨siteCode, restCode⟩ := List.forall_mem_cons.mp codes
      refine (Foretold.findCode siteCode).bind fun _ term found termCode => ?_
      refine (careful.walk termCode).bind fun _ value grows valueData => ?_
      refine (inductionHypothesis fun other inside =>
        ((restCode other inside).mono found).mono grows).bind
        fun _ values valuesGrows valuesData => ?_
      exact .pure fun _ lastGrows => List.forall_mem_cons.mpr
        ⟨(valueData.mono valuesGrows).mono lastGrows,
          fun other inside => (valuesData other inside).mono lastGrows⟩

theorem walkBound_careful
    (careful : self.IsCareful quoting told)
    {what : String}
    {term : Term}
    (code : term.IsCode quoting ledger) :
    Foretold quoting ledger (self.walkBound what term)
      (fun future => (told future).walkBound what term) fun _ _ => True := by
  refine (careful.walk code).bind fun _ value _ _ => ?_
  split
  · exact .pure fun _ _ => trivial
  · exact .raise

theorem newIntegers_careful {values : List Int64} :
    Careful quoting ledger (newIntegers values) fun final terms =>
      ∀ term ∈ terms, term.IsData quoting final := by
  induction values generalizing ledger with
  | nil => exact .pure fun _ _ => by simp
  | cons value rest inductionHypothesis =>
      refine Foretold.newInteger.bind fun _ term _ termData => ?_
      refine inductionHypothesis.bind fun _ terms grows termsData => ?_
      exact .pure fun _ lastGrows => List.forall_mem_cons.mpr
        ⟨(termData.mono grows).mono lastGrows,
          fun other inside => (termsData other inside).mono lastGrows⟩

theorem walkRange_careful
    (careful : self.IsCareful quoting told)
    {start stop stride : Term}
    (startCode : start.IsCode quoting ledger)
    (stopCode : stop.IsCode quoting ledger)
    (strideCode : stride.IsCode quoting ledger) :
    ForetoldData quoting ledger (self.walkRange start stop stride)
      (fun future => (told future).walkRange start stop stride) := by
  refine (walkBound_careful careful startCode).bind fun _ first grows _ => ?_
  refine (walkBound_careful careful (stopCode.mono grows)).bind fun _ last lastGrows _ => ?_
  have listed : ∀ {later : Ledger} (step : Int64), YieldsData quoting later
      (if step == 0 then Action.raise .valueError "range stride cannot be zero"
      else newIntegers (rangeMembers first last step) >>= fun members =>
        Action.newList members) := by
    intro later step
    refine .ite (fun _ => .raise) fun _ => ?_
    exact newIntegers_careful.bind fun _ _ _ data => .newList data
  refine .ite (fun _ => listed 1) fun _ => ?_
  exact (walkBound_careful careful ((strideCode.mono grows).mono lastGrows)).bind
    fun _ step _ _ => listed step

theorem walkHeadTail_careful
    (careful : self.IsCareful quoting told)
    {head tail : Term}
    (headCode : head.IsCode quoting ledger)
    (tailCode : tail.IsCode quoting ledger) :
    ForetoldData quoting ledger (self.walkHeadTail head tail)
      (fun future => (told future).walkHeadTail head tail) := by
  refine (careful.walk headCode).bind fun _ first grows firstData => ?_
  refine (careful.walk (tailCode.mono grows)).bind fun _ rest restGrows restData => ?_
  split
  · refine .store_bind fun _ store storeGrows sound => .newList ?_
    exact List.forall_mem_cons.mpr ⟨(firstData.mono restGrows).mono storeGrows,
      sound.dataElements ⟨_, restData.mono storeGrows⟩⟩
  · exact .raise

theorem walkConditional_careful
    (careful : self.IsCareful quoting told)
    {condition consequent alternative : Term}
    (conditionCode : condition.IsCode quoting ledger)
    (consequentCode : consequent.IsCode quoting ledger)
    (alternativeCode : alternative.IsCode quoting ledger) :
    ForetoldData quoting ledger (self.walkConditional condition consequent alternative)
      (fun future => (told future).walkConditional condition consequent alternative) := by
  refine (careful.walk conditionCode).bind fun _ verdict grows _ => ?_
  refine .store_bind fun _ store storeGrows _ => ?_
  have all := grows.trans storeGrows
  refine .ite (fun _ => careful.walk (consequentCode.mono all)) fun _ => ?_
  exact .ite (fun _ => .pureData trivial) fun _ => careful.walk (alternativeCode.mono all)

theorem walkIsMatch_careful
    (careful : self.IsCareful quoting told)
    {subject pattern : Term}
    (subjectCode : subject.IsCode quoting ledger)
    (patternCode : pattern.IsCode quoting ledger) :
    ForetoldData quoting ledger (self.walkIsMatch subject pattern)
      (fun future => (told future).walkIsMatch subject pattern) := by
  refine (careful.walk subjectCode).bind fun _ value grows data => ?_
  refine (careful.unify .binding data (patternCode.mono grows)).orNoMatch.bind
    fun _ found _ sound => ?_
  cases found with
  | none => exact .pureData trivial
  | some bindings =>
      exact (declareAll_careful careful (sound bindings rfl)).bind fun _ _ _ _ =>
        .pureData trivial

theorem walkMembership_careful
    (careful : self.IsCareful quoting told)
    {element container : Term}
    (elementCode : element.IsCode quoting ledger)
    (containerCode : container.IsCode quoting ledger) :
    ForetoldData quoting ledger (self.walkMembership element container)
      (fun future => (told future).walkMembership element container) := by
  refine (careful.walk elementCode).bind fun _ value grows _ => ?_
  refine (careful.walk (containerCode.mono grows)).bind fun _ sequence _ _ => ?_
  refine .store_bind fun _ store _ _ => ?_
  split
  · exact Foretold.look.bind fun _ _ _ _ => .pureData trivial
  · exact .raise

/-- Quotes are transparent while a term is evaluated, and as before afterwards. -/
theorem walkEvaluation_careful
    (careful : self.IsCareful quoting told)
    {expression : Term}
    (code : expression.IsCode quoting ledger) :
    ForetoldData quoting ledger (self.walkEvaluation expression)
      (fun future => (told future).walkEvaluation expression) := by
  have transparent : ∀ {later : Ledger}, Careful quoting later
      (modify fun machine => { machine with ignoreQuote := true }) fun _ _ => True :=
    .change (fun _ => rfl) (fun _ _ => rfl) fun _ => rfl
  refine .get_bind fun _ machine grows _ => ?_
  refine transparent.bind fun _ _ transparentGrows _ => ?_
  refine Foretold.ensuring ?_ (fun _ => rfl) fun _ => rfl
  refine (careful.walk (code.mono (grows.trans transparentGrows))).bind fun _ value _ data => ?_
  split
  · exact careful.walk data.2.isCode
  · exact .pureData data

theorem walkIdentifier_careful {name : String} :
    YieldsData quoting ledger (walkIdentifier name) := by
  refine Foretold.lookup?.bind fun _ found _ data => ?_
  split
  · exact .pureData (data _ rfl)
  · exact .get_bind fun _ _ _ _ => .raise

/-- One step of evaluation is careful. -/
theorem walkStep_careful
    (careful : self.IsCareful quoting told)
    {term : Term}
    (code : term.IsCode quoting ledger) :
    ForetoldData quoting ledger (self.walkStep term)
      (fun future => (told future).walkStep term) := by
  cases term with
  | absent => exact .raise
  | integer => exact .pureData trivial
  | real => exact .pureData trivial
  | boolean => exact .pureData trivial
  | text => exact .pureData trivial
  | none => exact .pureData trivial
  | nil => exact .pureData trivial
  | object => exact .pureData code
  | foreign => exact .pureData trivial
  | method => exact .pureData code
  | closure => exact .pureData trivial
  | struct => exact .pureData code
  | lineMark => exact Foretold.setPosition.bind fun _ _ _ _ => .pureData trivial
  | list cell =>
      refine .store_bind fun _ store grows sound => ?_
      exact (walkAll_careful careful (Store.Sound.codeSites store (code.mono grows))).bind
        fun _ _ _ => .newList
  | tuple cell =>
      refine .store_bind fun _ store grows sound => ?_
      exact (walkAll_careful careful (Store.Sound.codeSites store (code.mono grows))).bind
        fun _ _ _ => .newTuple
  | pair first second =>
      refine (careful.walk code.1).bind fun _ _ grows firstData => ?_
      exact (careful.walk (code.2.mono grows)).bind fun _ _ secondGrows =>
        .newPair (firstData.mono secondGrows)
  | sequence mark first second =>
      refine (careful.walk code.1).bind fun _ _ grows firstData => ?_
      exact (careful.walk (code.2.mono grows)).bind fun _ _ secondGrows =>
        .newSequence (firstData.mono secondGrows)
  | range => exact walkRange_careful careful code.1 code.2.1 code.2.2
  | headTail => exact walkHeadTail_careful careful code.1 code.2
  | function => exact Foretold.capture.bind fun _ _ _ _ => .newClosure
  | apply => exact walkApply_careful careful code.1 code.2
  | index => exact walkIndex_careful careful code.1 code.2
  | conditional => exact walkConditional_careful careful code.1 code.2.1 code.2.2
  | isMatch => exact walkIsMatch_careful careful code.1 code.2
  | membership => exact walkMembership_careful careful code.1 code.2
  | evaluation => exact walkEvaluation_careful careful code
  | escape => exact walkEscape_careful careful
  | quote expression =>
      refine .get_bind fun _ machine grows _ => ?_
      exact .ite (fun _ => careful.walk (code.2.mono grows).isCode) fun _ =>
        .pureData ⟨code.1, code.2.mono grows⟩
  | deref => exact careful.walk code
  | identifier => exact walkIdentifier_careful
  | named => exact .display_raise
  | typeMatch => exact .display_raise
  | constraint => exact .display_raise
  | dataMember => exact .raise
  | initMember => exact .raise

/-- Evaluation and matching are careful at every depth. -/
theorem within_careful (depth : Nat) :
    (within depth).IsCareful quoting fun _ => within depth := by
  induction depth with
  | zero =>
      exact
        { walk := fun _ => .throw fun _ _ => trivial
          unify := fun _ _ _ _ _ => .throw fun _ _ => trivial }
  | succ depth inductionHypothesis =>
      exact
        { walk := fun code => walkStep_careful inductionHypothesis code
          unify := fun _ _ _ subject code => unifyStep_careful inductionHypothesis subject code }

end Evaluator
end PatternMachine
