import PatternMachine.Interpreter
import PatternMachine.Proofs.Congruence.Builtin

/-!
# Related evaluators evaluate and match in related ways

Every construct is gone through once, in the order of the definitions. What is
built from related recursive calls is related; what makes no recursive call is
related to itself.
-/

namespace PatternMachine

open Congruence (Relates)

/-- The recursive calls of two evaluators are related. -/
structure Evaluator.Related (congruence : Congruence) (evaluator other : Evaluator) :
    Prop where
  walk : ∀ term, congruence.Relates (evaluator.walk term) (other.walk term)
  unify : ∀ mode term pattern,
    congruence.Relates (evaluator.unify mode term pattern) (other.unify mode term pattern)

namespace Evaluator.Related

variable {congruence : Congruence} {self other : Evaluator}

theorem walkAll
    (related : Related congruence self other)
    (sites : List Site) :
    congruence.Relates (self.walkAll sites) (other.walkAll sites) := by
  induction sites with
  | nil => exact .pure
  | cons site rest inductionHypothesis =>
      refine Relates.find.bind fun term => ?_
      exact (related.walk term).bind fun _ => inductionHypothesis.bind fun _ => .pure

/-! ## Indexing and committing bindings -/

theorem positionOrRaise {index : Int64} {length : Nat} :
    congruence.Fixes (positionOrRaise index length) := by
  unfold Evaluator.positionOrRaise
  split
  · exact .pure
  · exact .raise

theorem positionsOrRaise {subject : String} {length : Nat} {indices : List Term} :
    congruence.Fixes (positionsOrRaise subject length indices) := by
  induction indices with
  | nil => exact .pure
  | cons index rest inductionHypothesis =>
      cases index with
      | integer value =>
          exact positionOrRaise.bind fun _ => inductionHypothesis.bind fun _ => .pure
      | _ => exact .raise

theorem selectElements
    {elements : List Term}
    {rebuild : List Term -> Action Term}
    {index : Term}
    (rebuilt : ∀ chosen, congruence.Fixes (rebuild chosen)) :
    congruence.Fixes (selectElements elements rebuild index) := by
  unfold Evaluator.selectElements
  split
  · refine positionOrRaise.bind fun place => ?_
    split
    · exact rebuilt _
    · exact .pure
  · exact Relates.store.bind fun _ => positionsOrRaise.bind fun _ => rebuilt _
  · exact .raise

theorem selectClusters {text : String} {index : Term} :
    congruence.Fixes (selectClusters text index) := by
  unfold Evaluator.selectClusters
  split
  · exact positionOrRaise.bind fun _ => .newText
  · exact Relates.store.bind fun _ => positionsOrRaise.bind fun _ => .newText
  · exact .raise

theorem memberName
    (related : Related congruence self other)
    (selector : Term) :
    congruence.Relates (self.memberName selector) (other.memberName selector) := by
  unfold Evaluator.memberName
  split
  · exact .pure
  · refine (related.walk selector).bind fun value => ?_
    split
    · exact .pure
    · exact .raise

theorem readIndex
    (related : Related congruence self other)
    (subject selector : Term) :
    congruence.Relates (self.readIndex subject selector) (other.readIndex subject selector) := by
  unfold Evaluator.readIndex
  split
  · refine (related.memberName selector).bind fun name => Relates.store.bind fun store => ?_
    split
    · exact .raise
    · exact .newMethod
    · exact .pure
  · refine (related.walk selector).bind fun index => ?_
    split
    · exact Relates.store.bind fun _ => selectElements fun _ => .newList
    · exact Relates.store.bind fun _ => selectElements fun _ => .newTuple
    · exact selectClusters
    · exact .raise

theorem writeIndex
    (related : Related congruence self other)
    (subject selector value : Term) :
    congruence.Relates (self.writeIndex subject selector value)
      (other.writeIndex subject selector value) := by
  have element : ∀ cell, congruence.Relates (self.writeElement cell selector value)
      (other.writeElement cell selector value) := by
    intro cell
    refine (related.walk selector).bind fun index => ?_
    split
    · exact Relates.store.bind fun _ => positionOrRaise.bind fun _ => .change fun _ _ => rfl
    · exact .raise
  refine (related.walk subject).bind fun target => ?_
  split
  · refine (related.memberName selector).bind fun name => Relates.store.bind fun store => ?_
    split
    · exact .change fun _ _ => rfl
    · exact .raise
  · exact element _
  · exact element _
  · exact .raise
  · exact .raise

theorem declareAll
    (related : Related congruence self other)
    (bindings : List Binding) :
    congruence.Relates (self.declareAll bindings) (other.declareAll bindings) := by
  induction bindings with
  | nil => exact .pure
  | cons binding rest inductionHypothesis =>
      refine Relates.bind ?_ fun _ => inductionHypothesis
      unfold Evaluator.declare
      split
      · exact .ite .pure (.ite .raise .bindName)
      · exact related.writeIndex _ _ _
      · exact .raise

/-! ## Matching -/

theorem unifyLinear
    (related : Related congruence self other)
    (mode : Mode)
    (terms patterns : List Site) :
    congruence.Relates (self.unifyLinear mode terms patterns)
      (other.unifyLinear mode terms patterns) := by
  have each : ∀ pairs, congruence.Relates (self.unifyEach mode pairs)
      (other.unifyEach mode pairs) := by
    intro pairs
    induction pairs with
    | nil => exact .pure
    | cons pair rest inductionHypothesis =>
        refine Relates.find.bind fun term => Relates.find.bind fun pattern => ?_
        exact (related.unify mode term pattern).bind fun _ =>
          inductionHypothesis.bind fun _ => .pure
  exact (each _).bind fun _ => congruence.checkLinear _ _

theorem dereference
    (related : Related congruence self other)
    (expression : Term) :
    congruence.Relates (self.dereference expression) (other.dereference expression) := by
  refine (related.walk expression).bind fun value => ?_
  split
  · exact .pure
  · exact .pure

theorem unifyText {text regex : String} : congruence.Fixes (unifyText text regex) := by
  unfold Evaluator.unifyText
  split
  · exact .raise
  · exact .ite .pure .raise

theorem unifyRegex {mode : Mode} {term : Term} {regex : String} :
    congruence.Fixes (unifyRegex mode term regex) := by
  unfold Evaluator.unifyRegex
  split
  · exact unifyText
  · exact Relates.display.bind fun _ => .ite .raise (Relates.count.bind fun _ => unifyText)

theorem unifyType {mode : Mode} {term : Term} {typeName : String} :
    congruence.Fixes (unifyType mode term typeName) := by
  unfold Evaluator.unifyType
  dsimp only
  split
  · exact .ite .pure .raise
  · refine .ite ?_ (.ite ?_ (.ite (.ite .pure .raise) ?_))
    · split
      · exact .pure
      · exact .pure
      · exact .raise
    · split
      · exact .pure
      · exact .raise
    · refine Relates.lookup?.bind fun found => ?_
      split
      · exact .ite .pure .raise
      · exact .raise

theorem warnGuard : congruence.Fixes warnGuard := by
  refine .get_bind (fun _ _ => rfl) (fun _ _ => rfl) fun machine => .ite .pure ?_
  exact Relates.bind (.change fun _ _ => rfl) fun _ => congruence.remark trivial

theorem unifyGuarded
    (related : Related congruence self other)
    (mode : Mode)
    (term : Term)
    (mark : Mark)
    (condition consequent alternative : Term) :
    congruence.Relates (self.unifyGuarded mode term mark condition consequent alternative)
      (other.unifyGuarded mode term mark condition consequent alternative) := by
  refine .ite .raise ?_
  split
  · exact warnGuard.bind fun _ => .raise
  · exact .display_display_raise
  · refine (related.unify _ _ _).bind fun bindings => Relates.bind ?_ fun verdict => ?_
    · exact .inFreshScope ((related.declareAll bindings).bind fun _ => related.walk condition)
    · exact Relates.store.bind fun _ => .ite .pure .display_raise

theorem unifyHeadTail
    (related : Related congruence self other)
    (mode : Mode)
    (term head tail : Term) :
    congruence.Relates (self.unifyHeadTail mode term head tail)
      (other.unifyHeadTail mode term head tail) := by
  unfold Evaluator.unifyHeadTail
  split
  · refine Relates.store.bind fun store => ?_
    split
    · exact .raise
    · exact Relates.newList.bind fun _ => related.unifyLinear _ _ _
  · exact .raise
  · exact related.unifyLinear _ _ _
  · exact .raise

theorem unifyConstructor
    (related : Related congruence self other)
    (mode : Mode)
    (owner : Option Template)
    (memory : CellRef)
    (callee argument : Term) :
    congruence.Relates (self.unifyConstructor mode owner memory callee argument)
      (other.unifyConstructor mode owner memory callee argument) := by
  unfold Evaluator.unifyConstructor
  split
  · refine .ite .raise ?_
    cases owner with
    | none => exact .raise
    | some template =>
        refine Relates.store.bind fun store => ?_
        dsimp only
        split
        · exact .ite .raise (related.unifyLinear _ _ _)
        · split
          · exact .raise
          · exact related.unify _ _ _
  · exact .display_raise

theorem unifyEqual {term pattern : Term} : congruence.Fixes (unifyEqual term pattern) :=
  Relates.bind (.ite .equal .pure) fun _ => .ite .pure .display_display_raise

theorem unifyCompound
    (related : Related congruence self other)
    (mode : Mode)
    (term pattern : Term) :
    congruence.Relates (self.unifyCompound mode term pattern)
      (other.unifyCompound mode term pattern) := by
  refine Relates.store.bind fun store => ?_
  split
  · exact .ite .raise (related.unifyLinear _ _ _)
  · split
    · exact related.unifyConstructor _ _ _ _ _
    · unfold Evaluator.unifyApplications
      dsimp only
      split
      · exact .ite (related.unify _ _ _) .display_display_raise
      · exact .display_display_raise
    · exact unifyEqual

theorem unifyLists
    (related : Related congruence self other)
    (mode : Mode)
    (term pattern : Term) :
    congruence.Relates (self.unifyLists mode term pattern)
      (other.unifyLists mode term pattern) := by
  unfold Evaluator.unifyLists
  dsimp only
  split
  · exact Relates.store.bind fun _ => .ite .raise (related.unifyLinear _ _ _)
  · exact .raise
  · exact .raise
  · exact related.unifyCompound _ _ _

theorem unifyIndirect
    (related : Related congruence self other)
    (mode : Mode)
    (term pattern : Term) :
    congruence.Relates (self.unifyIndirect mode term pattern)
      (other.unifyIndirect mode term pattern) := by
  unfold Evaluator.unifyIndirect
  split
  · exact related.unifyHeadTail _ _ _ _
  · cases mode with
    | binding => exact .pure
    | covering => exact (related.walk _).bind fun _ => related.unify _ _ _
  · exact (related.dereference _).bind fun _ => related.unify _ _ _
  · refine Relates.bind (.change fun _ _ => rfl) fun _ => Relates.bind ?_ fun _ => .pure
    exact congruence.ensuring (related.unify _ _ _) ⟨fun _ _ => rfl, fun _ => rfl⟩
  · exact related.unifyLists _ _ _

theorem unifyQuoted
    (related : Related congruence self other)
    (mode : Mode)
    (term pattern : Term) :
    congruence.Relates (self.unifyQuoted mode term pattern)
      (other.unifyQuoted mode term pattern) := by
  unfold Evaluator.unifyQuoted
  split
  · exact related.unify _ _ _
  · exact related.unify _ _ _
  · exact related.unifyIndirect _ _ _
  · exact related.unifyIndirect _ _ _
  · exact related.unify _ _ _
  · exact related.unifyIndirect _ _ _

theorem unifyLiteral
    (related : Related congruence self other)
    (mode : Mode)
    (term pattern : Term) :
    congruence.Relates (self.unifyLiteral mode term pattern)
      (other.unifyLiteral mode term pattern) := by
  unfold Evaluator.unifyLiteral
  split
  · exact .pure
  · exact .display_display_raise
  · split
    · exact .pure
    · exact .pure
    · exact related.unifyQuoted _ _ _

theorem unifyDecorated
    (related : Related congruence self other)
    (mode : Mode)
    (term pattern : Term) :
    congruence.Relates (self.unifyDecorated mode term pattern)
      (other.unifyDecorated mode term pattern) := by
  unfold Evaluator.unifyDecorated
  split
  · exact (related.unify _ _ _).bind fun _ => Relates.newIdentifier.bind fun _ =>
      congruence.checkLinear _ _
  · exact unifyType
  · exact related.unifyGuarded _ _ _ _ _ _
  · split
    · exact related.unify _ _ _
    · exact related.unifyLiteral _ _ _

theorem unifyObjects
    (related : Related congruence self other)
    (mode : Mode)
    (term pattern : Term) :
    congruence.Relates (self.unifyObjects mode term pattern)
      (other.unifyObjects mode term pattern) := by
  unfold Evaluator.unifyObjects
  split
  · exact Relates.store.bind fun _ => .ite .raise (.ite .raise (related.unifyLinear _ _ _))
  · exact unifyRegex
  · exact related.unifyDecorated _ _ _

/-- One step of matching. -/
theorem unifyStep
    (related : Related congruence self other)
    (mode : Mode)
    (term pattern : Term) :
    congruence.Relates (self.unifyStep mode term pattern)
      (other.unifyStep mode term pattern) := by
  refine .ite .raise ?_
  split
  · exact .pure
  · split
    · exact related.unify _ _ _
    · exact (related.dereference _).bind fun _ => related.unify _ _ _
    · exact .ite .raise (.ite .raise (related.unifyObjects _ _ _))

/-! ## Statements and calls -/

theorem structMembers
    (related : Related congruence self other)
    (name : String)
    (declarations : List Term)
    (names : List String)
    (values : List Term) :
    congruence.Relates (self.structMembers name declarations names values)
      (other.structMembers name declarations names values) := by
  induction declarations generalizing names values with
  | nil => exact .pure
  | cons declaration rest inductionHypothesis =>
      unfold Evaluator.structMembers
      dsimp only
      split
      · exact Relates.setPosition.bind fun _ => inductionHypothesis _ _
      · exact .ite .raise (inductionHypothesis _ _)
      · exact .raise
      · exact (related.walk _).bind fun _ => .ite .raise (inductionHypothesis _ _)
      · exact .raise
      · exact .raise

theorem exec
    (related : Related congruence self other)
    (statement : Statement) :
    congruence.Relates (self.exec statement) (other.exec statement) := by
  unfold Evaluator.exec
  split
  · refine Relates.bind ?_ fun template => Relates.bindName.bind fun _ => .pure
    exact (related.structMembers _ _ _ _).bind fun _ => .newStruct
  · exact .raise
  · exact Relates.declareGlobals.bind fun _ => .pure
  · refine (related.walk _).bind fun value => .ite .pure ?_
    refine (related.unify _ _ _).bind fun bindings => ?_
    exact (related.declareAll bindings).bind fun _ => .pure

theorem execBlock
    (related : Related congruence self other)
    (statements : List Statement)
    (value : Term) :
    congruence.Relates (self.execBlock statements value)
      (other.execBlock statements value) := by
  induction statements generalizing value with
  | nil => exact .pure
  | cons statement rest inductionHypothesis =>
      exact (congruence.located (related.exec statement)).bind fun value =>
        inductionHypothesis value

theorem recordClause {name : String} {place : Nat} {pattern : Term} {matched : Bool} :
    congruence.Fixes (recordClause name place pattern matched) :=
  Relates.follows.bind fun _ =>
    .ite (Relates.caption.bind fun _ => congruence.remark trivial) .pure

theorem runCode
    (related : Related congruence self other)
    (code : Code)
    (argument : Term) :
    congruence.Relates (self.runCode code argument) (other.runCode code argument) := by
  cases code with
  | native operation => exact operation.run_related
  | clauses name equations =>
      have clauses : ∀ place, congruence.Relates
          (self.tryClauses name argument place equations)
          (other.tryClauses name argument place equations) := by
        induction equations with
        | nil => exact fun _ => .display_raise
        | cons clause rest inductionHypothesis =>
            intro place
            refine (congruence.orNoMatch (related.unify _ _ _)).bind fun found => ?_
            cases found with
            | none => exact recordClause.bind fun _ => inductionHypothesis _
            | some bindings =>
                exact recordClause.bind fun _ => (related.declareAll bindings).bind fun _ =>
                  related.execBlock _ _
      exact clauses 0

theorem call
    (related : Related congruence self other)
    (receiver : Term)
    (body : String)
    (captured : Option Closure)
    (argument : Term) :
    congruence.Relates (self.call receiver body captured argument)
      (other.call receiver body captured argument) :=
  congruence.call receiver body captured argument fun code => related.runCode code argument

theorem construct
    (related : Related congruence self other)
    (template : Template)
    (argument : Term) :
    congruence.Relates (self.construct template argument)
      (other.construct template argument) := by
  refine Relates.newObject.bind fun memory => Relates.store.bind fun store => ?_
  split
  · exact (related.call _ _ _ _).bind fun _ => .pure
  · refine Relates.store.bind fun current => .ite .raise ?_
    exact Relates.bind (.change fun _ _ => rfl) fun _ => .pure

theorem applyValue
    (related : Related congruence self other)
    (callee argument : Term) :
    congruence.Relates (self.applyValue callee argument)
      (other.applyValue callee argument) := by
  unfold Evaluator.applyValue
  split
  · exact related.call _ _ _ _
  · exact related.call _ _ _ _
  · exact .raise
  · exact related.construct _ _
  · exact .raise

theorem walkApply
    (related : Related congruence self other)
    (callee argument : Term) :
    congruence.Relates (self.walkApply callee argument) (other.walkApply callee argument) := by
  have applied : congruence.Relates
      (self.walk callee >>= fun function =>
        self.walk argument >>= fun value => self.applyValue function value)
      (other.walk callee >>= fun function =>
        other.walk argument >>= fun value => other.applyValue function value) :=
    (related.walk _).bind fun _ => (related.walk _).bind fun _ => related.applyValue _ _
  unfold Evaluator.walkApply
  split
  · refine (related.walk _).bind fun subject => (related.readIndex _ _).bind fun member => ?_
    refine (related.walk _).bind fun value => ?_
    split
    · exact related.call _ _ _ _
    · exact related.applyValue _ _
  · split
    · exact (related.walk _).bind fun _ => Evaluator.applyOperator_related
    · exact applied
  · exact applied

/-! ## Evaluation -/

theorem newIntegers {values : List Int64} : congruence.Fixes (newIntegers values) := by
  induction values with
  | nil => exact .pure
  | cons value rest inductionHypothesis =>
      exact Relates.newInteger.bind fun _ => inductionHypothesis.bind fun _ => .pure

theorem walkRange
    (related : Related congruence self other)
    (start stop stride : Term) :
    congruence.Relates (self.walkRange start stop stride)
      (other.walkRange start stop stride) := by
  have bound : ∀ what term, congruence.Relates (self.walkBound what term)
      (other.walkBound what term) := by
    intro what term
    refine (related.walk term).bind fun value => ?_
    split
    · exact .pure
    · exact .raise
  have listed : ∀ first last step : Int64, congruence.Fixes
      (if step == 0 then Action.raise .valueError "range stride cannot be zero"
      else Evaluator.newIntegers (rangeMembers first last step) >>= fun members =>
        Action.newList members) :=
    fun _ _ _ => .ite .raise (newIntegers.bind fun _ => .newList)
  refine (bound _ _).bind fun first => (bound _ _).bind fun last => .ite (listed _ _ 1) ?_
  exact (bound _ _).bind fun step => listed _ _ step

theorem walkHeadTail
    (related : Related congruence self other)
    (head tail : Term) :
    congruence.Relates (self.walkHeadTail head tail) (other.walkHeadTail head tail) := by
  refine (related.walk _).bind fun first => (related.walk _).bind fun rest => ?_
  split
  · exact Relates.store.bind fun _ => .newList
  · exact .raise

theorem walkConditional
    (related : Related congruence self other)
    (condition consequent alternative : Term) :
    congruence.Relates (self.walkConditional condition consequent alternative)
      (other.walkConditional condition consequent alternative) :=
  (related.walk _).bind fun _ => Relates.store.bind fun _ =>
    .ite (related.walk _) (.ite .pure (related.walk _))

theorem walkIsMatch
    (related : Related congruence self other)
    (subject pattern : Term) :
    congruence.Relates (self.walkIsMatch subject pattern)
      (other.walkIsMatch subject pattern) := by
  refine (related.walk _).bind fun value => ?_
  refine (congruence.orNoMatch (related.unify _ _ _)).bind fun found => ?_
  cases found with
  | none => exact .pure
  | some bindings => exact (related.declareAll bindings).bind fun _ => .pure

theorem walkMembership
    (related : Related congruence self other)
    (element container : Term) :
    congruence.Relates (self.walkMembership element container)
      (other.walkMembership element container) := by
  refine (related.walk _).bind fun value => (related.walk _).bind fun sequence => ?_
  refine Relates.store.bind fun store => ?_
  split
  · exact Relates.finitely.bind fun _ => .pure
  · exact .raise

theorem walkEvaluation
    (related : Related congruence self other)
    (expression : Term) :
    congruence.Relates (self.walkEvaluation expression) (other.walkEvaluation expression) := by
  refine congruence.ignoringQuotes ((related.walk _).bind fun value => ?_)
  split
  · exact related.walk _
  · exact .pure

theorem walkIdentifier {name : String} : congruence.Fixes (walkIdentifier name) := by
  refine Relates.lookup?.bind fun found => ?_
  split
  · exact .pure
  · exact .get_bind (fun _ _ => rfl) (fun _ _ => rfl) fun _ => .raise

theorem walkEscape
    (related : Related congruence self other)
    (name : String) :
    congruence.Relates (self.walkEscape name) (other.walkEscape name) := by
  refine .get_bind (fun _ _ => rfl) (fun _ _ => rfl) fun machine => ?_
  split
  · exact related.runCode _ _
  · exact .raise

theorem walkStep_quote
    (self : Evaluator)
    (expression : Term) :
    self.walkStep (.quote expression) =
      Action.ignoresQuotes >>= fun ignored =>
        if ignored then self.walk expression else pure (.quote expression) := rfl

/-- A quote is evaluated to itself, or what is quoted is evaluated. -/
theorem walkQuote
    (related : Related congruence self other)
    (sees : congruence.Fixes Action.ignoresQuotes)
    (expression : Term) :
    congruence.Relates (self.walkStep (.quote expression))
      (other.walkStep (.quote expression)) := by
  rw [walkStep_quote, walkStep_quote]
  exact Relates.bind sees fun _ => .ite (related.walk _) .pure

/-- One step of evaluation, given what quotes evaluate to. -/
theorem walkStep
    (related : Related congruence self other)
    {term : Term}
    (quoted : ∀ expression, term = .quote expression ->
      congruence.Relates (self.walkStep (.quote expression))
        (other.walkStep (.quote expression))) :
    congruence.Relates (self.walkStep term) (other.walkStep term) := by
  cases term with
  | absent => exact .raise
  | lineMark mark position => exact Relates.setPosition.bind fun _ => .pure
  | list cell =>
      exact Relates.store.bind fun _ => (related.walkAll _).bind fun _ => .newList
  | tuple cell =>
      exact Relates.store.bind fun _ => (related.walkAll _).bind fun _ => .newTuple
  | pair first second =>
      exact (related.walk _).bind fun _ => (related.walk _).bind fun _ => .newPair
  | sequence mark first second =>
      exact (related.walk _).bind fun _ => (related.walk _).bind fun _ => .newSequence
  | range raw mark start stop stride => exact related.walkRange _ _ _
  | headTail raw mark head tail => exact related.walkHeadTail _ _
  | function mark body => exact Relates.capture.bind fun _ => .newClosure
  | apply mark callee argument => exact related.walkApply _ _
  | index mark subject selector => exact (related.walk _).bind fun _ => related.readIndex _ _
  | conditional mark condition consequent alternative => exact related.walkConditional _ _ _
  | isMatch mark subject pattern => exact related.walkIsMatch _ _
  | membership mark element container => exact related.walkMembership _ _
  | evaluation mark expression => exact related.walkEvaluation _
  | escape mark name => exact related.walkEscape _
  | quote expression => exact quoted expression rfl
  | deref mark expression => exact related.walk _
  | identifier name => exact walkIdentifier
  | named => exact .display_raise
  | typeMatch => exact .display_raise
  | constraint => exact .display_raise
  | dataMember => exact .raise
  | initMember => exact .raise
  | _ => exact .pure

end Evaluator.Related

/-- Looking at whether quotes are ignored is the only thing in a run that a congruence need
not respect: a congruence that does relates the evaluator of every depth to itself. -/
theorem Evaluator.within_related
    {congruence : Congruence}
    (sees : congruence.Fixes Action.ignoresQuotes)
    (depth : Nat) :
    Evaluator.Related congruence (within depth) (within depth) := by
  induction depth with
  | zero => exact ⟨fun _ => congruence.exhausted, fun _ _ _ => congruence.exhausted⟩
  | succ depth inductionHypothesis =>
      exact
        { walk := fun _ => inductionHypothesis.walkStep fun _ _ =>
            inductionHypothesis.walkQuote sees _
          unify := inductionHypothesis.unifyStep }

end PatternMachine
