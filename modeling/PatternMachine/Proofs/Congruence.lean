import PatternMachine.Call
import PatternMachine.Proofs.Scope

/-!
# Relations that every construct respects

A congruence relates actions, and relates whatever is put together in the same way
from related actions. Evaluators whose recursive calls are related then walk and
match in related ways, so that a property of errors, of traces or of two runs next
to each other only has to be looked at for the few ways of putting actions
together. What calls do to the depth and to the trace, which calls are followed, what
matching does with the settings, and whether quotes are ignored, is left to each
congruence.
-/

namespace PatternMachine
namespace Machine

/-- What a machine holds about the run itself rather than about the program: its
settings, what it traces, whether it ignores quotes, how deep calls are and were nested,
and the trace. -/
structure Side where
  settings : Settings := {}
  tracer : Tracer := {}
  ignoreQuote : Bool := false
  callDepth : Nat := 0
  deepest : Nat := 0
  trace : Array TraceEvent := #[]

/-- What the machine holds about the run. -/
def side (machine : Machine) : Side where
  settings := machine.settings
  tracer := machine.tracer
  ignoreQuote := machine.ignoreQuote
  callDepth := machine.callDepth
  deepest := machine.deepest
  trace := machine.trace

/-- The machine with something else about the run. -/
def aside (machine : Machine) (side : Side) : Machine :=
  { machine with
    settings := side.settings
    tracer := side.tracer
    ignoreQuote := side.ignoreQuote
    callDepth := side.callDepth
    deepest := side.deepest
    trace := side.trace }

end Machine

/-- Whether an event is a remark that opens no call and closes none. -/
def TraceEvent.IsRemark : TraceEvent -> Prop
  | tried _ _ _ _ => True
  | warned _ => True
  | _ => False

namespace Action

/-- A change of the machine, with an answer, that has nothing to do with what the
machine holds about the run. -/
def Plain {α : Type} (change : Machine -> α × Machine) : Prop :=
  ∀ machine side,
    change (machine.aside side) = ((change machine).1, (change machine).2.aside side)

/-- Binding a name is a plain change. -/
theorem Plain.bindName (name : String) (value : Term) :
    Plain fun machine => ((), machine.bindName name value) := by
  intro machine side
  have same : (machine.aside side).bindingScope? name = machine.bindingScope? name := rfl
  unfold Machine.bindName
  dsimp only
  rw [same]
  cases machine.bindingScope? name <;> rfl

/-- A plain change that also keeps the position. -/
structure Tidy (change : Machine -> Machine) : Prop where
  plain : ∀ machine side, change (machine.aside side) = (change machine).aside side
  position : ∀ machine, (change machine).position = machine.position

/-- What the machine holds about the run is the same after a tidy change. -/
theorem Tidy.side
    {change : Machine -> Machine}
    (tidy : Tidy change)
    (machine : Machine) :
    (change machine).side = machine.side := by
  have plain : change machine = (change machine).aside machine.side :=
    tidy.plain machine machine.side
  rw [plain]
  rfl

/-- Whether quotes are ignored. -/
def ignoresQuotes : Action Bool := do
  return (← get).ignoreQuote

/-- Run an action with quotes ignored, and treat them afterwards as before. -/
def ignoringQuotes {α : Type} (action : Action α) : Action α := do
  let before ← ignoresQuotes
  modify fun machine => { machine with ignoreQuote := true }
  Action.ensuring action fun machine => { machine with ignoreQuote := before }

end Action

/-- A relation between actions that every construct respects, but for quotes. -/
structure Congruence where
  Relates : ∀ {α : Type}, Action α -> Action α -> Prop
  pure : ∀ {α : Type} (value : α), Relates (Pure.pure value) (Pure.pure value)
  bind : ∀ {α β : Type} {action other : Action α} {next otherNext : α -> Action β},
    Relates action other -> (∀ value, Relates (next value) (otherNext value)) ->
      Relates (action >>= next) (other >>= otherNext)
  raise : ∀ {α : Type} (payload : Payload),
    Relates (Action.raisePayload payload : Action α) (Action.raisePayload payload)
  exhausted : ∀ {α : Type},
    Relates (throw .exhausted : Action α) (throw .exhausted)
  update : ∀ {α : Type} {change : Machine -> α × Machine}, Action.Plain change ->
    Relates (modifyGet change) (modifyGet change)
  follows : ∀ body : String, Relates (Action.follows body) (Action.follows body)
  remark : ∀ {event : TraceEvent}, event.IsRemark ->
    Relates (Action.record event) (Action.record event)
  ensuring : ∀ {α : Type} {action other : Action α} {cleanup : Machine -> Machine},
    Relates action other -> Action.Tidy cleanup ->
      Relates (Action.ensuring action cleanup) (Action.ensuring other cleanup)
  ignoringQuotes : ∀ {α : Type} {action other : Action α}, Relates action other ->
    Relates (Action.ignoringQuotes action) (Action.ignoringQuotes other)
  located : ∀ {α : Type} {action other : Action α}, Relates action other ->
    Relates (Action.located action) (Action.located other)
  orNoMatch : ∀ {α : Type} {action other : Action α}, Relates action other ->
    Relates (Action.orNoMatch action) (Action.orNoMatch other)
  checkLinear : ∀ (mode : Mode) (bindings : List Binding),
    Relates (Evaluator.checkLinear mode bindings) (Evaluator.checkLinear mode bindings)
  call : ∀ {self other : Evaluator} (receiver : Term) (body : String)
    (captured : Option Closure) (argument : Term),
    (∀ code : Code, Relates (self.runCode code argument) (other.runCode code argument)) ->
      Relates (self.call receiver body captured argument)
        (other.call receiver body captured argument)

namespace Congruence

variable {α β : Type} {congruence : Congruence}

/-- The action is related to itself. -/
abbrev Fixes (congruence : Congruence) (action : Action α) : Prop :=
  congruence.Relates action action

namespace Relates

theorem bind
    {action other : Action α}
    {next otherNext : α -> Action β}
    (first : congruence.Relates action other)
    (second : ∀ value, congruence.Relates (next value) (otherNext value)) :
    congruence.Relates (action >>= next) (other >>= otherNext) :=
  congruence.bind first second

theorem ite
    {condition : Prop}
    [Decidable condition]
    {first second firstOther secondOther : Action α}
    (whenTrue : congruence.Relates first firstOther)
    (whenFalse : congruence.Relates second secondOther) :
    congruence.Relates (if condition then first else second)
      (if condition then firstOther else secondOther) := by
  by_cases decided : condition
  · simpa only [if_pos decided] using whenTrue
  · simpa only [if_neg decided] using whenFalse

theorem pure {value : α} : congruence.Fixes (Pure.pure value) :=
  congruence.pure value

theorem raise
    {kind : ErrorKind}
    {message : String} :
    congruence.Fixes (Action.raise kind message : Action α) :=
  congruence.raise _

/-- The machine is looked at, but not what it holds about the run. -/
theorem get_bind
    {next otherNext : Machine -> Action β}
    (plain : ∀ machine side, next (machine.aside side) = next machine)
    (otherPlain : ∀ machine side, otherNext (machine.aside side) = otherNext machine)
    (each : ∀ machine, congruence.Relates (next machine) (otherNext machine)) :
    congruence.Relates (get >>= next) (get >>= otherNext) := by
  -- All that is looked at is the machine with all about the run blanked out.
  let view (machine : Machine) : Machine × Machine := (machine.aside {}, machine)
  have viewed : ∀ step : Machine -> Action β,
      (∀ machine side, step (machine.aside side) = step machine) ->
      get >>= step = modifyGet view >>= step := by
    intro step stepPlain
    funext machine
    rw [Action.bind_apply, Action.bind_apply, Action.get_apply, Action.modifyGet_apply]
    exact congrFun (stepPlain machine _).symm machine
  rw [viewed next plain, viewed otherNext otherPlain]
  exact (congruence.update fun _ _ => rfl).bind each

theorem change
    {change : Machine -> Machine}
    (plain : ∀ machine side, change (machine.aside side) = (change machine).aside side) :
    congruence.Fixes (modify change) :=
  congruence.update fun machine side => by rw [plain]

/-! ## Looking at the machine -/

theorem store : congruence.Fixes Action.store :=
  get_bind (fun _ _ => rfl) (fun _ _ => rfl) fun _ => .pure

theorem find {site : Site} : congruence.Fixes (Action.find site) :=
  store.bind fun _ => .pure

theorem finitely {look : Store -> Option α} : congruence.Fixes (Action.finitely look) := by
  refine store.bind fun store => ?_
  cases look store with
  | none => exact congruence.exhausted
  | some answer => exact .pure

theorem display {term : Term} : congruence.Fixes (Action.display term) :=
  finitely

theorem equal {left right : Term} : congruence.Fixes (Action.equal left right) :=
  finitely

theorem caption {term : Term} : congruence.Fixes (Action.caption term) :=
  store.bind fun _ => .pure

theorem display_raise
    {term : Term}
    {kind : ErrorKind}
    {message : String -> String} :
    congruence.Fixes
      (Action.display term >>= fun shown => Action.raise kind (message shown) : Action α) :=
  display.bind fun _ => .raise

theorem display_display_raise
    {first second : Term}
    {kind : ErrorKind}
    {message : String -> String -> String} :
    congruence.Fixes
      (Action.display first >>= fun firstShown =>
        Action.display second >>= fun secondShown =>
          Action.raise kind (message firstShown secondShown) : Action α) :=
  display.bind fun _ => display_raise

theorem lookup? {name : String} : congruence.Fixes (Action.lookup? name) := by
  have plain : ∀ (machine : Machine) side,
      (machine.aside side).lookup? name = machine.lookup? name :=
    fun machine side => Machine.lookup?_congr machine (machine.aside side) rfl rfl name
  refine get_bind ?_ ?_ fun _ => .pure
  · exact fun machine side => by rw [plain]
  · exact fun machine side => by rw [plain]

theorem follows {body : String} : congruence.Fixes (Action.follows body) :=
  congruence.follows body

/-! ## Changing the machine -/

theorem setPosition {position : Position} :
    congruence.Fixes (modify fun machine => { machine with position := position }) :=
  .change fun _ _ => rfl

theorem write {text : String} : congruence.Fixes (Action.write text) :=
  .change fun _ _ => rfl

theorem bindName {name : String} {value : Term} :
    congruence.Fixes (Action.bindName name value) :=
  congruence.update (.bindName name value)

theorem declareGlobals {names : List String} :
    congruence.Fixes (modify fun machine => names.foldl Machine.declareGlobal machine) := by
  refine .change fun machine side => ?_
  induction names generalizing machine with
  | nil => rfl
  | cons name rest inductionHypothesis =>
      have declared : (machine.aside side).declareGlobal name =
          (machine.declareGlobal name).aside side := by
        have same : (machine.aside side).globals = machine.globals := rfl
        unfold Machine.declareGlobal
        rw [same]
        cases machine.globals.back? <;> rfl
      rw [List.foldl_cons, List.foldl_cons, declared, inductionHypothesis]

/-- An action in a scope of its own. -/
theorem inFreshScope
    {action other : Action α}
    (related : congruence.Relates action other) :
    congruence.Relates (Evaluator.inFreshScope action) (Evaluator.inFreshScope other) :=
  Relates.bind (.change fun _ _ => rfl) fun _ =>
    congruence.ensuring related ⟨fun _ _ => rfl, fun _ => rfl⟩

/-! ## Making values -/

theorem count {kind : Kind} : congruence.Fixes (Action.count kind) :=
  .change fun _ _ => rfl

theorem freshMark : congruence.Fixes Action.freshMark :=
  congruence.update fun _ _ => rfl

theorem newCell {elements : List Term} : congruence.Fixes (Action.newCell elements) :=
  congruence.update fun _ _ => rfl

theorem newInteger {value : Int64} : congruence.Fixes (Action.newInteger value) := by
  unfold Action.newInteger
  exact .ite .pure (count.bind fun _ => .pure)

theorem newReal {value : Float} : congruence.Fixes (Action.newReal value) :=
  count.bind fun _ => .pure

theorem newText {value : String} : congruence.Fixes (Action.newText value) :=
  count.bind fun _ => .pure

theorem newList {elements : List Term} : congruence.Fixes (Action.newList elements) :=
  count.bind fun _ => newCell.bind fun _ => .pure

theorem newTuple {elements : List Term} : congruence.Fixes (Action.newTuple elements) :=
  count.bind fun _ => newCell.bind fun _ => .pure

theorem newPair {first second : Term} : congruence.Fixes (Action.newPair first second) :=
  count.bind fun _ => .pure

theorem newSequence {first second : Term} :
    congruence.Fixes (Action.newSequence first second) :=
  count.bind fun _ => freshMark.bind fun _ => .pure

theorem newIdentifier {name : String} : congruence.Fixes (Action.newIdentifier name) :=
  count.bind fun _ => .pure

theorem newClosure {body : String} {captured : Closure} :
    congruence.Fixes (Action.newClosure body captured) :=
  count.bind fun _ => .pure

theorem newMethod {receiver body : Term} : congruence.Fixes (Action.newMethod receiver body) :=
  count.bind fun _ => freshMark.bind fun _ => .pure

theorem newStruct {name : String} {members : List String} {initial : List Term} :
    congruence.Fixes (Action.newStruct name members initial) :=
  count.bind fun _ => count.bind fun _ => freshMark.bind fun _ => newCell.bind fun _ => .pure

theorem newObject {template : Template} : congruence.Fixes (Action.newObject template) :=
  count.bind fun _ => count.bind fun _ => store.bind fun _ => newCell

theorem capture : congruence.Fixes Action.capture :=
  freshMark.bind fun _ => .get_bind (fun _ _ => rfl) (fun _ _ => rfl) fun _ => .pure

end Relates
end Congruence
end PatternMachine
