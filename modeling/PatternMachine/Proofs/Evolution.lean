import PatternMachine.Interpreter
import PatternMachine.Proofs.Scope

/-!
# How the machine evolves

Everything that evaluation and matching can do to the machine, said once: a few
elementary changes, and four constructs that run on a changed machine and undo
the change afterwards. Whatever holds of every evolution holds of every run.

Functions carry the scopes they captured, so what a run can reach depends on
the scope stacks captured before. An evolution is therefore relative to a
property of scope stacks that all functions in play respect.
-/

namespace PatternMachine

/-- A property of scope stacks that does not get lost when a scope is opened, or
when a stack is cut off above its outermost scope. -/
structure StackProperty where
  /-- The stacks with the property. -/
  holds : Array ScopeRef -> Prop
  /-- Opening a scope keeps the property. -/
  holds_push : ∀ scopes ref, holds scopes -> holds (scopes.push ref)
  /-- Cutting a stack off keeps the property. -/
  holds_extract : ∀ scopes size, holds scopes -> 0 < size -> holds (scopes.extract 0 size)

/-- The property of every stack. -/
def StackProperty.trivial : StackProperty where
  holds := fun _ => True
  holds_push := by simp
  holds_extract := by simp

/-- The property of a stack that its outermost scope is the given one. -/
def StackProperty.rootedAt (root : ScopeRef) : StackProperty where
  holds := fun scopes => scopes[0]? = some root
  holds_push := by
    intro scopes ref rooted
    obtain ⟨nonempty, _⟩ := Array.getElem?_eq_some_iff.mp rooted
    rw [Array.getElem?_push, if_neg (Nat.ne_of_lt nonempty), rooted]
  holds_extract := by
    intro scopes size rooted positive
    obtain ⟨nonempty, _⟩ := Array.getElem?_eq_some_iff.mp rooted
    rw [Array.getElem?_extract, if_pos (by omega), Nat.zero_add, rooted]

/-! ## Terms, code and machines that respect a property -/

/-- Every function in a term captured scopes with the property. -/
@[simp] def Term.Respects (property : StackProperty) : Term -> Prop
  | .closure _ (some captured) => property.holds captured.scopes
  | .pair first second => first.Respects property ∧ second.Respects property
  | .range _ _ start stop stride =>
      start.Respects property ∧ stop.Respects property ∧ stride.Respects property
  | .headTail _ _ head tail => head.Respects property ∧ tail.Respects property
  | .sequence _ first second => first.Respects property ∧ second.Respects property
  | .apply _ callee argument => callee.Respects property ∧ argument.Respects property
  | .index _ subject selector => subject.Respects property ∧ selector.Respects property
  | .conditional _ condition consequent alternative =>
      condition.Respects property ∧ consequent.Respects property ∧
        alternative.Respects property
  | .isMatch _ subject pattern => subject.Respects property ∧ pattern.Respects property
  | .membership _ element container =>
      element.Respects property ∧ container.Respects property
  | .evaluation _ expression => expression.Respects property
  | .named _ _ pattern => pattern.Respects property
  | .constraint _ pattern => pattern.Respects property
  | .quote expression => expression.Respects property
  | .deref _ expression => expression.Respects property
  | .method _ receiver body => receiver.Respects property ∧ body.Respects property
  | .dataMember _ value => value.Respects property
  | .initMember _ value pattern => value.Respects property ∧ pattern.Respects property
  | _ => True

/-- Every term of a statement respects the property. -/
@[simp] def Statement.Respects (property : StackProperty) : Statement -> Prop
  | .define _ members => ∀ member ∈ members, member.Respects property
  | .declareGlobals _ => True
  | .evaluate expression pattern =>
      expression.Respects property ∧ pattern.Respects property

/-- Every term of a clause respects the property. -/
def Clause.Respects (property : StackProperty) (clause : Clause) : Prop :=
  clause.pattern.Respects property ∧
    ∀ statement ∈ clause.body, statement.Respects property

/-- Every term of a piece of code respects the property. -/
@[simp] def Code.Respects (property : StackProperty) : Code -> Prop
  | .clauses _ equations => ∀ clause ∈ equations, clause.Respects property
  | .native _ => True

/-- A binding whose two sides respect the property. -/
def Binding.Respects (property : StackProperty) (binding : Binding) : Prop :=
  binding.target.Respects property ∧ binding.value.Respects property

/-- A term at hand respects the property. What a cell holds is up to the store. -/
@[simp] def Site.Respects (property : StackProperty) : Site -> Prop
  | .given term => term.Respects property
  | .element _ _ => True

/-- Everything the store holds respects the property. -/
structure Store.Respects (property : StackProperty) (store : Store) : Prop where
  cells : ∀ cell, ∀ element ∈ store.elements cell, element.Respects property
  scopes : ∀ ref, ∀ entry ∈ (store.scope ref).entries, entry.2.Respects property

/-- The store, the code and the active scopes respect the property. -/
structure Machine.Respects (property : StackProperty) (machine : Machine) : Prop where
  store : machine.store.Respects property
  dispatch : ∀ entry ∈ machine.dispatch.entries, entry.2.Respects property
  stack : property.holds machine.scopes

/-! ## Evolution -/

/-- The changes a run can make to the machine. -/
inductive Machine.Evolves (property : StackProperty) : Machine -> Machine -> Prop
  /-- Nothing happens. -/
  | refl (machine : Machine) : Evolves property machine machine
  /-- One thing happens after the other. -/
  | trans {first second third : Machine} :
      Evolves property first second -> Evolves property second third ->
      Evolves property first third
  /-- A name is bound. -/
  | bindName (machine : Machine) (name : String) {value : Term}
      (respects : value.Respects property) :
      Evolves property machine (machine.bindName name value)
  /-- A name is declared global. -/
  | declareGlobal (machine : Machine) (name : String) :
      Evolves property machine (machine.declareGlobal name)
  /-- A mark is handed out. -/
  | freshMark (machine : Machine) :
      Evolves property machine { machine with store := machine.store.freshMark.2 }
  /-- A cell is made. -/
  | newCell (machine : Machine) {elements : Array Term}
      (respects : ∀ element ∈ elements, element.Respects property) :
      Evolves property machine { machine with store := (machine.store.newCell elements).2 }
  /-- One element of a cell is overwritten. -/
  | writeElement (machine : Machine) (cell : CellRef) (place : Nat) {value : Term}
      (respects : value.Respects property) :
      Evolves property machine
        { machine with store := machine.store.writeElement cell place value }
  /-- Position, counters, output, trace and the warning flag are kept up. -/
  | record (machine : Machine) (position : Position) (tally : Tally) (output : String)
      (trace : Array TraceEvent) (guardWarned : Bool) :
      Evolves property machine { machine with position, tally, output, trace, guardWarned }
  /-- A guard runs in a scope of its own. -/
  | inScope {machine inner : Machine} :
      Evolves property machine.pushScope inner -> Evolves property machine inner.popScope
  /-- A function runs in the scopes it captured and one of its own. -/
  | inFunction {machine entered inner : Machine} {captured : Closure}
      (respects : property.holds captured.scopes)
      (installed : Action.install captured machine = .ok () entered) :
      Evolves property entered.pushScope inner ->
      Evolves property machine
        { inner with
          scopes := machine.scopes
          globals := machine.globals
          position := machine.position }
  /-- A call is counted while it is in progress. -/
  | inCall {machine inner : Machine} :
      Evolves property machine.beginCall inner ->
      Evolves property machine inner.endCall
  /-- A constraint is counted while it is matched. -/
  | inConstraint {machine inner : Machine} :
      Evolves property
        { machine with constraintDepth := machine.constraintDepth + 1 } inner ->
      Evolves property machine { inner with constraintDepth := inner.constraintDepth - 1 }
  /-- A term is evaluated with quotes transparent. -/
  | inEvaluation {machine inner : Machine} :
      Evolves property { machine with ignoreQuote := true } inner ->
      Evolves property machine { inner with ignoreQuote := machine.ignoreQuote }

namespace Store
namespace Respects

variable {property : StackProperty} {store : Store}

theorem bind
    (respects : store.Respects property)
    (ref : ScopeRef)
    (name : String)
    {value : Term}
    (valueRespects : value.Respects property) :
    (store.bind ref name value).Respects property where
  cells := respects.cells
  scopes := by
    intro other entry member
    rcases scope_bind store ref other name value with same | inserted
    · rw [same] at member
      exact respects.scopes other entry member
    · rw [inserted] at member
      rcases Namespace.mem_insertEntry member with rfl | old
      · exact valueRespects
      · exact respects.scopes other entry old

theorem newCell
    (respects : store.Respects property)
    {elements : Array Term}
    (elementsRespect : ∀ element ∈ elements, element.Respects property) :
    (store.newCell elements).2.Respects property where
  cells := by
    intro cell
    rcases elements_newCell store elements cell with new | old
    · rwa [new]
    · rw [old]
      exact respects.cells cell
  scopes := respects.scopes

theorem writeElement
    (respects : store.Respects property)
    (target : CellRef)
    (place : Nat)
    {value : Term}
    (valueRespects : value.Respects property) :
    (store.writeElement target place value).Respects property where
  cells := by
    intro cell element member
    rw [elements_writeElement] at member
    split at member
    · rcases Array.mem_or_eq_of_mem_setIfInBounds member with old | rfl
      · exact respects.cells cell element old
      · exact valueRespects
    · exact respects.cells cell element member
  scopes := respects.scopes

end Respects
end Store

/-- A store in which no namespace and no set of global names got lost, and no
set of global names lost a name. -/
structure Store.Grows (before after : Store) : Prop where
  scopes : before.scopes.size ≤ after.scopes.size
  globals : before.globals.size ≤ after.globals.size
  globalNames : ∀ ref name, name ∈ before.globalNames ref -> name ∈ after.globalNames ref

namespace Store.Grows

theorem refl (store : Store) : store.Grows store :=
  ⟨Nat.le_refl _, Nat.le_refl _, fun _ _ => id⟩

theorem trans
    {first second third : Store}
    (earlier : first.Grows second)
    (later : second.Grows third) :
    first.Grows third where
  scopes := Nat.le_trans earlier.scopes later.scopes
  globals := Nat.le_trans earlier.globals later.globals
  globalNames := fun ref name member =>
    later.globalNames ref name (earlier.globalNames ref name member)

theorem bind
    (store : Store)
    (ref : ScopeRef)
    (name : String)
    (value : Term) :
    store.Grows (store.bind ref name value) :=
  ⟨store.size_le_size_bind ref name value, Nat.le_refl _, fun _ _ => id⟩

theorem declareGlobal
    (store : Store)
    (ref : GlobalsRef)
    (name : String) :
    store.Grows (store.declareGlobal ref name) :=
  ⟨Nat.le_refl _, by simp [Store.declareGlobal],
    fun other _ member => mem_globalNames_declareGlobal store ref other name member⟩

theorem pushScope (machine : Machine) : machine.store.Grows machine.pushScope.store :=
  ⟨by simp [Machine.pushScope, newScope, newGlobals],
    by simp [Machine.pushScope, newScope, newGlobals],
    fun ref _ member => by rwa [Machine.globalNames_pushScope machine ref]⟩

theorem install
    {captured : Closure}
    {machine entered : Machine}
    (installed : Action.install captured machine = .ok () entered) :
    machine.store.Grows entered.store := by
  obtain ⟨size, extra, globals, _, rfl⟩ := Action.install_eq_ok installed
  exact ⟨Nat.le_refl _, by simp, fun ref _ member => by simpa using member⟩

end Store.Grows

namespace Machine

variable {property : StackProperty} {machine after : Machine}

theorem Respects.bindName
    (respects : machine.Respects property)
    (name : String)
    {value : Term}
    (valueRespects : value.Respects property) :
    (machine.bindName name value).Respects property := by
  rcases bindName_eq machine name value with ⟨scope, _, changed⟩ | same
  · rw [changed]
    exact ⟨respects.store.bind scope name valueRespects, respects.dispatch, respects.stack⟩
  · rwa [same]

theorem Respects.declareGlobal
    (respects : machine.Respects property)
    (name : String) :
    (machine.declareGlobal name).Respects property := by
  rcases declareGlobal_eq machine name with ⟨names, _, changed⟩ | same
  · rw [changed]
    exact ⟨⟨respects.store.cells, respects.store.scopes⟩, respects.dispatch, respects.stack⟩
  · rwa [same]

theorem Respects.pushScope (respects : machine.Respects property) :
    machine.pushScope.Respects property where
  store :=
    { cells := respects.store.cells
      scopes := by
        intro ref entry member
        rw [scope_pushScope] at member
        exact respects.store.scopes ref entry member }
  dispatch := respects.dispatch
  stack := property.holds_push _ _ respects.stack

theorem Respects.install
    (respects : machine.Respects property)
    {captured : Closure}
    {entered : Machine}
    (capturedRespects : property.holds captured.scopes)
    (installed : Action.install captured machine = .ok () entered) :
    entered.Respects property := by
  obtain ⟨size, extra, globals, positive, rfl⟩ := Action.install_eq_ok installed
  exact
    { store := ⟨respects.store.cells, respects.store.scopes⟩
      dispatch := respects.dispatch
      stack := property.holds_extract _ _ capturedRespects positive }

/-- The scopes, the counters and the flag that constructs put back when they
are done, and the code and the settings, which nothing changes. -/
structure SameFrame (before after : Machine) : Prop where
  scopes : after.scopes = before.scopes
  globals : after.globals = before.globals
  callDepth : after.callDepth = before.callDepth
  constraintDepth : after.constraintDepth = before.constraintDepth
  ignoreQuote : after.ignoreQuote = before.ignoreQuote
  dispatch : after.dispatch = before.dispatch
  settings : after.settings = before.settings
  tracer : after.tracer = before.tracer

namespace SameFrame

theorem refl (machine : Machine) : SameFrame machine machine :=
  ⟨rfl, rfl, rfl, rfl, rfl, rfl, rfl, rfl⟩

theorem trans
    {first second third : Machine}
    (earlier : SameFrame first second)
    (later : SameFrame second third) :
    SameFrame first third where
  scopes := later.scopes.trans earlier.scopes
  globals := later.globals.trans earlier.globals
  callDepth := later.callDepth.trans earlier.callDepth
  constraintDepth := later.constraintDepth.trans earlier.constraintDepth
  ignoreQuote := later.ignoreQuote.trans earlier.ignoreQuote
  dispatch := later.dispatch.trans earlier.dispatch
  settings := later.settings.trans earlier.settings
  tracer := later.tracer.trans earlier.tracer

end SameFrame

namespace Evolves

/-- Every evolution gives back the frame it found. -/
theorem sameFrame (evolves : machine.Evolves property after) :
    SameFrame machine after := by
  induction evolves with
  | refl machine => exact .refl machine
  | trans _ _ earlier later => exact earlier.trans later
  | bindName machine name respects =>
      rcases bindName_eq machine name _ with ⟨_, _, changed⟩ | same
      · rw [changed]
        exact ⟨rfl, rfl, rfl, rfl, rfl, rfl, rfl, rfl⟩
      · rw [same]
        exact .refl machine
  | declareGlobal machine name =>
      rcases declareGlobal_eq machine name with ⟨_, _, changed⟩ | same
      · rw [changed]
        exact ⟨rfl, rfl, rfl, rfl, rfl, rfl, rfl, rfl⟩
      · rw [same]
        exact .refl machine
  | freshMark machine => exact ⟨rfl, rfl, rfl, rfl, rfl, rfl, rfl, rfl⟩
  | newCell machine respects => exact ⟨rfl, rfl, rfl, rfl, rfl, rfl, rfl, rfl⟩
  | writeElement machine cell place respects =>
      exact ⟨rfl, rfl, rfl, rfl, rfl, rfl, rfl, rfl⟩
  | record machine position tally output trace guardWarned =>
      exact ⟨rfl, rfl, rfl, rfl, rfl, rfl, rfl, rfl⟩
  | inScope inside frame =>
      exact { frame with
        scopes := by simp [popScope, frame.scopes]
        globals := by simp [popScope, frame.globals] }
  | inFunction respects installed inside frame =>
      obtain ⟨size, extra, globals, _, rfl⟩ := Action.install_eq_ok installed
      exact { frame with scopes := rfl, globals := rfl }
  | inCall inside frame =>
      exact { frame with callDepth := by simp [endCall, beginCall, frame.callDepth] }
  | inConstraint inside frame =>
      exact { frame with constraintDepth := by simp [frame.constraintDepth] }
  | inEvaluation inside frame => exact { frame with ignoreQuote := rfl }

/-- Every evolution lets the store grow. -/
theorem grows (evolves : machine.Evolves property after) :
    machine.store.Grows after.store := by
  induction evolves with
  | refl machine => exact .refl machine.store
  | trans _ _ earlier later => exact earlier.trans later
  | bindName machine name respects =>
      rcases bindName_eq machine name _ with ⟨scope, _, changed⟩ | same
      · rw [changed]
        exact .bind machine.store scope name _
      · rw [same]
        exact .refl machine.store
  | declareGlobal machine name =>
      rcases declareGlobal_eq machine name with ⟨names, _, changed⟩ | same
      · rw [changed]
        exact .declareGlobal machine.store names name
      · rw [same]
        exact .refl machine.store
  | freshMark machine => exact ⟨Nat.le_refl _, Nat.le_refl _, fun _ _ => id⟩
  | newCell machine respects => exact ⟨Nat.le_refl _, Nat.le_refl _, fun _ _ => id⟩
  | writeElement machine cell place respects =>
      exact ⟨Nat.le_refl _, Nat.le_refl _, fun _ _ => id⟩
  | record machine => exact .refl machine.store
  | inScope inside inner => exact (Store.Grows.pushScope _).trans inner
  | inFunction respects installed inside inner =>
      exact (Store.Grows.install installed).trans ((Store.Grows.pushScope _).trans inner)
  | inCall inside inner => exact inner
  | inConstraint inside inner => exact inner
  | inEvaluation inside inner => exact inner

/-- Every evolution keeps the property of the scope stacks. -/
theorem respects
    (evolves : machine.Evolves property after)
    (before : machine.Respects property) :
    after.Respects property := by
  induction evolves with
  | refl => exact before
  | trans _ _ earlier later => exact later (earlier before)
  | bindName machine name respects => exact before.bindName name respects
  | declareGlobal machine name => exact before.declareGlobal name
  | freshMark machine =>
      exact ⟨⟨before.store.cells, before.store.scopes⟩, before.dispatch, before.stack⟩
  | newCell machine respects =>
      exact ⟨before.store.newCell respects, before.dispatch, before.stack⟩
  | writeElement machine cell place respects =>
      exact ⟨before.store.writeElement cell place respects, before.dispatch, before.stack⟩
  | record => exact ⟨before.store, before.dispatch, before.stack⟩
  | inScope inside inner =>
      have kept := inner before.pushScope
      have frame := inside.sameFrame
      exact
        { store := kept.store
          dispatch := kept.dispatch
          stack := by
            change property.holds (Array.pop _)
            rw [frame.scopes]
            simpa using before.stack }
  | inFunction respects installed inside inner =>
      have kept := inner (before.install respects installed).pushScope
      exact ⟨kept.store, kept.dispatch, before.stack⟩
  | inCall inside inner =>
      have kept := inner ⟨before.store, before.dispatch, before.stack⟩
      exact ⟨kept.store, kept.dispatch, kept.stack⟩
  | inConstraint inside inner =>
      have kept := inner ⟨before.store, before.dispatch, before.stack⟩
      exact ⟨kept.store, kept.dispatch, kept.stack⟩
  | inEvaluation inside inner =>
      have kept := inner ⟨before.store, before.dispatch, before.stack⟩
      exact ⟨kept.store, kept.dispatch, kept.stack⟩

end Evolves
end Machine
end PatternMachine
