import PatternMachine.Proofs.Lawful.Walk

/-!
# Operations

The entry points of the machine, each with the terms it is given and the terms
it yields. Every operation is lawful. It follows that every operation, however
it ends, gives back the scopes, the global names, the counters and the flag
that it found.
-/

namespace PatternMachine

/-- The terms of a statement. -/
def Statement.terms : Statement -> List Term
  | .define _ members => members
  | .declareGlobals _ => []
  | .evaluate expression pattern => [expression, pattern]

/-- What a machine can be asked to do. -/
inductive Operation
  /-- Evaluate a term. -/
  | walk (term : Term)
  /-- Match a term against a pattern. -/
  | unify (mode : Mode) (term pattern : Term)
  /-- Commit the bindings of a match. -/
  | declare (bindings : List Binding)
  /-- Run a statement. -/
  | exec (statement : Statement)
  /-- Build a struct from its member declarations. -/
  | buildStruct (name : String) (members : List Term)
  /-- Make an object of a struct. -/
  | construct (template : Template) (argument : Term)
  /-- Apply a value to a value. -/
  | apply (callee argument : Term)
  /-- Call a function. -/
  | call (receiver : Term) (body : String) (captured : Option Closure) (argument : Term)

namespace Operation

/-- The terms an operation is given. -/
def terms : Operation -> List Term
  | walk term => [term]
  | unify _ term pattern => [term, pattern]
  | declare bindings => bindings.flatMap fun binding => [binding.target, binding.value]
  | exec statement => statement.terms
  | buildStruct _ members => members
  | construct _ argument => [argument]
  | apply callee argument => [callee, argument]
  | call receiver body captured argument => [receiver, .closure body captured, argument]

/-- Perform an operation; the result is the terms it yields. -/
def run (self : Evaluator) : Operation -> Action (List Term)
  | walk term => do return [← self.walk term]
  | unify mode term pattern => do
      let bindings ← self.unify mode term pattern
      return bindings.flatMap fun binding => [binding.target, binding.value]
  | declare bindings => do
      self.declareAll bindings
      return []
  | exec statement => do return [← self.exec statement]
  | buildStruct name members => do return [.struct (← self.buildStruct name members)]
  | construct template argument => do return [← self.construct template argument]
  | apply callee argument => do return [← self.applyValue callee argument]
  | call receiver body captured argument => do
      return [← self.call receiver body captured argument]

open PatternMachine.Action (Lawful)

variable {property : StackProperty} {self : Evaluator}

/-- Bindings respect a property when the terms on both sides do. -/
theorem bindingsRespect_iff {bindings : List Binding} :
    (∀ binding ∈ bindings, binding.Respects property) ↔
      ∀ term ∈ bindings.flatMap fun binding => [binding.target, binding.value],
        term.Respects property := by
  simp only [Binding.Respects, List.mem_flatMap, List.mem_cons, List.not_mem_nil, or_false]
  constructor
  · rintro respects term ⟨binding, member, rfl | rfl⟩
    · exact (respects binding member).1
    · exact (respects binding member).2
  · intro respects binding member
    exact ⟨respects _ ⟨binding, member, .inl rfl⟩, respects _ ⟨binding, member, .inr rfl⟩⟩

theorem statementRespects_iff {statement : Statement} :
    statement.Respects property ↔ ∀ term ∈ statement.terms, term.Respects property := by
  cases statement <;> simp [Statement.terms]

/-- Yielding a single term that respects the property. -/
theorem lawful_singleton
    {action : Action Term}
    (lawful : Lawful property action (Term.Respects property)) :
    Lawful property (action >>= fun value => pure [value]) fun results =>
      ∀ term ∈ results, term.Respects property :=
  lawful.bind fun _ respects => .pure (List.forall_mem_singleton.mpr respects)

/-- Every operation of a lawful evaluator is lawful. -/
theorem run_lawful
    (lawful : self.IsLawful property)
    (operation : Operation)
    (respects : ∀ term ∈ operation.terms, term.Respects property) :
    Lawful property (operation.run self) fun results =>
      ∀ term ∈ results, term.Respects property := by
  cases operation with
  | walk term => exact lawful_singleton (lawful.walk term (respects term (by simp [terms])))
  | unify mode term pattern =>
      have matched := lawful.unify mode term pattern (respects term (by simp [terms]))
        (respects pattern (by simp [terms]))
      exact matched.bind fun _ bindingsRespect => .pure (bindingsRespect_iff.mp bindingsRespect)
  | declare bindings =>
      have committed := Evaluator.declareAll_lawful lawful (bindingsRespect_iff.mpr respects)
      exact committed.bind fun _ _ => .pure (by simp)
  | exec statement =>
      exact lawful_singleton (Evaluator.exec_lawful lawful (statementRespects_iff.mpr respects))
  | buildStruct name members =>
      refine (Evaluator.buildStruct_lawful lawful respects).bind fun template _ => ?_
      exact .pure (List.forall_mem_singleton.mpr trivial)
  | construct template argument =>
      exact lawful_singleton
        (Evaluator.construct_lawful lawful (respects argument (by simp [terms])))
  | apply callee argument =>
      exact lawful_singleton
        (Evaluator.applyValue_lawful lawful (respects callee (by simp [terms]))
          (respects argument (by simp [terms])))
  | call receiver body captured argument =>
      exact lawful_singleton
        (Evaluator.call_lawful lawful (respects receiver (by simp [terms]))
          (respects (.closure body captured) (by simp [terms]))
          (respects argument (by simp [terms])))

end Operation

/-! ## Restoration -/

/-- The property of every stack is respected by every term. -/
theorem Term.respects_trivial (term : Term) : term.Respects .trivial := by
  induction term with
  | closure body captured => cases captured <;> trivial
  | _ => simp_all

theorem Statement.respects_trivial (statement : Statement) : statement.Respects .trivial :=
  Operation.statementRespects_iff.mpr fun term _ => term.respects_trivial

theorem Code.respects_trivial (code : Code) : code.Respects .trivial := by
  cases code with
  | clauses name equations =>
      intro clause _
      exact ⟨clause.pattern.respects_trivial, fun statement _ => statement.respects_trivial⟩
  | native operation => trivial

theorem Machine.respects_trivial (machine : Machine) : machine.Respects .trivial where
  store :=
    { cells := fun _ element _ => element.respects_trivial
      scopes := fun _ entry _ => entry.2.respects_trivial }
  dispatch := fun entry _ => entry.2.respects_trivial
  stack := trivial

/-- A call leaves the position as it found it. -/
theorem Evaluator.position_call
    (depth : Nat)
    (receiver : Term)
    (body : String)
    (captured : Option Closure)
    (argument : Term)
    (machine : Machine) :
    ((within depth).call receiver body captured argument |>.after machine).position =
      machine.position := by
  have left := call_leaves (within_lawful depth) receiver.respects_trivial
    (Term.respects_trivial (.closure body captured)) argument.respects_trivial
    machine.respects_trivial
  rcases left with same | same | ⟨_, _, _, _, _, _, _, changed⟩
  · rw [same]
  · rw [same]
    rfl
  · rw [changed]
    rfl

/-- Every operation, however it ends, gives back the scopes, the sets of global
names, the depth of calls and of constraints and the treatment of quotes that
it found. A call gives back the position too. -/
theorem Operation.restores_frame
    (depth : Nat)
    (machine : Machine) :
    (∀ operation : Operation,
      let final := (operation.run (.within depth)).after machine
      final.scopes = machine.scopes ∧
        final.globals = machine.globals ∧
        final.callDepth = machine.callDepth ∧
        final.constraintDepth = machine.constraintDepth ∧
        final.ignoreQuote = machine.ignoreQuote) ∧
    ∀ receiver body captured argument,
      ((Evaluator.within depth).call receiver body captured argument |>.after
        machine).position = machine.position := by
  constructor
  · intro operation
    have lawful := operation.run_lawful (Evaluator.within_lawful depth)
      fun term _ => term.respects_trivial
    have frame := (lawful.evolves machine.respects_trivial).sameFrame
    exact ⟨frame.scopes, frame.globals, frame.callDepth, frame.constraintDepth,
      frame.ignoreQuote⟩
  · intro receiver body captured argument
    exact Evaluator.position_call depth receiver body captured argument machine

end PatternMachine
