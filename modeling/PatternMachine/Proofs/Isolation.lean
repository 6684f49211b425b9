import PatternMachine.Proofs.Reachable

/-!
# What runs inside a function stays inside

While a function runs, the innermost scope and the innermost set of global
names are younger than the call, and the outermost scope is the global one. So
every name is bound in a young scope, or in the global scope when the function
declared the name global: no other scope that is older than the call changes.
-/

namespace PatternMachine

/-- Between two stores, scopes older than `scopeBase` changed in no way, apart
from `root`; and `root` changed only at names declared global in sets not older
than `globalsBase`. -/
structure Store.Confined (root : ScopeRef) (scopeBase globalsBase : Nat)
    (before after : Store) : Prop where
  others : ∀ ref : ScopeRef, ref.place < scopeBase -> ref ≠ root ->
    after.scope ref = before.scope ref
  rootName : ∀ name,
    (∀ ref : GlobalsRef, globalsBase ≤ ref.place -> name ∉ after.globalNames ref) ->
    (after.scope root).get? name = (before.scope root).get? name
  rootScope :
    (∀ ref : GlobalsRef, globalsBase ≤ ref.place -> after.globalNames ref = []) ->
    after.scope root = before.scope root

namespace Store.Confined

variable {root : ScopeRef} {scopeBase globalsBase : Nat}

/-- A store with the same scopes. -/
theorem of_scope
    {before after : Store}
    (same : ∀ ref, after.scope ref = before.scope ref) :
    Confined root scopeBase globalsBase before after :=
  ⟨fun ref _ _ => same ref, fun name _ => by rw [same], fun _ => same root⟩

theorem refl (store : Store) : Confined root scopeBase globalsBase store store :=
  of_scope fun _ => rfl

/-- Confinement goes on as long as the sets of global names grow: what is
declared in the end covers what was declared on the way. -/
theorem trans
    {first second third : Store}
    (earlier : Confined root scopeBase globalsBase first second)
    (later : Confined root scopeBase globalsBase second third)
    (grows : second.Grows third) :
    Confined root scopeBase globalsBase first third where
  others := fun ref old other => (later.others ref old other).trans (earlier.others ref old other)
  rootName := by
    intro name undeclared
    have undeclaredBefore : ∀ ref : GlobalsRef, globalsBase ≤ ref.place ->
        name ∉ second.globalNames ref :=
      fun ref young member => undeclared ref young (grows.globalNames ref name member)
    exact (later.rootName name undeclared).trans (earlier.rootName name undeclaredBefore)
  rootScope := by
    intro undeclared
    have undeclaredBefore : ∀ ref : GlobalsRef, globalsBase ≤ ref.place ->
        second.globalNames ref = [] := by
      intro ref young
      refine List.eq_nil_iff_forall_not_mem.mpr fun name member => ?_
      have kept := grows.globalNames ref name member
      rw [undeclared ref young] at kept
      exact List.not_mem_nil kept
    exact (later.rootScope undeclared).trans (earlier.rootScope undeclaredBefore)

end Store.Confined

namespace Machine

/-- The outermost scope is `root`, and the innermost scope and set of global
names are not older than the two bases. -/
structure Enclosed (root : ScopeRef) (scopeBase globalsBase : Nat)
    (machine : Machine) : Prop where
  outermost : machine.scopes[0]? = some root
  innermost : ∀ ref : ScopeRef, machine.scopes.back? = some ref -> scopeBase ≤ ref.place
  declared : ∀ ref : GlobalsRef, machine.globals.back? = some ref -> globalsBase ≤ ref.place
  scopes : scopeBase ≤ machine.store.scopes.size
  globals : globalsBase ≤ machine.store.globals.size

variable {root : ScopeRef} {scopeBase globalsBase : Nat} {machine after : Machine}

/-- In a scope just opened over a stack that starts with `root`. -/
theorem enclosed_pushScope
    (outermost : machine.scopes[0]? = some root)
    (scopes : scopeBase ≤ machine.store.scopes.size)
    (globals : globalsBase ≤ machine.store.globals.size) :
    machine.pushScope.Enclosed root scopeBase globalsBase where
  outermost := (StackProperty.rootedAt root).holds_push _ _ outermost
  innermost := by
    intro ref found
    obtain rfl : ⟨machine.store.scopes.size⟩ = ref := by simpa using found
    exact scopes
  declared := by
    intro ref found
    obtain rfl : ⟨machine.store.globals.size⟩ = ref := by simpa using found
    exact globals
  scopes := Nat.le_trans scopes (Store.Grows.pushScope machine).scopes
  globals := Nat.le_trans globals (Store.Grows.pushScope machine).globals

/-- In the scope opened for a function whose stack starts with `root`. -/
theorem enclosed_install
    {captured : Closure}
    {entered : Machine}
    (rooted : (StackProperty.rootedAt root).holds captured.scopes)
    (installed : Action.install captured machine = .ok () entered)
    (scopes : scopeBase ≤ machine.store.scopes.size)
    (globals : globalsBase ≤ machine.store.globals.size) :
    entered.pushScope.Enclosed root scopeBase globalsBase := by
  have grown := Store.Grows.install installed
  refine enclosed_pushScope ?_ (Nat.le_trans scopes grown.scopes)
    (Nat.le_trans globals grown.globals)
  obtain ⟨size, extra, names, positive, rfl⟩ := Action.install_eq_ok installed
  exact (StackProperty.rootedAt root).holds_extract _ _ rooted positive

/-- Entering a function changes no namespace. -/
theorem scope_install_pushScope
    {captured : Closure}
    {entered : Machine}
    (installed : Action.install captured machine = .ok () entered)
    (ref : ScopeRef) :
    entered.pushScope.store.scope ref = machine.store.scope ref := by
  rw [scope_pushScope entered ref]
  obtain ⟨size, extra, names, _, rfl⟩ := Action.install_eq_ok installed
  rfl

theorem Enclosed.evolves
    {property : StackProperty}
    (enclosed : machine.Enclosed root scopeBase globalsBase)
    (evolves : machine.Evolves property after) :
    after.Enclosed root scopeBase globalsBase where
  outermost := by rw [evolves.sameFrame.scopes, enclosed.outermost]
  innermost := by
    rw [evolves.sameFrame.scopes]
    exact enclosed.innermost
  declared := by
    rw [evolves.sameFrame.globals]
    exact enclosed.declared
  scopes := Nat.le_trans enclosed.scopes evolves.grows.scopes
  globals := Nat.le_trans enclosed.globals evolves.grows.globals

/-- Binding a name inside a function is confined: the name is bound in a young
scope, or it was declared global in a young set. -/
theorem Enclosed.confined_bindName
    (enclosed : machine.Enclosed root scopeBase globalsBase)
    (old : root.place < scopeBase)
    (name : String)
    (value : Term) :
    Store.Confined root scopeBase globalsBase machine.store
      (machine.bindName name value).store := by
  rcases bindName_eq machine name value with ⟨scope, chosen, changed⟩ | same
  · rw [changed]
    unfold bindingScope? at chosen
    split at chosen
    · rename_i declaredGlobal
      obtain rfl : root = scope := by simpa [enclosed.outermost] using chosen
      obtain ⟨names, innermost, member⟩ : ∃ names, machine.globals.back? = some names ∧
          name ∈ machine.store.globalNames names := by
        unfold isGlobal at declaredGlobal
        split at declaredGlobal
        · exact ⟨_, ‹_›, by simpa using declaredGlobal⟩
        · simp at declaredGlobal
      have young := enclosed.declared names innermost
      exact
        { others := fun ref _ other => Store.scope_bind_of_ne machine.store other name value
          rootName := by
            intro other undeclared
            have apart : other ≠ name := by
              rintro rfl
              exact undeclared names young member
            rcases Store.scope_bind machine.store root root name value with same | inserted
            · simp only [same]
            · simp only [inserted]
              exact Namespace.get?_insert_of_ne _ apart value
          rootScope := by
            intro undeclared
            have empty : machine.store.globalNames names = [] := undeclared names young
            simp [empty] at member }
    · have young := enclosed.innermost scope chosen
      have kept : ∀ ref : ScopeRef, ref.place < scopeBase ->
          (machine.store.bind scope name value).scope ref = machine.store.scope ref := by
        intro ref older
        refine Store.scope_bind_of_ne machine.store ?_ name value
        rintro rfl
        exact absurd older (Nat.not_lt.mpr young)
      exact
        { others := fun ref older _ => kept ref older
          rootName := fun other _ => congrArg (Namespace.get? · other) (kept root old)
          rootScope := fun _ => kept root old }
  · rw [same]
    exact .refl machine.store

/-- Whatever evolves inside a function is confined. -/
theorem Evolves.confined
    (evolves : machine.Evolves (.rootedAt root) after)
    (old : root.place < scopeBase)
    (enclosed : machine.Enclosed root scopeBase globalsBase) :
    Store.Confined root scopeBase globalsBase machine.store after.store := by
  induction evolves with
  | refl machine => exact .refl machine.store
  | trans first second earlier later =>
      exact (earlier enclosed).trans (later (enclosed.evolves first)) second.grows
  | bindName machine name respects => exact enclosed.confined_bindName old name _
  | declareGlobal machine name =>
      rcases declareGlobal_eq machine name with ⟨names, _, changed⟩ | same
      · rw [changed]
        exact .of_scope fun _ => rfl
      · rw [same]
        exact .refl machine.store
  | freshMark machine => exact .of_scope fun _ => rfl
  | newCell machine respects => exact .of_scope fun _ => rfl
  | writeElement machine cell place respects => exact .of_scope fun _ => rfl
  | record machine => exact .refl machine.store
  | @inScope machine inner inside confined =>
      have opened : Store.Confined root scopeBase globalsBase machine.store
          machine.pushScope.store := .of_scope (scope_pushScope machine)
      exact opened.trans
        (confined (enclosed_pushScope enclosed.outermost enclosed.scopes enclosed.globals))
        inside.grows
  | @inFunction machine entered inner captured respects installed inside confined =>
      have opened : Store.Confined root scopeBase globalsBase machine.store
          entered.pushScope.store := .of_scope (scope_install_pushScope installed)
      exact opened.trans
        (confined (enclosed_install respects installed enclosed.scopes enclosed.globals))
        inside.grows
  | inCall inside confined =>
      exact confined ⟨enclosed.outermost, enclosed.innermost, enclosed.declared,
        enclosed.scopes, enclosed.globals⟩
  | inConstraint inside confined =>
      exact confined ⟨enclosed.outermost, enclosed.innermost, enclosed.declared,
        enclosed.scopes, enclosed.globals⟩
  | inEvaluation inside confined =>
      exact confined ⟨enclosed.outermost, enclosed.innermost, enclosed.declared,
        enclosed.scopes, enclosed.globals⟩

/-- No `global` statement was executed on the way from one machine to another,
while all scopes were younger than the first: each such statement leaves its
names in a set made on the way, and no set loses a name. -/
def NoGlobalDeclared (before after : Machine) : Prop :=
  ∀ ref : GlobalsRef, before.store.globals.size ≤ ref.place ->
    after.store.globalNames ref = []

end Machine

namespace Evaluator

/-- A name declared global is in the innermost set, also when more names are
declared afterwards. -/
theorem mem_globalNames_declareGlobals
    {machine : Machine}
    {innermost : GlobalsRef}
    (found : machine.globals.back? = some innermost)
    (existing : innermost.place < machine.store.globals.size)
    {names : List String}
    {name : String}
    (listed : name ∈ names) :
    name ∈ (names.foldl Machine.declareGlobal machine).store.globalNames innermost := by
  induction names generalizing machine with
  | nil => simp at listed
  | cons first rest inductionHypothesis =>
      have step : machine.declareGlobal first =
          { machine with store := machine.store.declareGlobal innermost first } := by
        simp [Machine.declareGlobal, found]
      rw [List.foldl_cons, step]
      rcases List.mem_cons.mp listed with rfl | later
      · have kept := (@evolves_declareGlobals .trivial
          { machine with store := machine.store.declareGlobal innermost name } rest).grows
        exact kept.globalNames innermost name
          (Store.mem_globalNames_declareGlobal_self machine.store existing name)
      · refine inductionHypothesis ?_ ?_ later
        · exact found
        · simpa [Store.declareGlobal] using existing

/-- A `global` statement executed in a scope younger than `before` is noticed,
whatever happens afterwards. -/
theorem not_noGlobalDeclared_of_exec
    {property : StackProperty}
    {before machine after : Machine}
    {innermost : GlobalsRef}
    (found : machine.globals.back? = some innermost)
    (young : before.store.globals.size ≤ innermost.place)
    (existing : innermost.place < machine.store.globals.size)
    (self : Evaluator)
    (name : String)
    (rest : List String)
    (evolves : ((self.exec (.declareGlobals (name :: rest))).after machine).Evolves property
      after) :
    ¬ before.NoGlobalDeclared after := by
  intro undeclared
  have declared : name ∈ ((self.exec (.declareGlobals (name :: rest))).after
      machine).store.globalNames innermost :=
    mem_globalNames_declareGlobals found existing List.mem_cons_self
  have kept := evolves.grows.globalNames innermost name declared
  rw [undeclared innermost young] at kept
  exact List.not_mem_nil kept

/-- What is left by a call whose body ran is confined. -/
theorem CallOutcome.confined
    {root : ScopeRef}
    {captured : Option Closure}
    {caller after : Machine}
    (outcome : CallOutcome (.rootedAt root) captured caller after)
    (existing : root.place < caller.store.scopes.size) :
    Store.Confined root caller.store.scopes.size caller.store.globals.size caller.store
      after.store := by
  rcases outcome with rfl | rfl | ⟨closure, entered, inner, _, respects, installed, inside, rfl⟩
  · exact .refl after.store
  · exact .refl caller.store
  · have enclosed : entered.pushScope.Enclosed root caller.store.scopes.size
        caller.store.globals.size :=
      Machine.enclosed_install respects installed (Nat.le_refl _) (Nat.le_refl _)
    have unchanged := Machine.scope_install_pushScope installed
    have opened : Store.Confined root caller.store.scopes.size caller.store.globals.size
        caller.store entered.pushScope.store := .of_scope unchanged
    exact opened.trans (inside.confined existing enclosed) inside.grows

/-- A call, however it ends, changes no namespace that existed before it, apart
from the global one; and of the global one only names that were declared global
during the call. -/
theorem call_keeps_namespaces
    {machine : Machine}
    {hand : List Term}
    (reachable : machine.Reachable hand)
    {receiver : Term}
    {body : String}
    {captured : Option Closure}
    {argument : Term}
    (receiverHeld : receiver = .absent ∨ receiver ∈ hand)
    (functionHeld : .closure body captured ∈ hand)
    (argumentHeld : argument ∈ hand)
    (depth : Nat) :
    let final := ((within depth).call receiver body captured argument).after machine
    ∃ global, machine.scopes[0]? = some global ∧
      (∀ ref : ScopeRef, ref.place < machine.store.scopes.size -> ref ≠ global ->
        final.store.scope ref = machine.store.scope ref) ∧
      (machine.NoGlobalDeclared final ->
        final.store.scope global = machine.store.scope global) ∧
      ∀ name, (∀ ref : GlobalsRef, machine.store.globals.size ≤ ref.place ->
          name ∉ final.store.globalNames ref) ->
        (final.store.scope global).get? name = (machine.store.scope global).get? name := by
  obtain ⟨root, rooted, held⟩ := reachable.rooted
  have receiverRespects : receiver.Respects (.rootedAt root) := by
    rcases receiverHeld with rfl | inHand
    · trivial
    · exact held receiver inHand
  have outcome := call_outcome (within_lawful depth) receiverRespects
    (held _ functionHeld) (held argument argumentHeld) rooted.respects
  have left : CallOutcome (.rootedAt root) captured machine
      (((within depth).call receiver body captured argument).after machine) := by
    unfold Action.after
    revert outcome
    cases (within depth).call receiver body captured argument machine with
    | ok value after => exact fun outcome => outcome.1
    | error stop after => exact fun outcome => outcome.1
  have confined := left.confined rooted.existing
  exact ⟨root, rooted.respects.stack, confined.others, confined.rootScope, confined.rootName⟩

/-- The clause of a function that binds its argument to the global name `g` and
one to the local name `y`. -/
def writerClause : Clause where
  pattern := .identifier "x"
  body := [.declareGlobals ["g"], .evaluate (.identifier "x") (.identifier "g"),
    .evaluate (.integer 1) (.identifier "y")]

/-- The function, as it is when the global scope is the only one. -/
def writer : Term :=
  .closure "f" (some { mark := 1, scopes := #[⟨0⟩], globals := #[⟨0⟩], level := 0 })

/-- A caller of the function with a local name `y` of its own. -/
def writerCaller : Machine :=
  let defined := (Interpreter.defineFunction "f" [writerClause]).after
    (.prepared Store.initial {} {} false)
  let made := ((Operation.walk (.function 0 "f")).run (within 1)).after defined
  made.pushScope.bindName "y" (.integer 7)

theorem writerCaller_reachable :
    writerCaller.Reachable
      (writer :: .function 0 "f" :: .integer 7 :: .integer 5 :: writerClause.terms) := by
  have plain : ∀ term ∈ Term.function 0 "f" :: .integer 7 :: .integer 5 :: writerClause.terms,
      term.Plain := by
    intro term member property
    simp only [writerClause, Clause.terms, Statement.terms, List.flatMap_cons, List.flatMap_nil,
      List.nil_append, List.cons_append, List.append_nil, List.mem_cons, List.not_mem_nil,
      or_false] at member
    rcases member with rfl | rfl | rfl | rfl | rfl | rfl | rfl | rfl <;> trivial
  have read := (Machine.Reachable.boot {} {} false).literals plain
  have held : ∀ clause ∈ [writerClause], ∀ term ∈ clause.terms,
      term ∈ Term.function 0 "f" :: .integer 7 :: .integer 5 :: writerClause.terms ++ [] := by
    simp +contextual
  have defined := read.define "f" held
  have functionHeld : ∀ term ∈ (Operation.walk (.function 0 "f")).terms,
      term ∈ Term.function 0 "f" :: .integer 7 :: .integer 5 :: writerClause.terms ++ [] := by
    simp [Operation.terms]
  have made := defined.perform 1 functionHeld
  exact made.openScope.bind "y" (by simp)

/-- Calling the function leaves the caller's own `y` alone. -/
theorem call_keeps_namespaces_of_caller :
    let final := ((within 9).call .absent "f"
      (some { mark := 1, scopes := #[⟨0⟩], globals := #[⟨0⟩], level := 0 })
      (.integer 5)).after writerCaller
    (final.store.scope ⟨0⟩).get? "g" = some (.integer 5) ∧
    ∃ global, writerCaller.scopes[0]? = some global ∧
      (∀ ref : ScopeRef, ref.place < writerCaller.store.scopes.size -> ref ≠ global ->
        final.store.scope ref = writerCaller.store.scope ref) ∧
      (writerCaller.NoGlobalDeclared final ->
        final.store.scope global = writerCaller.store.scope global) ∧
      ∀ name, (∀ ref : GlobalsRef, writerCaller.store.globals.size ≤ ref.place ->
          name ∉ final.store.globalNames ref) ->
        (final.store.scope global).get? name = (writerCaller.store.scope global).get? name :=
  ⟨rfl, call_keeps_namespaces writerCaller_reachable (.inl rfl) List.mem_cons_self (by simp) 9⟩

end Evaluator
end PatternMachine
