import PatternMachine.Proofs.Lawful

/-!
# Two runs in step

Two machines agree outside their scopes when they differ in nothing but the
active scopes and in what old sets of global names hold. Inside a function the
active scopes are the same again and the innermost set is a new one, so that
the old sets are out of reach. Actions on two such machines keep step: they end
in the same way and leave two machines of the same sort.

Keeping step is closed under every way of putting actions together, so that it
is shown for a construct by following its definition.
-/

namespace PatternMachine

/-! ## What the sets of global names have no part in -/

namespace Store

/-- The same store with other sets of global names. -/
def withSets (store : Store) (sets : Array (List String)) : Store :=
  { store with globals := sets }

variable (store : Store) (sets : Array (List String))

@[simp] theorem elements_withSets (cell : CellRef) :
    (store.withSets sets).elements cell = store.elements cell := rfl

@[simp] theorem truthy_withSets : (store.withSets sets).truthy = store.truthy := by
  funext term
  cases term <;> rfl

@[simp] theorem tupleElements?_withSets :
    (store.withSets sets).tupleElements? = store.tupleElements? := by
  funext term
  cases term <;> rfl

@[simp] theorem sequenceElements?_withSets :
    (store.withSets sets).sequenceElements? = store.sequenceElements? := by
  funext term
  cases term <;> rfl

@[simp] theorem dataSlots_withSets :
    (store.withSets sets).dataSlots = store.dataSlots := rfl

theorem writeMember?_withSets
    (template : Option Template)
    (memory : CellRef)
    (name : String)
    (value : Term) :
    (store.withSets sets).writeMember? template memory name value =
      (store.writeMember? template memory name value).map (withSets · sets) := by
  unfold writeMember?
  cases template with
  | none => rfl
  | some template =>
      dsimp only [Option.bind_eq_bind, Option.bind_some]
      cases template.memberIndex? name with
      | none => rfl
      | some place =>
          dsimp only [Option.bind_some]
          by_cases inside : place < (store.elements memory).size
          · rw [if_pos inside]
            exact if_pos inside
          · rw [if_neg inside]
            exact if_neg inside

/-- A member that is written leaves the sets as they are. -/
theorem globals_of_writeMember?
    {template : Option Template}
    {memory : CellRef}
    {name : String}
    {value : Term}
    {written : Store}
    (writes : store.writeMember? template memory name value = some written) :
    written.globals = store.globals := by
  simp only [writeMember?, Option.bind_eq_bind, Option.bind_eq_some_iff] at writes
  obtain ⟨_, _, place, _, writes⟩ := writes
  split at writes
  · obtain rfl := Option.some.inj writes
    rfl
  · simp at writes

@[simp] theorem find_withSets : (store.withSets sets).find = store.find := by
  funext site
  cases site <;> rfl

@[simp] theorem sites_withSets : (store.withSets sets).sites = store.sites := by
  funext term
  cases term <;> rfl

@[simp] theorem shape_withSets (term : Term) :
    term.shape (store.withSets sets) = term.shape store := by
  cases term with
  | object template memory => cases template <;> rfl
  | _ => rfl

/-- Comparisons look at cells only. -/
theorem equalBy_withSets
    (cells : CellRef × CellRef -> Option Bool)
    (left right : Term) :
    left.equalBy (store.withSets sets) cells right = left.equalBy store cells right := by
  induction left, right using Term.equalBy.induct with
  | case3 first second otherFirst otherSecond onFirst onSecond =>
      rw [Term.equalBy, Term.equalBy, onFirst, onSecond]
  | case4 left right inductionHypothesis => exact inductionHypothesis
  | case8 left right noLists noTuples noPairs noQuotes noObjects =>
      rw [Term.equalBy, Term.equalBy, shape_withSets, shape_withSets] <;> assumption
  | _ => rfl

@[simp] theorem equal?_withSets : (store.withSets sets).equal? = store.equal? := by
  have cells : (store.withSets sets).equalCells = store.equalCells := by
    funext answers pair
    simp only [equalCells, equalBy_withSets]
    rfl
  funext left right
  rw [equal?, equal?, equalBy_withSets, cells]
  rfl

/-- Drawings show cells only. -/
theorem draw_withSets : Term.draw (store.withSets sets) = Term.draw store := by
  funext rows term
  induction term with
  | _ => simp_all only [Term.draw, shape_withSets]

@[simp] theorem display?_withSets : (store.withSets sets).display? = store.display? := by
  have rows : (store.withSets sets).drawRow = store.drawRow := by
    funext answers row
    rw [drawRow, drawRow, draw_withSets]
    rfl
  funext term
  rw [display?, display?, draw_withSets, rows]
  rfl

@[simp] theorem display_withSets : (store.withSets sets).display = store.display := by
  funext term
  unfold display
  rw [display?_withSets]

@[simp] theorem parts?_withSets : (store.withSets sets).parts? = store.parts? := by
  funext payload
  unfold parts?
  simp only [display_withSets, elements_withSets]

@[simp] theorem errorText_withSets :
    (store.withSets sets).errorText = store.errorText := by
  funext payload
  unfold errorText
  simp only [parts?_withSets, display_withSets]

@[simp] theorem isMatchFailure_withSets :
    (store.withSets sets).isMatchFailure = store.isMatchFailure := by
  funext payload
  unfold isMatchFailure errorKind?
  simp only [parts?_withSets]

end Store

namespace Machine

/-- The same machine with other sets of global names. -/
def withSets (machine : Machine) (sets : Array (List String)) : Machine :=
  { machine with store := machine.store.withSets sets }

variable (machine : Machine) (sets : Array (List String))

@[simp] theorem lookup?_withSets (name : String) :
    (machine.withSets sets).lookup? name = machine.lookup? name :=
  lookup?_congr machine (machine.withSets sets) rfl rfl name

@[simp] theorem suggest_withSets (name : String) :
    (machine.withSets sets).suggest name = machine.suggest name := rfl

/-! ## Machines that agree -/

/-- Two machines that agree on everything but the active scopes and what is
declared in sets of global names older than `base`. -/
structure Agree (base : Nat) (machine other : Machine) : Prop where
  eq : other = { machine.withSets other.store.globals with
    scopes := other.scopes, globals := other.globals }
  known : base ≤ machine.store.globals.size
  count : other.store.globals.size = machine.store.globals.size
  declared : ∀ ref : GlobalsRef, base ≤ ref.place ->
    other.store.globalNames ref = machine.store.globalNames ref

/-- Two machines with the same active scopes that agree, and in which the
innermost set of global names is not older than `base`. -/
structure Alongside (base : Nat) (machine other : Machine) : Prop where
  eq : other = machine.withSets other.store.globals
  known : base ≤ machine.store.globals.size
  count : other.store.globals.size = machine.store.globals.size
  declared : ∀ ref : GlobalsRef, base ≤ ref.place ->
    other.store.globalNames ref = machine.store.globalNames ref
  innermost : ∀ ref : GlobalsRef, machine.globals.back? = some ref -> base ≤ ref.place

variable {machine other : Machine} {base : Nat}

/-- A change that has nothing to do with the sets of global names, the innermost
of them included, keeps two machines alongside each other. -/
theorem Alongside.change
    (alongside : Alongside base machine other)
    (change : Machine -> Machine)
    (blind : ∀ machine sets, change (machine.withSets sets) = (change machine).withSets sets)
    (stores : ∀ machine, (change machine).store.globals = machine.store.globals)
    (frames : ∀ machine, (change machine).globals = machine.globals) :
    Alongside base (change machine) (change other) where
  eq := by
    rw [stores, ← blind, ← alongside.eq]
  known := by
    rw [stores]
    exact alongside.known
  count := by
    rw [stores, stores]
    exact alongside.count
  declared := by
    intro ref young
    simp only [Store.globalNames, stores]
    exact alongside.declared ref young
  innermost := by
    rw [frames]
    exact alongside.innermost

theorem Alongside.globals (alongside : Alongside base machine other) :
    other.globals = machine.globals := by
  rw [alongside.eq]
  rfl

theorem Alongside.scopes (alongside : Alongside base machine other) :
    other.scopes = machine.scopes := by
  rw [alongside.eq]
  rfl

/-- The innermost set of global names is a young one, so both machines treat the
same names as global. -/
theorem Alongside.isGlobal
    (alongside : Alongside base machine other)
    (name : String) :
    other.isGlobal name = machine.isGlobal name := by
  unfold Machine.isGlobal
  rw [alongside.globals]
  cases innermost : machine.globals.back? with
  | none => rfl
  | some ref =>
      dsimp only
      rw [alongside.declared ref (alongside.innermost ref innermost)]

theorem Alongside.bindName
    (alongside : Alongside base machine other)
    (name : String)
    (value : Term) :
    Alongside base (machine.bindName name value) (other.bindName name value) := by
  have chosen : other.bindingScope? name = machine.bindingScope? name := by
    unfold bindingScope?
    rw [alongside.isGlobal, alongside.scopes]
  unfold Machine.bindName
  rw [chosen]
  cases machine.bindingScope? name with
  | none => exact alongside
  | some scope =>
      exact alongside.change
        (fun machine => { machine with store := machine.store.bind scope name value })
        (fun _ _ => rfl) (fun _ => rfl) fun _ => rfl

theorem Alongside.declareGlobal
    (alongside : Alongside base machine other)
    (name : String) :
    Alongside base (machine.declareGlobal name) (other.declareGlobal name) := by
  unfold Machine.declareGlobal
  rw [alongside.globals]
  cases innermost : machine.globals.back? with
  | none => exact alongside
  | some names =>
      obtain ⟨sets, rfl⟩ : ∃ sets, other = machine.withSets sets := ⟨_, alongside.eq⟩
      exact
        { eq := rfl
          known := by simpa [Store.declareGlobal] using alongside.known
          count := by simpa [Store.declareGlobal] using alongside.count
          declared := by
            intro ref young
            have same := alongside.declared ref young
            simp only [Store.globalNames] at same
            simp only [Store.globalNames, Store.declareGlobal, Array.getElem?_modify]
            split
            · by_cases existing : ref.place < machine.store.globals.size
              · have otherExisting := existing
                rw [← alongside.count] at otherExisting
                simp_all
              · have otherMissing := existing
                rw [← alongside.count] at otherMissing
                simp [existing, otherMissing]
            · exact same
          innermost := alongside.innermost }

/-- Closing a scope keeps two machines alongside each other if the set of global
names that comes to light is a young one. -/
theorem Alongside.popScope
    (alongside : Alongside base machine other)
    (innermost : ∀ ref : GlobalsRef, machine.globals.pop.back? = some ref ->
      base ≤ ref.place) :
    Alongside base machine.popScope other.popScope := by
  obtain ⟨sets, rfl⟩ : ∃ sets, other = machine.withSets sets := ⟨_, alongside.eq⟩
  exact
    { eq := rfl
      known := alongside.known
      count := alongside.count
      declared := alongside.declared
      innermost }

/-- Machines alongside each other agree. -/
theorem Alongside.agree (alongside : Alongside base machine other) :
    Agree base machine other := by
  obtain ⟨sets, rfl⟩ : ∃ sets, other = machine.withSets sets := ⟨_, alongside.eq⟩
  exact
    { eq := rfl
      known := alongside.known
      count := alongside.count
      declared := alongside.declared }

/-- Machines that agree and have the same active scopes are alongside each other
once a scope is opened: its set of global names is a new one. -/
theorem Agree.pushScope
    (agree : Agree base machine other)
    (scopes : other.scopes = machine.scopes)
    (globals : other.globals = machine.globals) :
    Alongside base machine.pushScope other.pushScope where
  eq := by
    have count := agree.count
    -- The new set stands at the same place in both stores.
    obtain ⟨sets, rfl⟩ : ∃ sets, other = machine.withSets sets := by
      have eq := agree.eq
      rw [scopes, globals] at eq
      exact ⟨_, eq⟩
    simp only [Machine.withSets, Store.withSets] at count
    simp only [Machine.pushScope, Machine.withSets, Store.withSets, Store.newScope,
      Store.newGlobals, count]
  known := Nat.le_trans agree.known (Store.Grows.pushScope machine).globals
  count := by simp [Machine.pushScope, Store.newGlobals, Store.newScope, agree.count]
  declared := by
    intro ref young
    rw [globalNames_pushScope, globalNames_pushScope]
    exact agree.declared ref young
  innermost := by
    intro ref innermost
    obtain rfl : ⟨machine.store.globals.size⟩ = ref := by simpa using innermost
    exact agree.known

theorem Alongside.pushScope (alongside : Alongside base machine other) :
    Alongside base machine.pushScope other.pushScope :=
  alongside.agree.pushScope alongside.scopes alongside.globals

/-- Machines that agree and have the same active scopes are alongside each other if
the innermost set of global names is a young one. -/
theorem Agree.alongside
    (agree : Agree base machine other)
    (scopes : other.scopes = machine.scopes)
    (globals : other.globals = machine.globals)
    (innermost : ∀ ref : GlobalsRef, machine.globals.back? = some ref -> base ≤ ref.place) :
    Alongside base machine other where
  eq := by
    have eq := agree.eq
    rw [scopes, globals] at eq
    exact eq
  known := agree.known
  count := agree.count
  declared := agree.declared
  innermost := innermost

/-- A change that has nothing to do with scopes keeps machines in agreement. -/
theorem Agree.change
    (agree : Agree base machine other)
    (change : Machine -> Machine)
    (blind : ∀ (machine : Machine) sets scopes globals,
      change { machine.withSets sets with scopes, globals } =
        { (change machine).withSets sets with scopes, globals })
    (stores : ∀ machine, (change machine).store.globals = machine.store.globals)
    (frames : ∀ machine, (change machine).scopes = machine.scopes ∧
      (change machine).globals = machine.globals) :
    Agree base (change machine) (change other) where
  eq := by
    rw [stores, (frames other).1, (frames other).2, ← blind, ← agree.eq]
  known := by
    rw [stores]
    exact agree.known
  count := by
    rw [stores, stores]
    exact agree.count
  declared := by
    intro ref young
    simp only [Store.globalNames, stores]
    exact agree.declared ref young

/-- Machines that agree still do when each goes back to scopes of its own. -/
theorem Agree.withScopes
    (agree : Agree base machine other)
    (scopes otherScopes : Array ScopeRef)
    (globals otherGlobals : Array GlobalsRef) :
    Agree base { machine with scopes, globals }
      { other with scopes := otherScopes, globals := otherGlobals } where
  eq := by
    rw [agree.eq]
    rfl
  known := agree.known
  count := agree.count
  declared := agree.declared

end Machine

namespace Action

/-- Whether a function can be entered, and with which scopes, is the same for all
machines that agree. -/
theorem install_agrees
    {base : Nat}
    {machine other : Machine}
    (agree : machine.Agree base other)
    (captured : Closure) :
    (∃ stop, install captured machine = .error stop machine ∧
      install captured other = .error stop other) ∨
    ∃ entered otherEntered, install captured machine = .ok () entered ∧
      install captured other = .ok () otherEntered ∧
      entered.pushScope.Alongside base otherEntered.pushScope := by
  rcases install_apply captured machine.store.globals.size with
    ⟨_, explanation, refused⟩ | ⟨size, extra, globals, _, entering⟩
  · exact .inl ⟨_, refused machine, refused other⟩
  · refine .inr ⟨_, _, entering machine rfl, entering other agree.count, ?_⟩
    have known : base ≤ machine.store.globals.size + extra :=
      Nat.le_trans agree.known (Nat.le_add_right _ _)
    have count := agree.count
    have declared := agree.declared
    obtain ⟨sets, otherScopes, otherGlobals, rfl⟩ : ∃ sets otherScopes otherGlobals,
        other = { machine.withSets sets with
          scopes := otherScopes, globals := otherGlobals } := ⟨_, _, _, agree.eq⟩
    refine Machine.Agree.pushScope ⟨rfl, ?_, ?_, ?_⟩ rfl rfl
    · simpa using known
    · simpa using count
    · intro ref young
      rw [globalNames_append_replicate, globalNames_append_replicate]
      exact declared ref young

/-! ## Actions that keep step -/

variable {α β : Type} {base : Nat}

/-- Two runs end alike: both with the same result, or both with the same reason
to stop, on two machines that are related. -/
def EndAlike (related : Machine -> Machine -> Prop) :
    EStateM.Result Stop Machine α -> EStateM.Result Stop Machine α -> Prop
  | .ok value after, .ok otherValue otherAfter => otherValue = value ∧ related after otherAfter
  | .error stop after, .error otherStop otherAfter =>
      otherStop = stop ∧ related after otherAfter
  | _, _ => False

theorem EndAlike.mono
    {related weaker : Machine -> Machine -> Prop}
    {run otherRun : EStateM.Result Stop Machine α}
    (alike : EndAlike related run otherRun)
    (implies : ∀ after otherAfter, related after otherAfter -> weaker after otherAfter) :
    EndAlike weaker run otherRun := by
  cases run with
  | ok value after =>
      cases otherRun with
      | ok otherValue otherAfter => exact ⟨alike.1, implies after otherAfter alike.2⟩
      | error otherStop otherAfter => exact alike
  | error stop after =>
      cases otherRun with
      | ok otherValue otherAfter => exact alike
      | error otherStop otherAfter => exact ⟨alike.1, implies after otherAfter alike.2⟩

/-- The machines that are related are those the two actions leave behind. -/
theorem EndAlike.leaving
    {related : Machine -> Machine -> Prop}
    {action otherAction : Action α}
    {machine other : Machine}
    (alike : EndAlike related (action machine) (otherAction other)) :
    EndAlike
      (fun after otherAfter => related after otherAfter ∧
        after = action.after machine ∧ otherAfter = otherAction.after other)
      (action machine) (otherAction other) := by
  unfold Action.after
  cases run : action machine with
  | ok value after =>
      cases otherRun : otherAction other with
      | ok otherValue otherAfter =>
          rw [run, otherRun] at alike
          exact ⟨alike.1, alike.2, rfl, rfl⟩
      | error otherStop otherAfter =>
          rw [run, otherRun] at alike
          exact alike
  | error stop after =>
      cases otherRun : otherAction other with
      | ok otherValue otherAfter =>
          rw [run, otherRun] at alike
          exact alike
      | error otherStop otherAfter =>
          rw [run, otherRun] at alike
          exact ⟨alike.1, alike.2, rfl, rfl⟩

/-- On any two machines that are alongside each other the action ends alike, and
the machines it leaves are alongside each other too. -/
def InStep (base : Nat) (action : Action α) : Prop :=
  ∀ machine other, machine.Alongside base other ->
    EndAlike (Machine.Alongside base) (action machine) (action other)

namespace InStep

theorem pure {value : α} : InStep base (Pure.pure value) :=
  fun _ _ alongside => ⟨rfl, alongside⟩

theorem throw {stop : Stop} : InStep base (MonadExcept.throw stop : Action α) :=
  fun _ _ alongside => ⟨rfl, alongside⟩

/-- An error is raised in the same place. -/
theorem raisePayload {payload : Payload} : InStep base (Action.raisePayload payload : Action α) :=
  fun machine other alongside => by
    have same : other.position = machine.position := by rw [alongside.eq]; rfl
    exact ⟨by rw [same], alongside⟩

theorem raise
    {kind : ErrorKind}
    {message : String} :
    InStep base (Action.raise kind message : Action α) :=
  raisePayload

theorem bind
    {action : Action α}
    {next : α -> Action β}
    (first : InStep base action)
    (second : ∀ value, InStep base (next value)) :
    InStep base (action >>= next) := by
  intro machine other alongside
  have ends := first machine other alongside
  rw [bind_apply, bind_apply]
  revert ends
  cases action machine with
  | ok value after =>
      cases action other with
      | ok otherValue otherAfter =>
          rintro ⟨rfl, along⟩
          exact second otherValue after otherAfter along
      | error stop otherAfter => exact False.elim
  | error stop after =>
      cases action other with
      | ok otherValue otherAfter => exact False.elim
      | error otherStop otherAfter => exact id

/-- Of two actions one is chosen. -/
theorem ite
    {condition : Prop}
    [Decidable condition]
    {first second : Action α}
    (whenTrue : InStep base first)
    (whenFalse : InStep base second) :
    InStep base (if condition then first else second) := by
  by_cases decided : condition
  · rwa [if_pos decided]
  · rwa [if_neg decided]

/-- An action that looks at the machine, but not at the sets of global names. -/
theorem get_bind
    {next : Machine -> Action β}
    (blind : ∀ machine sets, next (machine.withSets sets) = next machine)
    (inStep : ∀ machine, InStep base (next machine)) :
    InStep base (get >>= next) := by
  intro machine other alongside
  have same : next other = next machine := by rw [alongside.eq, blind]
  rw [bind_apply, bind_apply, get_apply, get_apply]
  dsimp only
  rw [same]
  exact inStep machine machine other alongside

/-- An action that looks at the store, but not at the sets of global names. -/
theorem store_bind
    {next : Store -> Action β}
    (blind : ∀ store sets, next (store.withSets sets) = next store)
    (inStep : ∀ store, InStep base (next store)) :
    InStep base (Action.store >>= next) := by
  have read : InStep base (get >>= fun machine : Machine => next machine.store) :=
    get_bind (fun machine sets => blind machine.store sets) fun machine => inStep machine.store
  exact read

/-- A change that has nothing to do with the sets of global names. -/
theorem change
    {change : Machine -> Machine}
    (blind : ∀ machine sets, change (machine.withSets sets) = (change machine).withSets sets)
    (stores : ∀ machine, (change machine).store.globals = machine.store.globals)
    (frames : ∀ machine, (change machine).globals = machine.globals) :
    InStep base (modify change) :=
  fun _ _ alongside => ⟨rfl, alongside.change change blind stores frames⟩

/-- A look at the store, but not at the sets of global names. -/
theorem finitely
    {look : Store -> Option α}
    (blind : ∀ store sets, look (store.withSets sets) = look store) :
    InStep base (Action.finitely look) := by
  refine store_bind (fun _ _ => by rw [blind]) fun store => ?_
  cases look store with
  | none => exact throw
  | some answer => exact pure

theorem display {term : Term} : InStep base (Action.display term) :=
  finitely fun _ _ => by rw [Store.display?_withSets]

theorem equal {left right : Term} : InStep base (Action.equal left right) :=
  finitely fun _ _ => by rw [Store.equal?_withSets]

theorem caption {term : Term} : InStep base (Action.caption term) :=
  store_bind (fun _ _ => by rw [Store.display_withSets]) fun _ => pure

/-- Looking up the term at a site reads cells only. -/
theorem find {site : Site} : InStep base (Action.find site) :=
  store_bind (fun _ _ => by simp) fun _ => pure

/-- Raising an error whose wording shows terms. -/
theorem display_raise
    {term : Term}
    {kind : ErrorKind}
    {message : String -> String} :
    InStep base
      (Action.display term >>= fun shown => Action.raise kind (message shown) : Action α) :=
  display.bind fun _ => raise

theorem count {kind : Kind} : InStep base (Action.count kind) :=
  change (fun _ _ => rfl) (fun _ => rfl) fun _ => rfl

theorem write {text : String} : InStep base (Action.write text) :=
  change (fun _ _ => rfl) (fun _ => rfl) fun _ => rfl

theorem record {event : TraceEvent} : InStep base (Action.record event) := by
  refine change (fun machine sets => ?_) (fun machine => ?_) fun machine => ?_
  · change (if machine.tracer.records event then _ else _) = _
    split <;> rfl
  · split <;> rfl
  · split <;> rfl

theorem follows {body : String} : InStep base (Action.follows body) :=
  get_bind (fun _ _ => rfl) fun _ => pure

theorem freshMark : InStep base Action.freshMark := by
  intro machine other alongside
  refine ⟨?_, alongside.change (fun machine => { machine with store := machine.store.freshMark.2 })
    (fun _ _ => rfl) (fun _ => rfl) fun _ => rfl⟩
  rw [alongside.eq]
  rfl

theorem newCell {elements : List Term} : InStep base (Action.newCell elements) := by
  intro machine other alongside
  refine ⟨?_, alongside.change
    (fun machine => { machine with store := (machine.store.newCell elements.toArray).2 })
    (fun _ _ => rfl) (fun _ => rfl) fun _ => rfl⟩
  rw [alongside.eq]
  rfl

theorem bindName {name : String} {value : Term} : InStep base (Action.bindName name value) :=
  fun _ _ alongside => ⟨rfl, alongside.bindName name value⟩

theorem lookup? {name : String} : InStep base (Action.lookup? name) :=
  get_bind (fun _ _ => by rw [Machine.lookup?_withSets]) fun _ => pure

theorem capture : InStep base Action.capture :=
  freshMark.bind fun _ => get_bind (fun _ _ => rfl) fun _ => pure

/-- The position an error leaves an action at is the same in both runs. -/
theorem located
    {action : Action α}
    (inStep : InStep base action) :
    InStep base (Action.located action) := by
  intro machine other alongside
  have ends := inStep machine other alongside
  unfold Action.located
  revert ends
  cases action machine with
  | ok value after =>
      cases action other with
      | ok otherValue otherAfter => exact id
      | error otherStop otherAfter => exact False.elim
  | error stop after =>
      cases action other with
      | ok otherValue otherAfter => exact False.elim
      | error otherStop otherAfter =>
          rintro ⟨rfl, along⟩
          cases otherStop with
          | raised exception =>
              refine ⟨?_, along⟩
              rw [along.eq]
              rfl
          | fatal message => exact ⟨rfl, along⟩
          | exhausted => exact ⟨rfl, along⟩

/-- A failed match is an answer in both runs. -/
theorem orNoMatch
    {action : Action α}
    (inStep : InStep base action) :
    InStep base (Action.orNoMatch action) := by
  intro machine other alongside
  have ends := inStep machine other alongside
  unfold Action.orNoMatch
  revert ends
  cases action machine with
  | ok value after =>
      cases action other with
      | ok otherValue otherAfter =>
          rintro ⟨rfl, along⟩
          exact ⟨rfl, along⟩
      | error otherStop otherAfter => exact False.elim
  | error stop after =>
      cases action other with
      | ok otherValue otherAfter => exact False.elim
      | error otherStop otherAfter =>
          rintro ⟨rfl, along⟩
          cases otherStop with
          | raised exception =>
              have judged : otherAfter.store.isMatchFailure exception.payload =
                  after.store.isMatchFailure exception.payload := by
                rw [along.eq]
                exact congrFun (Store.isMatchFailure_withSets _ _) _
              dsimp only
              rw [judged]
              by_cases failed : after.store.isMatchFailure exception.payload
              · rw [if_pos failed, if_pos failed]
                exact ⟨rfl, along⟩
              · rw [if_neg failed, if_neg failed]
                exact ⟨rfl, along⟩
          | fatal message => exact ⟨rfl, along⟩
          | exhausted => exact ⟨rfl, along⟩

/-- An action that runs on changed machines, with the change undone afterwards. -/
theorem ensuring
    {related : Machine -> Machine -> Prop}
    {action : Action α}
    {cleanup otherCleanup : Machine -> Machine}
    {changed otherChanged : Machine}
    (inStep : InStep base action)
    (alongside : changed.Alongside base otherChanged)
    (undone : action.after changed |>.Alongside base (action.after otherChanged) ->
      related (cleanup (action.after changed)) (otherCleanup (action.after otherChanged))) :
    EndAlike related (Action.ensuring action cleanup changed)
      (Action.ensuring action otherCleanup otherChanged) := by
  have ends := inStep changed otherChanged alongside
  unfold Action.after at undone
  unfold Action.ensuring
  revert ends undone
  cases action changed with
  | ok value after =>
      cases action otherChanged with
      | ok otherValue otherAfter =>
          intro undone ends
          exact ⟨ends.1, undone ends.2⟩
      | error otherStop otherAfter => exact fun _ => False.elim
  | error stop after =>
      cases action otherChanged with
      | ok otherValue otherAfter => exact fun _ => False.elim
      | error otherStop otherAfter =>
          intro undone ends
          exact ⟨ends.1, undone ends.2⟩

/-! ## Making values -/

theorem newInteger {value : Int64} : InStep base (Action.newInteger value) := by
  unfold Action.newInteger
  exact ite pure (count.bind fun _ => pure)

theorem newReal {value : Float} : InStep base (Action.newReal value) :=
  count.bind fun _ => pure

theorem newText {value : String} : InStep base (Action.newText value) :=
  count.bind fun _ => pure

theorem newList {elements : List Term} : InStep base (Action.newList elements) :=
  count.bind fun _ => newCell.bind fun _ => pure

theorem newTuple {elements : List Term} : InStep base (Action.newTuple elements) :=
  count.bind fun _ => newCell.bind fun _ => pure

theorem newPair {first second : Term} : InStep base (Action.newPair first second) :=
  count.bind fun _ => pure

theorem newSequence {first second : Term} : InStep base (Action.newSequence first second) :=
  count.bind fun _ => freshMark.bind fun _ => pure

theorem newIdentifier {name : String} : InStep base (Action.newIdentifier name) :=
  count.bind fun _ => pure

theorem newClosure {body : String} {captured : Closure} :
    InStep base (Action.newClosure body captured) :=
  count.bind fun _ => pure

theorem newMethod {receiver body : Term} : InStep base (Action.newMethod receiver body) :=
  count.bind fun _ => freshMark.bind fun _ => pure

theorem newStruct
    {name : String}
    {members : List String}
    {initial : List Term} :
    InStep base (Action.newStruct name members initial) :=
  count.bind fun _ => count.bind fun _ => freshMark.bind fun _ => newCell.bind fun _ => pure

theorem newObject {template : Template} : InStep base (Action.newObject template) :=
  count.bind fun _ => count.bind fun _ => store_bind (fun _ _ => rfl) fun _ => newCell

end InStep
end Action
end PatternMachine
