import PatternMachine.Proofs.Containment
import PatternMachine.Proofs.Framing

/-!
# Sparing actions

An action spares what is there when every namespace and every cell that existed
before is as it was, however the action ends; it may make new ones. The terms
of a program stay what they are under such actions. Evaluation is sparing for
terms that match nothing, call nothing and evaluate nothing a second time.
-/

namespace PatternMachine

/-- The cells and the namespaces that were there are still there, with what they
held. -/
structure Store.Spares (before after : Store) : Prop where
  cells : before.Keeps after
  size : before.scopes.size ≤ after.scopes.size
  namespaces : ∀ ref : ScopeRef, ref.place < before.scopes.size ->
    after.scope ref = before.scope ref

namespace Store.Spares

theorem refl (store : Store) : store.Spares store :=
  ⟨.refl store, Nat.le_refl _, fun _ _ => rfl⟩

theorem trans
    {first second third : Store}
    (earlier : first.Spares second)
    (later : second.Spares third) :
    first.Spares third where
  cells := earlier.cells.trans later.cells
  size := Nat.le_trans earlier.size later.size
  namespaces ref known := by
    rw [later.namespaces ref (Nat.lt_of_lt_of_le known earlier.size), earlier.namespaces ref known]

/-- New cells change no namespace. -/
theorem of_keeps
    {before after : Store}
    (keeps : before.Keeps after)
    (scopes : after.scopes = before.scopes) :
    before.Spares after where
  cells := keeps
  size := Nat.le_of_eq (by rw [scopes])
  namespaces ref _ := by simp only [Store.scope, scopes]

end Store.Spares

/-- What is there is spared. -/
def Frame.sparing : Frame where
  allows machine after := machine.store.Spares after.store
  trans := .trans
  adds added := .of_keeps added.keeps added.scopes

namespace Action

variable {α β : Type} {base : Store}

/-- On every machine with all cells of `base`, the action spares what is there, and
what it yields satisfies `answer`. -/
def Sparing (base : Store) (action : Action α) (answer : α -> Prop) : Prop :=
  ∀ machine, base.Keeps machine.store ->
    match action machine with
    | .ok value after => machine.store.Spares after.store ∧ answer value
    | .error _ after => machine.store.Spares after.store

/-- An action that spares what is there, whatever it yields. -/
abbrev IsSparing (base : Store) (action : Action α) : Prop :=
  Sparing base action fun _ => True

namespace Sparing

/-- A sparing action spares what is there, whether it yields a result or stops. -/
theorem after
    {action : Action α}
    {answer : α -> Prop}
    {machine : Machine}
    (sparing : Sparing base action answer)
    (known : base.Keeps machine.store) :
    machine.store.Spares (action.after machine).store := by
  have outcome := sparing machine known
  cases run : action machine with
  | ok value final =>
      rw [run] at outcome
      rw [after_ok run]
      exact outcome.1
  | error stop final =>
      rw [run] at outcome
      rw [after_error run]
      exact outcome

theorem of_heeds
    {action : Action α}
    {answer : Machine -> α -> Prop}
    (heeds : ∀ machine, Heeds .sparing machine action answer) :
    IsSparing base action :=
  fun machine _ => (heeds machine).mono fun _ _ _ _ => trivial

theorem of_gathers
    {action : Action Term}
    (heeds : ∀ machine, Heeds .sparing machine action fun after =>
      after.store.Gathers fun _ => True) :
    IsSparing base action :=
  of_heeds heeds

theorem pure
    {value : α}
    {answer : α -> Prop}
    (holds : answer value) :
    Sparing base (Pure.pure value) answer :=
  fun machine _ => ⟨.refl machine.store, holds⟩

theorem done {value : α} : IsSparing base (Pure.pure value) :=
  pure trivial

theorem bind
    {action : Action α}
    {next : α -> Action β}
    {middle : α -> Prop}
    {answer : β -> Prop}
    (first : Sparing base action middle)
    (second : ∀ value, middle value -> Sparing base (next value) answer) :
    Sparing base (action >>= next) answer := by
  intro machine known
  have firstOutcome := first machine known
  rw [bind_apply]
  revert firstOutcome
  cases action machine with
  | error stop after => exact id
  | ok value after =>
      rintro ⟨spares, holds⟩
      have secondOutcome := second value holds after (known.trans spares.cells)
      revert secondOutcome
      dsimp only
      cases next value after with
      | ok result final => exact fun outcome => ⟨spares.trans outcome.1, outcome.2⟩
      | error stop final => exact fun outcome => spares.trans outcome

theorem mono
    {action : Action α}
    {middle answer : α -> Prop}
    (sparing : Sparing base action middle)
    (implies : ∀ value, middle value -> answer value) :
    Sparing base action answer := by
  intro machine known
  have outcome := sparing machine known
  revert outcome
  cases action machine with
  | ok value after => exact fun outcome => ⟨outcome.1, implies value outcome.2⟩
  | error stop after => exact id

theorem throw
    {stop : Stop}
    {answer : α -> Prop} :
    Sparing base (MonadExcept.throw stop : Action α) answer :=
  fun machine _ => .refl machine.store

theorem raise
    {kind : ErrorKind}
    {message : String}
    {answer : α -> Prop} :
    Sparing base (Action.raise kind message) answer :=
  fun machine _ => .refl machine.store

theorem ite
    {condition : Prop}
    [Decidable condition]
    {first second : Action α}
    {answer : α -> Prop}
    (whenTrue : condition -> Sparing base first answer)
    (whenFalse : ¬ condition -> Sparing base second answer) :
    Sparing base (if condition then first else second) answer := by
  by_cases decided : condition
  · rw [if_pos decided]
    exact whenTrue decided
  · rw [if_neg decided]
    exact whenFalse decided

theorem get_bind
    {next : Machine -> Action β}
    {answer : β -> Prop}
    (sparing : ∀ machine, Sparing base (next machine) answer) :
    Sparing base (get >>= next) answer :=
  fun machine known => sparing machine machine known

theorem store_bind
    {next : Store -> Action β}
    {answer : β -> Prop}
    (sparing : ∀ store, base.Keeps store -> Sparing base (next store) answer) :
    Sparing base (Action.store >>= next) answer :=
  fun machine known => sparing machine.store known machine known

theorem find_bind
    {site : Site}
    {next : Term -> Action β}
    {answer : β -> Prop}
    (sparing : ∀ store, base.Keeps store -> Sparing base (next (store.find site)) answer) :
    Sparing base (Action.find site >>= next) answer :=
  store_bind sparing

/-- A change that has nothing to do with the store. -/
theorem change
    {change : Machine -> Machine}
    (stores : ∀ machine, (change machine).store = machine.store) :
    IsSparing base (modify change) := by
  intro machine _
  refine ⟨?_, trivial⟩
  rw [stores]
  exact .refl machine.store

theorem finitely {look : Store -> Option α} : IsSparing base (Action.finitely look) := by
  refine store_bind fun store _ => ?_
  split
  · exact done
  · exact throw

theorem display {term : Term} : IsSparing base (Action.display term) :=
  finitely

theorem equal {left right : Term} : IsSparing base (Action.equal left right) :=
  finitely

theorem display_raise
    {term : Term}
    {kind : ErrorKind}
    {message : String -> String}
    {answer : α -> Prop} :
    Sparing base (Action.display term >>= fun shown => Action.raise kind (message shown))
      answer :=
  display.bind fun _ _ => raise

theorem count {kind : Kind} : IsSparing base (Action.count kind) :=
  change fun _ => rfl

theorem freshMark : IsSparing base Action.freshMark :=
  fun _ _ => ⟨.of_keeps ⟨Nat.le_refl _, fun _ _ => rfl⟩ rfl, trivial⟩

theorem newCell {elements : List Term} : IsSparing base (Action.newCell elements) :=
  fun machine _ => ⟨.of_keeps (.newCell machine.store elements.toArray) rfl, trivial⟩

theorem lookup? {name : String} : IsSparing base (Action.lookup? name) :=
  get_bind fun _ => done

/-- Putting counters, flags and the stack of scopes back changes nothing else. -/
theorem ensuring
    {action : Action α}
    {cleanup : Machine -> Machine}
    {answer : α -> Prop}
    (sparing : Sparing base action answer)
    (stores : ∀ machine, (cleanup machine).store = machine.store) :
    Sparing base (Action.ensuring action cleanup) answer := by
  intro machine known
  have outcome := sparing machine known
  rw [ensuring_apply]
  revert outcome
  cases action machine with
  | ok value after =>
      dsimp only
      rw [stores]
      exact id
  | error stop after =>
      dsimp only
      rw [stores]
      exact id

/-! ## Making values -/

theorem newInteger {value : Int64} : IsSparing base (Action.newInteger value) := by
  unfold Action.newInteger
  exact ite (fun _ => done) fun _ => count.bind fun _ _ => done

theorem newList {elements : List Term} : IsSparing base (Action.newList elements) :=
  count.bind fun _ _ => newCell.bind fun _ _ => done

theorem newTuple {elements : List Term} : IsSparing base (Action.newTuple elements) :=
  count.bind fun _ _ => newCell.bind fun _ _ => done

theorem newPair {first second : Term} : IsSparing base (Action.newPair first second) :=
  count.bind fun _ _ => done

theorem newSequence {first second : Term} : IsSparing base (Action.newSequence first second) :=
  count.bind fun _ _ => freshMark.bind fun _ _ => done

theorem newClosure {body : String} {captured : Closure} :
    IsSparing base (Action.newClosure body captured) :=
  count.bind fun _ _ => done

theorem newMethod {receiver body : Term} : IsSparing base (Action.newMethod receiver body) :=
  count.bind fun _ _ => freshMark.bind fun _ _ => done

end Sparing
end Action

namespace Evaluator

open PatternMachine.Action (Heeds Sparing IsSparing)

variable {base : Store} {self : Evaluator}

/-! ## Operators and reading from a value -/

theorem applyOperator_sparing {operator : Operator} {argument : Term} :
    IsSparing base (applyOperator operator argument) :=
  .of_gathers fun _ => applyOperator_heeds fun _ _ _ _ _ _ => trivial

theorem selectElements_sparing
    {elements : List Term}
    {rebuild : List Term -> Action Term}
    {index : Term}
    (rebuilds : ∀ machine elements, Heeds .sparing machine (rebuild elements) fun after =>
      after.store.Gathers fun _ => True) :
    IsSparing base (selectElements elements rebuild index) :=
  .of_heeds fun _ => selectElements_heeds fun machine selected _ => rebuilds machine selected

theorem selectClusters_sparing {text : String} {index : Term} :
    IsSparing base (selectClusters text index) :=
  .of_gathers fun _ => selectClusters_heeds

/-! ## Terms that can be evaluated without consequences -/

end Evaluator

/-- Whether a term itself, its parts apart, does nothing but make values: it matches
and calls nothing, except for operators, and evaluates nothing a second time. -/
def Term.isHarmless : Term -> Bool
  | .isMatch _ _ _ => false
  | .evaluation _ _ => false
  | .escape _ _ => false
  | .apply _ (.identifier name) _ => (Operator.ofName? name).isSome
  | .apply _ _ _ => false
  | _ => true

/-- Everything that can be met in a term is harmless, with its cells in the store. -/
def Store.Harmless (store : Store) (term : Term) : Prop :=
  ∀ part, store.Reaches term part -> part.isHarmless = true ∧ part.isPlaced store = true

/-- What can be met in a harmless term is harmless. -/
theorem Store.Harmless.part
    {store : Store}
    {term part : Term}
    (harmless : store.Harmless term)
    (held : part ∈ term.contents store) :
    store.Harmless part :=
  fun inner reaches => harmless inner (reaches.onwards held)

namespace Evaluator

open PatternMachine.Action (Sparing IsSparing)

variable {base : Store} {self : Evaluator}

/-- Evaluating harmless terms is sparing. -/
def WalksSparingly (base : Store) (self : Evaluator) : Prop :=
  ∀ term, base.Harmless term -> IsSparing base (self.walk term)

theorem walkAll_sparing
    (walks : self.WalksSparingly base)
    {sites : List Site}
    (harmless : ∀ site ∈ sites, ∀ store, base.Keeps store -> base.Harmless (store.find site)) :
    IsSparing base (self.walkAll sites) := by
  induction sites with
  | nil => exact .done
  | cons site rest inductionHypothesis =>
      obtain ⟨siteHarmless, restHarmless⟩ := List.forall_mem_cons.mp harmless
      refine .find_bind fun store known => ?_
      refine (walks _ (siteHarmless store known)).bind fun _ _ => ?_
      exact (inductionHypothesis restHarmless).bind fun _ _ => .done

theorem memberName_sparing
    (walks : self.WalksSparingly base)
    {selector : Term}
    (harmless : base.Harmless selector) :
    IsSparing base (self.memberName selector) := by
  unfold memberName
  split
  · exact .done
  · refine (walks selector harmless).bind fun value _ => ?_
    split
    · exact .done
    · exact .raise

theorem readIndex_sparing
    (walks : self.WalksSparingly base)
    {subject selector : Term}
    (harmless : base.Harmless selector) :
    IsSparing base (self.readIndex subject selector) := by
  unfold readIndex
  split
  · refine (memberName_sparing walks harmless).bind fun _ _ => .store_bind fun store _ => ?_
    split
    · exact .raise
    · exact .newMethod
    · exact .done
  · refine (walks selector harmless).bind fun index _ => ?_
    split
    · exact .store_bind fun _ _ => selectElements_sparing fun _ _ => .newList fun _ _ => trivial
    · exact .store_bind fun _ _ => selectElements_sparing fun _ _ => .newTuple fun _ _ => trivial
    · exact selectClusters_sparing
    · exact .raise

theorem walkRange_sparing
    (walks : self.WalksSparingly base)
    {start stop stride : Term}
    (startHarmless : base.Harmless start)
    (stopHarmless : base.Harmless stop)
    (strideHarmless : base.Harmless stride) :
    IsSparing base (self.walkRange start stop stride) := by
  have bound : ∀ {what : String} {term : Term}, base.Harmless term ->
      IsSparing base (self.walkBound what term) := by
    intro what term harmless
    refine (walks term harmless).bind fun value _ => ?_
    split
    · exact .done
    · exact .raise
  have integers : ∀ values : List Int64, IsSparing base (newIntegers values) := by
    intro values
    induction values with
    | nil => exact .done
    | cons value rest inductionHypothesis =>
        exact Sparing.newInteger.bind fun _ _ => inductionHypothesis.bind fun _ _ => .done
  have made : ∀ {first last step : Int64}, IsSparing base
      (if step == 0 then Action.raise .valueError "range stride cannot be zero"
      else newIntegers (rangeMembers first last step) >>= fun members =>
        Action.newList members) :=
    .ite (fun _ => .raise) fun _ => (integers _).bind fun _ _ => .newList
  refine (bound startHarmless).bind fun first _ => (bound stopHarmless).bind fun last _ => ?_
  refine .ite (fun _ => ?_) fun _ => ?_
  · exact Sparing.done.bind fun _ _ => made
  · exact (bound strideHarmless).bind fun _ _ => made

theorem walkHeadTail_sparing
    (walks : self.WalksSparingly base)
    {head tail : Term}
    (headHarmless : base.Harmless head)
    (tailHarmless : base.Harmless tail) :
    IsSparing base (self.walkHeadTail head tail) := by
  refine (walks head headHarmless).bind fun first _ => ?_
  refine (walks tail tailHarmless).bind fun rest _ => ?_
  split
  · exact .store_bind fun _ _ => .newList
  · exact .raise

theorem walkConditional_sparing
    (walks : self.WalksSparingly base)
    {condition consequent alternative : Term}
    (conditionHarmless : base.Harmless condition)
    (consequentHarmless : base.Harmless consequent)
    (alternativeHarmless : base.Harmless alternative) :
    IsSparing base (self.walkConditional condition consequent alternative) := by
  refine (walks condition conditionHarmless).bind fun _ _ => .store_bind fun _ _ => ?_
  refine .ite (fun _ => walks consequent consequentHarmless) fun _ => ?_
  exact .ite (fun _ => .done) fun _ => walks alternative alternativeHarmless

theorem walkMembership_sparing
    (walks : self.WalksSparingly base)
    {element container : Term}
    (elementHarmless : base.Harmless element)
    (containerHarmless : base.Harmless container) :
    IsSparing base (self.walkMembership element container) := by
  refine (walks element elementHarmless).bind fun value _ => ?_
  refine (walks container containerHarmless).bind fun sequence _ => .store_bind fun store _ => ?_
  split
  · exact Sparing.finitely.bind fun _ _ => .done
  · exact .raise

theorem walkIdentifier_sparing {name : String} : IsSparing base (walkIdentifier name) := by
  refine Sparing.lookup?.bind fun found _ => ?_
  split
  · exact .done
  · exact .get_bind fun _ => .raise

/-- Only operators are applied in a harmless term. -/
theorem walkApply_sparing
    (walks : self.WalksSparingly base)
    {mark : Mark}
    {callee argument : Term}
    (harmless : base.Harmless (.apply mark callee argument)) :
    IsSparing base (self.walkApply callee argument) := by
  have operation := (harmless _ .here).1
  have argumentHarmless : base.Harmless argument :=
    harmless.part (by simp [Term.contents, Term.parts])
  cases callee with
  | identifier name =>
      obtain ⟨operator, known⟩ := Option.isSome_iff_exists.mp operation
      unfold walkApply
      simp only [known]
      exact (walks argument argumentHarmless).bind fun _ _ => applyOperator_sparing
  | _ => simp [Term.isHarmless] at operation

/-- One step of evaluating a harmless term is sparing. -/
theorem walkStep_sparing
    (walks : self.WalksSparingly base)
    {term : Term}
    (harmless : base.Harmless term) :
    IsSparing base (self.walkStep term) := by
  have kind := (harmless term .here).1
  have placed := (harmless term .here).2
  have parts : ∀ part ∈ term.contents base, base.Harmless part := fun _ held => harmless.part held
  have elements : ∀ {cell : CellRef} {store : Store}, base.Keeps store ->
      cell.place < base.cells.size -> (∀ part ∈ (base.elements cell).toList, base.Harmless part) ->
      IsSparing base (self.walkAll (store.places cell)) := by
    intro cell store known exists_ elementsHarmless
    refine walkAll_sparing walks fun site held later kept => elementsHarmless _ ?_
    have same : store.sites (.list cell) = base.sites (.list cell) :=
      Store.sites_keeps known (decide_eq_true exists_)
    exact Store.find_yielding (.list cell) (same ▸ held) kept
  cases term with
  | list cell =>
      refine .store_bind fun store known => ?_
      exact (elements known (of_decide_eq_true placed) parts).bind fun _ _ => .newList
  | tuple cell =>
      refine .store_bind fun store known => ?_
      exact (elements known (of_decide_eq_true placed) parts).bind fun _ _ => .newTuple
  | pair first second =>
      simp only [Term.contents, Term.parts, List.forall_mem_cons] at parts
      exact (walks first parts.1).bind fun _ _ => (walks second parts.2.1).bind fun _ _ => .newPair
  | sequence mark first second =>
      simp only [Term.contents, Term.parts, List.forall_mem_cons] at parts
      exact (walks first parts.1).bind fun _ _ =>
        (walks second parts.2.1).bind fun _ _ => .newSequence
  | range raw mark start stop stride =>
      simp only [Term.contents, Term.parts, List.forall_mem_cons] at parts
      exact walkRange_sparing walks parts.1 parts.2.1 parts.2.2.1
  | headTail raw mark head tail =>
      simp only [Term.contents, Term.parts, List.forall_mem_cons] at parts
      exact walkHeadTail_sparing walks parts.1 parts.2.1
  | function mark body =>
      refine Sparing.bind (Sparing.freshMark.bind fun _ _ => .get_bind fun _ => .done) fun _ _ => ?_
      exact .newClosure
  | apply mark callee argument => exact walkApply_sparing walks harmless
  | index mark subject selector =>
      simp only [Term.contents, Term.parts, List.forall_mem_cons] at parts
      exact (walks subject parts.1).bind fun _ _ => readIndex_sparing walks parts.2.1
  | conditional mark condition consequent alternative =>
      simp only [Term.contents, Term.parts, List.forall_mem_cons] at parts
      exact walkConditional_sparing walks parts.1 parts.2.1 parts.2.2.1
  | membership mark element container =>
      simp only [Term.contents, Term.parts, List.forall_mem_cons] at parts
      exact walkMembership_sparing walks parts.1 parts.2.1
  | quote expression =>
      simp only [Term.contents, Term.parts, List.forall_mem_cons] at parts
      exact .get_bind fun _ => .ite (fun _ => walks expression parts.1) fun _ => .done
  | deref mark expression =>
      simp only [Term.contents, Term.parts, List.forall_mem_cons] at parts
      exact walks expression parts.1
  | identifier name => exact walkIdentifier_sparing
  | named mark name pattern => exact .display_raise
  | typeMatch mark typeName => exact .display_raise
  | constraint mark pattern => exact .display_raise
  | lineMark mark position =>
      have moved : IsSparing base (modify fun machine => { machine with position := position }) :=
        .change fun _ => rfl
      exact moved.bind fun _ _ => .done
  | isMatch mark subject pattern => simp [Term.isHarmless] at kind
  | evaluation mark expression => simp [Term.isHarmless] at kind
  | escape mark name => simp [Term.isHarmless] at kind
  | absent => exact .raise
  | dataMember mark value => exact .raise
  | initMember mark value pattern => exact .raise
  | _ => exact .done

end Evaluator
end PatternMachine
