import PatternMachine.Proofs.Pattern.Redundancy
import PatternMachine.Proofs.Sparing

/-!
# Matching does not commit

A match yields its bindings instead of making them, so it spares what is there.
Only a guard needs the bindings of its pattern before the match is decided:
names are bound in a scope of their own, which is left again, but an index
expression would be written through. So matching is sparing for patterns whose
guards are harmless and guard no index expression.
-/

namespace PatternMachine
namespace Term

/-- A match against the pattern yields bindings of names only: no index expression is
a target. -/
def IsUntargeted (store : Store) (pattern : Term) : Prop :=
  ∀ mark subject selector,
    ¬ Reaches (yielding store) pattern (.index mark subject selector)

theorem IsUntargeted.part
    {store : Store}
    {pattern part : Term}
    (untargeted : pattern.IsUntargeted store)
    (held : part ∈ pattern.yielding store) :
    part.IsUntargeted store :=
  fun mark subject selector reaches => untargeted mark subject selector (reaches.onwards held)

end Term

/-- A pattern with its cells in the store, in which no pattern is referred to and
every guard is harmless and guards no index expression. -/
structure Store.Quiet (store : Store) (pattern : Term) : Prop where
  placed : ∀ part, Term.Reaches (Term.subpatterns store) pattern part ->
    part.isPlaced store = true
  direct : ∀ mark expression,
    ¬ Term.Reaches (Term.subpatterns store) pattern (.deref mark expression)
  harmless : ∀ mark condition consequent alternative,
    Term.Reaches (Term.subpatterns store) pattern
      (.conditional mark condition consequent alternative) ->
    store.Harmless condition
  untargeted : ∀ mark condition consequent alternative,
    Term.Reaches (Term.subpatterns store) pattern
      (.conditional mark condition consequent alternative) ->
    consequent.IsUntargeted store

namespace Store.Quiet

variable {base store : Store} {pattern : Term}

/-- A pattern inside a quiet pattern is quiet. -/
theorem part
    {inner : Term}
    (quiet : store.Quiet pattern)
    (held : inner ∈ pattern.subpatterns store) :
    store.Quiet inner where
  placed part reaches := quiet.placed part (reaches.onwards held)
  direct mark expression reaches := quiet.direct mark expression (reaches.onwards held)
  harmless mark condition consequent alternative reaches :=
    quiet.harmless mark condition consequent alternative (reaches.onwards held)
  untargeted mark condition consequent alternative reaches :=
    quiet.untargeted mark condition consequent alternative (reaches.onwards held)

/-- Patterns that lead to nothing but each other are quiet if each of them fits and no
guard among them does harm. -/
theorem of_closed
    (patterns : List Term)
    (closed : ∀ outer ∈ patterns, ∀ inner ∈ outer.subpatterns store, inner ∈ patterns)
    (present : pattern ∈ patterns)
    (placed : ∀ part ∈ patterns, part.isPlaced store = true)
    (direct : ∀ mark expression, Term.deref mark expression ∉ patterns)
    (guards : ∀ mark condition consequent alternative,
      Term.conditional mark condition consequent alternative ∈ patterns ->
      store.Harmless condition ∧ consequent.IsUntargeted store) :
    store.Quiet pattern where
  placed part reaches := placed part (reaches.mem_of_closed patterns closed present)
  direct mark expression reaches :=
    direct mark expression (reaches.mem_of_closed patterns closed present)
  harmless mark condition consequent alternative reaches :=
    (guards mark condition consequent alternative
      (reaches.mem_of_closed patterns closed present)).1
  untargeted mark condition consequent alternative reaches :=
    (guards mark condition consequent alternative
      (reaches.mem_of_closed patterns closed present)).2

end Store.Quiet

/-- A name is no index expression. -/
theorem Term.isUntargeted_identifier (store : Store) (name : String) :
    (Term.identifier name).IsUntargeted store := by
  intro mark subject selector yields
  have named := yields.mem_of_closed [.identifier name] (by simp [Term.yielding])
    List.mem_cons_self
  simp at named

namespace Evaluator

open PatternMachine.Action (Sparing IsSparing)

variable {base : Store} {self : Evaluator} {untargeted : Prop}

/-- When it is known that no index expression is a target, all targets are names. -/
def OnlyNames (untargeted : Prop) (bindings : List Binding) : Prop :=
  untargeted -> ∀ binding ∈ bindings, ∃ name, binding.target = .identifier name

theorem OnlyNames.append
    {first second : List Binding}
    (firstNames : OnlyNames untargeted first)
    (secondNames : OnlyNames untargeted second) :
    OnlyNames untargeted (first ++ second) :=
  fun known => List.forall_mem_append.mpr ⟨firstNames known, secondNames known⟩

theorem OnlyNames.mono
    {weaker : Prop}
    {bindings : List Binding}
    (names : OnlyNames untargeted bindings)
    (implies : weaker -> untargeted) :
    OnlyNames weaker bindings :=
  fun known => names (implies known)

theorem noBindings_sparing : Sparing base (pure []) (OnlyNames untargeted) :=
  .pure fun _ => by simp

/-- Evaluating harmless terms and matching quiet patterns is sparing. -/
structure Spares (base : Store) (evaluator : Evaluator) : Prop where
  walk : evaluator.WalksSparingly base
  unify : ∀ (term : Term) {pattern : Term}, base.Quiet pattern ->
    Sparing base (evaluator.unify .binding term pattern) (OnlyNames (pattern.IsUntargeted base))

theorem checkLinear_sparing
    {bindings : List Binding}
    (names : OnlyNames untargeted bindings) :
    Sparing base (checkLinear .binding bindings) (OnlyNames untargeted) := by
  refine .get_bind fun machine => .ite (fun _ => ?_) fun _ => .pure names
  split
  · exact .raise
  · exact .pure names

theorem unifyLinear_sparing
    (sparing : self.Spares base)
    {terms patterns : List Site}
    (quiet : ∀ site ∈ patterns, ∀ store, base.Keeps store -> base.Quiet (store.find site)) :
    Sparing base (self.unifyLinear .binding terms patterns)
      (OnlyNames (∀ site ∈ patterns, ∀ store, base.Keeps store ->
        (store.find site).IsUntargeted base)) := by
  have each : ∀ pairs : List (Site × Site), (∀ pair ∈ pairs, pair.2 ∈ patterns) ->
      Sparing base (self.unifyEach .binding pairs)
        (OnlyNames (∀ site ∈ patterns, ∀ store, base.Keeps store ->
          (store.find site).IsUntargeted base)) := by
    intro pairs listed
    induction pairs with
    | nil => exact noBindings_sparing
    | cons pair rest inductionHypothesis =>
        obtain ⟨present, restPresent⟩ := List.forall_mem_cons.mp listed
        refine .find_bind fun _ _ => .find_bind fun store kept => ?_
        refine (sparing.unify _ (quiet pair.2 present store kept)).bind fun first firstNames => ?_
        refine (inductionHypothesis restPresent).bind fun others othersNames => .pure ?_
        exact (firstNames.mono fun known => known pair.2 present store kept).append othersNames
  refine (each (terms.zip patterns) fun pair member => ?_).bind fun bindings names =>
    checkLinear_sparing names
  exact (List.of_mem_zip member).2

/-- Matching the elements of a quiet pattern is sparing. -/
theorem unifyElements_sparing
    (sparing : self.Spares base)
    {terms : List Site}
    {pattern : Term}
    {store : Store}
    (quiet : base.Quiet pattern)
    (known : base.Keeps store) :
    Sparing base (self.unifyLinear .binding terms (store.sites pattern))
      (OnlyNames (pattern.IsUntargeted base)) := by
  rw [Store.sites_keeps known (quiet.placed _ .here)]
  refine (unifyLinear_sparing sparing fun site held later kept => ?_).mono fun bindings names => ?_
  · exact quiet.part (Term.mem_subpatterns_of_yielding (Store.find_yielding pattern held kept))
  · exact names.mono fun untargeted site held later kept =>
      untargeted.part (Store.find_yielding pattern held kept)

/-! ## Guards -/

/-- Nothing has changed but the innermost scope, in which no name is declared
global. -/
structure InnermostChanged (scope : ScopeRef) (machine after : Machine) : Prop where
  innermost : after.scopes.back? = some scope
  noGlobals : ∀ name, after.isGlobal name = false
  cells : after.store.cells = machine.store.cells
  size : machine.store.scopes.size ≤ after.store.scopes.size
  others : ∀ ref, ref ≠ scope -> after.store.scope ref = machine.store.scope ref

/-- A name is bound in the innermost scope. -/
theorem InnermostChanged.bindName
    {scope : ScopeRef}
    {machine after : Machine}
    (changed : InnermostChanged scope machine after)
    (name : String)
    (value : Term) :
    InnermostChanged scope machine (after.bindName name value) := by
  have bound : after.bindName name value =
      { after with store := after.store.bind scope name value } := by
    simp [Machine.bindName, Machine.bindingScope?, changed.noGlobals, changed.innermost]
  rw [bound]
  exact
    { innermost := changed.innermost
      noGlobals := changed.noGlobals
      cells := changed.cells
      size := Nat.le_trans changed.size (after.store.size_le_size_bind scope name value)
      others := fun ref other => by
        rw [← changed.others ref other]
        exact after.store.scope_bind_of_ne other name value }

/-- Names are bound in the innermost scope, and nothing else changes. -/
theorem declareAll_names
    (self : Evaluator)
    {bindings : List Binding}
    (names : ∀ binding ∈ bindings, ∃ name, binding.target = .identifier name)
    {scope : ScopeRef}
    {machine opened : Machine}
    (changed : InnermostChanged scope machine opened) :
    InnermostChanged scope machine ((self.declareAll bindings).after opened) := by
  induction bindings generalizing opened with
  | nil => exact changed
  | cons binding rest inductionHypothesis =>
      obtain ⟨⟨name, target⟩, restNames⟩ := List.forall_mem_cons.mp names
      have whole : (self.declareAll (binding :: rest)).after opened =
          (self.declare binding >>= fun _ => self.declareAll rest).after opened := rfl
      rw [whole]
      unfold declare
      rw [target]
      dsimp only
      split
      · exact inductionHypothesis restNames changed
      · split
        · exact changed
        · exact inductionHypothesis restNames (changed.bindName name binding.value)

/-- A change of a scope that has just been opened spares what was there. -/
theorem InnermostChanged.spares
    {machine after : Machine}
    (changed : InnermostChanged ⟨machine.store.scopes.size⟩ machine.pushScope after) :
    machine.store.Spares after.store where
  cells :=
    { size := Nat.le_of_eq (by rw [changed.cells]; rfl)
      elements := fun cell _ => by
        simp only [Store.elements, changed.cells]
        rfl }
  size := by
    refine Nat.le_trans ?_ changed.size
    simp [Machine.pushScope, Store.newScope, Store.newGlobals]
  namespaces := by
    intro ref known
    have other : ref ≠ ⟨machine.store.scopes.size⟩ := by
      rintro rfl
      exact Nat.lt_irrefl _ known
    rw [changed.others ref other, machine.scope_pushScope]

/-- A guard is evaluated with names bound in a scope of its own. -/
theorem guard_sparing
    (sparing : self.Spares base)
    {bindings : List Binding}
    (names : ∀ binding ∈ bindings, ∃ name, binding.target = .identifier name)
    {condition : Term}
    (harmless : base.Harmless condition) :
    IsSparing base (inFreshScope do
      self.declareAll bindings
      self.walk condition) := by
  intro machine known
  have opened : InnermostChanged ⟨machine.store.scopes.size⟩ machine.pushScope
      machine.pushScope :=
    { innermost := by simp
      noGlobals := fun name => by
        simp only [Machine.isGlobal, Machine.globals_pushScope, Array.back?_push,
          Machine.globalNames_pushScope]
        simp [Store.globalNames]
      cells := rfl
      size := Nat.le_refl _
      others := fun _ _ => rfl }
  have declared := (declareAll_names self names opened).spares
  unfold inFreshScope
  rw [Action.bind_apply, Action.modify_apply]
  dsimp only
  rw [Action.ensuring_apply, Action.bind_apply]
  unfold Action.after at declared
  revert declared
  cases self.declareAll bindings machine.pushScope with
  | error stop after => exact id
  | ok value after =>
      intro declared
      have walked := sparing.walk condition harmless after (known.trans declared.cells)
      revert walked
      dsimp only
      cases self.walk condition after with
      | ok verdict last => exact fun walked => ⟨declared.trans walked.1, trivial⟩
      | error stop last => exact fun walked => declared.trans walked

theorem unifyGuarded_sparing
    (sparing : self.Spares base)
    {term : Term}
    {mark : Mark}
    {condition consequent alternative : Term}
    (quiet : base.Quiet (.conditional mark condition consequent alternative)) :
    Sparing base (self.unifyGuarded .binding term mark condition consequent alternative)
      (OnlyNames untargeted) := by
  have harmless := quiet.harmless mark condition consequent alternative .here
  have inner := quiet.untargeted mark condition consequent alternative .here
  have consequentQuiet : base.Quiet consequent :=
    quiet.part (by simp [Term.subpatterns, Term.yielding])
  refine .ite (fun _ => .raise) fun _ => ?_
  refine (sparing.unify _ consequentQuiet).bind fun bindings names => ?_
  refine (guard_sparing sparing (names inner) harmless).bind fun verdict _ => ?_
  refine .store_bind fun store _ => .ite (fun _ => .pure fun _ => names inner) fun _ => ?_
  exact .display_raise

/-! ## The rules of matching -/

theorem unifyText_sparing {text regex : String} :
    Sparing base (unifyText text regex) (OnlyNames untargeted) := by
  unfold unifyText
  split
  · exact .raise
  · exact .ite (fun _ => noBindings_sparing) fun _ => .raise

theorem unifyRegex_sparing {term : Term} {regex : String} :
    Sparing base (unifyRegex .binding term regex) (OnlyNames untargeted) := by
  unfold unifyRegex
  split
  · exact unifyText_sparing
  · refine Sparing.display.bind fun _ _ => .ite (fun _ => .raise) fun _ => ?_
    exact Sparing.count.bind fun _ _ => unifyText_sparing

theorem unifyType_sparing {term : Term} {typeName : String} :
    Sparing base (unifyType .binding term typeName) (OnlyNames untargeted) := by
  unfold unifyType
  refine .ite (fun _ => ?_) fun _ => .ite (fun _ => ?_) fun _ => .ite (fun _ => ?_) fun _ => ?_
  · split
    · exact noBindings_sparing
    · exact noBindings_sparing
    · exact .raise
  · split
    · exact noBindings_sparing
    · exact .raise
  · exact .ite (fun _ => noBindings_sparing) fun _ => .raise
  · refine Sparing.lookup?.bind fun found _ => ?_
    split
    · exact .ite (fun _ => noBindings_sparing) fun _ => .raise
    · exact .raise

theorem unifyHeadTail_sparing
    (sparing : self.Spares base)
    {raw : Bool}
    {mark : Mark}
    {term head tail : Term}
    (quiet : base.Quiet (.headTail raw mark head tail)) :
    Sparing base (self.unifyHeadTail .binding term head tail)
      (OnlyNames ((Term.headTail raw mark head tail).IsUntargeted base)) := by
  have inner : ∀ site ∈ [Site.given head, .given tail], ∀ store, base.Keeps store ->
      base.Quiet (store.find site) := by
    have quietBoth : ∀ pattern ∈ [head, tail], base.Quiet pattern := fun _ held => quiet.part held
    simpa [Store.find] using ⟨fun _ _ => quietBoth head (by simp),
      fun _ _ => quietBoth tail (by simp)⟩
  unfold unifyHeadTail
  split
  · refine .store_bind fun store _ => ?_
    split
    · exact .raise
    · refine Sparing.newList.bind fun remainder _ => ?_
      refine (unifyLinear_sparing sparing inner).mono fun bindings names => ?_
      refine names.mono fun untargeted => ?_
      have parts : ∀ part ∈ [head, tail], part.IsUntargeted base :=
        fun _ held => untargeted.part held
      simpa [Store.find] using ⟨fun _ _ => parts head (by simp), fun _ _ => parts tail (by simp)⟩
  · exact .raise
  · contradiction
  · exact .raise

theorem unifyConstructor_sparing
    (sparing : self.Spares base)
    {owner : Option Template}
    {memory : CellRef}
    {mark : Mark}
    {callee argument : Term}
    (quiet : base.Quiet (.apply mark callee argument)) :
    Sparing base (self.unifyConstructor .binding owner memory callee argument)
      (OnlyNames ((Term.apply mark callee argument).IsUntargeted base)) := by
  have argumentQuiet : base.Quiet argument :=
    quiet.part (by simp [Term.subpatterns, Term.yielding])
  have argumentUntargeted : (Term.apply mark callee argument).IsUntargeted base ->
      argument.IsUntargeted base :=
    fun untargeted => untargeted.part (by simp [Term.yielding])
  unfold unifyConstructor
  split
  · refine .ite (fun _ => .raise) fun _ => ?_
    split
    · exact .raise
    · refine .store_bind fun store known => ?_
      dsimp only
      split
      · refine .ite (fun _ => .raise) fun _ => ?_
        exact (unifyElements_sparing sparing argumentQuiet known).mono
          fun _ names => names.mono argumentUntargeted
      · split
        · exact .raise
        · exact (sparing.unify _ argumentQuiet).mono fun _ names => names.mono argumentUntargeted
  · exact .display_raise

theorem unifyEqual_sparing {term pattern : Term} :
    Sparing base (unifyEqual term pattern) (OnlyNames untargeted) := by
  have compared : IsSparing base (agrees term pattern) := .ite (fun _ => .equal) fun _ => .done
  refine compared.bind fun _ _ => .ite (fun _ => noBindings_sparing) fun _ => ?_
  exact Sparing.display.bind fun _ _ => .display_raise

theorem unifyCompound_sparing
    (sparing : self.Spares base)
    {term pattern : Term}
    (quiet : base.Quiet pattern) :
    Sparing base (self.unifyCompound .binding term pattern)
      (OnlyNames (pattern.IsUntargeted base)) := by
  refine .store_bind fun store known => ?_
  split
  · exact .ite (fun _ => .raise) fun _ => unifyElements_sparing sparing quiet known
  · split
    · exact unifyConstructor_sparing sparing quiet
    · contradiction
    · exact unifyEqual_sparing

theorem unifyLists_sparing
    (sparing : self.Spares base)
    {term pattern : Term}
    (quiet : base.Quiet pattern) :
    Sparing base (self.unifyLists .binding term pattern)
      (OnlyNames (pattern.IsUntargeted base)) := by
  unfold unifyLists
  dsimp only
  split
  · rename_i cell patternCell
    exact .store_bind fun store known => .ite (fun _ => .raise) fun _ =>
      unifyElements_sparing sparing quiet known
  · exact .raise
  · exact .raise
  · exact unifyCompound_sparing sparing quiet

theorem unifyIndirect_sparing
    (sparing : self.Spares base)
    {term pattern : Term}
    (quiet : base.Quiet pattern) :
    Sparing base (self.unifyIndirect .binding term pattern)
      (OnlyNames (pattern.IsUntargeted base)) := by
  unfold unifyIndirect
  split
  · exact unifyHeadTail_sparing sparing quiet
  · exact .pure fun untargeted => absurd .here (untargeted _ _ _)
  · exact absurd .here (quiet.direct _ _)
  · rename_i mark inner
    have innerQuiet : base.Quiet inner := quiet.part (by simp [Term.subpatterns])
    have deeper : IsSparing base (modify fun machine =>
        { machine with constraintDepth := machine.constraintDepth + 1 }) := .change fun _ => rfl
    refine deeper.bind fun _ _ => ?_
    refine Sparing.bind (Sparing.ensuring (sparing.unify _ innerQuiet) fun _ => rfl) fun _ _ => ?_
    exact noBindings_sparing
  · exact unifyLists_sparing sparing quiet

theorem unifyQuoted_sparing
    (sparing : self.Spares base)
    {term pattern : Term}
    (quiet : base.Quiet pattern) :
    Sparing base (self.unifyQuoted .binding term pattern)
      (OnlyNames (pattern.IsUntargeted base)) := by
  have through : ∀ {term inner : Term}, base.Quiet (.quote inner) ->
      Sparing base (self.unify .binding term inner)
        (OnlyNames ((Term.quote inner).IsUntargeted base)) := by
    intro term inner quoteQuiet
    have innerQuiet : base.Quiet inner :=
      quoteQuiet.part (by simp [Term.subpatterns, Term.yielding])
    refine (sparing.unify _ innerQuiet).mono fun bindings names => names.mono fun untargeted => ?_
    exact untargeted.part (by simp [Term.yielding])
  unfold unifyQuoted
  split
  · exact through quiet
  · exact through quiet
  · exact unifyIndirect_sparing sparing quiet
  · exact unifyIndirect_sparing sparing quiet
  · exact sparing.unify _ quiet
  · exact unifyIndirect_sparing sparing quiet

theorem unifyLiteral_sparing
    (sparing : self.Spares base)
    {term pattern : Term}
    (quiet : base.Quiet pattern) :
    Sparing base (self.unifyLiteral .binding term pattern)
      (OnlyNames (pattern.IsUntargeted base)) := by
  unfold unifyLiteral
  split
  · exact noBindings_sparing
  · exact Sparing.display.bind fun _ _ => .display_raise
  · split
    · exact noBindings_sparing
    · exact noBindings_sparing
    · exact unifyQuoted_sparing sparing quiet

theorem unifyDecorated_sparing
    (sparing : self.Spares base)
    {term pattern : Term}
    (quiet : base.Quiet pattern) :
    Sparing base (self.unifyDecorated .binding term pattern)
      (OnlyNames (pattern.IsUntargeted base)) := by
  unfold unifyDecorated
  split
  · rename_i mark name inner
    have innerQuiet : base.Quiet inner :=
      quiet.part (by simp [Term.subpatterns, Term.yielding])
    refine (sparing.unify _ innerQuiet).bind fun bindings names => ?_
    refine Sparing.bind (Sparing.count.bind fun _ _ => .pure rfl) fun target same => ?_
    refine checkLinear_sparing (OnlyNames.append ?_ ?_)
    · exact names.mono fun untargeted => untargeted.part (by simp [Term.yielding])
    · exact fun _ => List.forall_mem_singleton.mpr ⟨name, same.symm⟩
  · exact unifyType_sparing
  · exact unifyGuarded_sparing sparing quiet
  · split
    · contradiction
    · exact unifyLiteral_sparing sparing quiet

theorem unifyObjects_sparing
    (sparing : self.Spares base)
    {term pattern : Term}
    (quiet : base.Quiet pattern) :
    Sparing base (self.unifyObjects .binding term pattern)
      (OnlyNames (pattern.IsUntargeted base)) := by
  unfold unifyObjects
  split
  · refine .store_bind fun store known => ?_
    exact .ite (fun _ => .raise) fun _ => .ite (fun _ => .raise) fun _ =>
      unifyElements_sparing sparing quiet known
  · exact unifyRegex_sparing
  · exact unifyDecorated_sparing sparing quiet

/-- One step of matching a quiet pattern is sparing. -/
theorem unifyStep_sparing
    (sparing : self.Spares base)
    {term pattern : Term}
    (quiet : base.Quiet pattern) :
    Sparing base (self.unifyStep .binding term pattern)
      (OnlyNames (pattern.IsUntargeted base)) := by
  refine .ite (fun _ => .raise) fun _ => ?_
  split
  · rename_i name _
    refine .pure fun _ => ?_
    split
    · simp
    · exact List.forall_mem_singleton.mpr ⟨name, rfl⟩
  · split
    · contradiction
    · contradiction
    · refine .ite (fun _ => .raise) fun _ => .ite (fun _ => .raise) fun _ => ?_
      exact unifyObjects_sparing sparing quiet

/-- Evaluating harmless terms and matching quiet patterns is sparing at every
depth. -/
theorem within_sparing (depth : Nat) : (within depth).Spares base := by
  induction depth with
  | zero => exact ⟨fun _ _ => .throw, fun _ _ _ => .throw⟩
  | succ depth inductionHypothesis =>
      exact
        { walk := fun _ harmless => walkStep_sparing inductionHypothesis.walk harmless
          unify := fun _ _ quiet => unifyStep_sparing inductionHypothesis quiet }

theorem within_spares
    {machine : Machine}
    {pattern : Term}
    (quiet : machine.store.Quiet pattern)
    (depth : Nat)
    (term : Term) :
    machine.store.Spares (((within depth).unify .binding term pattern).after machine).store :=
  ((within_sparing depth).unify term quiet).after (.refl machine.store)

/-- A test that yields false has made no binding: it ends where its match failed. -/
theorem walkIsMatch_false
    {subject pattern term : Term}
    {before machine final : Machine}
    (walked : self.walk subject before = .ok term machine)
    (answered : self.walkIsMatch subject pattern before = .ok (.boolean false) final) :
    Action.orNoMatch (self.unify .binding term pattern) machine = .ok none final := by
  unfold walkIsMatch at answered
  rw [Action.bind_apply, walked] at answered
  dsimp only at answered
  rw [Action.bind_apply] at answered
  cases attempt : Action.orNoMatch (self.unify .binding term pattern) machine with
  | error stop tried => simp [attempt] at answered
  | ok found tried =>
      rw [attempt] at answered
      cases found with
      | none =>
          cases answered
          rfl
      | some bindings =>
          -- After the declarations the test can only yield true.
          dsimp only at answered
          rw [Action.bind_apply] at answered
          revert answered
          cases self.declareAll bindings tried with
          | ok value committed => simp
          | error stop committed => simp

/-- A clause that does not match is recorded as such, and the next one is tried. -/
theorem tryClauses_skip
    (name : String)
    (place : Nat)
    (clause : Clause)
    (rest : List Clause)
    {argument : Term}
    {machine tried : Machine}
    (failed : Action.orNoMatch (self.unify .binding argument clause.pattern) machine =
      .ok none tried) :
    ∃ next, next.store = tried.store ∧
      self.tryClauses name argument place (clause :: rest) machine =
        self.tryClauses name argument (place + 1) rest next := by
  obtain ⟨next, recorded, same⟩ := recordClause_apply name place clause.pattern false tried
  refine ⟨next, same, ?_⟩
  conv =>
    lhs
    unfold tryClauses
  rw [Action.bind_apply, failed]
  dsimp only
  rw [Action.bind_apply, recorded]

/-- Matching does not commit. A match against a quiet pattern spares every namespace
and every cell that is there, whether it succeeds or fails. So all data is as it was
before the attempt when a match is found to be false, and when a clause is skipped. -/
theorem matching_spares_data
    (machine : Machine)
    (term pattern : Term)
    (quiet : machine.store.Quiet pattern)
    (depth : Nat) :
    machine.store.Spares (((within depth).unify .binding term pattern).after machine).store ∧
      (∀ before mark subject after,
        (within depth).walk subject before = .ok term machine ->
        (within (depth + 1)).walk (.isMatch mark subject pattern) before =
          .ok (.boolean false) after ->
        machine.store.Spares after.store) ∧
      ∀ name place body rest tried,
        Action.orNoMatch ((within depth).unify .binding term pattern) machine = .ok none tried ->
        ∃ next, machine.store.Spares next.store ∧
          (within depth).tryClauses name term place (⟨pattern, body⟩ :: rest) machine =
            (within depth).tryClauses name term (place + 1) rest next := by
  have spares := within_spares quiet depth term
  refine ⟨spares, ?_, ?_⟩
  · intro before mark subject after walked answered
    have failed := walkIsMatch_false walked answered
    rwa [Action.after_of_orNoMatch_none failed] at spares
  · intro name place body rest tried failed
    rw [Action.after_of_orNoMatch_none failed] at spares
    obtain ⟨next, same, skipped⟩ := tryClauses_skip name place ⟨pattern, body⟩ rest failed
    exact ⟨next, same ▸ spares, skipped⟩

/-- A machine on which `xs` is the list of one and two. The second cell is the
pattern of the first element of `xs` and of an `x` above three, and the third is a
tuple that it does not match. -/
def guardedMachine : Machine :=
  (Machine.fresh
    { Store.initial with
      cells := #[#[.none, .none], #[.integer 1, .integer 2],
        #[.index 1 (.identifier "xs") (.integer 0),
          .conditional 2 (.apply 3 (.identifier "__gt__") (.tuple ⟨4⟩)) (.identifier "x") .absent],
        #[.integer 9, .integer 3], #[.identifier "x", .integer 3]]
      nextMark := 4 }).bindName "xs" (.list ⟨1⟩)

theorem guardedMachine_pattern :
    guardedMachine.store.elements ⟨2⟩ =
      #[.index 1 (.identifier "xs") (.integer 0),
        .conditional 2 (.apply 3 (.identifier "__gt__") (.tuple ⟨4⟩)) (.identifier "x") .absent] :=
  rfl

theorem guardedMachine_operands :
    guardedMachine.store.elements ⟨4⟩ = #[.identifier "x", .integer 3] :=
  rfl

theorem guardedMachine_harmless :
    guardedMachine.store.Harmless (.apply 3 (.identifier "__gt__") (.tuple ⟨4⟩)) := by
  intro part reaches
  have listed := reaches.mem_of_closed
    [.apply 3 (.identifier "__gt__") (.tuple ⟨4⟩), .identifier "__gt__", .tuple ⟨4⟩,
      .identifier "x", .integer 3]
    (by simp [Term.contents, Term.parts, guardedMachine_operands]) List.mem_cons_self
  simp only [List.mem_cons, List.not_mem_nil, or_false] at listed
  rcases listed with rfl | rfl | rfl | rfl | rfl <;> exact ⟨rfl, rfl⟩

/-- The guard of `x` is harmless, and the index expression stands outside of it. -/
theorem guardedMachine_quiet : guardedMachine.store.Quiet (.tuple ⟨2⟩) := by
  refine .of_closed [.tuple ⟨2⟩, .index 1 (.identifier "xs") (.integer 0),
      .conditional 2 (.apply 3 (.identifier "__gt__") (.tuple ⟨4⟩)) (.identifier "x") .absent,
      .identifier "x"] ?_ List.mem_cons_self ?_ (by simp) ?_
  · simp [Term.subpatterns, Term.yielding, guardedMachine_pattern]
  · simp only [List.forall_mem_cons]
    exact ⟨rfl, rfl, rfl, rfl, fun _ none => absurd none List.not_mem_nil⟩
  · intro mark condition consequent alternative listed
    simp at listed
    obtain ⟨_, rfl, rfl, _⟩ := listed
    exact ⟨guardedMachine_harmless, Term.isUntargeted_identifier _ _⟩

/-- The guard refuses the tuple, and `xs` keeps its first element. -/
theorem matching_spares_data_of_guard :
    let attempt := (within 9).unify .binding (.tuple ⟨3⟩) (.tuple ⟨2⟩)
    (match attempt guardedMachine with
      | .ok _ _ => false
      | .error _ after => after.store.display (.list ⟨1⟩) == "[1,2]") = true ∧
      guardedMachine.store.Spares (attempt.after guardedMachine).store :=
  ⟨by decide +kernel,
    (matching_spares_data guardedMachine (.tuple ⟨3⟩) (.tuple ⟨2⟩) guardedMachine_quiet 9).1⟩

end Evaluator
end PatternMachine
