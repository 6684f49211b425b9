import PatternMachine.Proofs.Operation
import PatternMachine.Proofs.Sparing.Match

/-!
# Watched matches

A guard can run code that writes to the value that is matched, and to a pattern that was
quoted and is data. So what stands in them can be other than it was when their parts are
matched, and code can stand where a value is expected. A watched match gives up where
this shows. Where the value holds no code and the pattern is quiet, it never does.
-/

namespace PatternMachine

/-- Code where a value is expected: quoted terms, and calls that are not made. -/
def Term.isUnevaluated : Term -> Bool
  | .quote _ => true
  | .apply _ _ _ => true
  | _ => false

namespace Term

variable {term : Term}

theorem ne_quote_of_evaluated (evaluated : term.isUnevaluated = false) :
    ∀ inner, term ≠ .quote inner := by
  rintro inner rfl
  cases evaluated

theorem ne_apply_of_evaluated (evaluated : term.isUnevaluated = false) :
    ∀ mark callee argument, term ≠ .apply mark callee argument := by
  rintro mark callee argument rfl
  cases evaluated

theorem solid_of_evaluated (evaluated : term.isUnevaluated = false) :
    term.transparent? = Option.none := by
  cases term <;> first | rfl | cases evaluated

end Term

namespace Store

/-- Everything that can be met in a pattern leads on as it did before. -/
def SameInside (before now : Store) (pattern : Term) : Prop :=
  ∀ part, Term.Reaches (Term.yielding before) pattern part ->
    part.yielding now = part.yielding before

theorem SameInside.refl (store : Store) (pattern : Term) : store.SameInside store pattern :=
  fun _ _ => rfl

/-- There is no code inside the value, and its cells are in the store. -/
abbrev Evaluated (store : Store) (value : Term) : Prop :=
  store.Consists (fun part => !part.isUnevaluated) value

/-- As long as no cell changes, a value without code is found at the site. -/
def EvaluatedAt (store : Store) (site : Site) : Prop :=
  ∀ after, store.Keeps after -> after.Evaluated (after.find site)

/-- As long as no cell changes, a quiet pattern is found at the site. -/
def QuietAt (base : Store) (site : Site) : Prop :=
  ∀ store, base.Keeps store -> base.Quiet (store.find site)

namespace Evaluated

variable {store : Store} {value : Term}

/-- What is at hand is like that wherever it is used. -/
theorem given (evaluated : store.Evaluated value) : store.EvaluatedAt (.given value) :=
  fun _ keeps => evaluated.keeps keeps

/-- The elements of a value hold no code, wherever they stand. -/
theorem sites (evaluated : store.Evaluated value) :
    ∀ site ∈ store.sites value, store.EvaluatedAt site :=
  fun _ held _ keeps => (evaluated.part (find_yielding value held keeps)).keeps keeps

/-- A new list of values without code holds none. -/
theorem newList
    {elements : List Term}
    (each : ∀ element ∈ elements, store.Evaluated element) :
    (store.newCell elements.toArray).2.Evaluated
      (.list (store.newCell elements.toArray).1) := by
  refine .of_parts rfl (decide_eq_true (store.newCell_known elements.toArray)) ?_
  intro element held
  have inside : element ∈ elements := by
    rwa [Term.yielding, store.elements_newCell_self] at held
  exact (each element inside).keeps (.newCell _ _)

end Evaluated
end Store

namespace Evaluator

variable {self : Evaluator} {machine after : Machine} {term pattern : Term}
  {bindings : List Binding}

open Classical in
/-- Match as at a depth, but give up where a condition on the machine and the term in
hand fails. What a guard runs is evaluated as ever. -/
noncomputable def watched (fine : Machine -> Term -> Prop) : Nat -> Evaluator
  | 0 => within 0
  | depth + 1 =>
      { walk := (within (depth + 1)).walk
        unify := fun mode term pattern machine =>
          if fine machine term then
            unifyStep ⟨(within depth).walk, (watched fine depth).unify⟩ mode term pattern machine
          else .error .exhausted machine }

/-- Whenever a term is matched, everything in the pattern that is watched is as it was,
and the term is no code. -/
def Undisturbed (depth : Nat) (machine : Machine) (value pattern : Term) : Prop :=
  let fine (now : Machine) (term : Term) : Prop :=
    machine.store.SameInside now.store pattern ∧ term.isUnevaluated = false
  (watched fine depth).unify .binding value pattern machine =
    (within depth).unify .binding value pattern machine

section Watched

variable {fine : Machine -> Term -> Prop} {depth : Nat} {mode : Mode}

theorem watched_unify (holds : fine machine term) :
    (watched fine (depth + 1)).unify mode term pattern machine =
      unifyStep ⟨(within depth).walk, (watched fine depth).unify⟩ mode term pattern machine :=
  if_pos holds

/-- A match that does not give up has passed the watch. -/
theorem watched_eq_ok
    (matched : (watched fine (depth + 1)).unify mode term pattern machine = .ok bindings after) :
    fine machine term ∧
      unifyStep ⟨(within depth).walk, (watched fine depth).unify⟩ mode term pattern machine =
        .ok bindings after := by
  by_cases holds : fine machine term
  · rw [watched_unify holds] at matched
    exact ⟨holds, matched⟩
  · have gaveUp : (watched fine (depth + 1)).unify mode term pattern machine =
        .error .exhausted machine := if_neg holds
    rw [gaveUp] at matched
    cases matched

theorem watched_lawful {property : StackProperty} (depth : Nat) :
    (watched fine depth).IsLawful property := by
  induction depth with
  | zero => exact within_lawful 0
  | succ depth inductionHypothesis =>
      have steps : (⟨(within depth).walk, (watched fine depth).unify⟩ : Evaluator).IsLawful
          property :=
        { walk := (within_lawful depth).walk
          unify := inductionHypothesis.unify }
      refine
        { walk := (within_lawful (depth + 1)).walk
          unify := fun mode term pattern termRespects patternRespects machine respects => ?_ }
      by_cases holds : fine machine term
      · rw [watched_unify holds]
        exact unifyStep_lawful steps termRespects patternRespects machine respects
      · have gaveUp : (watched fine (depth + 1)).unify mode term pattern machine =
            .error .exhausted machine := if_neg holds
        rw [gaveUp]
        exact ⟨.refl machine, trivial⟩

/-- A match leaves the settings alone. -/
theorem settings_of_lawful
    (lawful : self.IsLawful .trivial)
    (matched : self.unify mode term pattern machine = .ok bindings after) :
    after.settings = machine.settings := by
  have evolves := lawful.unify mode term pattern term.respects_trivial pattern.respects_trivial
    machine machine.respects_trivial
  rw [matched] at evolves
  exact evolves.1.sameFrame.settings

end Watched

end Evaluator

/-! ## Actions that agree -/

namespace Action

variable {α β : Type} {machine : Machine}

/-- Run on the machine, the two actions do the same. -/
def Agrees (machine : Machine) (action other : Action α) : Prop :=
  action machine = other machine

namespace Agrees

theorem refl {action : Action α} : Agrees machine action action :=
  Eq.refl (action machine)

theorem bind
    {action other : Action α}
    {next otherNext : α -> Action β}
    (first : Agrees machine action other)
    (second : ∀ value after, other machine = .ok value after ->
      Agrees after (next value) (otherNext value)) :
    Agrees machine (action >>= next) (other >>= otherNext) := by
  unfold Agrees at first ⊢
  rw [bind_apply, bind_apply, first]
  cases run : other machine with
  | ok value after => exact second value after run
  | error stop after => rfl

/-- What was obtained in the same way is used. -/
theorem step
    {action : Action α}
    {next otherNext : α -> Action β}
    {value : α}
    {after : Machine}
    (run : action machine = .ok value after)
    (agrees : Agrees after (next value) (otherNext value)) :
    Agrees machine (action >>= next) (action >>= otherNext) := by
  unfold Agrees
  rw [bind_apply, bind_apply, run]
  exact agrees

theorem ensuring
    {action other : Action α}
    {cleanup : Machine -> Machine}
    (agrees : Agrees machine action other) :
    Agrees machine (Action.ensuring action cleanup) (Action.ensuring other cleanup) := by
  unfold Agrees at agrees ⊢
  rw [ensuring_apply, ensuring_apply, agrees]

theorem ite
    {condition : Prop}
    [Decidable condition]
    {first second firstOther secondOther : Action α}
    (whenTrue : Agrees machine first firstOther)
    (whenFalse : Agrees machine second secondOther) :
    Agrees machine (if condition then first else second)
      (if condition then firstOther else secondOther) := by
  by_cases decided : condition
  · rwa [if_pos decided, if_pos decided]
  · rwa [if_neg decided, if_neg decided]

end Agrees
end Action

/-! ## Matches that are not disturbed -/

namespace Evaluator

open PatternMachine.Action (Agrees)

variable {base : Store} {self other : Evaluator} {machine : Machine} {term pattern : Term}

/-- The evaluators evaluate alike, and match values without code against quiet patterns
alike as long as no cell changes. -/
structure MatchesLike (base : Store) (evaluator other : Evaluator) : Prop where
  walk : evaluator.walk = other.walk
  unify : ∀ {machine : Machine} {term pattern : Term}, base.Keeps machine.store ->
    machine.store.Evaluated term -> base.Quiet pattern ->
      Agrees machine (evaluator.unify .binding term pattern)
        (other.unify .binding term pattern)

/-- Bindings are committed by evaluation alone. -/
theorem declareAll_of_walk
    (same : self.walk = other.walk)
    (bindings : List Binding) :
    self.declareAll bindings = other.declareAll bindings := by
  have declared : self.declare = other.declare := by
    obtain ⟨walk, unify⟩ := self
    obtain rfl : walk = other.walk := same
    rfl
  induction bindings with
  | nil => rfl
  | cons binding rest inductionHypothesis =>
      rw [declareAll, declareAll, declared, inductionHypothesis]

section Alike

variable (alike : self.MatchesLike base other) (sparing : other.Spares base)
  (known : base.Keeps machine.store)
include alike sparing known

theorem unifyLinear_alike
    {terms patterns : List Site}
    (evaluated : ∀ site ∈ terms, machine.store.EvaluatedAt site)
    (quiet : ∀ site ∈ patterns, base.QuietAt site) :
    Agrees machine (self.unifyLinear .binding terms patterns)
      (other.unifyLinear .binding terms patterns) := by
  have each : ∀ (machine : Machine) (pairs : List (Site × Site)), base.Keeps machine.store ->
      (∀ pair ∈ pairs, machine.store.EvaluatedAt pair.1 ∧ base.QuietAt pair.2) ->
      Agrees machine (self.unifyEach .binding pairs) (other.unifyEach .binding pairs) := by
    intro machine pairs known fit
    induction pairs generalizing machine with
    | nil => exact .refl
    | cons pair rest inductionHypothesis =>
        obtain ⟨⟨termFits, patternFits⟩, restFits⟩ := List.forall_mem_cons.mp fit
        have quiet := patternFits _ known
        refine .step rfl (.step rfl ?_)
        refine .bind (alike.unify known (termFits _ (.refl _)) quiet) fun _ after run => ?_
        have keeps : machine.store.Keeps after.store := by
          have spares := (sparing.unify (machine.store.find pair.1) quiet).after known
          rw [Action.after_ok run] at spares
          exact spares.cells
        refine .bind (inductionHypothesis after (known.trans keeps) fun next held => ?_)
          fun _ _ _ => .refl
        exact ⟨fun later kept => (restFits next held).1 later (keeps.trans kept),
          (restFits next held).2⟩
  refine .bind (each machine _ known fun pair held => ?_) fun _ _ _ => .refl
  obtain ⟨termHeld, patternHeld⟩ := List.of_mem_zip held
  exact ⟨evaluated _ termHeld, quiet _ patternHeld⟩

/-- The elements of a value and of a quiet pattern are matched alike. -/
theorem unifyElements_alike
    {terms : List Site}
    (evaluated : ∀ site ∈ terms, machine.store.EvaluatedAt site)
    (quiet : base.Quiet pattern) :
    Agrees machine (self.unifyLinear .binding terms (machine.store.sites pattern))
      (other.unifyLinear .binding terms (machine.store.sites pattern)) := by
  rw [Store.sites_keeps known (quiet.placed _ .here)]
  refine unifyLinear_alike alike sparing known evaluated fun site held store keeps => ?_
  exact quiet.part (Term.mem_subpatterns_of_yielding (Store.find_yielding pattern held keeps))

omit sparing in
theorem unifyGuarded_alike
    {mark : Mark}
    {condition consequent alternative : Term}
    (evaluated : machine.store.Evaluated term)
    (quiet : base.Quiet (.conditional mark condition consequent alternative)) :
    Agrees machine (self.unifyGuarded .binding term mark condition consequent alternative)
      (other.unifyGuarded .binding term mark condition consequent alternative) := by
  have consequentQuiet : base.Quiet consequent :=
    quiet.part (by simp [Term.subpatterns, Term.yielding])
  refine .ite .refl ?_
  refine .bind (alike.unify known evaluated consequentQuiet) fun bindings _ _ => ?_
  simp only [declareAll_of_walk alike.walk, alike.walk]
  exact .refl

theorem unifyHeadTail_alike
    {raw : Bool}
    {mark : Mark}
    {head tail : Term}
    (evaluated : machine.store.Evaluated term)
    (quiet : base.Quiet (.headTail raw mark head tail)) :
    Agrees machine (self.unifyHeadTail .binding term head tail)
      (other.unifyHeadTail .binding term head tail) := by
  have quietBoth : ∀ site ∈ [Site.given head, .given tail], base.QuietAt site := by
    have parts : ∀ part ∈ [head, tail], base.Quiet part := fun _ held => quiet.part held
    refine List.forall_mem_cons.mpr ⟨fun _ _ => parts head (by simp), ?_⟩
    exact List.forall_mem_singleton.mpr fun _ _ => parts tail (by simp)
  unfold unifyHeadTail
  split
  · refine .step rfl ?_
    split
    · exact .refl
    · rename_i cell _ first rest spelled
      have among : ∀ element ∈ first :: rest, machine.store.Evaluated element :=
        fun element held => evaluated.part (show element ∈ (machine.store.elements cell).toList
          from spelled ▸ held)
      have keeps : machine.store.Keeps (machine.store.newCell rest.toArray).2 := .newCell _ _
      refine .step (Action.newList_apply rest machine) ?_
      refine unifyLinear_alike alike sparing (known.trans keeps) ?_ quietBoth
      refine List.forall_mem_cons.mpr
        ⟨Store.Evaluated.given ((among first List.mem_cons_self).keeps keeps), ?_⟩
      refine List.forall_mem_singleton.mpr (Store.Evaluated.newList fun element held => ?_).given
      exact among element (List.mem_cons_of_mem first held)
  · exact .refl
  · contradiction
  · exact .refl

theorem unifyConstructor_alike
    {owner : Option Template}
    {memory : CellRef}
    {mark : Mark}
    {callee argument : Term}
    (evaluated : machine.store.Evaluated (.object owner memory))
    (quiet : base.Quiet (.apply mark callee argument)) :
    Agrees machine (self.unifyConstructor .binding owner memory callee argument)
      (other.unifyConstructor .binding owner memory callee argument) := by
  have argumentQuiet : base.Quiet argument :=
    quiet.part (by simp [Term.subpatterns, Term.yielding])
  have member : ∀ slot : Nat, machine.store.Evaluated
      ((machine.store.elements memory)[slot]?.getD .absent) := by
    intro slot
    cases found : (machine.store.elements memory)[slot]? with
    | none => exact .of_parts rfl rfl fun _ inside => absurd inside List.not_mem_nil
    | some value => exact evaluated.part (Array.mem_toList_iff.mpr (Array.mem_of_getElem? found))
  unfold unifyConstructor
  split
  · refine .ite .refl ?_
    split
    · exact .refl
    · refine .step rfl ?_
      dsimp only
      split
      · refine .ite .refl (unifyElements_alike alike sparing known ?_ argumentQuiet)
        intro site held
        obtain ⟨slot, _, rfl⟩ := List.mem_map.mp held
        exact (member slot).given
      · split
        · exact .refl
        · exact alike.unify known (member _) argumentQuiet
  · exact .refl

theorem unifyLists_alike
    (evaluated : machine.store.Evaluated term)
    (quiet : base.Quiet pattern) :
    Agrees machine (self.unifyLists .binding term pattern)
      (other.unifyLists .binding term pattern) := by
  have elements := unifyElements_alike alike sparing known evaluated.sites quiet
  have compound : Agrees machine (self.unifyCompound .binding term pattern)
      (other.unifyCompound .binding term pattern) := by
    refine .step rfl ?_
    split
    · exact .ite .refl elements
    · split
      · exact unifyConstructor_alike alike sparing known evaluated quiet
      · contradiction
      · exact .refl
  unfold unifyLists
  dsimp only
  split
  · exact .step rfl (.ite .refl elements)
  · exact .refl
  · exact .refl
  · exact compound

theorem unifyIndirect_alike
    (evaluated : machine.store.Evaluated term)
    (quiet : base.Quiet pattern) :
    Agrees machine (self.unifyIndirect .binding term pattern)
      (other.unifyIndirect .binding term pattern) := by
  unfold unifyIndirect
  split
  · exact unifyHeadTail_alike alike sparing known evaluated quiet
  · exact .refl
  · exact absurd .here (quiet.direct _ _)
  · rename_i mark inner
    have innerQuiet : base.Quiet inner := quiet.part (by simp [Term.subpatterns])
    refine .step rfl ?_
    exact .bind (.ensuring (alike.unify known evaluated innerQuiet)) fun _ _ _ => .refl
  · exact unifyLists_alike alike sparing known evaluated quiet

/-- A value is no quote, so only the pattern is looked through. -/
theorem unifyQuoted_alike
    (evaluated : machine.store.Evaluated term)
    (quiet : base.Quiet pattern) :
    Agrees machine (self.unifyQuoted .binding term pattern)
      (other.unifyQuoted .binding term pattern) := by
  have indirect := unifyIndirect_alike alike sparing known evaluated quiet
  have unquoted := (evaluated term .here).1
  unfold unifyQuoted
  split
  · simp [Term.isUnevaluated] at unquoted
  · exact alike.unify known evaluated (quiet.part (by simp [Term.subpatterns, Term.yielding]))
  · exact indirect
  · exact indirect
  · simp [Term.isUnevaluated] at unquoted
  · exact indirect

theorem unifyObjects_alike
    (evaluated : machine.store.Evaluated term)
    (quiet : base.Quiet pattern) :
    Agrees machine (self.unifyObjects .binding term pattern)
      (other.unifyObjects .binding term pattern) := by
  have literal : Agrees machine (self.unifyLiteral .binding term pattern)
      (other.unifyLiteral .binding term pattern) := by
    unfold unifyLiteral
    split
    · exact .refl
    · exact .refl
    · split
      · exact .refl
      · exact .refl
      · exact unifyQuoted_alike alike sparing known evaluated quiet
  have decorated : Agrees machine (self.unifyDecorated .binding term pattern)
      (other.unifyDecorated .binding term pattern) := by
    unfold unifyDecorated
    split
    · refine .bind (alike.unify known evaluated ?_) fun _ _ _ => .refl
      exact quiet.part (by simp [Term.subpatterns, Term.yielding])
    · exact .refl
    · exact unifyGuarded_alike alike known evaluated quiet
    · split
      · contradiction
      · exact literal
  unfold unifyObjects
  split
  · refine .step rfl (.ite .refl (.ite .refl ?_))
    exact unifyElements_alike alike sparing known evaluated.sites quiet
  · exact .refl
  · exact decorated

/-- One step of matching a value against a quiet pattern does the same. -/
theorem unifyStep_alike
    (evaluated : machine.store.Evaluated term)
    (quiet : base.Quiet pattern) :
    Agrees machine (self.unifyStep .binding term pattern)
      (other.unifyStep .binding term pattern) := by
  refine .ite .refl ?_
  split
  · exact .refl
  · split
    · contradiction
    · contradiction
    · exact .ite .refl (.ite .refl (unifyObjects_alike alike sparing known evaluated quiet))

end Alike

/-- A watched match of a value without code against a quiet pattern does not give up. -/
theorem watched_alike
    {root : Term}
    (whole : base.Quiet root)
    (depth : Nat) :
    (watched (fun now term => base.SameInside now.store root ∧ term.isUnevaluated = false)
      depth).MatchesLike base (within depth) := by
  induction depth with
  | zero => exact ⟨rfl, fun _ _ _ => .refl⟩
  | succ depth inductionHypothesis =>
      have alike : MatchesLike base ⟨(within depth).walk, (watched (fun now term =>
          base.SameInside now.store root ∧ term.isUnevaluated = false) depth).unify⟩
          (within depth) :=
        ⟨rfl, inductionHypothesis.unify⟩
      refine ⟨rfl, fun known evaluated quiet => ?_⟩
      refine (watched_unify ⟨fun part reaches => ?_, ?_⟩).trans
        (unifyStep_alike alike (within_sparing depth) known evaluated quiet)
      · refine Store.yielding_keeps known (whole.placed part ?_)
        exact reaches.mono fun _ _ => Term.mem_subpatterns_of_yielding
      · simpa using (evaluated _ .here).1

/-- Nothing disturbs the match of a value without code against a quiet pattern. -/
theorem undisturbed_of_quiet
    {value : Term}
    (evaluated : machine.store.Evaluated value)
    (quiet : machine.store.Quiet pattern)
    (depth : Nat) :
    Undisturbed depth machine value pattern :=
  (watched_alike quiet depth).unify (.refl _) evaluated quiet

end Evaluator
end PatternMachine
