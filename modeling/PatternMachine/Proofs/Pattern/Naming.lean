import PatternMachine.Proofs.Pattern.Success
import PatternMachine.Proofs.Pattern.Watching

/-!
# The names a match binds

A match that succeeds binds the names of its pattern, each once and in their order,
whatever the value. This asks for two things. The pattern is still the same when its
parts are matched: a guard can run code that writes to a pattern that was quoted and
is data. And the value holds no code: a quote is looked into, and a call that is not
made is only compared with the pattern of a constructor, so that no name is bound.
-/

namespace PatternMachine

/-- Whether the parts of a term stand at sites. -/
def Term.isContainer : Term -> Bool
  | .list _ => true
  | .tuple _ => true
  | .pair _ _ => true
  | .object _ _ => true
  | _ => false

/-- Patterns that are no names and hold no patterns that yield bindings. -/
def Term.isAtom : Term -> Bool
  | .list _ => false
  | .tuple _ => false
  | .pair _ _ => false
  | .headTail _ _ _ _ => false
  | .apply _ _ _ => false
  | .conditional _ _ _ _ => false
  | .named _ _ _ => false
  | .quote _ => false
  | .deref _ _ => false
  | .identifier _ => false
  | .object _ _ => false
  | _ => true

namespace Store

variable {before now later : Store} {root pattern : Term}

/-- The parts of a container are found where they stand. -/
theorem SameInside.map_find
    (same : before.SameInside now root)
    (sameLater : before.SameInside later root)
    (reaches : Term.Reaches (Term.yielding before) root pattern)
    (container : pattern.isContainer = true) :
    (now.sites pattern).map later.find = pattern.yielding before := by
  have inCell : ∀ cell : CellRef,
      (now.elements cell).toList = (before.elements cell).toList ->
      (later.elements cell).toList = (before.elements cell).toList ->
      (now.places cell).map later.find = (before.elements cell).toList := by
    intro cell here there
    have elements : now.elements cell = later.elements cell :=
      Array.toList_inj.mp (here.trans there.symm)
    have places : now.places cell = later.places cell := by rw [Store.places, elements]; rfl
    rw [places, ← there]
    exact later.spreads_places cell later (.refl later)
  cases pattern with
  | list cell => exact inCell cell (same _ reaches) (sameLater _ reaches)
  | tuple cell => exact inCell cell (same _ reaches) (sameLater _ reaches)
  | object owner memory => exact inCell memory (same _ reaches) (sameLater _ reaches)
  | pair first second => rfl
  | _ => simp [Term.isContainer] at container

/-- The parts of a tuple or pair stand at as many sites. -/
theorem length_sites
    {store : Store}
    {parts : List Term}
    (elements : store.tupleElements? pattern = some parts) :
    (store.sites pattern).length = parts.length := by
  cases pattern with
  | tuple cell =>
      obtain rfl := Option.some.inj elements
      simp [sites, places]
  | pair first second =>
      obtain rfl := Option.some.inj elements
      rfl
  | _ => cases elements

theorem isContainer_of_tupleElements?
    {store : Store}
    {parts : List Term}
    (elements : store.tupleElements? pattern = some parts) :
    pattern.isContainer = true ∧ pattern.ownNames = [] := by
  cases pattern <;> first | exact ⟨rfl, rfl⟩ | cases elements

end Store

namespace Evaluator

variable {self : Evaluator} {machine after : Machine} {term pattern : Term}
  {bindings : List Binding}

/-! ## Patterns that bind nothing -/

/-- Whatever bindings the action yields, they bind no names. -/
def Nameless (action : Action (List Binding)) : Prop :=
  ∀ machine bindings after, action machine = .ok bindings after -> Binding.names bindings = []

theorem Nameless.pure (nameless : Binding.names bindings = []) : Nameless (pure bindings) := by
  rintro machine _ after ⟨⟩
  exact nameless

theorem Nameless.raise {kind : ErrorKind} {message : String} :
    Nameless (Action.raise kind message) := by
  rintro machine _ after ⟨⟩

theorem Nameless.bind
    {α : Type}
    {action : Action α}
    {next : α -> Action (List Binding)}
    (nameless : ∀ value, Nameless (next value)) :
    Nameless (action >>= next) := by
  intro machine bindings after run
  obtain ⟨value, middle, _, run⟩ := Action.bind_eq_ok.mp run
  exact nameless value middle bindings after run

theorem Nameless.ite
    {condition : Prop}
    [Decidable condition]
    {first second : Action (List Binding)}
    (whenTrue : Nameless first)
    (whenFalse : Nameless second) :
    Nameless (if condition then first else second) := by
  split
  · exact whenTrue
  · exact whenFalse

theorem unifyText_nameless {text regex : String} : Nameless (unifyText text regex) := by
  unfold unifyText
  split
  · exact .raise
  · exact .ite (.pure rfl) .raise

theorem unifyRegex_nameless {mode : Mode} {regex : String} :
    Nameless (unifyRegex mode term regex) := by
  unfold unifyRegex
  split
  · exact unifyText_nameless
  · exact .bind fun _ => .ite .raise (.bind fun _ => unifyText_nameless)

theorem unifyType_nameless {mode : Mode} {typeName : String} :
    Nameless (unifyType mode term typeName) := by
  unfold unifyType
  dsimp only
  split
  · exact .ite (.pure rfl) .raise
  · refine .ite ?_ (.ite ?_ (.ite (.ite (.pure rfl) .raise) (.bind fun found => ?_)))
    · split
      · exact .pure rfl
      · exact .pure rfl
      · exact .raise
    · split
      · exact .pure rfl
      · exact .raise
    · split
      · exact .ite (.pure rfl) .raise
      · exact .raise

theorem unifyEqual_nameless : Nameless (unifyEqual term pattern) :=
  .bind fun _ => .ite (.pure rfl) (.bind fun _ => .bind fun _ => .raise)

theorem unifyCompound_nameless (atom : pattern.isAtom = true) :
    Nameless (self.unifyCompound .binding term pattern) := by
  refine .bind fun store => ?_
  split
  · rename_i elements
    cases pattern <;> simp [Term.isAtom, Store.tupleElements?] at atom elements
  · split
    · simp [Term.isAtom] at atom
    · contradiction
    · exact unifyEqual_nameless

theorem unifyLists_nameless (atom : pattern.isAtom = true) :
    Nameless (self.unifyLists .binding term pattern) := by
  unfold unifyLists
  dsimp only
  split
  · simp [Term.isAtom] at atom
  · exact .raise
  · exact .raise
  · exact unifyCompound_nameless atom

/-- An index expression is bound, but it is no name; a constraint drops the bindings of
the pattern inside. -/
theorem unifyIndirect_nameless (atom : pattern.isAtom = true) :
    Nameless (self.unifyIndirect .binding term pattern) := by
  unfold unifyIndirect
  split
  · simp [Term.isAtom] at atom
  · exact .pure rfl
  · simp [Term.isAtom] at atom
  · exact .bind fun _ => .bind fun _ => .pure rfl
  · exact unifyLists_nameless atom

theorem unifyLiteral_nameless
    (atom : pattern.isAtom = true)
    (evaluated : term.isUnevaluated = false) :
    Nameless (self.unifyLiteral .binding term pattern) := by
  unfold unifyLiteral
  split
  · exact .pure rfl
  · exact .bind fun _ => .bind fun _ => .raise
  · split
    · exact .pure rfl
    · exact .pure rfl
    · unfold unifyQuoted
      split
      · simp [Term.isAtom] at atom
      · simp [Term.isAtom] at atom
      · exact unifyIndirect_nameless atom
      · exact unifyIndirect_nameless atom
      · simp [Term.isUnevaluated] at evaluated
      · exact unifyIndirect_nameless atom

/-- A pattern that is no name and holds none binds no name. -/
theorem unifyStep_nameless
    (atom : pattern.isAtom = true)
    (evaluated : term.isUnevaluated = false) :
    Nameless (self.unifyStep .binding term pattern) := by
  refine .ite .raise ?_
  split
  · simp [Term.isAtom] at atom
  · split
    · contradiction
    · contradiction
    · refine .ite .raise (.ite .raise ?_)
      unfold unifyObjects
      split
      · simp [Term.isAtom] at atom
      · exact unifyRegex_nameless
      · unfold unifyDecorated
        split
        · simp [Term.isAtom] at atom
        · exact unifyType_nameless
        · simp [Term.isAtom] at atom
        · split
          · contradiction
          · exact unifyLiteral_nameless atom evaluated

/-! ## The names a match binds -/

/-- The bindings bind the names of the pattern, and none twice unless the settings allow
it. -/
def BindsNames (store : Store) (level : Nat) (pattern : Term) (settings : Settings)
    (bindings : List Binding) : Prop :=
  store.binders? level pattern = some (Binding.names bindings) ∧
    (settings.allowNonLinear = false -> (Binding.names bindings).Nodup)

/-- The evaluator watches a pattern, and its matches against the patterns inside bind
their names. -/
structure BindsInside (evaluator : Evaluator) (before : Store) (root : Term) (level : Nat) :
    Prop where
  settings : ∀ {machine after : Machine} {term pattern : Term} {bindings : List Binding},
    evaluator.unify .binding term pattern machine = .ok bindings after ->
      after.settings = machine.settings
  watches : ∀ {machine after : Machine} {term pattern : Term} {bindings : List Binding},
    evaluator.unify .binding term pattern machine = .ok bindings after ->
      before.SameInside machine.store root
  names : ∀ {machine after : Machine} {term pattern : Term} {bindings : List Binding},
    Term.Reaches (Term.yielding before) root pattern ->
      evaluator.unify .binding term pattern machine = .ok bindings after ->
        BindsNames before level pattern machine.settings bindings

section BindsInside

variable {before : Store} {root : Term} {level : Nat}

theorem BindsNames.mono
    {deeper : Nat}
    {settings : Settings}
    (deep : level ≤ deeper)
    (binds : BindsNames before level pattern settings bindings) :
    BindsNames before deeper pattern settings bindings :=
  ⟨Store.binders?_mono deep binds.1, binds.2⟩

/-- A pattern without a name of its own binds the names of the only pattern inside. -/
theorem BindsNames.through
    {inner : Term}
    {settings : Settings}
    (inside : pattern.yielding before = [inner])
    (nameless : pattern.ownNames = [])
    (binds : BindsNames before level inner settings bindings) :
    BindsNames before (level + 1) pattern settings bindings := by
  refine ⟨Store.binders?_succ.mpr ⟨[Binding.names bindings], ?_, ?_⟩, binds.2⟩
  · rw [inside]
    exact List.mapM_cons_eq_some.mpr ⟨_, [], binds.1, rfl, rfl⟩
  · simp [nameless]

/-- A pattern without patterns inside binds its own name. -/
theorem BindsNames.leaf
    {settings : Settings}
    (inside : pattern.yielding before = [])
    (own : Binding.names bindings = pattern.ownNames)
    (short : pattern.ownNames.length ≤ 1) :
    BindsNames before (level + 1) pattern settings bindings := by
  refine ⟨own ▸ Store.binders?_leaf inside, fun _ => own ▸ ?_⟩
  match pattern.ownNames, short with
  | [], _ => exact .nil
  | [name], _ => exact by simp

namespace BindsInside

variable (binds : self.BindsInside before root level)
include binds

/-- Patterns that are matched one by one bind their names in their order. -/
theorem unifyEach
    {terms sites : List Site}
    {patterns : List Term}
    (found : ∀ now, before.SameInside now root -> sites.map now.find = patterns)
    (reached : ∀ part ∈ patterns, Term.Reaches (Term.yielding before) root part)
    (lengths : terms.length = sites.length)
    (matched : self.unifyEach .binding (terms.zip sites) machine = .ok bindings after) :
    after.settings = machine.settings ∧
      ∃ inner, patterns.mapM (before.binders? level) = some inner ∧
        inner.flatten = Binding.names bindings := by
  induction sites generalizing terms patterns machine bindings with
  | nil =>
      obtain rfl : [] = patterns := found before (.refl before root)
      obtain rfl := List.length_eq_zero_iff.mp lengths
      obtain ⟨rfl, rfl⟩ := EStateM.Result.ok.inj matched
      exact ⟨rfl, [], rfl, rfl⟩
  | cons site rest inductionHypothesis =>
      cases terms with
      | nil => cases lengths
      | cons termSite terms =>
          obtain ⟨first, middle, others, matchedFirst, matchedRest, rfl⟩ :=
            unifyEach_cons_eq_ok.mp matched
          -- The pattern that is looked up now is the one that stood there at first.
          have here := found machine.store (binds.watches matchedFirst)
          cases patterns with
          | nil => cases here
          | cons part parts =>
              obtain ⟨rfl, _⟩ := List.cons.inj here
              obtain ⟨reachedFirst, reachedRest⟩ := List.forall_mem_cons.mp reached
              obtain ⟨kept, inner, inside, joined⟩ := inductionHypothesis
                (fun now same => (List.cons.inj (found now same)).2) reachedRest
                (Nat.succ.inj lengths) matchedRest
              refine ⟨kept.trans (binds.settings matchedFirst), _,
                List.mapM_cons_eq_some.mpr
                  ⟨_, inner, (binds.names reachedFirst matchedFirst).1, inside, rfl⟩, ?_⟩
              simp [joined, Binding.names]

/-- A pattern whose parts are matched one by one binds their names. -/
theorem unifyLinear
    {terms sites : List Site}
    (nameless : pattern.ownNames = [])
    (found : ∀ now, before.SameInside now root -> sites.map now.find = pattern.yielding before)
    (reaches : Term.Reaches (Term.yielding before) root pattern)
    (lengths : terms.length = sites.length)
    (matched : self.unifyLinear .binding terms sites machine = .ok bindings after) :
    BindsNames before (level + 1) pattern machine.settings bindings := by
  obtain ⟨each, distinct⟩ := unifyLinear_eq_ok matched
  obtain ⟨kept, inner, inside, joined⟩ := binds.unifyEach found
    (fun part held => reaches.inside held) lengths each
  refine ⟨Store.binders?_succ.mpr ⟨inner, inside, by simp [nameless, joined]⟩, ?_⟩
  rw [← kept]
  exact distinct rfl

variable (reaches : Term.Reaches (Term.yielding before) root pattern)
  (same : before.SameInside machine.store root)
  (evaluated : term.isUnevaluated = false)
include reaches same evaluated

/-- A match against a container binds the names of its parts. -/
theorem container
    (container : pattern.isContainer = true)
    (matched : self.unifyStep .binding term pattern machine = .ok bindings after) :
    BindsNames before (level + 1) pattern machine.settings bindings := by
  have solid := Term.solid_of_evaluated evaluated
  have found : ∀ now, before.SameInside now root ->
      (machine.store.sites pattern).map now.find = pattern.yielding before :=
    fun now sameNow => same.map_find sameNow reaches container
  have ofTuple : ∀ patterns, machine.store.tupleElements? pattern = some patterns ->
      BindsNames before (level + 1) pattern machine.settings bindings := by
    intro patterns elements
    obtain ⟨terms, termElements, lengths, matched⟩ := unifyStep_tuple_eq_ok solid elements matched
    refine binds.unifyLinear (Store.isContainer_of_tupleElements? elements).2 found reaches ?_
      matched
    rw [Store.length_sites termElements, Store.length_sites elements, lengths]
  cases pattern with
  | list patternCell =>
      obtain ⟨cell, rfl, lengths, matched⟩ := unifyStep_list_eq_ok solid matched
      refine binds.unifyLinear rfl found reaches ?_ matched
      simpa [Store.sites, Store.places] using lengths
  | tuple cell => exact ofTuple _ rfl
  | pair first second => exact ofTuple _ rfl
  | object patternOwner patternMemory =>
      obtain ⟨owner, memory, rfl, lengths, matched⟩ :=
        unifyStep_object_eq_ok (Term.ne_quote_of_evaluated evaluated) matched
      refine binds.unifyLinear rfl found reaches ?_ matched
      simpa [Store.sites, Store.places] using lengths
  | _ => cases container

/-- A match against the pattern of a constructor binds the names of its argument. -/
theorem constructor
    {mark : Mark}
    {callee argument : Term}
    (shape : pattern = .apply mark callee argument)
    (matched : self.unifyStep .binding term pattern machine = .ok bindings after) :
    BindsNames before (level + 2) pattern machine.settings bindings := by
  subst shape
  have reachesArgument : Term.Reaches (Term.yielding before) root argument :=
    reaches.inside List.mem_cons_self
  obtain ⟨owner, memory, rfl, constructed⟩ :=
    unifyStep_apply_eq_ok (Term.ne_quote_of_evaluated evaluated)
      (Term.ne_apply_of_evaluated evaluated) matched
  rcases unifyConstructor_eq_ok constructed with
    ⟨members, patterns, elements, lengths, matched⟩ | ⟨member, matched⟩
  · obtain ⟨container, nameless⟩ := Store.isContainer_of_tupleElements? elements
    have inside : BindsNames before (level + 1) argument machine.settings bindings := by
      refine binds.unifyLinear nameless ?_ reachesArgument ?_ matched
      · exact fun now sameNow => same.map_find sameNow reachesArgument container
      · rw [Store.length_sites elements, lengths]
    exact inside.through rfl rfl
  · exact ((binds.names reachesArgument matched).mono (Nat.le_succ level)).through rfl rfl

/-- A match binds the names of its pattern, whatever rule applies. -/
theorem step
    (noReference : ∀ mark expression, pattern ≠ .deref mark expression)
    (matched : self.unifyStep .binding term pattern machine = .ok bindings after) :
    BindsNames before (level + 2) pattern machine.settings bindings := by
  have oneMore : level + 1 ≤ level + 2 := Nat.le_succ _
  cases pattern with
  | identifier name =>
      cases absent : term.isAbsent with
      | true => exact ((unifyStep_absent absent).not_ok matched).elim
      | false =>
          rw [unifyStep_identifier absent] at matched
          obtain ⟨rfl, rfl⟩ := EStateM.Result.ok.inj matched
          refine .leaf rfl ?_ ?_ <;> by_cases blank : name = "_" <;>
            simp [blank, Term.ownNames, Binding.names, Binding.name?]
  | named mark name inner =>
      obtain ⟨first, middle, inside, rfl, distinct⟩ := unifyStep_named_eq_ok matched
      have bound := binds.names (reaches.inside List.mem_cons_self) inside
      have joined : Binding.names (first ++ [⟨.identifier name, term⟩]) =
          Binding.names first ++ [name] := by
        simp [Binding.names, Binding.name?]
      refine BindsNames.mono oneMore ⟨?_, binds.settings inside ▸ distinct⟩
      refine Store.binders?_succ.mpr
        ⟨[Binding.names first], List.mapM_cons_eq_some.mpr ⟨_, [], bound.1, rfl, rfl⟩, ?_⟩
      simp [joined, Term.ownNames]
  | conditional mark condition consequent alternative =>
      obtain ⟨middle, inside⟩ := unifyStep_guarded_eq_ok matched
      have bound := binds.names (reaches.inside List.mem_cons_self) inside
      exact (bound.through rfl rfl).mono oneMore
  | quote inner =>
      have inside := unifyStep_quote_eq_ok (Term.ne_quote_of_evaluated evaluated) matched
      have bound := binds.names (reaches.inside List.mem_cons_self) inside
      exact (bound.through rfl rfl).mono oneMore
  | headTail raw mark head tail =>
      obtain ⟨cell, first, rest, split, rfl, _, _, kept, matched⟩ :=
        unifyStep_headTail_eq_ok (Term.solid_of_evaluated evaluated) matched
      rw [← kept]
      refine (binds.unifyLinear rfl ?_ reaches ?_ matched).mono oneMore
      · exact fun now _ => rfl
      · rfl
  | apply mark callee argument => exact binds.constructor reaches same evaluated rfl matched
  | list cell => exact (binds.container reaches same evaluated rfl matched).mono oneMore
  | tuple cell => exact (binds.container reaches same evaluated rfl matched).mono oneMore
  | pair first second => exact (binds.container reaches same evaluated rfl matched).mono oneMore
  | object owner memory => exact (binds.container reaches same evaluated rfl matched).mono oneMore
  | deref mark expression => exact absurd rfl (noReference mark expression)
  | _ =>
      have nameless := unifyStep_nameless rfl evaluated machine bindings after matched
      exact .leaf rfl nameless (Nat.zero_le 1)

end BindsInside
end BindsInside

/-- A watched evaluator matches the patterns inside the pattern it watches as they
should be. -/
theorem watched_bindsInside
    {before : Store}
    {root : Term}
    (noReferences : ∀ mark expression,
      ¬ Term.Reaches (Term.yielding before) root (.deref mark expression))
    (depth : Nat) :
    (watched (fun now term => before.SameInside now.store root ∧ term.isUnevaluated = false)
      depth).BindsInside before root (2 * depth) := by
  induction depth with
  | zero =>
      exact
        { settings := fun matched => by cases matched
          watches := fun matched => by cases matched
          names := fun _ matched => by cases matched }
  | succ depth inductionHypothesis =>
      have steps : (⟨(within depth).walk, (watched (fun now term =>
          before.SameInside now.store root ∧ term.isUnevaluated = false) depth).unify⟩ :
            Evaluator).BindsInside before root (2 * depth) :=
        { settings := inductionHypothesis.settings
          watches := inductionHypothesis.watches
          names := inductionHypothesis.names }
      refine
        { settings := settings_of_lawful (watched_lawful (depth + 1))
          watches := fun matched => (watched_eq_ok matched).1.1
          names := fun reaches matched => ?_ }
      obtain ⟨⟨same, evaluated⟩, matched⟩ := watched_eq_ok matched
      refine steps.step reaches same evaluated ?_ matched
      rintro mark expression rfl
      exact noReferences mark expression reaches

/-- A match that succeeds binds the names of the pattern, in the order in which they stand
in it, whatever the value; and it binds no name twice, unless the settings allow it. -/
theorem names_of_match
    {depth : Nat}
    {value : Term}
    (noReferences : ∀ mark expression,
      ¬ Term.Reaches (Term.yielding machine.store) pattern (.deref mark expression))
    (undisturbed : Undisturbed depth machine value pattern)
    (matched : (within depth).unify .binding value pattern machine = .ok bindings after) :
    machine.store.binders? (2 * depth) pattern = some (Binding.names bindings) ∧
      (machine.settings.allowNonLinear = false -> (Binding.names bindings).Nodup) :=
  (watched_bindsInside noReferences depth).names .here (undisturbed.trans matched)

/-- A machine with a pair of numbers, and with the pattern of a pair whose first part has
the guard true. -/
def guardedPairMachine : Machine where
  store :=
    { cells := #[
        #[.integer 1, .integer 2],
        #[.conditional 0 (.boolean true) (.identifier "x") .absent, .identifier "y"]]
      scopes := #[{}]
      globals := #[[]]
      nextMark := 1 }
  scopes := #[⟨0⟩]
  globals := #[⟨0⟩]

/-- The numbers hold no code. -/
theorem guardedPairMachine_evaluated :
    guardedPairMachine.store.Evaluated (.tuple ⟨0⟩) := by
  intro part reaches
  have listed := reaches.mem_of_closed [.tuple ⟨0⟩, .integer 1, .integer 2]
    (by simp [guardedPairMachine, Term.yielding, Store.elements]) List.mem_cons_self
  simp only [List.mem_cons, List.not_mem_nil, or_false] at listed
  rcases listed with rfl | rfl | rfl <;> exact ⟨rfl, rfl⟩

/-- The guard true is harmless, and what it guards is a name. -/
theorem guardedPairMachine_quiet : guardedPairMachine.store.Quiet (.tuple ⟨1⟩) := by
  refine .of_closed [.tuple ⟨1⟩, .conditional 0 (.boolean true) (.identifier "x") .absent,
      .identifier "y", .identifier "x"] ?_ List.mem_cons_self ?_ (by simp) ?_
  · simp [guardedPairMachine, Term.subpatterns, Term.yielding, Store.elements]
  · simp only [List.forall_mem_cons]
    exact ⟨rfl, rfl, rfl, rfl, fun _ none => absurd none List.not_mem_nil⟩
  · intro mark condition consequent alternative listed
    simp at listed
    obtain ⟨_, rfl, rfl, _⟩ := listed
    refine ⟨fun part met => ?_, Term.isUntargeted_identifier _ _⟩
    obtain rfl : part = .boolean true := by
      simpa using met.mem_of_closed [.boolean true] (by simp [Term.contents, Term.parts])
        List.mem_cons_self
    exact ⟨rfl, rfl⟩

/-- The match of the pair binds both names. -/
theorem names_of_match_of_guard :
    ∃ bindings after,
      (within 3).unify .binding (.tuple ⟨0⟩) (.tuple ⟨1⟩) guardedPairMachine =
          .ok bindings after ∧
        guardedPairMachine.store.binders? 6 (.tuple ⟨1⟩) = some (Binding.names bindings) ∧
        (Binding.names bindings).Nodup := by
  have noReferences : ∀ mark expression,
      ¬ Term.Reaches (Term.yielding guardedPairMachine.store) (.tuple ⟨1⟩)
        (.deref mark expression) := fun mark expression reaches =>
    guardedPairMachine_quiet.direct mark expression
      (reaches.mono fun _ _ => Term.mem_subpatterns_of_yielding)
  have undisturbed : Undisturbed 3 guardedPairMachine (.tuple ⟨0⟩) (.tuple ⟨1⟩) :=
    undisturbed_of_quiet guardedPairMachine_evaluated guardedPairMachine_quiet 3
  obtain ⟨bindings, after, matched⟩ : ∃ bindings after,
      (within 3).unify .binding (.tuple ⟨0⟩) (.tuple ⟨1⟩) guardedPairMachine =
        .ok bindings after := ⟨_, _, rfl⟩
  obtain ⟨bound, distinct⟩ := names_of_match noReferences undisturbed matched
  exact ⟨bindings, after, matched, bound, distinct rfl⟩

/-- A machine with a list of two numbers named `v` and the pattern of a list named `r`.
The guard of the first part writes the second part of the pattern, which is a call, into
the list of numbers. -/
def writingGuardMachine : Machine where
  store :=
    { cells := #[
        #[.integer 1, .integer 2],
        #[.conditional 0
            (.isMatch 1 (.index 2 (.identifier "r") (.integer 1))
              (.index 3 (.identifier "v") (.integer 1)))
            (.identifier "x") .absent,
          .apply 4 (.identifier "c") (.identifier "y")]]
      scopes := #[⟨[("v", .list ⟨0⟩), ("r", .list ⟨1⟩)]⟩]
      globals := #[[]]
      nextMark := 5 }
  scopes := #[⟨0⟩]
  globals := #[⟨0⟩]

/-- The call in the list of numbers is compared with the pattern and found to be the same:
the match succeeds, and the name in the call is not bound. The pattern is what it was. -/
theorem name_of_call_unbound :
    (∀ inner, ¬ writingGuardMachine.store.Reaches (.list ⟨0⟩) (.quote inner)) ∧
      (∀ mark expression, ¬ writingGuardMachine.store.Reaches (.list ⟨1⟩)
        (.deref mark expression)) ∧
      ∃ bindings after,
        (within 9).unify .binding (.list ⟨0⟩) (.list ⟨1⟩) writingGuardMachine =
            .ok bindings after ∧
          after.store.elements ⟨1⟩ = writingGuardMachine.store.elements ⟨1⟩ ∧
          writingGuardMachine.store.binders? 9 (.list ⟨1⟩) = some ["x", "y"] ∧
          Binding.names bindings = ["x"] := by
  refine ⟨fun inner reaches => ?_, fun mark expression reaches => ?_, _, _, rfl, rfl, rfl, rfl⟩
  · have listed := reaches.mem_of_closed [.list ⟨0⟩, .integer 1, .integer 2]
      (by simp [writingGuardMachine, Term.contents, Term.parts, Store.elements])
      List.mem_cons_self
    simp at listed
  · have listed := reaches.mem_of_closed
      [.list ⟨1⟩,
        .conditional 0
          (.isMatch 1 (.index 2 (.identifier "r") (.integer 1))
            (.index 3 (.identifier "v") (.integer 1)))
          (.identifier "x") .absent,
        .apply 4 (.identifier "c") (.identifier "y"), .absent,
        .isMatch 1 (.index 2 (.identifier "r") (.integer 1))
          (.index 3 (.identifier "v") (.integer 1)),
        .index 2 (.identifier "r") (.integer 1), .index 3 (.identifier "v") (.integer 1),
        .identifier "r", .identifier "v", .identifier "x", .identifier "y", .identifier "c",
        .integer 1]
      (by simp [writingGuardMachine, Term.contents, Term.parts, Store.elements])
      List.mem_cons_self
    simp at listed

end Evaluator
end PatternMachine
