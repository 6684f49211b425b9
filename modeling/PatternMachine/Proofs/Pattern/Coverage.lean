import PatternMachine.Proofs.Pattern.Matching
import PatternMachine.Proofs.Pattern.Value

/-!
# Covering

In covering mode a match of a later pattern against an earlier one says whether
the earlier pattern takes what the later one takes. For patterns with outlines
the answer is right except for terms that may not be matched: an identifier
takes them and a named pattern does not. Without heads and tails it is also
complete.
-/

namespace PatternMachine

/-- The match succeeds. It does so within some depth; no bound is put on it. -/
def Unifies (mode : Mode) (machine : Machine) (term pattern : Term) : Prop :=
  ∃ depth bindings after,
    (Evaluator.within depth).unify mode term pattern machine = .ok bindings after

/-- The term is a value built of exact numbers, none, nil, lists and tuples. -/
def Store.IsPlain (store : Store) (term : Term) : Prop :=
  ∃ value : Outline, value.isGround = true ∧ value.Spells store term

namespace Outline

variable {machine : Machine} {mode : Mode} {outline : Outline} {pattern : Term}

/-- A match succeeds only if the outline of the pattern accepts. -/
theorem accepts_of_unifies
    {subject : Subject}
    {term : Term}
    (closed : machine.store.Closed)
    (sound : subject.Sound machine.store)
    (presents : subject.Presents machine.store mode term)
    (spells : outline.Spells machine.store pattern)
    (unifies : Unifies mode machine term pattern) :
    outline.accepts machine.store subject = true := by
  obtain ⟨depth, bindings, after, run⟩ := unifies
  obtain ⟨least, outcomes⟩ := Evaluator.decides mode outline machine.store subject closed sound
  have outcome := outcomes machine (.refl _) closed term pattern presents spells depth
  rw [run] at outcome
  exact outcome.1

/-- A match succeeds within every large depth if the outline of the pattern
accepts and binds no name twice. -/
theorem unify_of_accepts
    {subject : Subject}
    {term : Term}
    (closed : machine.store.Closed)
    (sound : subject.Sound machine.store)
    (presents : subject.Presents machine.store mode term)
    (spells : outline.Spells machine.store pattern)
    (linear : mode = .binding -> outline.names.Nodup)
    (accepted : outline.accepts machine.store subject = true) :
    ∃ least, ∀ depth, least ≤ depth -> ∃ bindings after,
      (Evaluator.within depth).unify mode term pattern machine = .ok bindings after := by
  obtain ⟨least, outcomes⟩ := Evaluator.decides mode outline machine.store subject closed sound
  refine ⟨least, fun depth enough => ?_⟩
  have outcome := outcomes machine (.refl _) closed term pattern presents spells depth
  rw [accepted] at outcome
  cases run : (Evaluator.within depth).unify mode term pattern machine with
  | ok bindings after => exact ⟨bindings, after, rfl⟩
  | error stop after =>
      rw [run] at outcome
      exfalso
      cases stop with
      | raised exception =>
          obtain ⟨no | ⟨binding, repeated, _⟩, _⟩ := outcome
          · simp at no
          · exact repeated (linear binding)
      | exhausted =>
          obtain short | no := outcome
          · omega
          · simp at no
      | fatal message => exact outcome

/-- A term matches a pattern exactly when the outline of the pattern accepts it. -/
theorem unifies_binding_iff
    {term : Term}
    (closed : machine.store.Closed)
    (holds : machine.store.Holds term)
    (spells : outline.Spells machine.store pattern)
    (linear : outline.names.Nodup) :
    Unifies .binding machine term pattern ↔
      outline.accepts machine.store (.term term) = true := by
  have sound : (Subject.term term).Sound machine.store := holds
  have presents : (Subject.term term).Presents machine.store .binding term := ⟨.inl rfl, rfl⟩
  constructor
  · intro unifies
    exact accepts_of_unifies closed sound presents spells unifies
  · intro accepted
    obtain ⟨least, runs⟩ :=
      unify_of_accepts closed sound presents spells (fun _ => linear) accepted
    exact ⟨least, runs least (Nat.le_refl _)⟩

/-- A later pattern is covered exactly when the outline of the earlier one accepts
its outline. -/
theorem unifies_covering_iff
    {later : Outline}
    {laterPattern : Term}
    (closed : machine.store.Closed)
    (laterSpells : later.Spells machine.store laterPattern)
    (spells : outline.Spells machine.store pattern) :
    Unifies .covering machine laterPattern pattern ↔
      outline.accepts machine.store (.later later) = true := by
  have sound : (Subject.later later).Sound machine.store := trivial
  have presents : (Subject.later later).Presents machine.store .covering laterPattern :=
    ⟨rfl, laterSpells⟩
  constructor
  · intro unifies
    exact accepts_of_unifies closed sound presents spells unifies
  · intro accepted
    obtain ⟨least, runs⟩ := unify_of_accepts closed sound presents spells (by simp) accepted
    exact ⟨least, runs least (Nat.le_refl _)⟩

/-- A pattern that covers a later one takes a term the later one takes exactly
when it heeds the term. Without heads and tails, a pattern that takes every plain
value the later one takes covers it. -/
theorem covering_decides_coverage
    {earlier later : Outline}
    {earlierPattern laterPattern : Term}
    {machine : Machine}
    (closed : machine.store.Closed)
    (earlierSpells : earlier.Spells machine.store earlierPattern)
    (laterSpells : later.Spells machine.store laterPattern)
    (earlierLinear : earlier.names.Nodup)
    (laterLinear : later.names.Nodup) :
    (Unifies .covering machine laterPattern earlierPattern ->
      ∀ now : Machine, now.store.Closed ->
        earlier.Spells now.store earlierPattern -> later.Spells now.store laterPattern ->
        ∀ term, now.store.Holds term -> Unifies .binding now term laterPattern ->
          (Unifies .binding now term earlierPattern ↔
            earlier.heeds now.store (.term term) = true)) ∧
    (earlier.isFlat = true -> later.isFlat = true ->
      (∀ store value, machine.store.Keeps store -> store.Closed -> store.IsPlain value ->
        Unifies .binding { machine with store := store } value laterPattern ->
        Unifies .binding { machine with store := store } value earlierPattern) ->
      Unifies .covering machine laterPattern earlierPattern) := by
  constructor
  · intro covers now closedNow earlierNow laterNow term holds unifies
    have accepted := (unifies_covering_iff closed laterSpells earlierSpells).mp covers
    have taken := (unifies_binding_iff closedNow holds laterNow laterLinear).mp unifies
    rw [unifies_binding_iff closedNow holds earlierNow earlierLinear]
    exact ⟨heeds_of_accepts, accepts_of_later accepted taken⟩
  · intro earlierFlat laterFlat taken
    rw [unifies_covering_iff closed laterSpells earlierSpells]
    cases answer : earlier.accepts machine.store (.later later) with
    | true => rfl
    | false =>
        exfalso
        obtain ⟨value, ground, accepted, missed⟩ := gap earlierFlat laterFlat answer
        obtain ⟨larger, term, keeps, closedLarger, holds, spells⟩ :=
          exists_value ground machine.store
        replace closedLarger := closedLarger closed
        -- Neither answer depends on the cells the value needs.
        have sound : (Subject.later value).Sound machine.store := trivial
        rw [← accepts_keeps keeps closed later sound, ← accepts_value laterFlat ground spells]
          at accepted
        rw [← accepts_keeps keeps closed earlier sound, ← accepts_value earlierFlat ground spells]
          at missed
        let grown : Machine := { machine with store := larger }
        have laterTakes : Unifies .binding grown term laterPattern :=
          (unifies_binding_iff closedLarger holds (laterSpells.keeps keeps) laterLinear).mpr accepted
        have earlierTakes := taken larger term keeps closedLarger ⟨value, ground, spells⟩ laterTakes
        have contrary : earlier.accepts larger (.term term) = true :=
          (@unifies_binding_iff grown earlier earlierPattern term closedLarger holds
            (earlierSpells.keeps keeps) earlierLinear).mp earlierTakes
        rw [missed] at contrary
        simp at contrary

/-! ## An identifier against a named identifier -/

/-- A store with the patterns `[x]` and `[n:y]`, a list of a range and a list of
a number. -/
def listStore : Store :=
  { Store.initial with
    cells := #[#[.none, .none], #[.identifier "x"], #[.named 1 "n" (.identifier "y")],
      #[.range false 2 (.integer 1) (.integer 3) .absent], #[.integer 7]]
    nextMark := 3 }

theorem listStore_closed : (Machine.fresh listStore).store.Closed :=
  Store.closed_of_cells (by decide)

theorem listStore_spells :
    (list [named "n" (identifier "y")]).Spells (Machine.fresh listStore).store (.list ⟨2⟩) ∧
      (list [identifier "x"]).Spells (Machine.fresh listStore).store (.list ⟨1⟩) :=
  ⟨⟨_, rfl, by decide, _, _, rfl, ⟨_, _, rfl, rfl⟩, rfl⟩, ⟨_, rfl, by decide, _, _, rfl, rfl, rfl⟩⟩

/-- The pattern `[n:y]` covers `[x]` and takes the list of a number that `[x]`
takes. -/
theorem covering_decides_coverage_of_lists :
    Unifies .covering (.fresh listStore) (.list ⟨1⟩) (.list ⟨2⟩) ∧
      Unifies .binding (.fresh listStore) (.list ⟨4⟩) (.list ⟨1⟩) ∧
      Unifies .binding (.fresh listStore) (.list ⟨4⟩) (.list ⟨2⟩) := by
  obtain ⟨earlierSpells, laterSpells⟩ := listStore_spells
  have covers : Unifies .covering (.fresh listStore) (.list ⟨1⟩) (.list ⟨2⟩) :=
    (unifies_covering_iff listStore_closed laterSpells earlierSpells).mpr rfl
  have taken : Unifies .binding (.fresh listStore) (.list ⟨4⟩) (.list ⟨1⟩) :=
    (unifies_binding_iff listStore_closed (by decide) laterSpells (by decide)).mpr rfl
  refine ⟨covers, taken, ?_⟩
  exact ((covering_decides_coverage listStore_closed earlierSpells laterSpells (by decide)
    (by decide)).1 covers _ listStore_closed earlierSpells laterSpells _ (by decide) taken).mpr rfl

/-- The pattern `[n:y]` covers `[x]` but refuses a quoted list of a range, which
`[x]` takes. -/
theorem covered_takes_range :
    Unifies .covering (.fresh listStore) (.list ⟨1⟩) (.list ⟨2⟩) ∧
      Unifies .binding (.fresh listStore) (.quote (.list ⟨3⟩)) (.list ⟨1⟩) ∧
      ¬ Unifies .binding (.fresh listStore) (.quote (.list ⟨3⟩)) (.list ⟨2⟩) := by
  obtain ⟨earlierSpells, laterSpells⟩ := listStore_spells
  refine ⟨(unifies_covering_iff listStore_closed laterSpells earlierSpells).mpr rfl,
    (unifies_binding_iff listStore_closed (by decide) laterSpells (by decide)).mpr rfl, ?_⟩
  rw [unifies_binding_iff listStore_closed (by decide) earlierSpells (by decide)]
  decide

end Outline
end PatternMachine
