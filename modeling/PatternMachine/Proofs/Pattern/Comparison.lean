import PatternMachine.Proofs.Pattern.Matching

/-!
# Comparing the patterns of two clauses

The pattern of a clause may have an outline, or be a text or a type. For the
later of two clauses it may also stand under a guard. Comparing two such patterns
only adds cells, and where the earlier one has an outline, a comparison that
succeeds says what the outline accepts.
-/

namespace PatternMachine

/-! ## Texts and types -/

namespace Action

/-- The action leaves the store as it was, whether it yields a result or stops. -/
def Spares {α : Type} (action : Action α) : Prop :=
  ∀ machine, (action.after machine).store = machine.store

namespace Spares

variable {α β : Type}

theorem pure (value : α) : (Pure.pure value : Action α).Spares :=
  fun _ => rfl

theorem raise (kind : ErrorKind) (message : String) :
    (Action.raise kind message : Action α).Spares :=
  fun _ => rfl

theorem display (term : Term) : (Action.display term).Spares :=
  fun machine => congrArg Machine.store (after_finitely _ machine)

theorem bind
    {action : Action α}
    {next : α -> Action β}
    (first : action.Spares)
    (second : ∀ value, (next value).Spares) :
    (action >>= next).Spares := by
  intro machine
  have spared := first machine
  unfold after at spared ⊢
  rw [bind_apply]
  cases run : action machine with
  | ok value middle =>
      rw [run] at spared
      exact (second value middle).trans spared
  | error stop middle =>
      rw [run] at spared
      exact spared

end Spares
end Action

namespace Evaluator

open PatternMachine.Action (Spares)

variable {self : Evaluator} {mode : Mode} {term pattern : Term}

theorem unifyText_spares (text regex : String) : (unifyText text regex).Spares := by
  unfold unifyText
  split
  · exact .raise _ _
  · split
    · exact .pure _
    · exact .raise _ _

theorem unifyRegex_spares (regex : String) : (unifyRegex mode term regex).Spares := by
  unfold unifyRegex
  split
  · exact unifyText_spares _ _
  · refine .bind (.display term) fun shown => ?_
    split
    · exact .raise _ _
    · exact .bind (fun _ => rfl) fun _ => unifyText_spares _ _

theorem unifyType_spares (typeName : String) : (unifyType mode term typeName).Spares := by
  have mismatched (message : String) : (mismatch message : Action (List Binding)).Spares :=
    .raise _ _
  unfold unifyType
  dsimp only
  split
  · split
    · exact .pure _
    · exact mismatched _
  · split
    · split <;> first | exact .pure _ | exact mismatched _
    · split
      · split <;> first | exact .pure _ | exact mismatched _
      · split
        · split <;> first | exact .pure _ | exact mismatched _
        · refine .bind (fun _ => rfl) fun found => ?_
          split
          · split <;> first | exact .pure _ | exact mismatched _
          · exact mismatched _

/-- A text or a type never changes the store. -/
theorem unifyStep_sealed
    (isSealed : pattern.isSealed = true)
    (exposed : term.isExposed mode = true) :
    (self.unifyStep mode term pattern).Spares := by
  have objects : (self.unifyObjects mode term pattern).Spares := by
    unfold unifyObjects
    split
    · simp [Term.isSealed] at isSealed
    · exact unifyRegex_spares _
    · unfold unifyDecorated
      split
      · simp [Term.isSealed] at isSealed
      · exact unifyType_spares _
      · simp [Term.isSealed] at isSealed
      · cases pattern <;> simp_all [Term.isSealed]
  have allowed : (self.unifyAllowed mode term pattern).Spares := by
    unfold unifyAllowed
    split
    · exact .raise _ _
    · split
      · exact .raise _ _
      · exact objects
  unfold unifyStep
  split
  · exact .raise _ _
  · split
    · simp [Term.isSealed] at isSealed
    · split
      · simp [Term.isExposed] at exposed
      · simp [Term.isExposed] at exposed
      · exact allowed

end Evaluator

/-! ## The forms of patterns -/

namespace Term

/-- The pattern under a guard, or the pattern itself. -/
def unguarded : Term -> Term
  | conditional _ _ consequent _ => consequent
  | pattern => pattern

end Term

/-- How the pattern of a clause reads: by its outline, or as a text or a type. -/
inductive Form
  | outlined (outline : Outline)
  | closed

namespace Form

/-- A term of the store is a pattern of the form. -/
def Reads (store : Store) : Form -> Term -> Prop
  | outlined outline, pattern => outline.Spells store pattern
  | closed, pattern => pattern.isSealed = true

/-- What an earlier pattern is held against when it is compared with a pattern of
the form. -/
def subject (pattern : Term) : Form -> Subject
  | outlined outline => .later outline
  | closed => .term pattern

/-- Whether a pattern of the form may match a subject. -/
def admits (store : Store) : Form -> Subject -> Bool
  | outlined outline, subject => outline.accepts store subject
  | closed, subject => subject.isPresent

variable {store : Store} {form : Form} {pattern : Term}

theorem Reads.keeps
    {before after : Store}
    (keeps : before.Keeps after)
    (reads : form.Reads before pattern) :
    form.Reads after pattern := by
  cases form with
  | outlined outline => exact Outline.Spells.keeps keeps reads
  | closed => exact reads

/-- Only a guard is looked under. -/
theorem Reads.unguarded (reads : form.Reads store pattern) : pattern.unguarded = pattern := by
  cases pattern with
  | conditional mark condition consequent alternative =>
      cases form with
      | outlined outline => cases outline <;>
          simp [Reads, Outline.Spells, Term.isCore, Store.tupleElements?] at reads
      | closed => simp [Reads, Term.isSealed] at reads
  | _ => rfl

theorem Reads.presents (reads : form.Reads store pattern) :
    (form.subject pattern).Presents store .covering pattern ∧
      (form.subject pattern).Sound store := by
  cases form with
  | outlined outline => exact ⟨⟨rfl, reads⟩, trivial⟩
  | closed =>
      refine ⟨⟨.inr reads, rfl⟩, ?_⟩
      change store.Holds pattern
      cases pattern <;> simp [Reads, Term.isSealed] at reads <;> simp [Store.Holds, Term.cells]

/-- An outline that accepts a pattern of the form accepts whatever the pattern may
match and it heeds. -/
theorem accepts_of_admits
    {other : Store}
    {outline : Outline}
    {subject : Subject}
    (reads : form.Reads other pattern)
    (covers : outline.accepts other (form.subject pattern) = true)
    (admitted : form.admits store subject = true)
    (heeded : outline.heeds store subject = true) :
    outline.accepts store subject = true := by
  cases form with
  | outlined later => exact Outline.accepts_of_later covers admitted heeded
  | closed =>
      -- Only identifiers, named or not, accept a text or a type.
      induction outline with
      | identifier name =>
          simp only [Outline.accepts]
          exact admitted
      | named name inner inductionHypothesis =>
          simp only [Outline.accepts, Outline.heeds, Bool.and_eq_true] at covers heeded ⊢
          exact ⟨heeded.1, inductionHypothesis heeded.2 covers.2⟩
      | _ =>
          cases pattern <;> simp [Reads, Term.isSealed] at reads <;>
            simp [Outline.accepts, Form.subject, Subject.number?, Subject.isNone, Subject.isNil,
              Subject.list?, Subject.tuple?, Subject.split?, Term.unquoted, Term.number?,
              Store.tupleElements?] at covers

end Form


/-! ## One comparison -/

namespace Evaluator

/-- Comparisons of a guarded pattern with patterns of an outline come to what the
outline accepts under the guard. -/
def DecidesGuarded (outline : Outline) : Prop :=
  ∀ (start : Store) (subject : Subject), start.Closed -> subject.Sound start ->
    ∃ least, ∀ machine : Machine, start.Keeps machine.store -> machine.store.Closed ->
      ∀ mark condition consequent alternative pattern,
        subject.Presents machine.store .covering consequent ->
        outline.Spells machine.store pattern ->
        ∀ depth, Outcome .covering machine.store outline.names (outline.accepts start subject)
          least depth
          ((within depth).unify .covering (.conditional mark condition consequent alternative)
            pattern machine)

theorem decidesGuarded_core
    {outline : Outline}
    (core : ∀ store pattern, outline.Spells store pattern -> pattern.isCore = true) :
    DecidesGuarded outline := by
  intro start subject closed sound
  obtain ⟨least, outcomes⟩ := decides .covering outline start subject closed sound
  refine ⟨least + 1, ?_⟩
  intro machine kept closedNow mark condition consequent alternative pattern presents spells
  have peels : Peels .covering pattern (.conditional mark condition consequent alternative)
      consequent 1 := Peels.refl.layer fun _ => unifyStep_guarded (core _ _ spells)
  exact .through peels (outcomes machine kept closedNow consequent pattern presents spells)

theorem decidesGuarded_identifier (name : String) : DecidesGuarded (.identifier name) := by
  intro start subject _ _
  refine ⟨0 + 1, ?_⟩
  rintro machine _ closed mark condition consequent alternative _ presents rfl depth
  refine .step (fun depth => ?_) depth
  rw [unifyStep_identifier rfl]
  refine ⟨?_, ?_, .refl _, closed⟩
  · simp only [Outline.accepts, presents.covering.1]
  · simp only [Outline.names]
    split <;> rfl

theorem decidesGuarded_named
    {inner : Outline}
    (name : String)
    (decides : DecidesGuarded inner) :
    DecidesGuarded (.named name inner) := by
  intro start subject closed sound
  obtain ⟨least, outcomes⟩ := decides start subject closed sound
  refine ⟨least + 1, ?_⟩
  rintro machine kept closedNow mark condition consequent alternative _ presents
    ⟨nameMark, pattern, rfl, spells⟩ depth
  refine .step (fun depth => ?_) depth
  simp only [Outline.accepts, Outline.names, presents.covering.2, Bool.true_and]
  rw [unifyStep_named rfl rfl rfl]
  exact (outcomes machine kept closedNow mark condition consequent alternative pattern presents
    spells depth).named name _

/-- Comparing a guarded pattern with an outline decides whether the outline
accepts the pattern under the guard. -/
theorem decidesGuarded (outline : Outline) : DecidesGuarded outline := by
  induction outline with
  | identifier name => exact decidesGuarded_identifier name
  | named name inner inductionHypothesis => exact decidesGuarded_named name inductionHypothesis
  | number value => exact decidesGuarded_core fun _ _ spells => spells.1
  | none => exact decidesGuarded_core fun _ _ spells => by rw [spells]; rfl
  | nil => exact decidesGuarded_core fun _ _ spells => by rw [spells]; rfl
  | list elements _ =>
      refine decidesGuarded_core ?_
      rintro store pattern ⟨cell, rfl, _, _⟩
      rfl
  | tuple elements _ =>
      refine decidesGuarded_core ?_
      rintro store pattern ⟨terms, held, _, _⟩
      exact isCore_of_tupleElements? held
  | headTail head tail _ _ =>
      refine decidesGuarded_core ?_
      rintro store pattern ⟨raw, mark, first, rest, rfl, _, _⟩
      rfl

/-- Comparing a pattern, guarded or not, with an outline decides whether the
outline accepts it. -/
theorem compare_outlined
    {form : Form}
    {outline : Outline}
    {later pattern : Term}
    {machine : Machine}
    (closed : machine.store.Closed)
    (reads : form.Reads machine.store later.unguarded)
    (spells : outline.Spells machine.store pattern)
    (depth : Nat) :
    ∃ least, Outcome .covering machine.store outline.names
      (outline.accepts machine.store (form.subject later.unguarded)) least depth
      ((within depth).unify .covering later pattern machine) := by
  obtain ⟨presents, sound⟩ := reads.presents
  cases later with
  | conditional mark condition consequent alternative =>
      obtain ⟨least, outcomes⟩ := decidesGuarded outline machine.store _ closed sound
      exact ⟨least, outcomes machine (.refl _) closed mark condition consequent alternative pattern
        presents spells depth⟩
  | _ =>
      obtain ⟨least, outcomes⟩ := decides .covering outline machine.store _ closed sound
      exact ⟨least, outcomes machine (.refl _) closed _ pattern presents spells depth⟩

/-- A text or a type changes no cell when a pattern it looks at is compared. -/
theorem unify_sealed
    {later pattern : Term}
    (isSealed : pattern.isSealed = true)
    (exposed : later.isExposed .covering = true)
    (depth : Nat) :
    ((within depth).unify .covering later pattern).Spares := by
  cases depth with
  | zero => exact fun _ => rfl
  | succ depth => exact unifyStep_sealed isSealed exposed

theorem compare_spelled_sealed
    {store : Store}
    {outline : Outline}
    {later pattern : Term}
    (spells : outline.Spells store later)
    (isSealed : pattern.isSealed = true)
    (depth : Nat) :
    ((within depth).unify .covering later pattern).Spares := by
  have shape : (∀ name, pattern ≠ .identifier name) ∧ pattern.isAbsent = false := by
    cases pattern <;> simp_all [Term.isSealed, Term.isAbsent]
  obtain ⟨shown, peels, spellsShown⟩ := peels_bare shape.1 shape.2 spells
  have exposed := Term.isExposed_of_isDirect (Subject.shows_later spellsShown).direct
  intro machine
  unfold Action.after
  rcases peels depth machine with ⟨_, run⟩ | ⟨level, rfl, run⟩
  · rw [run]
  · rw [run]
    exact unify_sealed isSealed exposed level machine

/-- Comparing a pattern, guarded or not, with a text or a type changes no cell. -/
theorem compare_sealed
    {store : Store}
    {form : Form}
    {later pattern : Term}
    (reads : form.Reads store later.unguarded)
    (isSealed : pattern.isSealed = true)
    (depth : Nat) :
    ((within depth).unify .covering later pattern).Spares := by
  cases later with
  | conditional mark condition consequent alternative => exact unify_sealed isSealed rfl depth
  | _ =>
      cases form with
      | outlined outline => exact compare_spelled_sealed reads isSealed depth
      | closed =>
          first
          | exact unify_sealed isSealed rfl depth
          | simp [Form.Reads, Term.isSealed, Term.unguarded] at reads

end Evaluator

namespace Interpreter

/-- A comparison of two patterns only adds cells, and where the earlier one has an
outline it succeeds only if the outline accepts the later one. -/
theorem covers_compares
    {later earlier : Form}
    {laterPattern earlierPattern : Term}
    {machine after : Machine}
    {verdict : Bool}
    (closed : machine.store.Closed)
    (laterReads : later.Reads machine.store laterPattern.unguarded)
    (earlierReads : earlier.Reads machine.store earlierPattern)
    (run : covers laterPattern earlierPattern machine = .ok verdict after) :
    machine.store.Keeps after.store ∧ after.store.Closed ∧
      (verdict = true -> ∀ outline, earlier = .outlined outline ->
        outline.accepts machine.store (later.subject laterPattern.unguarded) = true) := by
  unfold covers unify Evaluator.standard at run
  generalize Evaluator.depthLimit = depth at run
  cases earlier with
  | outlined outline =>
      obtain ⟨least, outcome⟩ :=
        Evaluator.compare_outlined closed laterReads earlierReads depth
      cases result : (Evaluator.within depth).unify .covering laterPattern earlierPattern machine with
      | ok bindings final =>
          rw [result] at run outcome
          obtain ⟨rfl, rfl⟩ := EStateM.Result.ok.inj run
          obtain ⟨accepted, _, kept, closedAfter⟩ := outcome
          refine ⟨kept, closedAfter, ?_⟩
          rintro _ _ ⟨⟩
          exact accepted
      | error stop final =>
          rw [result] at run outcome
          cases stop with
          | raised exception =>
              obtain ⟨rfl, rfl⟩ := EStateM.Result.ok.inj run
              exact ⟨outcome.2.1, outcome.2.2, by simp⟩
          | _ => simp at run
  | closed =>
      have spared := Evaluator.compare_sealed laterReads earlierReads depth machine
      unfold Action.after at spared
      have kept : machine.store.Keeps after.store ∧ after.store.Closed := by
        cases result : (Evaluator.within depth).unify .covering laterPattern earlierPattern
            machine with
        | ok bindings final =>
            rw [result] at run spared
            obtain ⟨rfl, rfl⟩ := EStateM.Result.ok.inj run
            dsimp only at spared
            rw [spared]
            exact ⟨.refl _, closed⟩
        | error stop final =>
            rw [result] at run spared
            cases stop with
            | raised exception =>
                obtain ⟨rfl, rfl⟩ := EStateM.Result.ok.inj run
                dsimp only at spared
                rw [spared]
                exact ⟨.refl _, closed⟩
            | _ => simp at run
      exact ⟨kept.1, kept.2, by simp⟩

end Interpreter
end PatternMachine
