import Mathlib.Data.Finset.Card
import Mathlib.Data.Finset.Range
import PatternMachine.Regex

/-!
# What regular expressions match

An expression matches a text from one place to another. This is said for each kind of
expression in terms of its parts, without sets of places. Advancing sets of places finds
just the places at which matches end: the rounds that are made for a repetition without an
upper bound are enough, as every round but the last reaches a place for the first time.
-/

namespace PatternMachine
namespace Regex

/-- A move is made a number of times. -/
def Times (move : Nat -> Nat -> Prop) : Nat -> Nat -> Nat -> Prop
  | 0, start, finish => start = finish
  | count + 1, start, finish => ∃ middle, move start middle ∧ Times move count middle finish

/-- An expression matches a text from one place to another. The largest number of
repetitions is not below the smallest in any expression that can be written. -/
def Expression.Spans (input : Array Char) : Expression -> Nat -> Nat -> Prop
  | .empty, start, finish => start = finish
  | .never, _, _ => False
  | .one class_, start, finish =>
      finish = start + 1 ∧ ∃ c, input[start]? = some c ∧ class_.contains c = true
  | .place boundary, start, finish => start = finish ∧ boundary.holds input start = true
  | .followedBy first second, start, finish =>
      ∃ middle, first.Spans input start middle ∧ second.Spans input middle finish
  | .either first second, start, finish =>
      first.Spans input start finish ∨ second.Spans input start finish
  | .repeated inner least most, start, finish =>
      ∃ count, least ≤ count ∧ (∀ limit, most = some limit -> count ≤ max least limit) ∧
        Times (inner.Spans input) count start finish

/-! ## Repeated moves -/

section

variable {move : Nat -> Nat -> Prop} {start middle finish : Nat}

theorem times_add {first second : Nat} :
    Times move (first + second) start finish ↔
      ∃ middle, Times move first start middle ∧ Times move second middle finish := by
  induction first generalizing start with
  | zero => simp [Times]
  | succ first inductionHypothesis =>
      rw [Nat.succ_add]
      simp only [Times, inductionHypothesis]
      constructor
      · rintro ⟨next, moved, middle, before, after⟩
        exact ⟨middle, ⟨next, moved, before⟩, after⟩
      · rintro ⟨middle, ⟨next, moved, before⟩, after⟩
        exact ⟨next, moved, middle, before, after⟩

/-- What a move keeps is kept by repeated moves. -/
theorem Times.keeps
    (holds : Nat -> Prop)
    (kept : ∀ {start finish}, holds start -> move start finish -> holds finish)
    {count : Nat}
    (moved : Times move count start finish)
    (initially : holds start) :
    holds finish := by
  induction count generalizing start with
  | zero => exact moved ▸ initially
  | succ count inductionHypothesis =>
      obtain ⟨middle, first, rest⟩ := moved
      exact inductionHypothesis rest (kept initially first)

end

/-- A match ends inside the text. -/
theorem Expression.Spans.le_size
    {input : Array Char}
    {expression : Expression}
    {start finish : Nat}
    (spans : expression.Spans input start finish)
    (inside : start ≤ input.size) :
    finish ≤ input.size := by
  induction expression generalizing start finish with
  | empty => exact spans ▸ inside
  | never => exact spans.elim
  | one class_ =>
      obtain ⟨rfl, c, found, _⟩ := spans
      exact (Array.getElem?_eq_some_iff.mp found).1
  | place boundary => exact spans.1 ▸ inside
  | followedBy first second firstHypothesis secondHypothesis =>
      obtain ⟨middle, before, after⟩ := spans
      exact secondHypothesis after (firstHypothesis before inside)
  | either first second firstHypothesis secondHypothesis =>
      exact spans.elim (firstHypothesis · inside) (secondHypothesis · inside)
  | repeated inner least most inductionHypothesis =>
      obtain ⟨count, _, _, moved⟩ := spans
      exact moved.keeps (· ≤ input.size) (fun within moves => inductionHypothesis moves within)
        inside

/-! ## Sets of places -/

theorem mem_union {place : Nat} {left right : List Nat} :
    place ∈ union left right ↔ place ∈ left ∨ place ∈ right := by
  induction left, right using union.induct with
  | case1 right => simp [union]
  | case2 left nonempty => simp [union]
  | case3 a left b right below inductionHypothesis =>
      rw [union, if_pos below, List.mem_cons, inductionHypothesis, List.mem_cons (l := left),
        or_assoc]
  | case4 a left b right notBelow above inductionHypothesis =>
      rw [union, if_neg notBelow, if_pos above, List.mem_cons, inductionHypothesis]
      simp only [List.mem_cons]
      tauto
  | case5 a left b right notBelow notAbove inductionHypothesis =>
      obtain rfl : a = b := by omega
      rw [union, if_neg notBelow, if_neg notAbove, List.mem_cons, inductionHypothesis]
      simp only [List.mem_cons]
      tauto

/-- A function on sets of places, inside a text of a size, that makes a move from each. -/
structure Moves (size : Nat) (move : Nat -> Nat -> Prop) (advance : List Nat -> List Nat) :
    Prop where
  mem_iff : ∀ {places place}, (∀ start ∈ places, start ≤ size) ->
    (place ∈ advance places ↔ ∃ start ∈ places, move start place)
  inside : ∀ {start finish}, start ≤ size -> move start finish -> finish ≤ size

namespace Moves

variable {size : Nat} {move : Nat -> Nat -> Prop} {advance : List Nat -> List Nat}
variable {places : List Nat} {place : Nat}

theorem advance_inside
    (moves : Moves size move advance)
    (inside : ∀ start ∈ places, start ≤ size) :
    ∀ finish ∈ advance places, finish ≤ size := by
  intro finish found
  obtain ⟨start, listed, moved⟩ := (moves.mem_iff inside).mp found
  exact moves.inside (inside start listed) moved

theorem iterate_inside
    (moves : Moves size move advance)
    (count : Nat)
    (inside : ∀ start ∈ places, start ≤ size) :
    ∀ finish ∈ iterate advance count places, finish ≤ size := by
  induction count generalizing places with
  | zero => exact inside
  | succ count inductionHypothesis =>
      exact inductionHypothesis (moves.advance_inside inside)

theorem mem_iterate
    (moves : Moves size move advance)
    (count : Nat)
    (inside : ∀ start ∈ places, start ≤ size) :
    place ∈ iterate advance count places ↔ ∃ start ∈ places, Times move count start place := by
  induction count generalizing places with
  | zero => simp [iterate, Times]
  | succ count inductionHypothesis =>
      rw [iterate, inductionHypothesis (moves.advance_inside inside)]
      simp only [moves.mem_iff inside, Times]
      constructor
      · rintro ⟨middle, ⟨start, listed, moved⟩, rest⟩
        exact ⟨start, listed, middle, moved, rest⟩
      · rintro ⟨start, listed, middle, moved, rest⟩
        exact ⟨middle, ⟨start, listed, moved⟩, rest⟩

theorem mem_iterateUpTo
    (moves : Moves size move advance)
    (most : Nat)
    (inside : ∀ start ∈ places, start ≤ size) :
    place ∈ iterateUpTo advance most places ↔
      ∃ start ∈ places, ∃ count ≤ most, Times move count start place := by
  induction most generalizing places with
  | zero => simp [iterateUpTo, Times]
  | succ most inductionHypothesis =>
      rw [iterateUpTo, mem_union, inductionHypothesis (moves.advance_inside inside)]
      simp only [moves.mem_iff inside]
      constructor
      · rintro (listed | ⟨middle, ⟨start, listed, moved⟩, count, within, rest⟩)
        · exact ⟨place, listed, 0, Nat.zero_le _, rfl⟩
        · exact ⟨start, listed, count + 1, Nat.succ_le_succ within, middle, moved, rest⟩
      · rintro ⟨start, listed, _ | count, within, rest⟩
        · exact .inl (rest ▸ listed)
        · obtain ⟨middle, moved, rest⟩ := rest
          exact .inr ⟨middle, ⟨start, listed, moved⟩, count, Nat.le_of_succ_le_succ within, rest⟩

/-! ### Rounds -/

variable {reached frontier : List Nat}

theorem subset_closure (steps : Nat) : reached ⊆ closure advance steps reached frontier := by
  induction steps generalizing reached frontier with
  | zero => exact fun _ listed => listed
  | succ steps inductionHypothesis =>
      rw [closure]
      split
      · exact fun _ listed => listed
      · exact fun place listed => inductionHypothesis (mem_union.mpr (.inl listed))

/-- Only places to which moves lead are reached. -/
theorem closure_reached
    (moves : Moves size move advance)
    {holds : Nat -> Prop}
    (kept : ∀ {start finish}, holds start -> move start finish -> holds finish)
    (inside : ∀ start ∈ frontier, start ≤ size)
    (steps : Nat)
    (known : ∀ start ∈ reached, holds start)
    (atFrontier : ∀ start ∈ frontier, holds start) :
    ∀ place ∈ closure advance steps reached frontier, holds place := by
  induction steps generalizing reached frontier with
  | zero => exact known
  | succ steps inductionHypothesis =>
      rw [closure]
      split
      · exact known
      · have fresh : ∀ place ∈ (advance frontier).filter fun place => !reached.contains place,
            holds place := by
          intro place listed
          obtain ⟨start, before, moved⟩ := (moves.mem_iff inside).mp (List.mem_of_mem_filter listed)
          exact kept (atFrontier start before) moved
        refine inductionHypothesis ?_ (fun place listed => ?_) fresh
        · exact fun place listed =>
            moves.advance_inside inside place (List.mem_of_mem_filter listed)
        · exact (mem_union.mp listed).elim (known place) (fresh place)

/-- The number of places inside the text that are not yet reached. -/
def missing (size : Nat) (reached : List Nat) : Nat :=
  (Finset.range (size + 1) \ reached.toFinset).card

/-- If there are as many rounds as missing places, no move leads out of what is reached. -/
theorem closure_closed
    (moves : Moves size move advance)
    {steps : Nat}
    (enough : missing size reached ≤ steps)
    (inside : ∀ start ∈ reached, start ≤ size)
    (frontierReached : frontier ⊆ reached)
    (closedUp : ∀ start ∈ reached, ∀ finish, move start finish ->
      start ∈ frontier ∨ finish ∈ reached) :
    ∀ start ∈ closure advance steps reached frontier, ∀ finish, move start finish ->
      finish ∈ closure advance steps reached frontier := by
  induction steps generalizing reached frontier with
  | zero =>
      intro start listed finish moved
      have none := Finset.card_eq_zero.mp (Nat.le_zero.mp enough)
      have within : finish ∈ Finset.range (size + 1) :=
        Finset.mem_range_succ_iff.mpr (moves.inside (inside start listed) moved)
      exact List.mem_toFinset.mp (Finset.sdiff_eq_empty_iff_subset.mp none within)
  | succ steps inductionHypothesis =>
      have frontierInside : ∀ start ∈ frontier, start ≤ size :=
        fun start listed => inside start (frontierReached listed)
      have covered : ∀ start ∈ frontier, ∀ finish, move start finish -> finish ∈ reached ∨
          finish ∈ (advance frontier).filter fun place => !reached.contains place := by
        intro start listed finish moved
        by_cases known : finish ∈ reached
        · exact .inl known
        · refine .inr (List.mem_filter.mpr ⟨?_, by simpa using known⟩)
          exact (moves.mem_iff frontierInside).mpr ⟨start, listed, moved⟩
      rw [closure]
      generalize fresh_eq : ((advance frontier).filter fun place => !reached.contains place) =
        fresh at covered
      have freshInside : ∀ place ∈ fresh, place ≤ size ∧ place ∉ reached := by
        intro place listed
        rw [← fresh_eq, List.mem_filter] at listed
        exact ⟨moves.advance_inside frontierInside place listed.1, by simpa using listed.2⟩
      cases fresh with
      | nil =>
          intro start listed finish moved
          rcases closedUp start listed finish moved with ahead | known
          · exact (covered start ahead finish moved).elim id fun none => by cases none
          · exact known
      | cons first rest =>
          refine inductionHypothesis ?_ ?_ ?_ ?_
          · have fewer : missing size (union reached (first :: rest)) < missing size reached := by
              refine Finset.card_lt_card (Finset.ssubset_iff_of_subset ?_ |>.mpr ⟨first, ?_, ?_⟩)
              · intro place listed
                rw [Finset.mem_sdiff, List.mem_toFinset, mem_union] at listed
                exact Finset.mem_sdiff.mpr ⟨listed.1, fun known =>
                  listed.2 (.inl (List.mem_toFinset.mp known))⟩
              · obtain ⟨within, new⟩ := freshInside first List.mem_cons_self
                exact Finset.mem_sdiff.mpr ⟨Finset.mem_range_succ_iff.mpr within, fun known =>
                  new (List.mem_toFinset.mp known)⟩
              · exact fun listed => (Finset.mem_sdiff.mp listed).2
                  (List.mem_toFinset.mpr (mem_union.mpr (.inr List.mem_cons_self)))
            omega
          · exact fun place listed => (mem_union.mp listed).elim (inside place)
              fun new => (freshInside place new).1
          · exact fun place listed => mem_union.mpr (.inr listed)
          · intro start listed finish moved
            rcases mem_union.mp listed with known | new
            · rcases closedUp start known finish moved with ahead | reachedBefore
              · exact .inr (mem_union.mpr (covered start ahead finish moved))
              · exact .inr (mem_union.mpr (.inl reachedBefore))
            · exact .inl new

theorem mem_closure
    (moves : Moves size move advance)
    (inside : ∀ start ∈ places, start ≤ size) :
    place ∈ closure advance (size + 1) places places ↔
      ∃ start ∈ places, ∃ count, Times move count start place := by
  constructor
  · have known : ∀ start ∈ places, ∃ first ∈ places, ∃ count, Times move count first start :=
      fun start listed => ⟨start, listed, 0, rfl⟩
    refine moves.closure_reached ?_ inside (size + 1) known known place
    rintro start finish ⟨first, listed, count, before⟩ moved
    exact ⟨first, listed, count + 1, times_add.mpr ⟨start, before, finish, moved, rfl⟩⟩
  · rintro ⟨start, listed, count, moved⟩
    have enough : missing size places ≤ size + 1 :=
      (Finset.card_le_card Finset.sdiff_subset).trans (Finset.card_range _).le
    have closed := moves.closure_closed enough inside (List.Subset.refl _)
      fun _ listed _ _ => .inl listed
    exact moved.keeps (· ∈ closure advance (size + 1) places places)
      (fun found moved => closed _ found _ moved) (subset_closure _ listed)

end Moves

/-! ## Expressions -/

/-- Advancing a set of places finds the places at which matches end. -/
theorem Expression.advance_moves (input : Array Char) (expression : Expression) :
    Moves input.size (expression.Spans input) (expression.advance input) := by
  refine ⟨?_, fun inside spans => spans.le_size inside⟩
  induction expression with
  | empty => simp [advance, Spans]
  | never => simp [advance, Spans]
  | one class_ =>
      intro places place _
      simp only [advance, List.mem_filterMap, Spans]
      refine exists_congr fun start => and_congr_right fun _ => ?_
      cases input[start]? with
      | none => simp
      | some c => by_cases inClass : class_.contains c <;> simp [inClass, eq_comm (a := place)]
  | place boundary =>
      intro places place _
      simp only [advance, List.mem_filter, Spans]
      constructor
      · rintro ⟨listed, holds⟩
        exact ⟨place, listed, rfl, holds⟩
      · rintro ⟨_, listed, rfl, holds⟩
        exact ⟨listed, holds⟩
  | followedBy first second firstHypothesis secondHypothesis =>
      intro places place inside
      have middles : ∀ middle ∈ first.advance input places, middle ≤ input.size :=
        Moves.advance_inside ⟨firstHypothesis, fun inside spans => spans.le_size inside⟩ inside
      simp only [advance, secondHypothesis middles, firstHypothesis inside, Spans]
      constructor
      · rintro ⟨middle, ⟨start, listed, before⟩, after⟩
        exact ⟨start, listed, middle, before, after⟩
      · rintro ⟨start, listed, middle, before, after⟩
        exact ⟨middle, ⟨start, listed, before⟩, after⟩
  | either first second firstHypothesis secondHypothesis =>
      intro places place inside
      simp only [advance, mem_union, firstHypothesis inside, secondHypothesis inside, Spans]
      constructor
      · rintro (⟨start, listed, spans⟩ | ⟨start, listed, spans⟩)
        · exact ⟨start, listed, .inl spans⟩
        · exact ⟨start, listed, .inr spans⟩
      · rintro ⟨start, listed, spans | spans⟩
        · exact .inl ⟨start, listed, spans⟩
        · exact .inr ⟨start, listed, spans⟩
  | repeated inner least most inductionHypothesis =>
      intro places place inside
      have moves : Moves input.size (inner.Spans input) (inner.advance input) :=
        ⟨inductionHypothesis, fun inside spans => spans.le_size inside⟩
      have required := moves.iterate_inside least inside
      cases most with
      | none =>
          simp only [advance, moves.mem_closure required, moves.mem_iterate least inside, Spans]
          constructor
          · rintro ⟨middle, ⟨start, listed, before⟩, count, after⟩
            exact ⟨start, listed, least + count, Nat.le_add_right .., nofun,
              times_add.mpr ⟨middle, before, after⟩⟩
          · rintro ⟨start, listed, count, enough, _, moved⟩
            obtain ⟨extra, rfl⟩ := Nat.exists_eq_add_of_le enough
            obtain ⟨middle, before, after⟩ := times_add.mp moved
            exact ⟨middle, ⟨start, listed, before⟩, extra, after⟩
      | some most =>
          simp only [advance, moves.mem_iterateUpTo (most - least) required,
            moves.mem_iterate least inside, Spans, Option.some.injEq, forall_eq']
          constructor
          · rintro ⟨middle, ⟨start, listed, before⟩, count, within, after⟩
            exact ⟨start, listed, least + count, Nat.le_add_right .., by omega,
              times_add.mpr ⟨middle, before, after⟩⟩
          · rintro ⟨start, listed, count, enough, within, moved⟩
            obtain ⟨extra, rfl⟩ := Nat.exists_eq_add_of_le enough
            obtain ⟨middle, before, after⟩ := times_add.mp moved
            exact ⟨middle, ⟨start, listed, before⟩, extra, by omega, after⟩

/-- A text is accepted if the expression matches a part of it. -/
theorem Expression.accepts_iff (expression : Expression) (text : String) :
    expression.accepts text = true ↔
      ∃ start finish, start ≤ text.toList.length ∧
        expression.Spans text.toList.toArray start finish := by
  have moves := expression.advance_moves text.toList.toArray
  have size : text.toList.toArray.size = text.toList.length := List.size_toArray
  have inside : ∀ start ∈ List.range (text.toList.toArray.size + 1),
      start ≤ text.toList.toArray.size :=
    fun start listed => Nat.lt_succ_iff.mp (List.mem_range.mp listed)
  rw [accepts, Bool.not_eq_true', List.isEmpty_eq_false_iff_exists_mem]
  constructor
  · rintro ⟨finish, found⟩
    obtain ⟨start, listed, spans⟩ := (moves.mem_iff inside).mp found
    exact ⟨start, finish, size ▸ inside start listed, spans⟩
  · rintro ⟨start, finish, within, spans⟩
    refine ⟨finish, (moves.mem_iff inside).mpr ⟨start, List.mem_range.mpr ?_, spans⟩⟩
    omega

/-- An expression matches the whole of a text. -/
def Expression.MatchesWhole (expression : Expression) (text : String) : Prop :=
  expression.Spans text.toList.toArray 0 text.toList.length

/-- An expression between the start and the end of a text. -/
def Expression.anchored (expression : Expression) : Expression :=
  ((place .textStart).followedBy expression).followedBy (place .textEnd)

/-- An anchored expression is found in a text if the expression matches the whole of it. -/
theorem Expression.accepts_anchored (expression : Expression) (text : String) :
    expression.anchored.accepts text = true ↔ expression.MatchesWhole text := by
  rw [accepts_iff]
  constructor
  · rintro ⟨start, finish, _, middle, ⟨_, ⟨rfl, first⟩, spans⟩, rfl, last⟩
    obtain rfl : start = 0 := by simpa [Boundary.holds] using first
    obtain rfl : middle = text.toList.length := by simpa [Boundary.holds] using last
    exact spans
  · intro whole
    refine ⟨0, text.toList.length, Nat.zero_le _, _, ⟨0, ⟨rfl, rfl⟩, whole⟩, rfl, ?_⟩
    simp [Boundary.holds]

end Regex
end PatternMachine
