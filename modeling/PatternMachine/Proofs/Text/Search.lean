import PatternMachine.Text.Search

/-!
# Occurrences and pieces

The search finds an occurrence if there is one, and then the first one. What stands before
it contains no whole occurrence, so that cutting a text at one occurrence after the other
leaves pieces without any. Put together again with the separator between them the pieces are
the text, however the separator overlaps itself or meets the ends of the text.
-/

namespace PatternMachine
namespace Text

variable {part separator chars front behind : List Char}

/-- A part occurs between `front` and `behind`, and nowhere before. -/
structure OccursFirst (part chars front behind : List Char) : Prop where
  parts : chars = front ++ part ++ behind
  earliest : ∀ before after, chars = before ++ part ++ after -> front.length ≤ before.length

namespace OccursFirst

/-- An occurrence at the beginning is the first one. -/
theorem here (start : part <+: chars) : OccursFirst part chars [] (chars.drop part.length) where
  parts := by
    obtain ⟨behind, rfl⟩ := start
    simp
  earliest _ _ _ := Nat.zero_le _

/-- The first occurrence in the rest of a text is the first one in a text that does not begin
with one. -/
theorem cons
    {c : Char}
    (first : OccursFirst part chars front behind)
    (elsewhere : ¬ part <+: c :: chars) :
    OccursFirst part (c :: chars) (c :: front) behind where
  parts := by rw [first.parts, List.cons_append, List.cons_append]
  earliest := by
    intro before after same
    cases before with
    | nil => exact absurd ⟨after, same.symm⟩ elsewhere
    | cons other before =>
        obtain ⟨-, rest⟩ := List.cons.inj same
        exact Nat.succ_le_succ (first.earliest before after rest)

/-- What stands before the first occurrence contains none. -/
theorem not_infix
    (first : OccursFirst part chars front behind)
    (nonempty : part ≠ []) :
    ¬ part <:+: front := by
  rintro ⟨before, after, same⟩
  have earliest : front.length ≤ before.length := by
    refine first.earliest before (after ++ part ++ behind) ?_
    rw [first.parts, ← same]
    simp only [List.append_assoc]
  have length := congrArg List.length same
  have positive := List.length_pos_iff.mpr nonempty
  simp only [List.length_append] at length
  omega

end OccursFirst

/-- The search finds the first occurrence, and fails only if there is none. -/
theorem splitFirst?_spec (part chars : List Char) :
    (∃ front behind, splitFirst? part chars = some (front, behind) ∧
      OccursFirst part chars front behind) ∨
    (splitFirst? part chars = none ∧ ¬ part <:+: chars) := by
  induction chars with
  | nil =>
      cases part with
      | nil => exact .inl ⟨[], [], rfl, .here List.nil_prefix⟩
      | cons c rest => exact .inr ⟨rfl, by simp⟩
  | cons c rest inductionHypothesis =>
      rw [splitFirst?]
      by_cases start : part <+: c :: rest
      · rw [if_pos (List.isPrefixOf_iff_prefix.mpr start)]
        exact .inl ⟨[], _, rfl, .here start⟩
      · rw [if_neg (mt List.isPrefixOf_iff_prefix.mp start)]
        rcases inductionHypothesis with ⟨front, behind, found, first⟩ | ⟨missing, absent⟩
        · rw [found]
          exact .inl ⟨c :: front, behind, rfl, first.cons start⟩
        · rw [missing]
          refine .inr ⟨rfl, fun occurs => ?_⟩
          exact (List.infix_cons_iff.mp occurs).elim start absent

theorem splitFirst?_eq_none_iff : splitFirst? part chars = none ↔ ¬ part <:+: chars := by
  rcases splitFirst?_spec part chars with ⟨front, behind, found, first⟩ | ⟨missing, absent⟩
  · have occurs : part <:+: chars := ⟨front, behind, first.parts.symm⟩
    simp [found, occurs]
  · simp [missing, absent]

theorem OccursFirst.of_splitFirst? (found : splitFirst? part chars = some (front, behind)) :
    OccursFirst part chars front behind := by
  rcases splitFirst?_spec part chars with ⟨_, _, same, first⟩ | ⟨missing, _⟩
  · obtain ⟨rfl, rfl⟩ := Prod.mk.inj (Option.some.inj (same.symm.trans found))
    exact first
  · cases missing.symm.trans found

/-! ## Pieces -/

theorem pieces_ne_nil (separator : List Char) (steps : Nat) (chars : List Char) :
    pieces separator steps chars ≠ [] := by
  cases steps with
  | zero => exact List.cons_ne_nil _ _
  | succ steps =>
      rw [pieces]
      split <;> exact List.cons_ne_nil _ _

/-- The pieces with the separator between them are the text. -/
theorem intercalate_pieces (separator : List Char) (steps : Nat) (chars : List Char) :
    separator.intercalate (pieces separator steps chars) = chars := by
  induction steps generalizing chars with
  | zero => simp [pieces]
  | succ steps inductionHypothesis =>
      rw [pieces]
      split
      · rename_i front behind found
        rw [List.intercalate_cons_of_ne_nil (pieces_ne_nil _ _ _), inductionHypothesis]
        exact (OccursFirst.of_splitFirst? found).parts.symm
      · simp

/-- With as many steps as there are characters no separator is left in a piece. -/
theorem not_infix_of_mem_pieces
    {steps : Nat}
    {piece : List Char}
    (nonempty : separator ≠ [])
    (enough : chars.length ≤ steps)
    (member : piece ∈ pieces separator steps chars) :
    ¬ separator <:+: piece := by
  induction steps generalizing chars with
  | zero =>
      obtain rfl := List.length_eq_zero_iff.mp (Nat.le_zero.mp enough)
      obtain rfl := List.mem_singleton.mp member
      simpa using nonempty
  | succ steps inductionHypothesis =>
      rw [pieces] at member
      split at member
      · rename_i front behind found
        have first := OccursFirst.of_splitFirst? found
        rcases List.mem_cons.mp member with rfl | later
        · exact first.not_infix nonempty
        · have positive := List.length_pos_iff.mpr nonempty
          have length := congrArg List.length first.parts
          simp only [List.length_append] at length
          exact inductionHypothesis (by omega) later
      · rename_i missing
        obtain rfl := List.mem_singleton.mp member
        exact splitFirst?_eq_none_iff.mp missing

/-- Splitting a text at a separator leaves pieces without it, which are the text when they are
put together with the separator between them. -/
theorem splitAt_spec
    {separator : String}
    (nonempty : separator ≠ "")
    (text : String) :
    splitAt text separator ≠ [] ∧
      (∀ piece ∈ splitAt text separator, ¬ separator.toList <:+: piece.toList) ∧
      String.intercalate separator (splitAt text separator) = text := by
  unfold splitAt
  refine ⟨by simpa using pieces_ne_nil _ _ _, fun piece member => ?_, ?_⟩
  · obtain ⟨chars, held, rfl⟩ := List.mem_map.mp member
    rw [String.toList_ofList]
    refine not_infix_of_mem_pieces ?_ (Nat.le_of_eq ?_) held
    · simpa using nonempty
    · exact String.length_toList
  · rw [← String.toList_inj, String.toList_intercalate, List.map_map]
    simp only [Function.comp_def, String.toList_ofList, List.map_id']
    exact intercalate_pieces _ _ _

end Text
end PatternMachine
