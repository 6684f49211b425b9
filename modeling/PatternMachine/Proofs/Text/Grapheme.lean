import PatternMachine.Text.Grapheme

/-!
# Clusters of a beginning of a text

Whether a character joins the cluster before it depends on what was read so far only.
Therefore the clusters of a beginning of a text are clusters of the text, but for the last
one, which may go on in the text. Where it does, the beginning ends inside a cluster of the
text, and the cluster is counted although it is not complete.
-/

namespace PatternMachine
namespace Text

namespace Grapheme

/-- The cluster that is being read comes first, with what joins it. -/
theorem split_eq_cons (state : State) (current chars : List Char) :
    ∃ inside rest, split state current chars = (current.reverse ++ inside) :: rest ∧
      inside ++ rest.flatten = chars := by
  induction chars generalizing state current with
  | nil => exact ⟨[], [], by simp [split], rfl⟩
  | cons c chars inductionHypothesis =>
      rw [split]
      split
      · obtain ⟨inside, rest, cut, whole⟩ :=
          inductionHypothesis (state.next (classOf c)) (c :: current)
        exact ⟨c :: inside, rest, by simp [cut], by simp [← whole]⟩
      · obtain ⟨inside, rest, cut, whole⟩ := inductionHypothesis (state.next (classOf c)) [c]
        exact ⟨[], ([c] ++ inside) :: rest, by simp [cut], by simp [← whole]⟩

theorem length_split_le (state : State) (current chars : List Char) :
    (split state current chars).length ≤ chars.length + 1 := by
  induction chars generalizing state current with
  | nil => exact Nat.le_refl _
  | cons c chars inductionHypothesis =>
      rw [split]
      split
      · exact Nat.le_succ_of_le (inductionHypothesis _ _)
      · exact Nat.succ_le_succ (inductionHypothesis _ _)

/-- After a beginning the rest is cut as if the last cluster of the beginning was being
read. -/
theorem split_append (state : State) (current front : List Char) (started : current ≠ []) :
    ∃ before last after, last ≠ [] ∧ split state current front = before ++ [last.reverse] ∧
      ∀ behind, split state current (front ++ behind) = before ++ split after last behind := by
  induction front generalizing state current with
  | nil => exact ⟨[], current, state, started, rfl, fun _ => rfl⟩
  | cons c front inductionHypothesis =>
      simp only [List.cons_append, split]
      split
      · exact inductionHypothesis (state.next (classOf c)) (c :: current) (List.cons_ne_nil _ _)
      · obtain ⟨before, last, after, nonempty, cut, onwards⟩ :=
          inductionHypothesis (state.next (classOf c)) [c] (List.cons_ne_nil _ _)
        refine ⟨current.reverse :: before, last, after, nonempty, by rw [cut, List.cons_append], ?_⟩
        intro behind
        rw [onwards, List.cons_append]

end Grapheme

variable {chars front behind : List Char}

/-- The clusters one after the other are the text. -/
theorem flatten_graphemeChars (chars : List Char) : (graphemeChars chars).flatten = chars := by
  cases chars with
  | nil => rfl
  | cons c rest =>
      obtain ⟨inside, clusters, cut, whole⟩ :=
        Grapheme.split_eq_cons (.start (Grapheme.classOf c)) [c] rest
      rw [graphemeChars, cut, List.flatten_cons, List.append_assoc, whole]
      rfl

theorem length_graphemeChars_le (chars : List Char) :
    (graphemeChars chars).length ≤ chars.length := by
  cases chars with
  | nil => exact Nat.le_refl _
  | cons c rest => exact Grapheme.length_split_le _ _ rest

/-- The clusters of a beginning of a text are clusters of the text, but for the last one, which
may go on. -/
theorem graphemeChars_append
    (nonempty : front ≠ [])
    (behind : List Char) :
    ∃ before last inside rest, last ≠ [] ∧ graphemeChars front = before ++ [last] ∧
      graphemeChars (front ++ behind) = before ++ (last ++ inside) :: rest ∧
      inside ++ rest.flatten = behind := by
  cases front with
  | nil => exact absurd rfl nonempty
  | cons c front =>
      obtain ⟨before, last, after, started, cut, onwards⟩ :=
        Grapheme.split_append (.start (Grapheme.classOf c)) [c] front (List.cons_ne_nil _ _)
      obtain ⟨inside, rest, cutBehind, whole⟩ := Grapheme.split_eq_cons after last behind
      refine ⟨before, last.reverse, inside, rest, by simpa using started, cut, ?_, whole⟩
      rw [List.cons_append, graphemeChars, onwards, cutBehind]

/-- A cluster of the text starts behind the given beginning, or the text ends there. -/
def IsBoundary (chars front : List Char) : Prop :=
  ∃ count, ((graphemeChars chars).take count).flatten = front

/-- The cluster that a beginning ends in is complete if some number of whole clusters is the
beginning: fewer clusters are shorter. -/
theorem eq_nil_of_flatten_take
    {before rest : List (List Char)}
    {last inside : List Char}
    {count : Nat}
    (started : last ≠ [])
    (same : ((before ++ (last ++ inside) :: rest).take count).flatten = before.flatten ++ last) :
    inside = [] := by
  have length := congrArg List.length same
  rcases Nat.lt_or_ge before.length count with more | fewer
  · obtain ⟨extra, rfl⟩ := Nat.exists_eq_add_of_lt more
    rw [Nat.add_assoc, List.take_length_add_append, List.take_succ_cons] at length
    simp only [List.flatten_append, List.flatten_cons, List.length_append] at length
    exact List.length_eq_zero_iff.mp (by omega)
  · have whole := congrArg (fun clusters => clusters.flatten.length)
      (List.take_append_drop count before)
    have positive := List.length_pos_iff.mpr started
    rw [List.take_append_of_le_length fewer] at length
    simp only [List.flatten_append, List.length_append] at length whole
    omega

/-- Where a cluster of the text starts behind a beginning, the clusters of the beginning are
the clusters of the text before. -/
theorem IsBoundary.take_graphemeChars
    (boundary : IsBoundary (front ++ behind) front) :
    ((graphemeChars (front ++ behind)).take (graphemeChars front).length).flatten = front ∧
      ((graphemeChars (front ++ behind)).drop (graphemeChars front).length).flatten = behind := by
  let clusters := graphemeChars (front ++ behind)
  let count := (graphemeChars front).length
  have taken : (clusters.take count).flatten = front := by
    by_cases empty : front = []
    · subst empty
      rfl
    · obtain ⟨before, last, inside, rest, started, cut, onwards, _⟩ :=
        graphemeChars_append empty behind
      obtain ⟨_, same⟩ := boundary
      have front_eq := flatten_graphemeChars front
      rw [cut, List.flatten_concat] at front_eq
      rw [onwards, ← front_eq] at same
      obtain rfl := eq_nil_of_flatten_take started same
      dsimp only [clusters, count]
      rw [onwards, cut, List.length_append, List.take_length_add_append]
      simpa using front_eq
  refine ⟨taken, (List.append_right_inj front).mp ?_⟩
  calc
    front ++ (clusters.drop count).flatten
      = (clusters.take count).flatten ++ (clusters.drop count).flatten := by rw [taken]
    _ = clusters.flatten := by rw [← List.flatten_append, List.take_append_drop]
    _ = front ++ behind := flatten_graphemeChars _

/-- Where none does, the last cluster of the beginning is that part of a cluster of the text
which lies in the beginning. -/
theorem exists_cluster_of_not_isBoundary (within : ¬ IsBoundary (front ++ behind) front) :
    ∃ before start inside rest,
      graphemeChars (front ++ behind) = before ++ (start ++ inside) :: rest ∧
      start ≠ [] ∧ inside ≠ [] ∧ before.flatten ++ start = front ∧
      (graphemeChars front).length = before.length + 1 := by
  have nonempty : front ≠ [] := by
    rintro rfl
    exact within ⟨0, rfl⟩
  obtain ⟨before, last, inside, rest, started, cut, onwards, _⟩ :=
    graphemeChars_append nonempty behind
  have front_eq := flatten_graphemeChars front
  rw [cut, List.flatten_concat] at front_eq
  refine ⟨before, last, inside, rest, onwards, started, ?_, front_eq, by rw [cut]; simp⟩
  rintro rfl
  refine within ⟨before.length + 1, ?_⟩
  rw [onwards, List.take_length_add_append]
  simpa using front_eq

end Text
end PatternMachine
