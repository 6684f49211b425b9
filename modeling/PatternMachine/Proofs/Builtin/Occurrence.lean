import PatternMachine.Proofs.Builtin.Install
import PatternMachine.Proofs.IndexAssignment
import PatternMachine.Proofs.Text.Grapheme
import PatternMachine.Proofs.Text.Search

/-!
# Positions of texts in texts

The length of a text counts its clusters, and indexing yields them. The position that is found
for a text is the number of clusters of what stands before its first occurrence. It is the
index at which the occurrence starts if it starts with a cluster. An occurrence that starts
inside a cluster gets the index behind this cluster.
-/

namespace PatternMachine
namespace Text

variable {text : String} {part front behind : List Char}

/-- An index as the position of an occurrence that starts behind `front`. -/
structure Locates (text : String) (part front : List Char) (index : Nat) : Prop where
  /-- If the occurrence starts with a cluster, the clusters from the index on start with it. -/
  starting : IsBoundary text.toList front ->
    index < (graphemes text).length ∧
      ((graphemes text).take index).flatMap String.toList = front ∧
      part <+: ((graphemes text).drop index).flatMap String.toList
  /-- If it starts inside a cluster, the index is the one behind this cluster. -/
  within : ¬ IsBoundary text.toList front ->
    ∃ before cluster rest start inside, graphemes text = before ++ cluster :: rest ∧
      cluster.toList = start ++ inside ∧ start ≠ [] ∧ inside ≠ [] ∧
      before.flatMap String.toList ++ start = front ∧ index = before.length + 1

theorem flatMap_toList (clusters : List (List Char)) :
    (clusters.map String.ofList).flatMap String.toList = clusters.flatten := by
  rw [List.flatMap_map]
  simp

/-- The number of clusters before the first occurrence is its position. -/
theorem OccursFirst.locates
    (first : OccursFirst part text.toList front behind)
    (nonempty : part ≠ []) :
    Locates text part front (graphemeChars front).length where
  starting boundary := by
    rw [first.parts, List.append_assoc] at boundary
    obtain ⟨taken, dropped⟩ := boundary.take_graphemeChars
    rw [← List.append_assoc, ← first.parts] at taken dropped
    refine ⟨?_, ?_, ?_⟩
    · rw [graphemes, List.length_map]
      refine Nat.lt_of_not_le fun beyond => ?_
      rw [List.drop_eq_nil_of_le beyond] at dropped
      exact nonempty (List.append_eq_nil_iff.mp dropped.symm).1
    · rw [graphemes, ← List.map_take, flatMap_toList, taken]
    · rw [graphemes, ← List.map_drop, flatMap_toList, dropped]
      exact List.prefix_append part behind
  within inside := by
    rw [first.parts, List.append_assoc] at inside
    obtain ⟨before, start, inner, rest, clusters, started, continued, same, count⟩ :=
      exists_cluster_of_not_isBoundary inside
    rw [← List.append_assoc, ← first.parts] at clusters
    refine ⟨before.map String.ofList, .ofList (start ++ inner), rest.map String.ofList, start,
      inner, ?_, String.toList_ofList, started, continued, ?_, ?_⟩
    · rw [graphemes, clusters, List.map_append, List.map_cons]
    · rw [flatMap_toList, same]
    · rw [count, List.length_map]

end Text

namespace Builtin

variable {text part : String} {machine entered : Machine}

theorem length_text (found : Native.Entered "x" (.text text) machine entered) :
    ∃ after, length entered = .ok (.integer (Int64.ofNat (Text.graphemes text).length)) after := by
  unfold length
  rw [Action.bind_apply, formal_apply found]
  exact Action.newInteger_apply _ entered

/-- The position of the first occurrence is the number of clusters before it. -/
theorem findText_apply
    (textFound : Native.Entered "s" (.text text) machine entered)
    (partFound : Native.Entered "sub" (.text part) machine entered) :
    (∃ front behind after, Text.OccursFirst part.toList text.toList front behind ∧
      findText entered =
        .ok (.integer (Int64.ofNat (Text.graphemeChars front).length)) after) ∨
    (¬ part.toList <:+: text.toList ∧
      ∃ after, findText entered = .ok (.integer (-1)) after) := by
  unfold findText
  rw [Action.bind_apply, textFormal_apply textFound]
  dsimp only
  rw [Action.bind_apply, textFormal_apply partFound]
  dsimp only
  rcases Text.splitFirst?_spec part.toList text.toList with
    ⟨front, behind, found, first⟩ | ⟨missing, absent⟩
  · obtain ⟨after, made⟩ := Action.newInteger_apply
      (Int64.ofNat (Text.graphemeChars front).length) entered
    exact .inl ⟨front, behind, after, first, by rw [found]; exact made⟩
  · obtain ⟨after, made⟩ := Action.newInteger_apply (-1) entered
    exact .inr ⟨absent, after, by rw [missing]; exact made⟩

end Builtin

namespace Evaluator

/-- A program sees the clusters of a text: their number is its length, and each of them stands
at its index. -/
structure Spells (text : String) (clusters : List String) : Prop where
  counted : ∀ {function machine}, Native.len.Available function machine -> ∀ depth, ∃ store,
    (within (depth + 1)).Returns function (.text text) machine
      (.integer (Int64.ofNat clusters.length)) store
  indexed : ∀ {depth mark subject selector machine middle later place},
    (within depth).walk subject machine = .ok (.text text) middle ->
    (within depth).walk selector middle = .ok (.integer (Int64.ofNat place)) later ->
    ∀ inside : place < clusters.length, ∃ after,
      (within (depth + 1)).walk (.index mark subject selector) machine =
        .ok (.text clusters[place]) after

variable {function argument : Term} {machine : Machine} {text part : String}

/-- A length is a number of 64 bits. -/
theorem toInt_ofNat_of_le_maxValue {count : Nat} (bounded : count ≤ Int64.maxValue.toInt) :
    (Int64.ofNat count).toInt = count := by
  have highest : Int64.maxValue.toInt = 9223372036854775807 := rfl
  exact Int64.toInt_ofNat_of_lt (by omega)

theorem selectClusters_apply
    {place : Nat}
    (bounded : text.length ≤ Int64.maxValue.toInt)
    (inside : place < (Text.graphemes text).length)
    (machine : Machine) :
    selectClusters text (.integer (Int64.ofNat place)) machine =
      .ok (.text (Text.graphemes text)[place])
        { machine with tally := machine.tally.count .text } := by
  have few := Text.length_graphemeChars_le text.toList
  have count : (Text.graphemes text).length = (Text.graphemeChars text.toList).length :=
    List.length_map _
  rw [String.length_toList] at few
  have fits : (Int64.ofNat place).toInt = place := toInt_ofNat_of_le_maxValue (by omega)
  have denotes : positionOrRaise (Int64.ofNat place) (Text.graphemes text).length =
      pure place := by
    rw [positionOrRaise_of_inBounds ⟨by omega, by omega⟩, fits,
      Int.emod_eq_of_lt (by omega) (by omega), Int.toNat_natCast]
  have selected : (Text.graphemes text)[place]?.getD "" = (Text.graphemes text)[place] := by
    rw [List.getElem?_eq_getElem inside, Option.getD_some]
  unfold selectClusters
  dsimp only
  rw [denotes, Action.bind_apply, Action.pure_apply]
  dsimp only
  rw [selected, Action.newText_apply]

theorem spells_graphemes (bounded : text.length ≤ Int64.maxValue.toInt) :
    Spells text (Text.graphemes text) where
  counted := by
    intro function machine available depth
    have present : (Term.text text).isAbsent = false := rfl
    obtain ⟨entered, found, ends⟩ :=
      applyValue_native (available.callable rfl) present depth
    obtain ⟨after, run⟩ := Builtin.length_text found
    exact ⟨after.store, ends.returns _ after run⟩
  indexed := by
    intro depth mark subject selector machine middle later place first second inside
    refine ⟨{ later with tally := later.tally.count .text }, ?_⟩
    change (within depth).walkIndex subject selector machine = _
    unfold walkIndex
    rw [Action.bind_apply, first]
    change ((within depth).walk selector >>= _ : Action Term) middle = _
    rw [Action.bind_apply, second]
    exact selectClusters_apply bounded inside later

/-- The position of a text in another one is minus one if it does not occur, and otherwise the
index at which its first occurrence starts, or the one behind the cluster inside which it
starts. The length of a text is an integer, and so is every index. -/
theorem applyValue_index
    (available : Native.index.Available function machine)
    (operands : machine.store.tupleElements? argument = some [.text text, .text part])
    (nonempty : part ≠ "")
    (bounded : text.length ≤ Int64.maxValue.toInt)
    (depth : Nat) :
    ∃ position store,
      (within (depth + 2)).Returns function argument machine (.integer position) store ∧
      Spells text (Text.graphemes text) ∧
      (position.toInt = -1 ↔ ¬ part.toList <:+: text.toList) ∧
      (part.toList <:+: text.toList -> ∃ front behind, ∃ index : Nat,
        Text.OccursFirst part.toList text.toList front behind ∧ position.toInt = index ∧
          Text.Locates text part.toList front index) := by
  obtain ⟨entered, textFound, partFound, ends⟩ :=
    applyValue_pair available rfl operands ⟨rfl, rfl⟩ depth
  rcases Builtin.findText_apply textFound partFound with
    ⟨front, behind, after, first, run⟩ | ⟨absent, after, run⟩
  · have fits : (Int64.ofNat (Text.graphemeChars front).length).toInt =
        (Text.graphemeChars front).length := by
      refine toInt_ofNat_of_le_maxValue ?_
      have few := Text.length_graphemeChars_le front
      have length := congrArg List.length first.parts
      rw [String.length_toList, List.length_append, List.length_append] at length
      omega
    have occurs : part.toList <:+: text.toList := ⟨front, behind, first.parts.symm⟩
    refine ⟨_, _, ends.returns _ _ run, spells_graphemes bounded, ?_, fun _ => ?_⟩
    · rw [fits]
      exact ⟨fun same => absurd same (by omega), fun missing => absurd occurs missing⟩
    · exact ⟨front, behind, _, first, fits, first.locates (by simpa using nonempty)⟩
  · exact ⟨_, _, ends.returns _ _ run, spells_graphemes bounded, ⟨fun _ => absent, fun _ => rfl⟩,
      fun occurs => absurd occurs absent⟩

theorem graphemes_lineEnds : Text.graphemes "\r\nx\n" = ["\r\n", "x", "\n"] := by
  decide

/-- A line feed first occurs inside a line end of two characters. The position that is found is
the index behind this line end, where the text has another character. -/
theorem applyValue_index_of_lineEnds :
    ∃ store,
      (within 2).Returns (.closure "index" (some Closure.global))
        (.pair (.text "\r\nx\n") (.text "\n")) (.prepared Store.initial {} {} true)
        (.integer 1) store ∧
      Spells "\r\nx\n" ["\r\n", "x", "\n"] := by
  have available : Native.index.Available (.closure "index" (some Closure.global))
      (.prepared Store.initial {} {} true) :=
    (Native.prepared_available Store.initial).2 .index (by decide)
  generalize Machine.prepared Store.initial {} {} true = machine at available ⊢
  have operands : machine.store.tupleElements? (.pair (.text "\r\nx\n") (.text "\n")) =
      some [.text "\r\nx\n", .text "\n"] := rfl
  obtain ⟨position, store, returns, spells, _, located⟩ :=
    applyValue_index available operands (by decide) (by decide) 0
  obtain ⟨front, behind, index, first, same, locates⟩ := located ⟨['\r'], ['x', '\n'], rfl⟩
  have parts : ['\r', '\n', 'x', '\n'] = front ++ ['\n'] ++ behind := first.parts
  have short : front.length ≤ 1 :=
    first.earliest ['\r'] ['x', '\n'] rfl
  obtain rfl : front = ['\r'] := by
    rcases front with _ | ⟨c, _ | ⟨d, rest⟩⟩
    · simp at parts
    · simp only [List.cons_append, List.nil_append, List.cons.injEq] at parts
      rw [parts.1]
    · simp at short
  have one : index = 1 := by
    by_cases boundary : Text.IsBoundary "\r\nx\n".toList ['\r']
    · obtain ⟨inside, taken, _⟩ := locates.starting boundary
      rw [graphemes_lineEnds] at inside taken
      obtain rfl | rfl | rfl : index = 0 ∨ index = 1 ∨ index = 2 := by
        simp at inside
        omega
      all_goals simp at taken
    · obtain ⟨before, cluster, rest, start, inner, clusters, _, started, _, taken, rfl⟩ :=
        locates.within boundary
      rw [graphemes_lineEnds] at clusters
      rcases before with _ | ⟨head, before⟩
      · rfl
      · obtain rfl : "\r\n" = head := (List.cons.inj clusters).1
        simp at taken
  rw [one] at same
  rw [show position = 1 from Int64.toInt_inj.mp same] at returns
  rw [graphemes_lineEnds] at spells
  exact ⟨store, returns, spells⟩

end Evaluator
end PatternMachine
