import PatternMachine.Proofs.Builtin.Install
import PatternMachine.Proofs.Text.Search

/-!
# Splitting and joining texts

Exploding a text at a separator makes a list of pieces without the separator. Imploding the
list with the separator gives the text back.
-/

namespace PatternMachine
namespace Builtin

theorem newTexts_apply (texts : List String) (machine : Machine) :
    ∃ after, newTexts texts machine = .ok (texts.map .text) after ∧
      after.store = machine.store := by
  induction texts generalizing machine with
  | nil => exact ⟨machine, rfl, rfl⟩
  | cons text rest inductionHypothesis =>
      obtain ⟨after, made, store⟩ :=
        inductionHypothesis { machine with tally := machine.tally.count .text }
      refine ⟨after, ?_, store⟩
      rw [newTexts, Action.bind_apply, Action.newText_apply]
      dsimp only
      rw [Action.bind_apply, made]
      rfl

theorem textElements_texts (texts : List String) (machine : Machine) :
    textElements (texts.map .text) machine = .ok texts machine := by
  induction texts with
  | nil => rfl
  | cons text rest inductionHypothesis =>
      rw [List.map_cons, textElements, Action.bind_apply, inductionHypothesis]
      rfl

end Builtin

namespace Evaluator

variable {function argument : Term} {machine : Machine} {text separator : String}

/-- Exploding a text at a separator that is not empty makes a new list of the pieces. -/
theorem applyValue_explode_splitAt
    (available : Native.explode.Available function machine)
    (operands : machine.store.tupleElements? argument = some [.text text, .text separator])
    (nonempty : separator ≠ "")
    (depth : Nat) :
    ∃ cell store, (within (depth + 2)).Returns function argument machine (.list cell) store ∧
      machine.store.Keeps store ∧ cell.place < store.cells.size ∧
      (store.elements cell).toList = (Text.splitAt text separator).map .text := by
  obtain ⟨entered, textFound, separatorFound, ends⟩ :=
    applyValue_pair available rfl operands ⟨rfl, rfl⟩ depth
  obtain ⟨made, texts, store⟩ :=
    Builtin.newTexts_apply (Text.splitAt text separator) entered
  have run : Native.explode.run entered =
      Action.newList ((Text.splitAt text separator).map .text) made := by
    change (Builtin.textFormal "explode" "s" >>= _ : Action Term) entered = _
    rw [Action.bind_apply, Builtin.textFormal_apply textFound]
    dsimp only
    rw [Action.bind_apply, Builtin.textFormal_apply separatorFound]
    dsimp only
    rw [if_neg (by simpa using nonempty), Action.bind_apply, texts]
  refine ⟨_, _, ends.returns _ _ (run.trans (Action.newList_apply _ made)), ?_,
    Store.newCell_known _ _, ?_⟩
  · refine Store.Keeps.trans (.of_cells ?_) (.newCell made.store _)
    rw [store, textFound.cells]
  · rw [Store.elements_newCell_self]

/-- Imploding a list of texts joins them. -/
theorem applyValue_implode
    {xs : Term}
    {texts : List String}
    (available : Native.implode.Available function machine)
    (operands : machine.store.tupleElements? argument = some [xs, .text separator])
    (elements : machine.store.sequenceElements? xs = some (texts.map .text))
    (depth : Nat) :
    ∃ store, (within (depth + 2)).Returns function argument machine
      (.text (String.intercalate separator texts)) store := by
  have present := Store.isAbsent_of_sequenceElements? elements
  obtain ⟨entered, xsFound, separatorFound, ends⟩ :=
    applyValue_pair available rfl operands ⟨present, rfl⟩ depth
  have run : Native.implode.run entered =
      Action.newText (String.intercalate separator texts) entered := by
    change (Builtin.formal "xs" >>= _ : Action Term) entered = _
    rw [Action.bind_apply, Builtin.formal_apply xsFound]
    dsimp only
    rw [Action.bind_apply, Builtin.textFormal_apply separatorFound]
    dsimp only
    rw [Action.bind_apply, Action.store_apply]
    dsimp only
    rw [Builtin.sequenceElements?_entered xsFound, elements]
    dsimp only
    rw [Action.bind_apply, Builtin.textElements_texts]
  exact ⟨_, ends.returns _ _ (run.trans (Action.newText_apply _ entered))⟩

/-- Exploding a text at a separator that is not empty gives a list of texts without the
separator, at least one. As long as no cell changes, imploding the list with the separator
gives the text back. -/
theorem applyValue_explode
    (available : Native.explode.Available function machine)
    (operands : machine.store.tupleElements? argument = some [.text text, .text separator])
    (nonempty : separator ≠ "")
    (depth : Nat) :
    ∃ cell store parts,
      (within (depth + 2)).Returns function argument machine (.list cell) store ∧
      machine.store.Keeps store ∧ (store.elements cell).toList = parts.map .text ∧
      parts ≠ [] ∧ (∀ part ∈ parts, ¬ separator.toList <:+: part.toList) ∧
      ∀ {joining joined later}, Native.implode.Available joining later ->
        store.Keeps later.store ->
        later.store.tupleElements? joined = some [.list cell, .text separator] ->
        ∀ depth, ∃ left, (within (depth + 2)).Returns joining joined later (.text text) left := by
  obtain ⟨cell, store, returns, keeps, known, elements⟩ :=
    applyValue_explode_splitAt available operands nonempty depth
  obtain ⟨several, apart, together⟩ := Text.splitAt_spec nonempty text
  refine ⟨cell, store, _, returns, keeps, elements, several, apart, ?_⟩
  intro joining joined later availableLater keepsLater operandsLater depth
  have held : later.store.sequenceElements? (.list cell) =
      some ((Text.splitAt text separator).map .text) := by
    rw [Store.sequenceElements?, keepsLater.elements cell known, elements]
  obtain ⟨left, returnsLater⟩ := applyValue_implode availableLater operandsLater held depth
  rw [together] at returnsLater
  exact ⟨left, returnsLater⟩

/-- A text is exploded at a comma that is doubled, and put together again. -/
theorem applyValue_explode_of_doubled :
    ∃ cell store parts,
      (within 2).Returns (.closure "explode" (some Closure.global))
        (.pair (.text "a,,b") (.text ",")) (.prepared Store.initial {} {} true)
        (.list cell) store ∧
      (store.elements cell).toList = parts.map .text ∧ parts ≠ [] ∧
      (∀ part ∈ parts, ¬ ",".toList <:+: part.toList) ∧
      ∃ left, (within 2).Returns (.closure "implode" (some Closure.global))
        (.pair (.list cell) (.text ","))
        { Machine.prepared Store.initial {} {} true with store := store } (.text "a,,b") left := by
  have available : ∀ operation : Native, operation.Available
      (.closure operation.name (some Closure.global)) (.prepared Store.initial {} {} true) :=
    fun operation => (Native.prepared_available Store.initial).2 operation (by decide)
  generalize Machine.prepared Store.initial {} {} true = machine at available ⊢
  have operands : machine.store.tupleElements? (.pair (.text "a,,b") (.text ",")) =
      some [.text "a,,b", .text ","] := rfl
  obtain ⟨cell, store, parts, returns, keeps, elements, several, apart, joins⟩ :=
    applyValue_explode (available .explode) operands (by decide) 0
  exact ⟨cell, store, parts, returns, elements, several, apart,
    joins ((available .implode).keeps keeps) (.refl _) rfl 0⟩

end Evaluator
end PatternMachine
