import PatternMachine.Proofs.ProgramRun

/-!
# Running a program leaves its text alone

The lists and tuples a program is written in are the same after a run as
before, unless they stand in a quoted term. A quote stands for the quoted term
itself; matching looks through it and binds names to its lists and tuples, and
these can then be written to.
-/

namespace PatternMachine
namespace Program

/-- Outside quoted terms, every list and tuple of a program has the same elements
after a run as before. -/
theorem run_keeps_text
    {name : String}
    {node : Document.Node}
    {program : Program}
    {store : Store}
    (loads : read name node Store.initial = .ok program store)
    (settings : Settings)
    (tracer : Tracer)
    (withBuiltins : Bool) :
    ∀ cell, program.Uses store cell -> ¬ program.UsesQuoted store cell ->
      (program.run.after (.prepared store settings tracer withBuiltins)).store.elements cell =
        store.elements cell := by
  intro cell used unquoted
  have loaded : program.Loaded true store :=
    loaded_of_read loads fun impossible => by cases impossible
  have code := ledger_code (loaded.apart used) unquoted used
  have noData : ¬ (program.ledger store).IsData cell := by
    rintro ⟨size, held⟩
    simp [code] at held
  have outcome := loaded.run_leads (Evaluator.within_careful Evaluator.depthLimit) settings tracer
    withBuiltins
  have standard := Evaluator.runProgram_standard program
  unfold Evaluator.standard at standard
  rw [standard] at outcome
  unfold Action.after
  revert outcome
  cases program.run (.prepared store settings tracer withBuiltins) with
  | ok result after =>
      rintro ⟨final, leads, _⟩
      exact leads.kept cell (loaded.used_place used).2 noData
  | error stop after =>
      rintro ⟨final, leads, _⟩
      exact leads.kept cell (loaded.used_place used).2 noData

/-- A program that binds `xs` to a quoted list, overwrites its first element, and
makes another list. -/
def quotingNode : Document.Node :=
  let key (text : String) := Document.Node.scalar 1 "!!str" text
  let identifier (text : String) := Document.Node.mapping 1 "!!map" [(key "id", key text)]
  let number (text : String) := Document.Node.scalar 1 "!!int" text
  let quoted (node : Document.Node) := Document.Node.mapping 1 "!!map" [(key "quote", node)]
  let list (first second : String) :=
    Document.Node.sequence 1 "!!seq" [number first, number second]
  .mapping 1 "!!map"
    [(key "program", .sequence 1 "!!seq"
      [.mapping 1 "!!map"
        [(key "expr", quoted (list "1" "2")), (key "let", quoted (identifier "xs"))],
        .mapping 1 "!!map"
          [(key "expr", number "9"),
            (key "let", .mapping 1 "!!map"
              [(key "index", .sequence 1 "!!seq" [identifier "xs", number "0"])])],
        .mapping 1 "!!map" [(key "expr", list "3" "4")]])]

/-- The program that is read from `quotingNode`. -/
def quoting : Program where
  name := "main"
  statements :=
    [.evaluate (.quote (.list ⟨1⟩)) (.quote (.identifier "xs")),
      .evaluate (.integer 9) (.index 1 (.identifier "xs") (.integer 0)),
      .evaluate (.list ⟨2⟩) .absent]

/-- The store that `quotingNode` is read into. -/
def quotingStore : Store :=
  { Store.initial with
    cells := #[#[.none, .none], #[.integer 1, .integer 2], #[.integer 3, .integer 4]]
    nextMark := 2 }

theorem quotingNode_read : read "main" quotingNode Store.initial = .ok quoting quotingStore := rfl

/-- In `quoting` the list that is made last stands in no quoted term. -/
theorem quoting_unquoted : ¬ quoting.UsesQuoted quotingStore ⟨2⟩ := by
  have mentioned : ∀ inner, quoting.Mentions quotingStore (.quote inner) ->
      inner ∈ [Term.list ⟨1⟩, .identifier "xs"] := by
    rintro inner ⟨root, present, reaches⟩
    have listed := reaches.mem_of_closed
      [.quote (.list ⟨1⟩), .quote (.identifier "xs"), .list ⟨1⟩, .identifier "xs", .integer 9,
        .index 1 (.identifier "xs") (.integer 0), .integer 0, .list ⟨2⟩, .absent, .integer 1,
        .integer 2, .integer 3, .integer 4]
      (by simp [Term.contents, Term.parts, Store.elements, quotingStore])
      (by revert present; simp [terms, quoting, Statement.terms]; grind)
    simpa using listed
  have quoted : ∀ term, quoting.Quotes quotingStore term ->
      term ∈ [Term.list ⟨1⟩, .identifier "xs", .integer 1, .integer 2] := by
    rintro term ⟨inner, quotes, reaches⟩
    refine reaches.mem_of_closed _
      (by simp [Term.contents, Term.parts, Store.elements, quotingStore]) ?_
    exact List.mem_append_left [.integer 1, .integer 2] (mentioned inner quotes)
  rintro (list | tuple)
  · simpa using quoted _ list
  · simpa using quoted _ tuple

/-- The quoted list of `quoting` is overwritten, and the other one is not. -/
theorem run_keeps_text_of_quoting :
    let after := quoting.run.after (.prepared quotingStore {} {} false)
    after.store.display (.list ⟨1⟩) = "[9,2]" ∧
      after.store.elements ⟨2⟩ = quotingStore.elements ⟨2⟩ := by
  refine ⟨by decide +kernel, run_keeps_text quotingNode_read {} {} false ⟨2⟩ ?_ quoting_unquoted⟩
  exact .inl ⟨.list ⟨2⟩, by simp [terms, quoting, Statement.terms], .here⟩

end Program
end PatternMachine
