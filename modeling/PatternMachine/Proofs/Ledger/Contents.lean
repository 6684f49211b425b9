import PatternMachine.Proofs.Containment
import PatternMachine.Proofs.Ledger

/-!
# What is met in code and in data

What stands in data is data, and what stands in code is code or data; so all that
can be met from there is, too. On a machine everything is met from what names are
bound to, from registered code, and from the terms in hand.
-/

namespace PatternMachine

variable {quoting : Bool} {ledger : Ledger} {store : Store} {term part : Term}

namespace Store.Sound

/-- What data holds is data. -/
theorem contents_isData
    (sound : store.Sound quoting ledger)
    (data : term.IsData quoting ledger)
    (held : part ∈ term.contents store) :
    part.IsData quoting ledger := by
  cases term with
  | list cell => exact sound.dataElements ⟨_, data⟩ part held
  | tuple cell => exact sound.dataElements ⟨_, data⟩ part held
  | struct template => exact sound.templateElements data part held
  | object template memory =>
      cases template with
      | none => exact data.elim
      | some template =>
          rcases List.mem_cons.mp held with rfl | inside
          · exact data.2
          · exact sound.dataElements ⟨_, data.1⟩ part inside
  | _ => simp_all [Term.contents, Term.parts, Term.IsData] <;> grind

/-- What code holds is code. -/
theorem contents_isCode
    (sound : store.Sound quoting ledger)
    (code : term.IsCode quoting ledger)
    (held : part ∈ term.contents store) :
    part.IsCode quoting ledger := by
  cases term with
  | list cell => exact sound.codeElements code part held
  | tuple cell => exact sound.codeElements code part held
  | struct template => exact (sound.templateElements code part held).isCode
  | object template memory => exact (sound.contents_isData code held).isCode
  | quote expression =>
      obtain rfl : part = expression := by simpa [Term.contents, Term.parts] using held
      exact code.2.isCode
  | method mark receiver body =>
      rcases (by simpa [Term.contents, Term.parts] using held : part = receiver ∨ part = body)
        with rfl | rfl
      · exact code.1.isCode
      · exact code.2.isCode
  | _ => simp_all [Term.contents, Term.parts, Term.IsCode] <;> grind

/-- All that can be met in data is data. -/
theorem reaches_isData
    (sound : store.Sound quoting ledger)
    (data : term.IsData quoting ledger)
    (reaches : store.Reaches term part) :
    part.IsData quoting ledger := by
  induction reaches with
  | here => exact data
  | inside outer held inductionHypothesis => exact sound.contents_isData inductionHypothesis held

/-- All that can be met in code is code. -/
theorem reaches_isCode
    (sound : store.Sound quoting ledger)
    (code : term.IsCode quoting ledger)
    (reaches : store.Reaches term part) :
    part.IsCode quoting ledger := by
  induction reaches with
  | here => exact code
  | inside outer held inductionHypothesis => exact sound.contents_isCode inductionHypothesis held

/-- A cell with an entry is in the store. -/
theorem place_lt
    (sound : store.Sound quoting ledger)
    {cell : CellRef}
    {holding : Holding}
    (entered : ledger cell = some holding) :
    cell.place < store.cells.size :=
  (sound.cells cell holding entered).1

/-- The cells of data are in the store. -/
theorem isPlaced_of_isData
    (sound : store.Sound quoting ledger)
    (data : term.IsData quoting ledger) :
    term.isPlaced store = true := by
  cases term with
  | list cell => exact decide_eq_true (sound.place_lt data)
  | tuple cell => exact decide_eq_true (sound.place_lt data)
  | struct template =>
      obtain ⟨initial, entered⟩ := data
      exact decide_eq_true (sound.place_lt entered)
  | object template memory =>
      cases template with
      | none => exact data.elim
      | some template => exact decide_eq_true (sound.place_lt data.1)
  | _ => rfl

end Store.Sound

/-- The terms that others are met from: the terms in hand, what names are bound to,
and the terms of registered code. -/
inductive Machine.Roots (machine : Machine) (hand : List Term) : Term -> Prop
  | inHand {term : Term} (inside : term ∈ hand) : machine.Roots hand term
  | bound {ref : ScopeRef} {entry : String × Term}
      (inside : entry ∈ (machine.store.scope ref).entries) :
      machine.Roots hand entry.2
  | registered {entry : String × Code} {term : Term}
      (entered : entry ∈ machine.dispatch.entries) (written : term ∈ entry.2.terms) :
      machine.Roots hand term

/-- The terms that can be met on a machine with some terms in hand. -/
def Machine.Meets (machine : Machine) (hand : List Term) (term : Term) : Prop :=
  ∃ root, machine.Roots hand root ∧ machine.store.Reaches root term

theorem Machine.Meets.onwards
    {machine : Machine}
    {hand : List Term}
    (met : machine.Meets hand term)
    (held : part ∈ term.contents machine.store) :
    machine.Meets hand part := by
  obtain ⟨root, isRoot, reaches⟩ := met
  exact ⟨root, isRoot, reaches.inside held⟩

/-- The terms of code are code. -/
theorem Code.IsCode.terms
    {code : Code}
    (isCode : code.IsCode quoting ledger)
    (written : term ∈ code.terms) :
    term.IsCode quoting ledger := by
  cases code with
  | native operation => simp [Code.terms] at written
  | clauses name equations =>
      obtain ⟨clause, inside, inClause⟩ := List.mem_flatMap.mp written
      obtain ⟨pattern, body⟩ := isCode clause inside
      rcases List.mem_cons.mp inClause with rfl | inBody
      · exact pattern
      · obtain ⟨statement, present, inStatement⟩ := List.mem_flatMap.mp inBody
        have statementCode := body statement present
        cases statement with
        | define name members => exact statementCode term inStatement
        | declareGlobals names => simp [Statement.terms] at inStatement
        | evaluate expression pattern =>
            rcases (by simpa [Statement.terms] using inStatement :
              term = expression ∨ term = pattern) with rfl | rfl
            · exact statementCode.1
            · exact statementCode.2

/-- Whatever can be met on a sound machine is code, as long as data is in hand. -/
theorem Machine.Sound.meets_isCode
    {machine : Machine}
    {hand : List Term}
    (sound : machine.Sound quoting ledger)
    (data : ∀ term ∈ hand, term.IsData quoting ledger)
    (met : machine.Meets hand term) :
    term.IsCode quoting ledger := by
  obtain ⟨root, isRoot, reaches⟩ := met
  refine sound.store.reaches_isCode ?_ reaches
  cases isRoot with
  | inHand inside => exact (data root inside).isCode
  | bound inside => exact (sound.store.scopes _ _ inside).isCode
  | registered entered written => exact (sound.dispatch _ entered).terms written

end PatternMachine
