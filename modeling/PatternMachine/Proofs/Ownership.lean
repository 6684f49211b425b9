import PatternMachine.Proofs.Layout

/-!
# Objects own their memory

Each cell that can be met belongs to the same thing at all moments of a run: to one
struct, to one object, or to neither, when it is the cell of lists or tuples. A new
object gets a cell that nothing met so far refers to. So an assignment to a member
changes one slot of one object, and nothing else that can be met.
-/

namespace PatternMachine

namespace Term

/-- The cell that a term refers to. -/
def cell? : Term -> Option CellRef
  | list cell => some cell
  | tuple cell => some cell
  | struct template => some template.memory
  | object _ memory => some memory
  | _ => Option.none

/-- What the cell of a term belongs to: a struct and an object own their cells. -/
def holder? : Term -> Option Term
  | struct template => some (struct template)
  | object owner memory => some (object owner memory)
  | _ => Option.none

theorem eq_of_holder? {term holder : Term} (held : term.holder? = some holder) :
    term = holder := by
  cases term with
  | struct template => exact Option.some.inj held
  | object owner memory => exact Option.some.inj held
  | _ => simp [holder?] at held

end Term

/-- The terms that can be met refer to cells of the store, and each cell belongs to its
owner. -/
structure Machine.RespectsOwners (owner : CellRef -> Option Term) (machine : Machine)
    (hand : List Term) : Prop where
  placed : ∀ term cell, machine.Meets hand term -> term.cell? = some cell ->
    cell.place < machine.store.cells.size
  owned : ∀ term cell, machine.Meets hand term -> term.cell? = some cell ->
    owner cell = term.holder?

/-- One slot of one cell holds another value, and nothing else has changed. -/
structure Machine.WritesSlot (before : Machine) (memory : CellRef) (place : Nat) (value : Term)
    (after : Machine) : Prop where
  inside : place < (before.store.elements memory).size
  rest : after = { before with store := { before.store with cells := after.store.cells } }
  size : after.store.cells.size = before.store.cells.size
  slot : (after.store.elements memory)[place]? = some value
  slots : ∀ other, other ≠ place ->
    (after.store.elements memory)[other]? = (before.store.elements memory)[other]?
  cells : ∀ cell, cell ≠ memory -> after.store.elements cell = before.store.elements cell

/-- What follows when cells belong to owners that stay the same. -/
structure Ownership (owner : CellRef -> Option Term) : Prop where
  /-- Of two terms with the same cell, whenever they are met, both are the same struct or
  object, or neither is a struct or an object. -/
  apart : ∀ (moment later : Machine) hand laterHand,
    moment.RespectsOwners owner hand -> later.RespectsOwners owner laterHand ->
      ∀ term other cell, moment.Meets hand term -> later.Meets laterHand other ->
        term.cell? = some cell -> other.cell? = some cell ->
          term = other ∨ term.holder? = none ∧ other.holder? = none
  /-- The memory of a new object is the cell of nothing that was met before. An object is the
  cell of its memory: terms with the same cell are the same object. All objects of a run are
  made here, by `Evaluator.construct`; an error that no program raised becomes an object when
  it is reported, in a new cell as well. -/
  fresh : ∀ (moment : Machine) hand, moment.RespectsOwners owner hand ->
    ∀ template memory after, Action.newObject template moment = .ok memory after ->
      moment.store.Keeps after.store ∧
        ∀ term, moment.Meets hand term -> term.cell? ≠ some memory
  /-- An assignment to a member of an object writes the slot of the member, and leaves
  the cells of all other terms that can be met as they are. -/
  assigned : ∀ (self : Evaluator) mark subject selector value start middle after struct memory,
    self.walk subject start = .ok (.object struct memory) middle ->
      self.declare ⟨.index mark subject selector, value⟩ start = .ok () after ->
        ∃ name before place template,
          self.memberName selector middle = .ok name before ∧ struct = some template ∧
            template.memberIndex? name = some place ∧
            before.WritesSlot memory place value after ∧
            ∀ hand, middle.RespectsOwners owner [.object struct memory] ->
              before.RespectsOwners owner hand ->
                ∀ term cell, before.Meets hand term -> term.cell? = some cell ->
                  term ≠ .object struct memory ->
                    after.store.elements cell = before.store.elements cell

/-! ## Sound machines respect owners -/

/-- What a cell belongs to. -/
def Ledger.owner (ledger : Ledger) (cell : CellRef) : Option Term :=
  match ledger cell with
  | some (.data (some template)) => some (.object (some template) cell)
  | some (.slots template _) => some (.struct template)
  | _ => none

theorem Ledger.owner_of_isKnown
    {ledger : Ledger}
    {cell : CellRef}
    (known : ledger.IsKnown cell) :
    ledger.owner cell = none := by
  unfold owner
  rcases known with held | held <;> rw [held]

theorem respectsOwners_isSafe {quoting : Bool} :
    Evaluator.IsSafe quoting fun future => Machine.RespectsOwners future.owner := by
  intro future ledger machine hand known sound data
  have entered : ∀ {term : Term} {cell : CellRef}, machine.Meets hand term ->
      term.cell? = some cell ->
      cell.place < machine.store.cells.size ∧ future.owner cell = term.holder? := by
    intro term cell met refers
    have code := sound.meets_isCode data met
    cases term with
    | list own =>
        obtain rfl : own = cell := Option.some.inj refers
        refine ⟨?_, Ledger.owner_of_isKnown (code.mono known)⟩
        rcases code with held | held <;> exact sound.store.place_lt held
    | tuple own =>
        obtain rfl : own = cell := Option.some.inj refers
        refine ⟨?_, Ledger.owner_of_isKnown (code.mono known)⟩
        rcases code with held | held <;> exact sound.store.place_lt held
    | struct template =>
        obtain rfl : template.memory = cell := Option.some.inj refers
        obtain ⟨initial, held⟩ : ledger.IsTemplate template := code
        refine ⟨sound.store.place_lt held, ?_⟩
        rw [Ledger.owner, known _ _ held]
        rfl
    | object struct memory =>
        obtain rfl : memory = cell := Option.some.inj refers
        cases struct with
        | none => exact code.elim
        | some template =>
            obtain ⟨held, _⟩ := code
            refine ⟨sound.store.place_lt held, ?_⟩
            rw [Ledger.owner, known _ _ held]
            rfl
    | _ => simp [Term.cell?] at refers
  exact
    { placed := fun _ _ met refers => (entered met refers).1
      owned := fun _ _ met refers => (entered met refers).2 }

/-! ## Making objects and writing members -/

/-- A new object gets a new cell. -/
theorem newObject_apply (template : Template) (machine : Machine) :
    ∃ tally, Action.newObject template machine =
      .ok (machine.store.newCell (machine.store.elements template.memory)).1
        { machine with
          tally
          store := (machine.store.newCell (machine.store.elements template.memory)).2 } := by
  refine ⟨(machine.tally.count .object).count .list, ?_⟩
  simp [Action.newObject, Action.count, Action.newCell, Action.bind_apply]

/-- Overwriting an element of a cell writes a slot. -/
theorem writesSlot_writeElement
    {machine : Machine}
    {memory : CellRef}
    {place : Nat}
    (inside : place < (machine.store.elements memory).size)
    (value : Term) :
    machine.WritesSlot memory place value
      { machine with store := machine.store.writeElement memory place value } where
  inside := inside
  rest := rfl
  size := by simp [Store.writeElement]
  slot := by simp [Store.elements_writeElement, inside]
  slots := by
    intro other apart
    rw [Store.elements_writeElement, if_pos rfl, Array.getElem?_setIfInBounds_ne apart.symm]
  cells := by
    intro cell apart
    rw [Store.elements_writeElement, if_neg apart]

/-- An assignment to a member of an object writes the slot of the member. -/
theorem Evaluator.declare_member
    {self : Evaluator}
    {mark : Mark}
    {subject selector value : Term}
    {start middle after : Machine}
    {struct : Option Template}
    {memory : CellRef}
    (found : self.walk subject start = .ok (.object struct memory) middle)
    (declared : self.declare ⟨.index mark subject selector, value⟩ start = .ok () after) :
    ∃ name before place template,
      self.memberName selector middle = .ok name before ∧ struct = some template ∧
        template.memberIndex? name = some place ∧
        before.WritesSlot memory place value after := by
  unfold declare writeIndex at declared
  dsimp only at declared
  rw [Action.bind_apply, found] at declared
  dsimp only at declared
  unfold writeMember at declared
  rw [Action.bind_apply] at declared
  cases named : self.memberName selector middle with
  | error stop before => simp [named] at declared
  | ok name before =>
      rw [named] at declared
      dsimp only at declared
      rw [Action.bind_apply, Action.store_apply] at declared
      dsimp only at declared
      cases written : before.store.writeMember? struct memory name value with
      | none => simp [written, noMember] at declared
      | some store =>
          rw [written] at declared
          cases struct with
          | none => simp [Store.writeMember?] at written
          | some template =>
              simp only [Store.writeMember?, Option.bind_eq_bind, Option.bind_eq_some_iff]
                at written
              obtain ⟨_, same, place, indexed, written⟩ := written
              obtain rfl := Option.some.inj same
              split at written
              · rename_i inside
                obtain rfl := Option.some.inj written
                simp only [Action.modify_apply, EStateM.Result.ok.injEq, true_and] at declared
                obtain rfl := declared
                exact ⟨name, before, place, template, rfl, rfl, indexed,
                  writesSlot_writeElement inside value⟩
              · simp at written

/-- Owners keep cells apart. -/
theorem ownership (owner : CellRef -> Option Term) : Ownership owner where
  apart := by
    intro moment later hand laterHand respects laterRespects term other cell met laterMet refers
      laterRefers
    have same : term.holder? = other.holder? := by
      rw [← respects.owned term cell met refers,
        ← laterRespects.owned other cell laterMet laterRefers]
    cases held : term.holder? with
    | none => exact .inr ⟨rfl, by rw [← same, held]⟩
    | some holder =>
        have otherHeld : other.holder? = some holder := by rw [← same, held]
        exact .inl ((Term.eq_of_holder? held).trans (Term.eq_of_holder? otherHeld).symm)
  fresh := by
    intro moment hand respects template memory after made
    obtain ⟨tally, run⟩ := newObject_apply template moment
    rw [run] at made
    simp only [EStateM.Result.ok.injEq] at made
    obtain ⟨rfl, rfl⟩ := made
    refine ⟨.newCell _ _, fun term met refers => ?_⟩
    exact Nat.lt_irrefl _ (respects.placed term _ met refers)
  assigned := by
    intro self mark subject selector value start middle after struct memory found declared
    obtain ⟨name, before, place, template, named, owned, indexed, writes⟩ :=
      Evaluator.declare_member found declared
    refine ⟨name, before, place, template, named, owned, indexed, writes, ?_⟩
    intro hand respects beforeRespects term cell met refers differs
    refine writes.cells cell ?_
    rintro rfl
    have inHand : middle.Meets [.object struct cell] (.object struct cell) :=
      ⟨_, .inHand List.mem_cons_self, .here⟩
    have held := respects.owned _ cell inHand rfl
    rw [beforeRespects.owned term cell met refers] at held
    exact differs (Term.eq_of_holder? held)

namespace Program

/-- At every moment of every run of a loaded program, each cell that can be met belongs
to the same owner: a run that is supervised for it is the run itself, and so it ends.
The cells the program is written in belong to no struct and no object. -/
theorem objects_own_memory
    {name : String}
    {node : Document.Node}
    {program : Program}
    {store : Store}
    (loads : read name node Store.initial = .ok program store)
    (settings : Settings)
    (tracer : Tracer)
    (withBuiltins : Bool)
    (depth : Nat) :
    let machine := Machine.prepared store settings tracer withBuiltins
    ∃ owner,
      (Evaluator.supervised (Machine.RespectsOwners owner) depth).runProgram program machine =
          (Evaluator.within depth).runProgram program machine ∧
        EndsWith (Machine.RespectsOwners owner)
          ((Evaluator.within depth).runProgram program machine) ∧
        (∀ cell, program.Uses store cell -> owner cell = none) ∧
        Ownership owner := by
  have loaded : program.Loaded true store :=
    loaded_of_read loads fun impossible => by cases impossible
  obtain ⟨final, grows, same, ends⟩ :=
    loaded.run_supervised respectsOwners_isSafe settings tracer withBuiltins depth
  refine ⟨final.owner, same, ends, fun cell used => ?_, ownership final.owner⟩
  exact Ledger.owner_of_isKnown ((ledger_used (loaded.apart used) used).mono grows)

/-- In the run of `points` a member of one object is written to, and the other object
stays as it was. -/
theorem objects_own_memory_of_points :
    let machine := Machine.prepared pointsStore {} {} false
    (match (Evaluator.within 9).runProgram points machine with
      | .ok (.finished first) after =>
          (after.store.display first,
            ((after.lookup? "q").map after.store.display)) == ("Point(9,2)", some "Point(1,2)")
      | _ => false) = true ∧
      ∃ owner,
        (Evaluator.supervised (Machine.RespectsOwners owner) 9).runProgram points machine =
            (Evaluator.within 9).runProgram points machine ∧
          EndsWith (Machine.RespectsOwners owner)
            ((Evaluator.within 9).runProgram points machine) ∧
          (∀ cell, points.Uses pointsStore cell -> owner cell = none) ∧
          Ownership owner :=
  ⟨by decide +kernel, objects_own_memory pointsNode_read {} {} false 9⟩

end Program
end PatternMachine
