import PatternMachine.Interpreter
import PatternMachine.Proofs.Scope

/-!
# Code and data

The cells in use hold either code, the lists and tuples a program is written
in, or data, which a running program has made. A ledger says which is which.
Data can be bound to names, handed around and written to; code is only read, and
so are the values that the members of a struct start with. A cell that holds the
members of an object is that of no list and of no other object.

Without quoting, data is what evaluation makes: values whose cells hold data in
turn. With quoting any term can become data, as long as its cells are data.
-/

namespace PatternMachine

/-- What a cell holds: code, the elements of a list or tuple that is data, the
members of an object, or the values that the members of a struct start with. -/
inductive Holding
  | code
  | data (owner : Option Template)
  | slots (template : Template) (initial : Array Term)

/-- What the cells in use hold. -/
abbrev Ledger := CellRef -> Option Holding

namespace Ledger

/-- A cell of data. -/
def IsData (ledger : Ledger) (cell : CellRef) : Prop :=
  ∃ owner, ledger cell = some (.data owner)

/-- The cell of a list or tuple, of either sort. -/
def IsKnown (ledger : Ledger) (cell : CellRef) : Prop :=
  ledger cell = some .code ∨ ledger cell = some (.data none)

/-- The cell of a struct that was built. -/
def IsTemplate (ledger : Ledger) (template : Template) : Prop :=
  ∃ initial, ledger template.memory = some (.slots template initial)

/-- A later ledger has every entry of an earlier one. -/
def Grows (earlier later : Ledger) : Prop :=
  ∀ cell holding, earlier cell = some holding -> later cell = some holding

/-- A ledger with an entry for one more cell. -/
def add (ledger : Ledger) (cell : CellRef) (holding : Holding) : Ledger :=
  fun other => if other = cell then some holding else ledger other

variable {ledger earlier later last : Ledger} {cell : CellRef}

theorem IsData.mono (data : earlier.IsData cell) (grows : earlier.Grows later) :
    later.IsData cell := by
  obtain ⟨owner, held⟩ := data
  exact ⟨owner, grows cell _ held⟩

theorem IsKnown.mono (known : earlier.IsKnown cell) (grows : earlier.Grows later) :
    later.IsKnown cell :=
  known.imp (grows cell _) (grows cell _)

theorem IsTemplate.mono
    {template : Template}
    (built : earlier.IsTemplate template)
    (grows : earlier.Grows later) :
    later.IsTemplate template := by
  obtain ⟨initial, held⟩ := built
  exact ⟨initial, grows _ _ held⟩

theorem Grows.refl (ledger : Ledger) : ledger.Grows ledger :=
  fun _ _ held => held

theorem Grows.trans (first : earlier.Grows later) (second : later.Grows last) :
    earlier.Grows last :=
  fun cell holding held => second cell holding (first cell holding held)

@[simp] theorem add_self (ledger : Ledger) (cell : CellRef) (holding : Holding) :
    ledger.add cell holding cell = some holding := by
  simp [add]

theorem add_of_ne
    (ledger : Ledger)
    {cell other : CellRef}
    (apart : other ≠ cell)
    (holding : Holding) :
    ledger.add cell holding other = ledger other := by
  simp [add, apart]

end Ledger

namespace Term

variable (quoting : Bool) (ledger : Ledger)

/-- A term that a name can be bound to. Its cells hold data, and unless there are
quotes it is a value. An object owns the cell of its members. -/
def IsData : Term -> Prop
  | absent => quoting = true
  | integer _ => True
  | real _ => True
  | boolean _ => True
  | text _ => True
  | none => True
  | nil => True
  | list cell => ledger cell = some (.data Option.none)
  | tuple cell => ledger cell = some (.data Option.none)
  | pair first second => first.IsData ∧ second.IsData
  | range _ _ start stop stride =>
      quoting = true ∧ start.IsData ∧ stop.IsData ∧ stride.IsData
  | headTail _ _ head tail => quoting = true ∧ head.IsData ∧ tail.IsData
  | sequence _ first second => first.IsData ∧ second.IsData
  | function _ _ => quoting = true
  | closure _ _ => True
  | apply _ callee argument => quoting = true ∧ callee.IsData ∧ argument.IsData
  | index _ subject selector => quoting = true ∧ subject.IsData ∧ selector.IsData
  | conditional _ condition consequent alternative =>
      quoting = true ∧ condition.IsData ∧ consequent.IsData ∧ alternative.IsData
  | isMatch _ subject pattern => quoting = true ∧ subject.IsData ∧ pattern.IsData
  | membership _ element container => quoting = true ∧ element.IsData ∧ container.IsData
  | evaluation _ expression => quoting = true ∧ expression.IsData
  | escape _ _ => quoting = true
  | named _ _ pattern => quoting = true ∧ pattern.IsData
  | typeMatch _ _ => quoting = true
  | constraint _ pattern => quoting = true ∧ pattern.IsData
  | quote expression => quoting = true ∧ expression.IsData
  | deref _ expression => quoting = true ∧ expression.IsData
  | identifier _ => quoting = true
  | struct template => ledger.IsTemplate template
  | object (some template) memory =>
      ledger memory = some (.data (some template)) ∧ ledger.IsTemplate template
  | object Option.none _ => False
  | method _ receiver body => receiver.IsData ∧ body.IsData
  | dataMember _ value => quoting = true ∧ value.IsData
  | initMember _ value pattern => quoting = true ∧ value.IsData ∧ pattern.IsData
  | foreign _ _ => True
  | lineMark _ _ => quoting = true

/-- A term that can be evaluated, or matched against. What it quotes, and the
values in it, are data. -/
def IsCode : Term -> Prop
  | list cell => ledger.IsKnown cell
  | tuple cell => ledger.IsKnown cell
  | pair first second => first.IsCode ∧ second.IsCode
  | range _ _ start stop stride => start.IsCode ∧ stop.IsCode ∧ stride.IsCode
  | headTail _ _ head tail => head.IsCode ∧ tail.IsCode
  | sequence _ first second => first.IsCode ∧ second.IsCode
  | apply _ callee argument => callee.IsCode ∧ argument.IsCode
  | index _ subject selector => subject.IsCode ∧ selector.IsCode
  | conditional _ condition consequent alternative =>
      condition.IsCode ∧ consequent.IsCode ∧ alternative.IsCode
  | isMatch _ subject pattern => subject.IsCode ∧ pattern.IsCode
  | membership _ element container => element.IsCode ∧ container.IsCode
  | evaluation _ expression => expression.IsCode
  | named _ _ pattern => pattern.IsCode
  | constraint _ pattern => pattern.IsCode
  | quote expression => quoting = true ∧ expression.IsData quoting ledger
  | deref _ expression => expression.IsCode
  | struct template => ledger.IsTemplate template
  | object template memory => (object template memory).IsData quoting ledger
  | method _ receiver body =>
      receiver.IsData quoting ledger ∧ body.IsData quoting ledger
  | dataMember _ value => value.IsCode
  | initMember _ value pattern => value.IsCode ∧ pattern.IsCode
  | _ => True

variable {quoting : Bool} {ledger earlier later : Ledger}

/-- Data can be evaluated and matched against. -/
theorem IsData.isCode {term : Term} (data : term.IsData quoting ledger) :
    term.IsCode quoting ledger := by
  induction term with
  | list cell => exact .inr data
  | tuple cell => exact .inr data
  | pair first second firstCode secondCode => exact ⟨firstCode data.1, secondCode data.2⟩
  | sequence mark first second firstCode secondCode =>
      exact ⟨firstCode data.1, secondCode data.2⟩
  | range raw mark start stop stride startCode stopCode strideCode =>
      exact ⟨startCode data.2.1, stopCode data.2.2.1, strideCode data.2.2.2⟩
  | conditional mark condition consequent alternative conditionCode consequentCode
      alternativeCode =>
      exact ⟨conditionCode data.2.1, consequentCode data.2.2.1, alternativeCode data.2.2.2⟩
  | headTail raw mark head tail headCode tailCode => exact ⟨headCode data.2.1, tailCode data.2.2⟩
  | apply mark callee argument calleeCode argumentCode =>
      exact ⟨calleeCode data.2.1, argumentCode data.2.2⟩
  | index mark subject selector subjectCode selectorCode =>
      exact ⟨subjectCode data.2.1, selectorCode data.2.2⟩
  | isMatch mark subject pattern subjectCode patternCode =>
      exact ⟨subjectCode data.2.1, patternCode data.2.2⟩
  | membership mark element container elementCode containerCode =>
      exact ⟨elementCode data.2.1, containerCode data.2.2⟩
  | initMember mark value pattern valueCode patternCode =>
      exact ⟨valueCode data.2.1, patternCode data.2.2⟩
  | evaluation mark expression code => exact code data.2
  | named mark name pattern code => exact code data.2
  | constraint mark pattern code => exact code data.2
  | deref mark expression code => exact code data.2
  | dataMember mark value code => exact code data.2
  | quote expression => exact data
  | struct template => exact data
  | object template memory => exact data
  | method mark receiver body => exact data
  | _ => trivial

/-- Data stays data. -/
theorem IsData.mono
    {term : Term}
    (data : term.IsData quoting earlier)
    (grows : earlier.Grows later) :
    term.IsData quoting later := by
  induction term with
  | list cell => exact grows _ _ data
  | tuple cell => exact grows _ _ data
  | struct template => exact Ledger.IsTemplate.mono data grows
  | object template memory =>
      cases template with
      | none => exact data
      | some template => exact ⟨grows _ _ data.1, data.2.mono grows⟩
  | _ => cases quoting <;> simp_all [IsData]

/-- Code stays code. -/
theorem IsCode.mono
    {term : Term}
    (code : term.IsCode quoting earlier)
    (grows : earlier.Grows later) :
    term.IsCode quoting later := by
  induction term with
  | list cell => exact Ledger.IsKnown.mono code grows
  | tuple cell => exact Ledger.IsKnown.mono code grows
  | struct template => exact Ledger.IsTemplate.mono code grows
  | object template memory => exact IsData.mono code grows
  | method mark receiver body => exact ⟨code.1.mono grows, code.2.mono grows⟩
  | quote expression => exact ⟨code.1, code.2.mono grows⟩
  | _ => simp_all [IsCode]

end Term

namespace Site

variable (quoting : Bool) (ledger : Ledger)

/-- What is found at a site can be evaluated, or matched against. -/
def IsCode : Site -> Prop
  | given term => term.IsCode quoting ledger
  | element cell _ => ledger cell = some .code ∨ ledger.IsData cell

variable {quoting : Bool} {ledger earlier later : Ledger}

theorem IsCode.mono
    {site : Site}
    (code : site.IsCode quoting earlier)
    (grows : earlier.Grows later) :
    site.IsCode quoting later := by
  cases site with
  | given term => exact Term.IsCode.mono code grows
  | element cell place => exact code.imp (grows cell _) fun data => data.mono grows

end Site

section Code

variable (quoting : Bool) (ledger : Ledger)

/-- Every term of a statement is code. -/
def Statement.IsCode : Statement -> Prop
  | .define _ members => ∀ member ∈ members, member.IsCode quoting ledger
  | .declareGlobals _ => True
  | .evaluate expression pattern =>
      expression.IsCode quoting ledger ∧ pattern.IsCode quoting ledger

/-- Every term of a clause is code. -/
def Clause.IsCode (clause : Clause) : Prop :=
  clause.pattern.IsCode quoting ledger ∧
    ∀ statement ∈ clause.body, statement.IsCode quoting ledger

/-- Every term of a piece of code is code. -/
def Code.IsCode : Code -> Prop
  | .clauses _ equations => ∀ clause ∈ equations, clause.IsCode quoting ledger
  | .native _ => True

/-- What was raised is data. -/
def Payload.IsData : Payload -> Prop
  | .standard _ _ => True
  | .value term => term.IsData quoting ledger

/-- A report that no check of the machine makes. -/
def bell : String := ""

theorem append_ne_bell
    {heading : String}
    (nonempty : 0 < heading.length)
    (explanation : String) :
    heading ++ explanation ≠ bell := by
  intro same
  have lengths := congrArg String.length same
  rw [String.length_append, bell, String.length_empty] at lengths
  omega

theorem assertionReport_ne_bell (explanation : Option String) :
    Contract.assertionReport explanation ≠ bell := by
  cases explanation with
  | none => decide
  | some explanation => exact append_ne_bell (by decide) explanation

theorem failureReport_ne_bell (explanation : String) :
    Contract.failureReport explanation ≠ bell :=
  append_ne_bell (by decide) explanation

/-- What a run may stop for: an error that carries data, or anything but the
report that no check makes. -/
def Stop.IsSound : Stop -> Prop
  | .raised exception => exception.payload.IsData quoting ledger
  | .fatal message => message ≠ bell
  | .exhausted => True

end Code

variable {quoting : Bool} {ledger earlier later : Ledger}

theorem Statement.IsCode.mono
    {statement : Statement}
    (code : statement.IsCode quoting earlier)
    (grows : earlier.Grows later) :
    statement.IsCode quoting later := by
  cases statement with
  | define name members => exact fun member inside => (code member inside).mono grows
  | declareGlobals names => trivial
  | evaluate expression pattern => exact ⟨code.1.mono grows, code.2.mono grows⟩

theorem Clause.IsCode.mono
    {clause : Clause}
    (code : clause.IsCode quoting earlier)
    (grows : earlier.Grows later) :
    clause.IsCode quoting later :=
  ⟨code.1.mono grows, fun statement inside => (code.2 statement inside).mono grows⟩

theorem Code.IsCode.mono
    {code : Code}
    (isCode : code.IsCode quoting earlier)
    (grows : earlier.Grows later) :
    code.IsCode quoting later := by
  cases code with
  | clauses name equations => exact fun clause inside => (isCode clause inside).mono grows
  | native operation => trivial

theorem Stop.IsSound.mono
    {stop : Stop}
    (sound : stop.IsSound quoting earlier)
    (grows : earlier.Grows later) :
    stop.IsSound quoting later := by
  cases stop with
  | raised exception =>
      obtain ⟨⟨payload, position⟩, origin⟩ := exception
      cases payload with
      | standard kind message => trivial
      | value term => exact Term.IsData.mono sound grows
  | fatal message => exact sound
  | exhausted => trivial

/-! ## Sound stores and machines -/

/-- The elements that a cell may have. An object has as many members as its struct,
and those of a struct have different names and never change. -/
def Holding.Admits (quoting : Bool) (ledger : Ledger) (elements : Array Term) : Holding -> Prop
  | code => ∀ element ∈ elements, element.IsCode quoting ledger
  | data owner =>
      (∀ template, owner = some template -> elements.size = template.members.length) ∧
        ∀ element ∈ elements, element.IsData quoting ledger
  | slots template initial =>
      elements = initial ∧ template.members.Nodup ∧
        initial.size = template.members.length ∧
        ∀ element ∈ initial, element.IsData quoting ledger

theorem Holding.Admits.mono
    {elements : Array Term}
    {holding : Holding}
    (admits : holding.Admits quoting earlier elements)
    (grows : earlier.Grows later) :
    holding.Admits quoting later elements := by
  cases holding with
  | code => exact fun element inside => (admits element inside).mono grows
  | data owner => exact ⟨admits.1, fun element inside => (admits.2 element inside).mono grows⟩
  | slots template initial =>
      obtain ⟨same, distinct, sized, data⟩ := admits
      exact ⟨same, distinct, sized, fun element inside => (data element inside).mono grows⟩

/-- The store agrees with the ledger, and names are bound to data. -/
structure Store.Sound (quoting : Bool) (ledger : Ledger) (store : Store) : Prop where
  cells : ∀ cell holding, ledger cell = some holding ->
    cell.place < store.cells.size ∧ holding.Admits quoting ledger (store.elements cell)
  scopes : ∀ ref, ∀ entry ∈ (store.scope ref).entries, entry.2.IsData quoting ledger

/-- The store agrees with the ledger, and what is registered is code. -/
structure Machine.Sound (quoting : Bool) (ledger : Ledger) (machine : Machine) : Prop where
  store : machine.store.Sound quoting ledger
  dispatch : ∀ entry ∈ machine.dispatch.entries, entry.2.IsCode quoting ledger

namespace Store.Sound

variable {store : Store} {cell : CellRef}

theorem dataElements
    (sound : store.Sound quoting ledger)
    (data : ledger.IsData cell) :
    ∀ element ∈ (store.elements cell).toList, element.IsData quoting ledger := by
  obtain ⟨owner, held⟩ := data
  simpa using (sound.cells cell _ held).2.2

/-- The values that the members of a struct start with are data. -/
theorem templateElements
    (sound : store.Sound quoting ledger)
    {template : Template}
    (built : ledger.IsTemplate template) :
    ∀ element ∈ (store.elements template.memory).toList, element.IsData quoting ledger := by
  obtain ⟨initial, held⟩ := built
  obtain ⟨_, same, _, _, data⟩ := sound.cells _ _ held
  simpa [same] using data

/-- A struct has as many values to start with as it has members. -/
theorem templateSize
    (sound : store.Sound quoting ledger)
    {template : Template}
    (built : ledger.IsTemplate template) :
    (store.elements template.memory).size = template.members.length := by
  obtain ⟨initial, held⟩ := built
  obtain ⟨_, same, _, sized, _⟩ := sound.cells _ _ held
  rw [same, sized]

/-- An object has as many members as its struct. -/
theorem objectSize
    (sound : store.Sound quoting ledger)
    {template : Template}
    {memory : CellRef}
    (data : (Term.object (some template) memory).IsData quoting ledger) :
    (store.elements memory).size = template.members.length :=
  (sound.cells memory _ data.1).2.1 template rfl

theorem codeElements
    (sound : store.Sound quoting ledger)
    (known : ledger.IsKnown cell) :
    ∀ element ∈ (store.elements cell).toList, element.IsCode quoting ledger := by
  rcases known with held | held
  · simpa [Holding.Admits] using (sound.cells cell _ held).2
  · exact fun element inside => (sound.dataElements ⟨_, held⟩ element inside).isCode

/-- What is found at a place of a cell of data is data. -/
theorem findData
    (sound : store.Sound quoting ledger)
    (data : ledger.IsData cell)
    (place : Nat) :
    (store.find (.element cell place)).IsData quoting ledger := by
  rcases store.find_element cell place with held | missing
  · exact sound.dataElements data _ held
  · rw [missing]
    trivial

/-- What is found at a place of a cell of code is code. -/
theorem findCodeElement
    (sound : store.Sound quoting ledger)
    (known : ledger.IsKnown cell)
    (place : Nat) :
    (store.find (.element cell place)).IsCode quoting ledger := by
  rcases store.find_element cell place with held | missing
  · exact sound.codeElements known _ held
  · rw [missing]
    trivial

theorem findCode
    (sound : store.Sound quoting ledger)
    {site : Site}
    (code : site.IsCode quoting ledger) :
    (store.find site).IsCode quoting ledger := by
  cases site with
  | given term => exact code
  | element cell place =>
      rcases code with held | data
      · exact sound.findCodeElement (.inl held) place
      · exact (sound.findData data place).isCode

theorem tupleElements
    (sound : store.Sound quoting ledger)
    {term : Term}
    (data : term.IsData quoting ledger)
    {elements : List Term}
    (found : store.tupleElements? term = some elements) :
    ∀ element ∈ elements, element.IsData quoting ledger := by
  cases term with
  | tuple cell =>
      obtain rfl : (store.elements cell).toList = elements := by
        simpa [tupleElements?] using found
      exact sound.dataElements ⟨_, data⟩
  | pair first second =>
      obtain rfl : [first, second] = elements := by simpa [tupleElements?] using found
      simpa [Term.IsData] using data
  | _ => simp [tupleElements?] at found

/-- The elements of code stand at sites of code. -/
theorem codeSites
    (store : Store)
    {term : Term}
    (code : term.IsCode quoting ledger) :
    ∀ site ∈ store.sites term, site.IsCode quoting ledger := by
  have known : ∀ cell, ledger.IsKnown cell ->
      ∀ site ∈ store.places cell, site.IsCode quoting ledger :=
    fun cell known => forall_mem_places fun _ => known.imp id fun data => ⟨_, data⟩
  cases term with
  | list cell => exact known cell code
  | tuple cell => exact known cell code
  | pair first second => simpa [sites, Site.IsCode, Term.IsCode] using code
  | object owner memory =>
      cases owner with
      | none => exact code.elim
      | some template => exact forall_mem_places fun _ => .inr ⟨_, code.1⟩
  | _ => simp [sites]

theorem sequenceElements
    (sound : store.Sound quoting ledger)
    {term : Term}
    (data : term.IsData quoting ledger)
    {elements : List Term}
    (found : store.sequenceElements? term = some elements) :
    ∀ element ∈ elements, element.IsData quoting ledger := by
  cases term with
  | list cell =>
      obtain rfl : (store.elements cell).toList = elements := by
        simpa [sequenceElements?] using found
      exact sound.dataElements ⟨_, data⟩
  | tuple cell =>
      obtain rfl : (store.elements cell).toList = elements := by
        simpa [sequenceElements?] using found
      exact sound.dataElements ⟨_, data⟩
  | _ => simp [sequenceElements?] at found

theorem member
    (sound : store.Sound quoting ledger)
    {template : Option Template}
    {memory : CellRef}
    (data : (Term.object template memory).IsData quoting ledger)
    {name : String}
    {value : Term}
    (found : store.member? template memory name = some value) :
    value.IsData quoting ledger := by
  cases template with
  | none => exact data.elim
  | some template =>
      simp only [member?, Option.bind_eq_bind, Option.bind_eq_some_iff] at found
      obtain ⟨_, _, _, _, inside⟩ := found
      exact (sound.cells memory _ data.1).2.2 value (Array.mem_of_getElem? inside)

/-- The places of the data members of a struct are places of its members. -/
theorem lt_of_mem_dataSlots
    (sound : store.Sound quoting ledger)
    {template : Template}
    (built : ledger.IsTemplate template)
    {slot : Nat}
    (inside : slot ∈ store.dataSlots template) :
    slot < template.members.length := by
  rw [← sound.templateSize built]
  exact Store.lt_size_of_mem_dataSlots inside

/-- The data members of an object are data: an object has as many members as its
struct. -/
theorem dataSlots
    (sound : store.Sound quoting ledger)
    {template : Template}
    {memory : CellRef}
    (data : (Term.object (some template) memory).IsData quoting ledger)
    {slot : Nat}
    (inside : slot ∈ store.dataSlots template) :
    ((store.elements memory)[slot]?.getD .absent).IsData quoting ledger := by
  have bound : slot < (store.elements memory).size := by
    rw [sound.objectSize data]
    exact sound.lt_of_mem_dataSlots data.2 inside
  rw [Array.getElem?_eq_getElem bound]
  exact (sound.cells memory _ data.1).2.2 _ (Array.getElem_mem bound)

/-- A cell that is not there yet has no entry. -/
theorem fresh (sound : store.Sound quoting ledger) : ledger ⟨store.cells.size⟩ = none := by
  cases held : ledger ⟨store.cells.size⟩ with
  | none => rfl
  | some holding => exact absurd (sound.cells _ holding held).1 (Nat.lt_irrefl _)

end Store.Sound

/-- Registered code is code. -/
theorem Machine.Sound.code
    {machine : Machine}
    (sound : machine.Sound quoting ledger)
    {name : String}
    {code : Code}
    (registered : machine.dispatch.get? name = some code) :
    code.IsCode quoting ledger := by
  obtain ⟨before, after, same, _⟩ := List.lookup_eq_some_iff.mp registered
  exact sound.dispatch (name, code) (by simp [same])

/-! ## What may happen to a sound machine -/

/-- A sound machine comes out sound, with a ledger that has the entries there were.
Cells that hold no data are left as they are. -/
structure Machine.Leads (quoting : Bool) (ledger : Ledger) (machine : Machine)
    (final : Ledger) (after : Machine) : Prop where
  sound : after.Sound quoting final
  size : machine.store.cells.size ≤ after.store.cells.size
  entries : ∀ cell : CellRef, cell.place < machine.store.cells.size -> final cell = ledger cell
  kept : ∀ cell : CellRef, cell.place < machine.store.cells.size -> ¬ ledger.IsData cell ->
    after.store.elements cell = machine.store.elements cell

namespace Machine.Leads

variable {machine after : Machine} {final : Ledger}

theorem refl (sound : machine.Sound quoting ledger) :
    machine.Leads quoting ledger ledger machine :=
  ⟨sound, Nat.le_refl _, fun _ _ => rfl, fun _ _ _ => rfl⟩

theorem trans
    {last : Machine}
    {lastLedger : Ledger}
    (first : machine.Leads quoting ledger final after)
    (second : after.Leads quoting final lastLedger last) :
    machine.Leads quoting ledger lastLedger last where
  sound := second.sound
  size := Nat.le_trans first.size second.size
  entries := by
    intro cell existing
    rw [second.entries cell (Nat.lt_of_lt_of_le existing first.size), first.entries cell existing]
  kept := by
    intro cell existing unwritten
    have stillUnwritten : ¬ final.IsData cell := by
      unfold Ledger.IsData at unwritten ⊢
      rwa [first.entries cell existing]
    rw [second.kept cell (Nat.lt_of_lt_of_le existing first.size) stillUnwritten,
      first.kept cell existing unwritten]

/-- The ledger grows. -/
theorem grows
    (leads : machine.Leads quoting ledger final after)
    (sound : machine.Sound quoting ledger) :
    ledger.Grows final := by
  intro cell holding held
  rw [leads.entries cell (sound.store.cells cell holding held).1, held]

/-- A change that has nothing to do with cells, bindings and code. -/
theorem of_same
    (sound : machine.Sound quoting ledger)
    (cells : after.store.cells = machine.store.cells)
    (scopes : ∀ ref, after.store.scope ref = machine.store.scope ref)
    (dispatch : after.dispatch = machine.dispatch) :
    machine.Leads quoting ledger ledger after := by
  have elements : ∀ cell, after.store.elements cell = machine.store.elements cell := by
    intro cell
    simp only [Store.elements, cells]
  refine ⟨⟨⟨?_, ?_⟩, ?_⟩, ?_, fun _ _ => rfl, fun cell _ _ => elements cell⟩
  · simpa only [elements, cells] using sound.store.cells
  · simpa only [scopes] using sound.store.scopes
  · simpa only [dispatch] using sound.dispatch
  · simp [cells]

theorem bindName
    (sound : machine.Sound quoting ledger)
    (name : String)
    {value : Term}
    (data : value.IsData quoting ledger) :
    machine.Leads quoting ledger ledger (machine.bindName name value) := by
  rcases bindName_eq machine name value with ⟨scope, _, changed⟩ | same
  · rw [changed]
    refine ⟨⟨⟨sound.store.cells, ?_⟩, sound.dispatch⟩, Nat.le_refl _, fun _ _ => rfl,
      fun _ _ _ => rfl⟩
    intro ref entry member
    rcases machine.store.scope_bind scope ref name value with unchanged | inserted
    · rw [unchanged] at member
      exact sound.store.scopes ref entry member
    · rw [inserted] at member
      rcases Namespace.mem_insertEntry member with rfl | old
      · exact data
      · exact sound.store.scopes ref entry old
  · rw [same]
    exact .refl sound

/-- Code is registered under a name. -/
theorem register
    (sound : machine.Sound quoting ledger)
    (name : String)
    {code : Code}
    (isCode : code.IsCode quoting ledger) :
    machine.Leads quoting ledger ledger
      { machine with dispatch := machine.dispatch.insert name code } := by
  refine ⟨⟨sound.store, ?_⟩, Nat.le_refl _, fun _ _ => rfl, fun _ _ _ => rfl⟩
  exact List.forall_mem_cons.mpr ⟨isCode, sound.dispatch⟩

/-- A new cell is entered as what it holds. -/
theorem newCell
    (sound : machine.Sound quoting ledger)
    {elements : Array Term}
    {holding : Holding}
    (admits : holding.Admits quoting ledger elements) :
    machine.Leads quoting ledger (ledger.add ⟨machine.store.cells.size⟩ holding)
      { machine with store := (machine.store.newCell elements).2 } := by
  have grows : ledger.Grows (ledger.add ⟨machine.store.cells.size⟩ holding) := by
    intro cell other held
    refine (ledger.add_of_ne ?_ holding).trans held
    rintro rfl
    simp [sound.store.fresh] at held
  refine ⟨⟨⟨?_, ?_⟩, ?_⟩, ?_, ?_, ?_⟩
  · intro cell other held
    by_cases new : cell = ⟨machine.store.cells.size⟩
    · subst new
      obtain rfl : holding = other := by simpa using held
      refine ⟨by simp [Store.newCell], ?_⟩
      have held : (machine.store.newCell elements).2.elements ⟨machine.store.cells.size⟩ =
          elements := machine.store.elements_newCell_self elements
      rw [held]
      exact admits.mono grows
    · rw [ledger.add_of_ne new] at held
      obtain ⟨existing, old⟩ := sound.store.cells cell other held
      refine ⟨?_, ?_⟩
      · simpa [Store.newCell] using Nat.lt_succ_of_lt existing
      · rw [machine.store.elements_newCell_of_lt elements existing]
        exact old.mono grows
  · exact fun ref entry member => (sound.store.scopes ref entry member).mono grows
  · exact fun entry member => (sound.dispatch entry member).mono grows
  · simp [Store.newCell]
  · intro cell existing
    refine ledger.add_of_ne ?_ holding
    rintro rfl
    exact Nat.lt_irrefl _ existing
  · exact fun cell existing _ => machine.store.elements_newCell_of_lt elements existing

/-- Data is written to a cell of data. -/
theorem writeElement
    (sound : machine.Sound quoting ledger)
    {target : CellRef}
    (data : ledger.IsData target)
    (place : Nat)
    {value : Term}
    (valueData : value.IsData quoting ledger) :
    machine.Leads quoting ledger ledger
      { machine with store := machine.store.writeElement target place value } := by
  refine ⟨⟨⟨?_, sound.store.scopes⟩, sound.dispatch⟩, ?_, fun _ _ => rfl, ?_⟩
  · intro cell holding held
    obtain ⟨existing, admits⟩ := sound.store.cells cell holding held
    refine ⟨by simpa [Store.writeElement] using existing, ?_⟩
    rw [Store.elements_writeElement]
    split
    · rename_i same
      subst same
      obtain ⟨owner, owned⟩ := data
      obtain rfl : Holding.data owner = holding := by simpa [owned] using held
      refine ⟨by simpa using admits.1, fun element inside => ?_⟩
      rcases Array.mem_or_eq_of_mem_setIfInBounds inside with old | rfl
      · exact admits.2 element old
      · exact valueData
    · exact admits
  · simp [Store.writeElement]
  · intro cell _ unwritten
    rw [Store.elements_writeElement, if_neg]
    rintro rfl
    exact unwritten data

end Machine.Leads
end PatternMachine
