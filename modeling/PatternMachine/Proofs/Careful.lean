import PatternMachine.Proofs.Ledger

/-!
# Careful actions

An action is careful when it keeps code and data apart: on a sound machine it
leaves a sound machine, it writes to cells of data only, and an error it raises
carries data. What is known of terms when an action begins stays true, since
the ledger only grows; so carefulness is closed under every way of putting
actions together.
-/

namespace PatternMachine
namespace Action

/-- On every sound machine, with a ledger that has grown from the given one, the
action ends soundly, and what it yields satisfies `answer`. Its counterpart `told`,
which is told a ledger beforehand, does the same if it is told a ledger with the
entries that there are in the end. -/
def Foretold {α : Type} (quoting : Bool) (ledger : Ledger) (action : Action α)
    (told : Ledger -> Action α) (answer : Ledger -> α -> Prop) : Prop :=
  ∀ later machine, ledger.Grows later -> machine.Sound quoting later ->
    match action machine with
    | .ok value after =>
        ∃ final, machine.Leads quoting later final after ∧ answer final value ∧
          ∀ future, final.Grows future -> told future machine = .ok value after
    | .error stop after =>
        ∃ final, machine.Leads quoting later final after ∧ stop.IsSound quoting final ∧
          ∀ future, final.Grows future -> told future machine = .error stop after

/-- A careful action, which is told nothing. -/
abbrev Careful {α : Type} (quoting : Bool) (ledger : Ledger) (action : Action α)
    (answer : Ledger -> α -> Prop) : Prop :=
  Foretold quoting ledger action (fun _ => action) answer

variable {α β : Type} {quoting : Bool} {ledger : Ledger}

/-- An action that yields data, and its counterpart. -/
abbrev ForetoldData (quoting : Bool) (ledger : Ledger) (action : Action Term)
    (told : Ledger -> Action Term) : Prop :=
  Foretold quoting ledger action told fun final value => value.IsData quoting final

/-- A careful action that yields data. -/
abbrev YieldsData (quoting : Bool) (ledger : Ledger) (action : Action Term) : Prop :=
  ForetoldData quoting ledger action fun _ => action

namespace Foretold

/-- An action that is told nothing does the same anyway. -/
theorem alone
    {action : Action α}
    {answer : Ledger -> α -> Prop}
    (careful : ∀ later machine, ledger.Grows later -> machine.Sound quoting later ->
      match action machine with
      | .ok value after => ∃ final, machine.Leads quoting later final after ∧ answer final value
      | .error stop after =>
          ∃ final, machine.Leads quoting later final after ∧ stop.IsSound quoting final) :
    Careful quoting ledger action answer := by
  intro later machine grows sound
  have outcome := careful later machine grows sound
  cases run : action machine with
  | ok value after =>
      rw [run] at outcome
      obtain ⟨final, leads, holds⟩ := outcome
      exact ⟨final, leads, holds, fun _ _ => run⟩
  | error stop after =>
      rw [run] at outcome
      obtain ⟨final, leads, stopped⟩ := outcome
      exact ⟨final, leads, stopped, fun _ _ => run⟩

theorem pure
    {value : α}
    {answer : Ledger -> α -> Prop}
    (holds : ∀ later, ledger.Grows later -> answer later value) :
    Careful quoting ledger (Pure.pure value) answer :=
  fun later _ grows sound => ⟨later, .refl sound, holds later grows, fun _ _ => rfl⟩

/-- Data that is at hand is yielded. -/
theorem pureData
    {value : Term}
    (data : value.IsData quoting ledger) :
    YieldsData quoting ledger (Pure.pure value) :=
  pure fun _ grows => data.mono grows

theorem bind
    {action : Action α}
    {told : Ledger -> Action α}
    {next : α -> Action β}
    {toldNext : Ledger -> α -> Action β}
    {middle : Ledger -> α -> Prop}
    {answer : Ledger -> β -> Prop}
    (first : Foretold quoting ledger action told middle)
    (second : ∀ later value, ledger.Grows later -> middle later value ->
      Foretold quoting later (next value) (fun future => toldNext future value) answer) :
    Foretold quoting ledger (action >>= next) (fun future => told future >>= toldNext future)
      answer := by
  intro later machine grows sound
  have firstOutcome := first later machine grows sound
  simp only [bind_apply]
  cases run : action machine with
  | error stop after =>
      rw [run] at firstOutcome
      obtain ⟨reached, leads, stopped, same⟩ := firstOutcome
      exact ⟨reached, leads, stopped, fun future known => by rw [same future known]⟩
  | ok value after =>
      rw [run] at firstOutcome
      obtain ⟨reached, leads, holds, same⟩ := firstOutcome
      have secondOutcome := second reached value (grows.trans (leads.grows sound)) holds
        reached after (.refl reached) leads.sound
      revert secondOutcome
      dsimp only
      cases next value after with
      | ok result final =>
          rintro ⟨last, onwards, answered, sameNext⟩
          refine ⟨last, leads.trans onwards, answered, fun future known => ?_⟩
          rw [same future ((onwards.grows leads.sound).trans known)]
          exact sameNext future known
      | error stop final =>
          rintro ⟨last, onwards, stopped, sameNext⟩
          refine ⟨last, leads.trans onwards, stopped, fun future known => ?_⟩
          rw [same future ((onwards.grows leads.sound).trans known)]
          exact sameNext future known

theorem mono
    {action : Action α}
    {told : Ledger -> Action α}
    {middle answer : Ledger -> α -> Prop}
    (careful : Foretold quoting ledger action told middle)
    (implies : ∀ later value, ledger.Grows later -> middle later value -> answer later value) :
    Foretold quoting ledger action told answer := by
  intro later machine grows sound
  have outcome := careful later machine grows sound
  revert outcome
  cases action machine with
  | ok value after =>
      rintro ⟨final, leads, holds, same⟩
      exact ⟨final, leads, implies final value (grows.trans (leads.grows sound)) holds, same⟩
  | error stop after => exact id

/-- An action stays careful when the ledger has grown. -/
theorem later
    {later : Ledger}
    {action : Action α}
    {told : Ledger -> Action α}
    {answer : Ledger -> α -> Prop}
    (careful : Foretold quoting ledger action told answer)
    (grows : ledger.Grows later) :
    Foretold quoting later action told answer :=
  fun last machine lastGrows => careful last machine (grows.trans lastGrows)

theorem throw
    {stop : Stop}
    {answer : Ledger -> α -> Prop}
    (sound : ∀ later, ledger.Grows later -> stop.IsSound quoting later) :
    Careful quoting ledger (MonadExcept.throw stop : Action α) answer :=
  fun later _ grows machineSound =>
    ⟨later, .refl machineSound, sound later grows, fun _ _ => rfl⟩

theorem raise
    {kind : ErrorKind}
    {message : String}
    {answer : Ledger -> α -> Prop} :
    Careful quoting ledger (Action.raise kind message) answer :=
  fun later _ _ sound => ⟨later, .refl sound, trivial, fun _ _ => rfl⟩

/-- Of two actions one is chosen. -/
theorem ite
    {condition : Prop}
    [Decidable condition]
    {first second : Action α}
    {toldFirst toldSecond : Ledger -> Action α}
    {answer : Ledger -> α -> Prop}
    (whenTrue : condition -> Foretold quoting ledger first toldFirst answer)
    (whenFalse : ¬ condition -> Foretold quoting ledger second toldSecond answer) :
    Foretold quoting ledger (if condition then first else second)
      (fun future => if condition then toldFirst future else toldSecond future) answer := by
  by_cases decided : condition
  · simp only [if_pos decided]
    exact whenTrue decided
  · simp only [if_neg decided]
    exact whenFalse decided

theorem get_bind
    {next : Machine -> Action β}
    {toldNext : Ledger -> Machine -> Action β}
    {answer : Ledger -> β -> Prop}
    (careful : ∀ later machine, ledger.Grows later -> machine.Sound quoting later ->
      Foretold quoting later (next machine) (fun future => toldNext future machine) answer) :
    Foretold quoting ledger (get >>= next) (fun future => get >>= toldNext future) answer := by
  intro later machine grows sound
  exact careful later machine grows sound later machine (.refl later) sound

theorem store_bind
    {next : Store -> Action β}
    {toldNext : Ledger -> Store -> Action β}
    {answer : Ledger -> β -> Prop}
    (careful : ∀ later store, ledger.Grows later -> store.Sound quoting later ->
      Foretold quoting later (next store) (fun future => toldNext future store) answer) :
    Foretold quoting ledger (Action.store >>= next)
      (fun future => Action.store >>= toldNext future) answer := by
  intro later machine grows sound
  exact careful later machine.store grows sound.store later machine (.refl later) sound

/-- A change of the machine that leads from sound machines to sound ones. -/
theorem update
    {change : Machine -> Machine}
    (leads : ∀ later, ∀ machine : Machine, ledger.Grows later -> machine.Sound quoting later ->
      machine.Leads quoting later later (change machine)) :
    Careful quoting ledger (modify change) fun _ _ => True :=
  fun later machine grows sound =>
    ⟨later, leads later machine grows sound, trivial, fun _ _ => rfl⟩

/-- A change that has nothing to do with cells, bindings and code. -/
theorem change
    {change : Machine -> Machine}
    (cells : ∀ machine, (change machine).store.cells = machine.store.cells)
    (scopes : ∀ machine ref, (change machine).store.scope ref = machine.store.scope ref)
    (dispatch : ∀ machine, (change machine).dispatch = machine.dispatch) :
    Careful quoting ledger (modify change) fun _ _ => True :=
  update fun _ machine _ sound =>
    .of_same sound (cells machine) (scopes machine) (dispatch machine)

/-- What a look at the store finds is found in a sound store. -/
theorem finitely
    {look : Store -> Option α}
    {answer : Ledger -> α -> Prop}
    (holds : ∀ later (store : Store), ledger.Grows later -> store.Sound quoting later ->
      ∀ found, look store = some found -> answer later found) :
    Careful quoting ledger (Action.finitely look) answer := by
  refine alone fun later machine grows sound => ?_
  rw [finitely_apply]
  cases found : look machine.store with
  | none => exact ⟨later, .refl sound, trivial⟩
  | some value => exact ⟨later, .refl sound, holds later machine.store grows sound.store value found⟩

theorem look {look : Store -> Option α} :
    Careful quoting ledger (Action.finitely look) fun _ _ => True :=
  finitely fun _ _ _ _ _ _ => trivial

theorem display {term : Term} :
    Careful quoting ledger (Action.display term) fun _ _ => True :=
  look

theorem equal {left right : Term} :
    Careful quoting ledger (Action.equal left right) fun _ _ => True :=
  look

theorem caption {term : Term} :
    Careful quoting ledger (Action.caption term) fun _ _ => True :=
  store_bind fun _ _ _ _ => pure fun _ _ => trivial

/-- Raising an error whose wording shows a term. -/
theorem display_raise
    {term : Term}
    {kind : ErrorKind}
    {message : String -> String}
    {answer : Ledger -> α -> Prop} :
    Careful quoting ledger
      (Action.display term >>= fun shown => Action.raise kind (message shown)) answer :=
  display.bind fun _ _ _ _ => raise

/-- Raising an error whose wording shows two terms. -/
theorem display_display_raise
    {first second : Term}
    {kind : ErrorKind}
    {message : String -> String -> String}
    {answer : Ledger -> α -> Prop} :
    Careful quoting ledger
      (Action.display first >>= fun shown => Action.display second >>= fun other =>
        Action.raise kind (message shown other)) answer :=
  display.bind fun _ _ _ _ => display_raise

theorem count {kind : Kind} : Careful quoting ledger (Action.count kind) fun _ _ => True :=
  change (fun _ => rfl) (fun _ _ => rfl) fun _ => rfl

theorem write {text : String} : Careful quoting ledger (Action.write text) fun _ _ => True :=
  change (fun _ => rfl) (fun _ _ => rfl) fun _ => rfl

theorem record (event : TraceEvent) :
    Careful quoting ledger (Action.record event) fun _ _ => True := by
  refine change (fun machine => ?_) (fun machine ref => ?_) fun machine => ?_
  · split <;> rfl
  · split <;> rfl
  · split <;> rfl

theorem setPosition {position : Position} :
    Careful quoting ledger (modify fun machine => { machine with position := position })
      fun _ _ => True :=
  change (fun _ => rfl) (fun _ _ => rfl) fun _ => rfl

theorem follows {body : String} :
    Careful quoting ledger (Action.follows body) fun _ _ => True :=
  get_bind fun _ _ _ _ => pure fun _ _ => trivial

theorem freshMark : Careful quoting ledger Action.freshMark fun _ _ => True :=
  fun later _ _ sound =>
    ⟨later, .of_same sound rfl (fun _ => rfl) rfl, trivial, fun _ _ => rfl⟩

/-- A new cell is entered as what it is to hold, which may depend on where it is. -/
theorem allocate
    {elements : List Term}
    {holding : CellRef -> Holding}
    (admits : ∀ cell, (holding cell).Admits quoting ledger elements.toArray) :
    Careful quoting ledger (Action.newCell elements) fun final cell =>
      final cell = some (holding cell) :=
  fun _ _ grows sound =>
    ⟨_, .newCell sound ((admits _).mono grows), Ledger.add_self _ _ _, fun _ _ => rfl⟩

/-- A new cell of data. -/
theorem newCell
    {elements : List Term}
    {owner : Option Template}
    (sized : ∀ template, owner = some template -> elements.length = template.members.length)
    (data : ∀ element ∈ elements, element.IsData quoting ledger) :
    Careful quoting ledger (Action.newCell elements) fun final cell =>
      final cell = some (.data owner) :=
  allocate fun _ => ⟨sized, by simpa using data⟩

/-- A new cell of code. -/
theorem newCode
    {elements : List Term}
    (code : ∀ element ∈ elements, element.IsCode quoting ledger) :
    Careful quoting ledger (Action.newCell elements) fun final cell =>
      final cell = some .code :=
  allocate fun _ => by simpa [Holding.Admits] using code

/-- What is found at a site of code is code. -/
theorem findCode
    {site : Site}
    (code : site.IsCode quoting ledger) :
    Careful quoting ledger (Action.find site) fun final term => term.IsCode quoting final :=
  store_bind fun _ _ grows sound => pure fun _ lastGrows =>
    (sound.findCode (code.mono grows)).mono lastGrows

theorem bindName
    {name : String}
    {value : Term}
    (data : value.IsData quoting ledger) :
    Careful quoting ledger (Action.bindName name value) fun _ _ => True :=
  update fun _ _ grows sound => .bindName sound name (data.mono grows)

theorem register
    {name : String}
    {code : Code}
    (isCode : code.IsCode quoting ledger) :
    Careful quoting ledger
      (modify fun machine => { machine with dispatch := machine.dispatch.insert name code })
      fun _ _ => True :=
  update fun _ _ grows sound => .register sound name (isCode.mono grows)

theorem lookup?
    {name : String} :
    Careful quoting ledger (Action.lookup? name) fun final found =>
      ∀ value, found = some value -> value.IsData quoting final := by
  refine get_bind fun later machine grows sound => pure fun last lastGrows value found => ?_
  simp only [Machine.lookup?, Option.bind_eq_bind, Option.bind_eq_some_iff] at found
  obtain ⟨_, _, ref, _, bound⟩ := found
  exact (sound.store.scopes ref _ (Namespace.mem_entries_of_get? bound)).mono lastGrows

theorem capture : Careful quoting ledger Action.capture fun _ _ => True :=
  freshMark.bind fun _ _ _ _ => get_bind fun _ _ _ _ => pure fun _ _ => trivial

theorem install {captured : Closure} :
    Careful quoting ledger (Action.install captured) fun _ _ => True := by
  refine alone fun later machine grows sound => ?_
  rcases install_apply captured machine.store.globals.size with
    ⟨_, explanation, refused⟩ | ⟨size, extra, globals, _, entering⟩
  · rw [refused machine]
    exact ⟨later, .refl sound, assertionReport_ne_bell _⟩
  · rw [entering machine rfl]
    exact ⟨later, .of_same sound rfl (fun _ => rfl) rfl, trivial⟩

/-- Recording where an error leaves an action changes nothing else. -/
theorem located
    {action : Action α}
    {told : Ledger -> Action α}
    {answer : Ledger -> α -> Prop}
    (careful : Foretold quoting ledger action told answer) :
    Foretold quoting ledger (Action.located action)
      (fun future => Action.located (told future)) answer := by
  intro later machine grows sound
  have outcome := careful later machine grows sound
  unfold Action.located
  revert outcome
  cases action machine with
  | ok value after =>
      rintro ⟨final, leads, holds, same⟩
      exact ⟨final, leads, holds, fun future known => by simp only [same future known]⟩
  | error stop after =>
      rintro ⟨final, leads, stopped, same⟩
      cases stop <;>
        exact ⟨final, leads, stopped, fun future known => by simp only [same future known]⟩

/-- A failed match that is taken as an answer changes nothing else. -/
theorem orNoMatch
    {action : Action α}
    {told : Ledger -> Action α}
    {answer : Ledger -> α -> Prop}
    (careful : Foretold quoting ledger action told answer) :
    Foretold quoting ledger (Action.orNoMatch action)
      (fun future => Action.orNoMatch (told future))
      fun final found => ∀ value, found = some value -> answer final value := by
  intro later machine grows sound
  have outcome := careful later machine grows sound
  unfold Action.orNoMatch
  revert outcome
  cases action machine with
  | ok value after =>
      rintro ⟨final, leads, holds, same⟩
      refine ⟨final, leads, ?_, fun future known => by simp only [same future known]⟩
      rintro other equal
      obtain rfl : value = other := by simpa using equal
      exact holds
  | error stop after =>
      rintro ⟨final, leads, stopped, same⟩
      cases stop with
      | raised exception =>
          dsimp only
          by_cases failed : after.store.isMatchFailure exception.payload
          · rw [if_pos failed]
            exact ⟨final, leads, by simp, fun future known => by
              simp only [same future known, if_pos failed]⟩
          · rw [if_neg failed]
            exact ⟨final, leads, stopped, fun future known => by
              simp only [same future known, if_neg failed]⟩
      | fatal message =>
          exact ⟨final, leads, stopped, fun future known => by simp only [same future known]⟩
      | exhausted =>
          exact ⟨final, leads, stopped, fun future known => by simp only [same future known]⟩

/-- An error that is an answer. -/
theorem rescue
    {action : Action α}
    {told : Ledger -> Action α}
    {next : α -> Action β}
    {toldNext : Ledger -> α -> Action β}
    {handle : Raised -> β}
    {middle : Ledger -> α -> Prop}
    {answer : Ledger -> β -> Prop}
    (first : Foretold quoting ledger action told middle)
    (second : ∀ later value, ledger.Grows later -> middle later value ->
      Foretold quoting later (next value) (fun future => toldNext future value) answer)
    (handled : ∀ later exception, (Stop.raised exception).IsSound quoting later ->
      answer later (handle exception)) :
    Foretold quoting ledger (action.rescue handle next)
      (fun future => (told future).rescue handle (toldNext future)) answer := by
  intro later machine grows sound
  have firstOutcome := first later machine grows sound
  unfold Action.rescue
  revert firstOutcome
  cases action machine with
  | error stop after =>
      rintro ⟨reached, leads, stopped, same⟩
      cases stop with
      | raised exception =>
          exact ⟨reached, leads, handled reached exception stopped, fun future known => by
            simp only [same future known]⟩
      | fatal message =>
          exact ⟨reached, leads, stopped, fun future known => by simp only [same future known]⟩
      | exhausted =>
          exact ⟨reached, leads, stopped, fun future known => by simp only [same future known]⟩
  | ok value after =>
      rintro ⟨reached, leads, holds, same⟩
      have secondOutcome := second reached value (grows.trans (leads.grows sound)) holds
        reached after (.refl reached) leads.sound
      revert secondOutcome
      dsimp only
      cases next value after with
      | ok result final =>
          rintro ⟨last, onwards, answered, sameNext⟩
          refine ⟨last, leads.trans onwards, answered, fun future known => ?_⟩
          simp only [same future ((onwards.grows leads.sound).trans known), sameNext future known]
      | error stop final =>
          rintro ⟨last, onwards, stopped, sameNext⟩
          refine ⟨last, leads.trans onwards, stopped, fun future known => ?_⟩
          simp only [same future ((onwards.grows leads.sound).trans known), sameNext future known]

/-- Putting scopes, positions and counters back changes nothing else. -/
theorem ensuring
    {action : Action α}
    {told : Ledger -> Action α}
    {cleanup : Machine -> Machine}
    {answer : Ledger -> α -> Prop}
    (careful : Foretold quoting ledger action told answer)
    (stores : ∀ machine, (cleanup machine).store = machine.store)
    (dispatch : ∀ machine, (cleanup machine).dispatch = machine.dispatch) :
    Foretold quoting ledger (Action.ensuring action cleanup)
      (fun future => Action.ensuring (told future) cleanup) answer := by
  have cleaned : ∀ {later final} {machine after : Machine},
      machine.Leads quoting later final after ->
      machine.Leads quoting later final (cleanup after) := by
    intro later final machine after leads
    refine leads.trans (.of_same leads.sound ?_ ?_ (dispatch after))
    · rw [stores]
    · intro ref
      rw [stores]
  intro later machine grows sound
  have outcome := careful later machine grows sound
  unfold Action.ensuring
  revert outcome
  cases action machine with
  | ok value after =>
      rintro ⟨final, leads, holds, same⟩
      exact ⟨final, cleaned leads, holds, fun future known => by simp only [same future known]⟩
  | error stop after =>
      rintro ⟨final, leads, stopped, same⟩
      exact ⟨final, cleaned leads, stopped, fun future known => by simp only [same future known]⟩

/-! ## Making values -/

theorem newInteger {value : Int64} : YieldsData quoting ledger (Action.newInteger value) := by
  unfold Action.newInteger
  exact ite (fun _ => pureData trivial) fun _ => count.bind fun _ _ _ _ => pureData trivial

theorem newReal {value : Float} : YieldsData quoting ledger (Action.newReal value) :=
  count.bind fun _ _ _ _ => pureData trivial

theorem newText {value : String} : YieldsData quoting ledger (Action.newText value) :=
  count.bind fun _ _ _ _ => pureData trivial

theorem newList
    {elements : List Term}
    (data : ∀ element ∈ elements, element.IsData quoting ledger) :
    YieldsData quoting ledger (Action.newList elements) :=
  count.bind fun _ _ grows _ =>
    (newCell (by simp) fun element inside => (data element inside).mono grows).bind
      fun _ _ _ held => pureData held

theorem newTuple
    {elements : List Term}
    (data : ∀ element ∈ elements, element.IsData quoting ledger) :
    YieldsData quoting ledger (Action.newTuple elements) :=
  count.bind fun _ _ grows _ =>
    (newCell (by simp) fun element inside => (data element inside).mono grows).bind
      fun _ _ _ held => pureData held

/-- A list of terms that are only read. -/
theorem newCodeList
    {elements : List Term}
    (code : ∀ element ∈ elements, element.IsCode quoting ledger) :
    Careful quoting ledger (Action.newList elements) fun final value =>
      value.IsCode quoting final :=
  count.bind fun _ _ grows _ =>
    (newCode fun element inside => (code element inside).mono grows).bind fun _ _ _ held =>
      pure fun _ lastGrows => .inl (lastGrows _ _ held)

theorem newPair
    {first second : Term}
    (firstData : first.IsData quoting ledger)
    (secondData : second.IsData quoting ledger) :
    YieldsData quoting ledger (Action.newPair first second) :=
  count.bind fun _ _ grows _ => pureData ⟨firstData.mono grows, secondData.mono grows⟩

theorem newSequence
    {first second : Term}
    (firstData : first.IsData quoting ledger)
    (secondData : second.IsData quoting ledger) :
    YieldsData quoting ledger (Action.newSequence first second) :=
  count.bind fun _ _ grows _ => freshMark.bind fun _ _ markGrows _ =>
    pureData ⟨(firstData.mono grows).mono markGrows, (secondData.mono grows).mono markGrows⟩

theorem newIdentifier {name : String} :
    Careful quoting ledger (Action.newIdentifier name) fun _ value =>
      value = .identifier name :=
  count.bind fun _ _ _ _ => pure fun _ _ => rfl

theorem newClosure {body : String} {captured : Closure} :
    YieldsData quoting ledger (Action.newClosure body captured) :=
  count.bind fun _ _ _ _ => pureData trivial

theorem newMethod
    {receiver body : Term}
    (receiverData : receiver.IsData quoting ledger)
    (bodyData : body.IsData quoting ledger) :
    YieldsData quoting ledger (Action.newMethod receiver body) :=
  count.bind fun _ _ grows _ => freshMark.bind fun _ _ markGrows _ =>
    pureData ⟨(receiverData.mono grows).mono markGrows, (bodyData.mono grows).mono markGrows⟩

/-- A struct is built with different members and a value for each of them. -/
theorem newStruct
    {name : String}
    {members : List String}
    {initial : List Term}
    (distinct : members.Nodup)
    (sized : initial.length = members.length)
    (data : ∀ value ∈ initial, value.IsData quoting ledger) :
    Careful quoting ledger (Action.newStruct name members initial) fun final template =>
      (Term.struct template).IsData quoting final := by
  refine count.bind fun _ _ grows _ => count.bind fun _ _ again _ => ?_
  refine freshMark.bind fun last mark markGrows _ => ?_
  have initialData : ∀ value ∈ initial, value.IsData quoting last :=
    fun value inside => (data value inside).mono ((grows.trans again).trans markGrows)
  have entered : Careful quoting last (Action.newCell initial) fun final cell =>
      final cell = some (.slots ⟨mark, name, members, cell⟩ initial.toArray) :=
    allocate fun _ => ⟨rfl, distinct, sized, by simpa using initialData⟩
  exact entered.bind fun _ _ _ held => pure fun _ lastGrows => ⟨_, lastGrows _ _ held⟩

/-- A new object has as many members as its struct, in a cell of its own. -/
theorem newObject
    {template : Template}
    (data : (Term.struct template).IsData quoting ledger) :
    Careful quoting ledger (Action.newObject template) fun final memory =>
      (Term.object (some template) memory).IsData quoting final := by
  refine count.bind fun _ _ grows _ => count.bind fun _ _ again _ => ?_
  refine store_bind fun later store storeGrows sound => ?_
  have built : later.IsTemplate template := data.mono ((grows.trans again).trans storeGrows)
  have sized : (store.elements template.memory).toList.length = template.members.length :=
    sound.templateSize built
  have copied := newCell (fun _ same => by rw [← Option.some.inj same]; exact sized)
    (sound.templateElements built)
  exact copied.mono fun _ _ lastGrows entered => ⟨entered, built.mono lastGrows⟩

end Foretold
end Action
end PatternMachine
