import Mathlib.Logic.Relation
import PatternMachine.Proofs.Sparing

/-!
# What a comparison of patterns looks into

A comparison of patterns looks for itself into the patterns inside a pattern.
Behind references and index expressions it evaluates, and goes on with what the
evaluation yields. Terms are inert when whatever is evaluated on the way does
nothing but make values. Evaluating an inert term adds cells, and yields a value
that can be compared in its turn.
-/

namespace PatternMachine

/-- Whether evaluating a term itself, its parts apart, does nothing but make values:
the term is harmless and does not move the position. -/
def Term.isPassive : Term -> Bool
  | .lineMark _ _ => false
  | term => term.isHarmless

/-- What is done with a term when patterns are compared. -/
inductive Use
  | compared
  | evaluated
  deriving DecidableEq, Repr

namespace Machine

/-- The terms that are looked into next, with what is done with them. A name leads to
what it is bound to, and a quote to the pattern it holds. -/
def consulted (machine : Machine) : Use × Term -> List (Use × Term)
  | (.compared, .index mark subject selector) => [(.evaluated, .index mark subject selector)]
  | (.compared, .deref _ expression) => [(.evaluated, expression)]
  | (.compared, pattern) => (pattern.subpatterns machine.store).map fun part => (.compared, part)
  | (.evaluated, .identifier name) =>
      (machine.lookup? name).toList.map fun value => (.compared, value)
  | (.evaluated, .quote expression) =>
      (.compared, expression) :: if machine.ignoreQuote then [(.evaluated, expression)] else []
  | (.evaluated, .object template memory) => [(.compared, .object template memory)]
  | (.evaluated, expression) =>
      (expression.parts machine.store).map fun part => (.evaluated, part)

/-- Whatever can be looked into from a term on. -/
abbrev Consults (machine : Machine) : Use × Term -> Use × Term -> Prop :=
  Relation.ReflTransGen fun outer inner => inner ∈ machine.consulted outer

/-- Whatever is evaluated on the way is passive, and all cells are in the store. -/
structure Inert (machine : Machine) (use : Use) (term : Term) : Prop where
  placed : ∀ inner, machine.Consults (use, term) inner -> inner.2.isPlaced machine.store = true
  passive : ∀ part, machine.Consults (use, term) (.evaluated, part) -> part.isPassive = true

/-- Terms find on `after` what they find on the machine: the cells, what names are
bound to, and whether quotes are transparent. -/
structure Retains (machine after : Machine) : Prop where
  keeps : machine.store.Keeps after.store
  names : ∀ name, after.lookup? name = machine.lookup? name
  quotes : after.ignoreQuote = machine.ignoreQuote

theorem Adds.retains
    {machine after : Machine}
    (adds : machine.Adds after) :
    machine.Retains after where
  keeps := adds.keeps
  names := adds.lookup?
  quotes := by rw [adds.rest]

/-- A term whose cells are there leads on to the same terms. -/
theorem Retains.consulted
    {machine after : Machine}
    (retains : machine.Retains after)
    (use : Use)
    {term : Term}
    (placed : term.isPlaced machine.store = true) :
    after.consulted (use, term) = machine.consulted (use, term) := by
  have parts := Store.contents_keeps retains.keeps placed
  have elements : ∀ cell, cell.place < machine.store.cells.size ->
      after.store.elements cell = machine.store.elements cell :=
    fun cell => retains.keeps.elements cell
  cases use with
  | compared =>
      cases term with
      | list cell | tuple cell | object _ cell =>
          simp [Machine.consulted, Term.subpatterns, Term.yielding,
            elements cell (of_decide_eq_true placed)]
      | _ => rfl
  | evaluated =>
      cases term with
      | list _ | tuple _ | struct _ =>
          exact congrArg (List.map fun part => (Use.evaluated, part)) parts
      | identifier name => simp [Machine.consulted, retains.names]
      | quote expression => simp [Machine.consulted, retains.quotes]
      | _ => rfl

namespace Inert

variable {machine after : Machine} {use : Use} {term part : Term}

/-- What an inert term leads to is inert. -/
theorem onwards
    {inside : Use}
    (inert : machine.Inert use term)
    (held : (inside, part) ∈ machine.consulted (use, term)) :
    machine.Inert inside part where
  placed last consults := inert.placed last (.head held consults)
  passive last consults := inert.passive last (.head held consults)

/-- A term is inert when all it leads to is. -/
theorem of_consulted
    (placed : term.isPlaced machine.store = true)
    (passive : use = .evaluated -> term.isPassive = true)
    (inner : ∀ inner ∈ machine.consulted (use, term), machine.Inert inner.1 inner.2) :
    machine.Inert use term where
  placed last consults := by
    rcases consults.cases_head with rfl | ⟨next, held, rest⟩
    · exact placed
    · exact (inner next held).placed last rest
  passive last consults := by
    rcases consults.cases_head with same | ⟨next, held, rest⟩
    · obtain ⟨rfl, rfl⟩ := Prod.mk.injEq .. ▸ same
      exact passive rfl
    · exact (inner next held).passive last rest

/-- In a pattern without references and index expressions nothing is evaluated. -/
theorem of_direct
    (placed : ∀ part, Term.Reaches (Term.subpatterns machine.store) term part ->
      part.isPlaced machine.store = true)
    (noReference : ∀ mark expression,
      ¬ Term.Reaches (Term.subpatterns machine.store) term (.deref mark expression))
    (noIndex : ∀ mark subject selector,
      ¬ Term.Reaches (Term.subpatterns machine.store) term (.index mark subject selector)) :
    machine.Inert .compared term := by
  have reached : ∀ inner, machine.Consults (.compared, term) inner ->
      inner.1 = .compared ∧ Term.Reaches (Term.subpatterns machine.store) term inner.2 := by
    intro inner consults
    induction consults with
    | refl => exact ⟨rfl, .here⟩
    | @tail outer inner _ held inductionHypothesis =>
        obtain ⟨use, pattern⟩ := outer
        obtain ⟨rfl, reaches⟩ := inductionHypothesis
        cases pattern with
        | deref mark expression => exact absurd reaches (noReference mark expression)
        | index mark subject selector => exact absurd reaches (noIndex mark subject selector)
        | _ =>
            obtain ⟨part, inside, rfl⟩ := List.mem_map.mp held
            exact ⟨rfl, reaches.inside inside⟩
  exact
    { placed := fun inner consults => placed _ (reached inner consults).2
      passive := fun part consults => absurd (reached _ consults).1 (by simp) }

/-- Inert terms stay inert as long as they find the same things. -/
theorem retained
    (inert : machine.Inert use term)
    (retains : machine.Retains after) :
    after.Inert use term := by
  have back : ∀ inner, after.Consults (use, term) inner ->
      machine.Consults (use, term) inner := by
    intro inner consults
    induction consults with
    | refl => exact .refl
    | @tail outer inner _ held inductionHypothesis =>
        rw [retains.consulted outer.1 (inert.placed outer inductionHypothesis)] at held
        exact inductionHypothesis.tail held
  exact
    { placed := fun inner consults =>
        Store.isPlaced_keeps retains.keeps (inert.placed inner (back inner consults))
      passive := fun inner consults => inert.passive inner (back _ consults) }

theorem isPassive (inert : machine.Inert .evaluated term) : term.isPassive = true :=
  inert.passive term .refl

theorem isPlaced (inert : machine.Inert use term) : term.isPlaced machine.store = true :=
  inert.placed _ .refl

/-- The patterns inside an inert pattern are inert. -/
theorem subpattern
    (inert : machine.Inert .compared term)
    (held : part ∈ term.subpatterns machine.store) :
    machine.Inert .compared part := by
  have inner : (Use.compared, part) ∈ machine.consulted (.compared, term) := by
    cases term with
    | index mark subject selector => simp [Term.subpatterns, Term.yielding] at held
    | deref mark expression => simp [Term.subpatterns, Term.yielding] at held
    | _ => exact List.mem_map.mpr ⟨part, held, rfl⟩
  exact inert.onwards inner

/-- The elements of a tuple or a pair are patterns inside it. -/
theorem tupleElements
    {parts : List Term}
    (inert : machine.Inert .compared term)
    (spread : machine.store.tupleElements? term = some parts) :
    ∀ part ∈ parts, machine.Inert .compared part := by
  have inside : term.subpatterns machine.store = parts := by
    cases term with
    | tuple cell => exact Option.some.inj spread
    | pair first second => exact Option.some.inj spread
    | _ => simp [Store.tupleElements?] at spread
  exact fun part held => inert.subpattern (inside ▸ held)

/-- The parts of an expression are evaluated, except for what has a rule of its own. -/
theorem operands
    (inert : machine.Inert .evaluated term)
    (compound : machine.consulted (.evaluated, term) =
      (term.parts machine.store).map fun part => (.evaluated, part)) :
    ∀ part ∈ term.parts machine.store, machine.Inert .evaluated part :=
  fun part held => inert.onwards (compound ▸ List.mem_map.mpr ⟨part, held, rfl⟩)

/-- A pattern is inert when the patterns inside it are, and it is not itself evaluated. -/
theorem of_subpatterns
    (placed : term.isPlaced machine.store = true)
    (direct : machine.consulted (.compared, term) =
      (term.subpatterns machine.store).map fun part => (.compared, part))
    (parts : ∀ part ∈ term.subpatterns machine.store, machine.Inert .compared part) :
    machine.Inert .compared term := by
  refine of_consulted placed (fun no => by cases no) fun inner held => ?_
  rw [direct] at held
  obtain ⟨part, inside, rfl⟩ := List.mem_map.mp held
  exact parts part inside

/-- A pattern without parts. -/
theorem leaf
    (placed : term.isPlaced machine.store = true)
    (alone : machine.consulted (.compared, term) = []) :
    machine.Inert .compared term :=
  of_consulted placed (fun no => by cases no) (by simp [alone])

/-- What is gathered from inert terms is inert. -/
theorem of_gathers
    (gathered : after.store.Gathers (machine.Inert .compared) term)
    (retains : machine.Retains after) :
    after.Inert .compared term := by
  cases term with
  | integer _ | real _ | boolean _ | text _ => exact leaf rfl rfl
  | list cell | tuple cell =>
      obtain ⟨placed, elements⟩ := gathered
      refine of_subpatterns (decide_eq_true placed) rfl fun part held => ?_
      exact (elements part (Array.mem_toList_iff.mp held)).retained retains
  | _ => exact gathered.elim

end Inert

/-- As long as no cell changes, what is found at a site is inert. -/
def InertAt (machine : Machine) (use : Use) (site : Site) : Prop :=
  ∀ after, machine.store.Keeps after -> machine.Inert use (after.find site)

namespace InertAt

variable {machine after : Machine} {use : Use} {site : Site}

theorem now (inert : machine.InertAt use site) : machine.Inert use (machine.store.find site) :=
  inert _ (.refl _)

theorem retained
    (inert : machine.InertAt use site)
    (retains : machine.Retains after) :
    after.InertAt use site :=
  fun later keeps => (inert later (retains.keeps.trans keeps)).retained retains

/-- The elements of an inert pattern stand where inert patterns are found. -/
theorem subpatterns
    {term : Term}
    (inert : machine.Inert .compared term) :
    ∀ site ∈ machine.store.sites term, machine.InertAt .compared site :=
  fun _ held _ keeps =>
    inert.subpattern (Term.mem_subpatterns_of_yielding (Store.find_yielding term held keeps))

end InertAt
end Machine

namespace Evaluator

open PatternMachine.Action (Heeds)

variable {machine : Machine} {self : Evaluator}

/-- Evaluating an inert term adds cells at most, and its value can be compared. -/
def EvaluatesInertly (self : Evaluator) : Prop :=
  ∀ machine term, machine.Inert .evaluated term ->
    Heeds .adding machine (self.walk term) fun after value => after.Inert .compared value

/-- The outcome of making a value from inert terms. -/
theorem gathers_inert
    {action : Action Term}
    (heeds : Heeds .adding machine action fun after =>
      after.store.Gathers (machine.Inert .compared)) :
    Heeds .adding machine action fun after value => after.Inert .compared value :=
  heeds.mono fun _ _ adds gathered => .of_gathers gathered adds.retains

/-- The elements of an inert container stand where inert terms are found. -/
theorem elements_inert
    {cell : CellRef}
    (inert : ∀ part ∈ (machine.store.elements cell).toList, machine.Inert .evaluated part) :
    ∀ site ∈ machine.store.places cell, machine.InertAt .evaluated site :=
  fun _ held _ keeps => inert _ (Store.find_yielding (.list cell) held keeps)

theorem walkAll_inert
    (evaluates : self.EvaluatesInertly)
    {sites : List Site}
    (inert : ∀ site ∈ sites, machine.InertAt .evaluated site) :
    Heeds .adding machine (self.walkAll sites) fun after values =>
      ∀ value ∈ values, after.Inert .compared value := by
  induction sites generalizing machine with
  | nil => exact .pure (by simp)
  | cons site rest inductionHypothesis =>
      obtain ⟨siteInert, restInert⟩ := List.forall_mem_cons.mp inert
      refine .find_bind ?_
      refine (evaluates machine _ siteInert.now).bind fun after value adds valueInert => ?_
      refine (inductionHypothesis fun site held =>
        (restInert site held).retained adds.retains).bind fun final values added valuesInert => ?_
      exact .pure (List.forall_mem_cons.mpr ⟨valueInert.retained added.retains, valuesInert⟩)

theorem memberName_inert
    (evaluates : self.EvaluatesInertly)
    {selector : Term}
    (inert : machine.Inert .evaluated selector) :
    Heeds .adding machine (self.memberName selector) fun _ _ => True := by
  unfold memberName
  split
  · exact .pure trivial
  · refine (evaluates machine selector inert).bind fun after value adds valueInert => ?_
    split
    · exact .pure trivial
    · exact .raise

theorem readMember_inert
    (evaluates : self.EvaluatesInertly)
    {template : Option Template}
    {memory : CellRef}
    {selector : Term}
    (object : machine.Inert .compared (.object template memory))
    (inert : machine.Inert .evaluated selector) :
    Heeds .adding machine (self.readMember template memory selector) fun after value =>
      after.Inert .compared value := by
  refine (memberName_inert evaluates inert).bind fun after name adds _ => .store_bind ?_
  have objectInert := object.retained adds.retains
  split
  · exact .raise
  · rename_i body captured _
    refine Heeds.newMethod.mono fun final value added made => ?_
    obtain ⟨mark, rfl⟩ := made
    exact .leaf rfl rfl
  · rename_i value _ found
    refine .pure (objectInert.subpattern ?_)
    unfold Store.member? at found
    simp only [Option.bind_eq_bind, Option.bind_eq_some_iff] at found
    obtain ⟨owner, _, place, _, held⟩ := found
    exact Array.mem_toList_iff.mpr (Array.mem_of_getElem? held)

/-- Selecting elements of an inert sequence yields an element or a sequence of
elements. -/
theorem selectElements_inert
    {elements : List Term}
    {rebuild : List Term -> Action Term}
    {index : Term}
    (inert : ∀ element ∈ elements, machine.Inert .compared element)
    (rebuilds : ∀ (source : Term -> Prop) after selected,
      (∀ element ∈ selected, source element) ->
      Heeds .adding after (rebuild selected) fun final => final.store.Gathers source) :
    Heeds .adding machine (selectElements elements rebuild index) fun after value =>
      after.Inert .compared value := by
  refine (selectElements_heeds fun after selected held =>
    rebuilds (machine.Inert .compared) after selected fun element inside => ?_).mono
      fun after value adds made => ?_
  · rcases held element inside with present | rfl
    · exact inert element present
    · exact .leaf rfl rfl
  · rcases made with present | gathered
    · exact (inert value present).retained adds.retains
    · exact .of_gathers gathered adds.retains

theorem readIndex_inert
    (evaluates : self.EvaluatesInertly)
    {subject selector : Term}
    (subjectInert : machine.Inert .compared subject)
    (inert : machine.Inert .evaluated selector) :
    Heeds .adding machine (self.readIndex subject selector) fun after value =>
      after.Inert .compared value := by
  unfold readIndex
  split
  · exact readMember_inert evaluates subjectInert inert
  · refine (evaluates machine selector inert).bind fun after index adds _ => ?_
    have elements : ∀ part ∈ subject.subpatterns after.store, after.Inert .compared part :=
      fun part held => (subjectInert.retained adds.retains).subpattern held
    split
    · exact .store_bind (selectElements_inert elements fun _ _ _ => .newList)
    · exact .store_bind (selectElements_inert elements fun _ _ _ => .newTuple)
    · exact gathers_inert selectClusters_heeds
    · exact .raise

/-- The bounds of a range are inert, and so are the integers it makes. -/
theorem walkRange_inert
    (evaluates : self.EvaluatesInertly)
    {start stop stride : Term}
    (startInert : machine.Inert .evaluated start)
    (stopInert : machine.Inert .evaluated stop)
    (strideInert : machine.Inert .evaluated stride) :
    Heeds .adding machine (self.walkRange start stop stride) fun after value =>
      after.Inert .compared value := by
  have bound : ∀ {machine : Machine} {what : String} {term : Term},
      machine.Inert .evaluated term ->
      Heeds .adding machine (self.walkBound what term) fun _ _ => True := by
    intro machine what term inert
    refine (evaluates machine term inert).bind fun after value _ _ => ?_
    split
    · exact .pure trivial
    · exact .raise
  have integers : ∀ (machine : Machine) (values : List Int64),
      Heeds .adding machine (newIntegers values) fun after made =>
        ∀ term ∈ made, after.Inert .compared term := by
    intro machine values
    induction values generalizing machine with
    | nil => exact .pure (by simp)
    | cons value rest inductionHypothesis =>
        refine (gathers_inert .newInteger).bind fun after term adds termInert => ?_
        refine (inductionHypothesis after).bind fun final others added othersInert => ?_
        exact .pure (List.forall_mem_cons.mpr ⟨termInert.retained added.retains, othersInert⟩)
  have made : ∀ (machine : Machine) (first last step : Int64), Heeds .adding machine
      (if step == 0 then Action.raise .valueError "range stride cannot be zero"
      else newIntegers (rangeMembers first last step) >>= fun members =>
        Action.newList members) fun after value => after.Inert .compared value :=
    fun machine first last step => .ite (fun _ => .raise) fun _ =>
      (integers machine _).bind fun after terms _ termsInert => gathers_inert (.newList termsInert)
  refine (bound startInert).bind fun middle first earlier _ => ?_
  refine (bound (stopInert.retained earlier.retains)).bind fun after last later _ => ?_
  refine .ite (fun _ => ?_) fun _ => ?_
  · exact Heeds.bind (.pure trivial) fun final step _ (_ : True) => made final first last step
  · have adds := earlier.trans later
    exact (bound (strideInert.retained adds.retains)).bind fun final step _ _ =>
      made final first last step

theorem walkHeadTail_inert
    (evaluates : self.EvaluatesInertly)
    {head tail : Term}
    (headInert : machine.Inert .evaluated head)
    (tailInert : machine.Inert .evaluated tail) :
    Heeds .adding machine (self.walkHeadTail head tail) fun after value =>
      after.Inert .compared value := by
  refine (evaluates machine head headInert).bind fun middle first adds firstInert => ?_
  refine (evaluates middle tail (tailInert.retained adds.retains)).bind
    fun after rest added restInert => ?_
  split
  · refine .store_bind (gathers_inert (.newList ?_))
    refine List.forall_mem_cons.mpr ⟨firstInert.retained added.retains, fun part held => ?_⟩
    exact restInert.subpattern held
  · exact .raise

theorem walkConditional_inert
    (evaluates : self.EvaluatesInertly)
    {condition consequent alternative : Term}
    (conditionInert : machine.Inert .evaluated condition)
    (consequentInert : machine.Inert .evaluated consequent)
    (alternativeInert : machine.Inert .evaluated alternative) :
    Heeds .adding machine (self.walkConditional condition consequent alternative)
      fun after value => after.Inert .compared value := by
  refine (evaluates machine condition conditionInert).bind fun after verdict adds _ => ?_
  refine .store_bind (.ite (fun _ => ?_) fun _ => .ite (fun _ => .pure (.leaf rfl rfl)) fun _ => ?_)
  · exact evaluates after consequent (consequentInert.retained adds.retains)
  · exact evaluates after alternative (alternativeInert.retained adds.retains)

theorem walkMembership_inert
    (evaluates : self.EvaluatesInertly)
    {element container : Term}
    (elementInert : machine.Inert .evaluated element)
    (containerInert : machine.Inert .evaluated container) :
    Heeds .adding machine (self.walkMembership element container) fun after value =>
      after.Inert .compared value := by
  refine (evaluates machine element elementInert).bind fun middle value adds _ => ?_
  refine (evaluates middle container (containerInert.retained adds.retains)).bind
    fun after sequence _ _ => .store_bind ?_
  split
  · exact .finitely_bind fun _ _ => .pure (.leaf rfl rfl)
  · exact .raise

theorem walkIdentifier_inert
    {name : String}
    (inert : machine.Inert .evaluated (.identifier name)) :
    Heeds .adding machine (walkIdentifier name) fun after value =>
      after.Inert .compared value := by
  refine .lookup?_bind ?_
  split
  · rename_i value bound
    exact .pure (inert.onwards (by simp [Machine.consulted, bound]))
  · exact .get_bind .raise

/-- Only operators are applied in an inert term. -/
theorem walkApply_inert
    (evaluates : self.EvaluatesInertly)
    {mark : Mark}
    {callee argument : Term}
    (inert : machine.Inert .evaluated (.apply mark callee argument)) :
    Heeds .adding machine (self.walkApply callee argument) fun after value =>
      after.Inert .compared value := by
  have passive := inert.isPassive
  have argumentInert : machine.Inert .evaluated argument :=
    inert.operands rfl argument (by simp [Term.parts])
  cases callee with
  | identifier name =>
      obtain ⟨operator, known⟩ := Option.isSome_iff_exists.mp passive
      unfold walkApply
      simp only [known]
      refine (evaluates machine argument argumentInert).bind fun after value adds valueInert => ?_
      refine gathers_inert (applyOperator_heeds fun operands spread cell held element inside => ?_)
      -- The operands are the elements of the argument, and an operand that is a list
      -- contributes its own elements.
      exact (valueInert.tupleElements spread _ held).subpattern (Array.mem_toList_iff.mpr inside)
  | _ => simp [Term.isPassive, Term.isHarmless] at passive

/-- One step of evaluating an inert term adds cells at most, and its value can be
compared. -/
theorem walkStep_inert
    (evaluates : self.EvaluatesInertly)
    {term : Term}
    (inert : machine.Inert .evaluated term) :
    Heeds .adding machine (self.walkStep term) fun after value => after.Inert .compared value := by
  have passive := inert.isPassive
  cases term with
  | list cell =>
      refine .store_bind ((walkAll_inert evaluates (elements_inert (inert.operands rfl))).bind
        fun after values adds made => ?_)
      exact gathers_inert (.newList made)
  | tuple cell =>
      refine .store_bind ((walkAll_inert evaluates (elements_inert (inert.operands rfl))).bind
        fun after values adds made => ?_)
      exact gathers_inert (.newTuple made)
  | pair first second =>
      have operands := inert.operands rfl
      simp only [Term.parts, List.forall_mem_cons] at operands
      refine (evaluates machine first operands.1).bind fun middle firstValue adds firstInert => ?_
      refine (evaluates middle second (operands.2.1.retained adds.retains)).bind
        fun after secondValue added secondInert => ?_
      refine Heeds.newPair.mono fun final value more made => made ▸ .of_subpatterns rfl rfl ?_
      simp only [Term.subpatterns, Term.yielding, List.forall_mem_cons]
      exact ⟨firstInert.retained (added.trans more).retains, secondInert.retained more.retains,
        by simp⟩
  | sequence mark first second =>
      have operands := inert.operands rfl
      simp only [Term.parts, List.forall_mem_cons] at operands
      refine (evaluates machine first operands.1).bind fun middle firstValue adds _ => ?_
      refine (evaluates middle second (operands.2.1.retained adds.retains)).bind
        fun after secondValue _ _ => ?_
      refine Heeds.newSequence.mono fun final value _ made => ?_
      obtain ⟨mark, rfl⟩ := made
      exact .leaf rfl rfl
  | range raw mark start stop stride =>
      have operands := inert.operands rfl
      simp only [Term.parts, List.forall_mem_cons] at operands
      exact walkRange_inert evaluates operands.1 operands.2.1 operands.2.2.1
  | headTail raw mark head tail =>
      have operands := inert.operands rfl
      simp only [Term.parts, List.forall_mem_cons] at operands
      exact walkHeadTail_inert evaluates operands.1 operands.2.1
  | function mark body =>
      refine Heeds.bind (Heeds.freshMark.bind fun _ _ _ _ => .get_bind (.pure trivial))
        fun after captured _ (_ : True) => ?_
      exact Heeds.newClosure.mono fun final value _ made => made ▸ .leaf rfl rfl
  | apply mark callee argument => exact walkApply_inert evaluates inert
  | index mark subject selector =>
      have operands := inert.operands rfl
      simp only [Term.parts, List.forall_mem_cons] at operands
      refine (evaluates machine subject operands.1).bind fun after value adds valueInert => ?_
      exact readIndex_inert evaluates valueInert (operands.2.1.retained adds.retains)
  | conditional mark condition consequent alternative =>
      have operands := inert.operands rfl
      simp only [Term.parts, List.forall_mem_cons] at operands
      exact walkConditional_inert evaluates operands.1 operands.2.1 operands.2.2.1
  | membership mark element container =>
      have operands := inert.operands rfl
      simp only [Term.parts, List.forall_mem_cons] at operands
      exact walkMembership_inert evaluates operands.1 operands.2.1
  | quote expression =>
      have quoted : machine.Inert .compared expression :=
        inert.onwards (by simp [Machine.consulted])
      refine .get_bind (.ite (fun transparent => ?_) fun _ => .pure (.of_subpatterns rfl rfl ?_))
      · exact evaluates machine expression
          (inert.onwards (by simp [Machine.consulted, transparent]))
      · simpa [Term.subpatterns, Term.yielding] using quoted
  | deref mark expression =>
      have operands := inert.operands rfl
      simp only [Term.parts, List.forall_mem_cons] at operands
      exact evaluates machine expression operands.1
  | identifier name => exact walkIdentifier_inert inert
  | object template memory => exact .pure (inert.onwards (by simp [Machine.consulted]))
  | named mark name pattern => exact .display_bind fun _ => .raise
  | typeMatch mark typeName => exact .display_bind fun _ => .raise
  | constraint mark pattern => exact .display_bind fun _ => .raise
  | lineMark mark position => simp [Term.isPassive] at passive
  | isMatch mark subject pattern => simp [Term.isPassive, Term.isHarmless] at passive
  | evaluation mark expression => simp [Term.isPassive, Term.isHarmless] at passive
  | escape mark name => simp [Term.isPassive, Term.isHarmless] at passive
  | absent => exact .raise
  | dataMember mark value => exact .raise
  | initMember mark value pattern => exact .raise
  | _ => exact .pure (.leaf inert.isPlaced rfl)

/-- Evaluating inert terms adds cells at most, at every depth. -/
theorem within_evaluatesInertly (depth : Nat) : (within depth).EvaluatesInertly := by
  induction depth with
  | zero => exact fun _ _ _ => .throw
  | succ depth inductionHypothesis =>
      exact fun _ _ inert => walkStep_inert inductionHypothesis inert

end Evaluator
end PatternMachine
