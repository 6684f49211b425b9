import PatternMachine.Proofs.Pattern.Layers

/-!
# Matching decides acceptance

In either mode, and within any depth, a match against a pattern with an outline
ends in one of three ways: it succeeds and the outline accepts, it fails and the
outline does not accept or binds a name twice, or the depth does not suffice.
From some depth on it always suffices, unless the match is about to fail and the text
of a term, which its error shows, never comes to an end. Whatever happens, a match only
adds cells.
-/

namespace PatternMachine
namespace Evaluator

/-- The error that a name is bound twice. -/
def IsNonLinear (exception : Exception) : Prop :=
  ∃ message, exception = ⟨.standard .nonLinearPattern message, none⟩

/-- What a match within a depth comes to when the answer is known. From the depth
`least` on, the depth suffices for a match that is to succeed. -/
def Outcome (mode : Mode) (before : Store) (names : List String) (answer : Bool)
    (least depth : Nat) : EStateM.Result Stop Machine (List Binding) -> Prop
  | .ok bindings after =>
      answer = true ∧ bindings.map Binding.target = names.map Term.identifier ∧
        before.Keeps after.store ∧ after.store.Closed
  | .error (.raised exception) after =>
      (answer = false ∨ mode = .binding ∧ ¬ names.Nodup ∧ IsNonLinear exception) ∧
        before.Keeps after.store ∧ after.store.Closed
  | .error .exhausted _ => depth < least ∨ answer = false
  | .error (.fatal _) _ => False

namespace Outcome

variable {mode : Mode} {before : Store} {names : List String} {answer : Bool}
  {least depth : Nat} {result : EStateM.Result Stop Machine (List Binding)}

/-- A match that refuses its term. -/
theorem refuses
    {action : Action (List Binding)}
    {machine : Machine}
    (closed : machine.store.Closed)
    (refused : action.Refuses machine)
    (no : answer = false) :
    Outcome mode machine.store names answer least depth (action machine) := by
  obtain ⟨stop, run, ordinary⟩ := refused
  rw [run]
  cases stop with
  | raised exception => exact ⟨.inl no, .refl _, closed⟩
  | exhausted => exact .inr no
  | fatal message => exact absurd rfl (ordinary message)

/-- A match that binds nothing and changes nothing. -/
theorem done
    {machine : Machine}
    (closed : machine.store.Closed)
    (yes : answer = true) :
    Outcome mode machine.store [] answer least depth (.ok [] machine) :=
  ⟨yes, rfl, .refl _, closed⟩

/-- A match that goes on with a larger store. -/
theorem keeps
    {middle : Store}
    (grown : before.Keeps middle)
    (outcome : Outcome mode middle names answer least depth result) :
    Outcome mode before names answer least depth result := by
  cases result with
  | ok bindings after =>
      obtain ⟨yes, targets, kept, closed⟩ := outcome
      exact ⟨yes, targets, grown.trans kept, closed⟩
  | error stop after =>
      cases stop with
      | raised exception =>
          obtain ⟨no, kept, closed⟩ := outcome
          exact ⟨no, grown.trans kept, closed⟩
      | exhausted => exact outcome
      | fatal message => exact outcome

end Outcome

/-! ## Names bound twice -/

theorem repeatedName?_eq_none
    {seen names : List String}
    {bindings : List Binding}
    (targets : bindings.map Binding.target = names.map Term.identifier)
    (nodup : names.Nodup)
    (unseen : ∀ name ∈ names, name ∉ seen) :
    repeatedName? seen bindings = none := by
  induction bindings generalizing seen names with
  | nil => rfl
  | cons binding rest inductionHypothesis =>
      cases names with
      | nil => simp at targets
      | cons name others =>
          simp only [List.map_cons, List.cons.injEq] at targets
          rw [List.nodup_cons] at nodup
          simp only [repeatedName?, targets.1]
          rw [if_neg (by simpa using unseen name List.mem_cons_self)]
          refine inductionHypothesis targets.2 nodup.2 ?_
          intro other member inside
          rcases List.mem_cons.mp inside with rfl | earlier
          · exact nodup.1 member
          · exact unseen other (List.mem_cons_of_mem _ member) earlier

/-- Bindings pass the check unless they bind a name twice. -/
theorem checkLinear_outcome
    {mode : Mode}
    {names : List String}
    {bindings : List Binding}
    {machine : Machine}
    (targets : bindings.map Binding.target = names.map Term.identifier)
    (closed : machine.store.Closed)
    (least depth : Nat) :
    Outcome mode machine.store names true least depth (checkLinear mode bindings machine) := by
  have passed : Outcome mode machine.store names true least depth (.ok bindings machine) :=
    ⟨rfl, targets, .refl _, closed⟩
  unfold checkLinear
  rw [Action.bind_apply, Action.get_apply]
  dsimp only
  split
  · rename_i strict
    cases found : repeatedName? [] bindings with
    | none => exact passed
    | some name =>
        refine ⟨.inr ⟨?_, ?_, _, rfl⟩, .refl _, closed⟩
        · cases mode with
          | binding => rfl
          | covering => simp at strict
        · intro nodup
          rw [repeatedName?_eq_none targets nodup (by simp)] at found
          simp at found
  · exact passed

/-- A match that ends with the check of its bindings. -/
theorem Outcome.checked
    {mode : Mode}
    {before : Store}
    {names : List String}
    {answer : Bool}
    {least depth : Nat}
    {action : Action (List Binding)}
    {machine : Machine}
    (outcome : Outcome mode before names answer least depth (action machine)) :
    Outcome mode before names answer least depth ((action >>= checkLinear mode) machine) := by
  rw [Action.bind_apply]
  cases run : action machine with
  | ok bindings after =>
      rw [run] at outcome
      obtain ⟨rfl, targets, kept, closed⟩ := outcome
      exact (checkLinear_outcome targets closed least depth).keeps kept
  | error stop after =>
      rw [run] at outcome
      exact outcome

/-- One level of depth goes into each step. -/
theorem Outcome.step
    {mode : Mode}
    {pattern term : Term}
    {machine : Machine}
    {names : List String}
    {answer : Bool}
    {least : Nat}
    (outcomes : ∀ depth, Outcome mode machine.store names answer least depth
      ((within depth).unifyStep mode term pattern machine))
    (depth : Nat) :
    Outcome mode machine.store names answer (least + 1) depth
      ((within depth).unify mode term pattern machine) := by
  cases depth with
  | zero => exact .inl (Nat.succ_pos least)
  | succ depth =>
      have outcome := outcomes depth
      change Outcome _ _ _ _ _ _ ((within depth).unifyStep mode term pattern machine)
      cases result : (within depth).unifyStep mode term pattern machine with
      | ok bindings after =>
          rw [result] at outcome
          exact outcome
      | error stop after =>
          rw [result] at outcome
          cases stop with
          | exhausted => exact outcome.imp_left Nat.succ_lt_succ
          | _ => exact outcome

/-- A match under layers. -/
theorem Outcome.through
    {mode : Mode}
    {pattern term shown : Term}
    {layers : Nat}
    (peels : Peels mode pattern term shown layers)
    {machine : Machine}
    {names : List String}
    {answer : Bool}
    {least : Nat}
    (outcomes : ∀ depth, Outcome mode machine.store names answer least depth
      ((within depth).unify mode shown pattern machine))
    (depth : Nat) :
    Outcome mode machine.store names answer (least + layers) depth
      ((within depth).unify mode term pattern machine) := by
  rcases peels depth machine with ⟨short, run⟩ | ⟨level, rfl, run⟩
  · rw [run]
    exact .inl (Nat.lt_of_lt_of_le short (Nat.le_add_left _ _))
  · rw [run]
    have outcome := outcomes level
    cases result : (within level).unify mode shown pattern machine with
    | ok bindings after =>
        rw [result] at outcome
        exact outcome
    | error stop after =>
        rw [result] at outcome
        cases stop with
        | exhausted => exact outcome.imp_left fun short => Nat.add_lt_add_right short layers
        | _ => exact outcome

/-! ## The answer of a match -/

/-- Matches against patterns with an outline come to what the outline accepts.
The depth that suffices depends on the subject alone, whatever cells are added
before the match. -/
def Decides (mode : Mode) (outline : Outline) : Prop :=
  ∀ (start : Store) (subject : Subject), start.Closed -> subject.Sound start ->
    ∃ least, ∀ machine : Machine, start.Keeps machine.store -> machine.store.Closed ->
      ∀ term pattern, subject.Presents machine.store mode term ->
        outline.Spells machine.store pattern ->
        ∀ depth, Outcome mode machine.store outline.names (outline.accepts start subject)
          least depth ((within depth).unify mode term pattern machine)

/-- Matches of several terms, one after the other. -/
def DecidesAll (mode : Mode) (outlines : List Outline) : Prop :=
  ∀ (start : Store) (subjects : List Subject), start.Closed ->
    (∀ subject ∈ subjects, subject.Sound start) -> outlines.length = subjects.length ->
    ∃ least, ∀ machine : Machine, start.Keeps machine.store -> machine.store.Closed ->
      ∀ sites patternSites terms patterns, machine.store.Spreads sites terms ->
        machine.store.Spreads patternSites patterns ->
        Subject.PresentsAll machine.store mode subjects terms ->
        Outline.SpellsAll machine.store outlines patterns ->
        ∀ depth, Outcome mode machine.store (Outline.namesAll outlines)
          (Outline.acceptsAll start outlines subjects) least depth
          ((within depth).unifyEach mode (sites.zip patternSites) machine)

/-- A match followed by further matches. -/
theorem Outcome.andThen
    {mode : Mode}
    {before : Store}
    {firstNames restNames : List String}
    {firstAnswer restAnswer : Bool}
    {firstLeast restLeast depth : Nat}
    {first rest : Action (List Binding)}
    {machine : Machine}
    (onFirst : Outcome mode before firstNames firstAnswer firstLeast depth (first machine))
    (onRest : ∀ bindings after, first machine = .ok bindings after ->
      Outcome mode after.store restNames restAnswer restLeast depth (rest after)) :
    Outcome mode before (firstNames ++ restNames) (firstAnswer && restAnswer)
      (firstLeast + restLeast) depth
      ((do
        let bindings ← first
        return bindings ++ (← rest)) machine) := by
  rw [Action.bind_apply]
  cases run : first machine with
  | error stop after =>
      rw [run] at onFirst
      cases stop with
      | raised exception =>
          obtain ⟨no | ⟨binding, repeated, nonLinear⟩, kept, closed⟩ := onFirst
          · exact ⟨.inl (by simp [no]), kept, closed⟩
          · refine ⟨.inr ⟨binding, ?_, nonLinear⟩, kept, closed⟩
            exact fun nodup => repeated (List.nodup_append.mp nodup).1
      | exhausted =>
          refine onFirst.imp (fun short => ?_) fun no => by simp [no]
          exact Nat.lt_of_lt_of_le short (Nat.le_add_right _ _)
      | fatal message => exact onFirst
  | ok bindings after =>
      rw [run] at onFirst
      obtain ⟨rfl, targets, kept, closed⟩ := onFirst
      have outcome := onRest bindings after run
      dsimp only
      rw [Action.bind_apply]
      cases runRest : rest after with
      | error stop final =>
          rw [runRest] at outcome
          cases stop with
          | raised exception =>
              obtain ⟨no | ⟨binding, repeated, nonLinear⟩, keptRest, closedRest⟩ := outcome
              · exact ⟨.inl (by simp [no]), kept.trans keptRest, closedRest⟩
              · refine ⟨.inr ⟨binding, ?_, nonLinear⟩, kept.trans keptRest, closedRest⟩
                exact fun nodup => repeated (List.nodup_append.mp nodup).2.1
          | exhausted =>
              refine outcome.imp (fun short => ?_) fun no => by simp [no]
              exact Nat.lt_of_lt_of_le short (Nat.le_add_left _ _)
          | fatal message => exact outcome
      | ok others final =>
          rw [runRest] at outcome
          obtain ⟨rfl, targetsRest, keptRest, closedRest⟩ := outcome
          refine ⟨rfl, ?_, kept.trans keptRest, closedRest⟩
          rw [List.map_append, List.map_append, targets, targetsRest]

/-- Elements that decide make a sequence that decides. -/
theorem decidesAll
    {mode : Mode}
    {outlines : List Outline}
    (each : ∀ outline ∈ outlines, Decides mode outline) :
    DecidesAll mode outlines := by
  intro start subjects closed sound lengths
  induction outlines generalizing subjects with
  | nil =>
      cases subjects with
      | nil =>
          refine ⟨0, ?_⟩
          rintro machine _ closedNow sites patternSites terms patterns spread _ rfl rfl depth
          obtain rfl : sites = [] := List.map_eq_nil_iff.mp (spread _ (.refl _))
          exact .done closedNow rfl
      | cons subject others => simp at lengths
  | cons outline outlines inductionHypothesis =>
      cases subjects with
      | nil => simp at lengths
      | cons subject subjects =>
          obtain ⟨first, onFirst⟩ := each outline List.mem_cons_self start subject closed
            (sound subject List.mem_cons_self)
          obtain ⟨rest, onRest⟩ := inductionHypothesis
            (fun other member => each other (List.mem_cons_of_mem _ member)) subjects
            (fun other member => sound other (List.mem_cons_of_mem _ member))
            (Nat.succ.inj lengths)
          refine ⟨first + rest, ?_⟩
          rintro machine kept closedNow _ _ _ _ spread patternSpread
            ⟨term, terms, rfl, presents, presentsAll⟩ ⟨pattern, patterns, rfl, spells, spellsAll⟩
            depth
          obtain ⟨site, sites, rfl, found, spreadRest⟩ := spread.cons
          obtain ⟨patternSite, patternSites, rfl, patternFound, patternSpreadRest⟩ :=
            patternSpread.cons
          rw [List.zip_cons_cons, unifyEach_cons, found, patternFound]
          have outcome := onFirst machine kept closedNow term pattern presents spells depth
          refine outcome.andThen fun bindings after run => ?_
          rw [run] at outcome
          obtain ⟨_, _, keptFirst, closedFirst⟩ := outcome
          exact onRest after (kept.trans keptFirst) closedFirst sites patternSites terms patterns
            (spreadRest.keeps keptFirst) (patternSpreadRest.keeps keptFirst)
            (presentsAll.keeps keptFirst)
            (Outline.spellsAll_keeps (fun _ _ _ spells => spells.keeps keptFirst) spellsAll) depth

attribute [local simp] Outline.accepts Outline.names

theorem decides_identifier
    {mode : Mode}
    (name : String) :
    Decides mode (.identifier name) := by
  intro start subject _ _
  refine ⟨1, ?_⟩
  rintro machine _ closed term _ presents rfl depth
  cases depth with
  | zero => exact .inl Nat.zero_lt_one
  | succ depth =>
      change Outcome _ _ _ _ _ _ ((within depth).unifyStep mode term (.identifier name) machine)
      have there := presents.isAbsent
      simp only [Outline.accepts, Outline.names]
      cases present : subject.isPresent with
      | true =>
          rw [present] at there
          rw [unifyStep_identifier there]
          refine ⟨rfl, ?_, .refl _, closed⟩
          split <;> rfl
      | false =>
          rw [present] at there
          exact .refuses closed (unifyStep_absent there) rfl

/-- A match that binds one more name to the whole term. -/
theorem Outcome.named
    {mode : Mode}
    {before : Store}
    {names : List String}
    {answer : Bool}
    {least depth : Nat}
    {action : Action (List Binding)}
    {machine : Machine}
    (name : String)
    (term : Term)
    (outcome : Outcome mode before names answer least depth (action machine)) :
    Outcome mode before (names ++ [name]) answer least depth
      ((do
        let bindings ← action
        let target ← Action.newIdentifier name
        checkLinear mode (bindings ++ [Binding.mk target term])) machine) := by
  rw [Action.bind_apply]
  cases run : action machine with
  | ok bindings after =>
      rw [run] at outcome
      obtain ⟨rfl, targets, kept, closed⟩ := outcome
      dsimp only
      rw [Action.bind_apply, Action.newIdentifier_apply]
      refine Outcome.keeps kept ?_
      apply checkLinear_outcome
      · rw [List.map_append, List.map_append, targets]
        rfl
      · exact closed
  | error stop after =>
      rw [run] at outcome
      cases stop with
      | raised exception =>
          obtain ⟨no | ⟨binding, repeated, nonLinear⟩, kept, closed⟩ := outcome
          · exact ⟨.inl no, kept, closed⟩
          · refine ⟨.inr ⟨binding, ?_, nonLinear⟩, kept, closed⟩
            exact fun nodup => repeated (List.nodup_append.mp nodup).1
      | exhausted => exact outcome
      | fatal message => exact outcome

theorem decides_named
    {mode : Mode}
    {inner : Outline}
    (name : String)
    (decides : Decides mode inner) :
    Decides mode (.named name inner) := by
  intro start subject closed sound
  obtain ⟨least, outcomes⟩ := decides start subject.bare closed sound.bare
  refine ⟨least + 1 + subject.wraps, ?_⟩
  rintro machine kept closedNow term _ presents ⟨mark, pattern, rfl, spells⟩ depth
  obtain ⟨shown, peels, presentsBare, direct, matchable⟩ :=
    Subject.bare_of_presents (.named mark name pattern) (by simp) rfl presents
  refine .through peels (.step fun depth => ?_) depth
  simp only [Outline.accepts, Outline.names]
  rw [← matchable]
  cases absent : shown.isAbsent with
  | true => exact .refuses closedNow (unifyStep_absent absent) (by simp)
  | false =>
      cases allowed : isMatchable shown with
      | false => exact .refuses closedNow (unifyStep_unmatchable (by simp) direct allowed) (by simp)
      | true =>
          have outcome := outcomes machine kept closedNow shown pattern presentsBare spells depth
          rw [Outline.accepts_bare_subject] at outcome
          rw [unifyStep_named (Term.isExposed_of_isDirect direct) absent allowed]
          exact outcome.named name shown

theorem decides_number
    {mode : Mode}
    (value : Int64) :
    Decides mode (.number value) := by
  intro start subject _ _
  refine ⟨0 + 1 + subject.layers, ?_⟩
  rintro machine _ closed term pattern presents ⟨core, patternNumber⟩ depth
  obtain ⟨shown, peels, shows⟩ := Subject.shows_of_presents pattern core presents
  refine .through peels (.step fun depth => ?_) depth
  simp only [Outline.accepts, Outline.names]
  cases found : subject.number? with
  | none =>
      refine .refuses closed
        (unifyStep_number_refuses core shows.direct shows.solid patternNumber ?_) rfl
      rw [shows.number, found]
      simp
  | some actual =>
      have termNumber : shown.number? = some actual := by rw [shows.number, found]
      cases equal : actual.equal (.exact value) with
      | true =>
          rw [unifyStep_number core shows.direct termNumber patternNumber equal]
          exact .done closed (by simp [equal])
      | false =>
          refine .refuses closed
            (unifyStep_number_refuses core shows.direct shows.solid patternNumber ?_)
            (by simp [equal])
          intro other same
          rw [termNumber] at same
          obtain rfl := Option.some.inj same
          exact equal

theorem decides_none {mode : Mode} : Decides mode .none := by
  intro start subject _ _
  refine ⟨0 + 1 + subject.layers, ?_⟩
  rintro machine _ closed term _ presents rfl depth
  obtain ⟨shown, peels, shows⟩ := Subject.shows_of_presents .none rfl presents
  refine .through peels (.step fun depth => ?_) depth
  simp only [Outline.accepts, Outline.names]
  cases answer : subject.isNone with
  | true =>
      obtain rfl := shows.isNone.mp answer
      rw [unifyStep_self (.inl rfl)]
      exact .done closed rfl
  | false =>
      refine .refuses closed (unifyStep_self_refuses (.inl rfl) shows.direct shows.solid ?_) rfl
      intro same
      rw [shows.isNone.mpr same] at answer
      simp at answer

theorem decides_nil {mode : Mode} : Decides mode .nil := by
  intro start subject _ _
  refine ⟨0 + 1 + subject.layers, ?_⟩
  rintro machine _ closed term _ presents rfl depth
  obtain ⟨shown, peels, shows⟩ := Subject.shows_of_presents .nil rfl presents
  refine .through peels (.step fun depth => ?_) depth
  simp only [Outline.accepts, Outline.names]
  cases answer : subject.isNil with
  | true =>
      obtain rfl := shows.isNil.mp answer
      rw [unifyStep_self (.inr rfl)]
      exact .done closed rfl
  | false =>
      refine .refuses closed (unifyStep_self_refuses (.inr rfl) shows.direct shows.solid ?_) rfl
      intro same
      rw [shows.isNil.mpr same] at answer
      simp at answer

theorem decides_list
    {mode : Mode}
    {elements : List Outline}
    (decides : DecidesAll mode elements) :
    Decides mode (.list elements) := by
  intro start subject closed sound
  by_cases fits : ∃ subjects, subject.list? start = some subjects ∧
      elements.length = subjects.length
  · obtain ⟨subjects, found, lengths⟩ := fits
    obtain ⟨least, outcomes⟩ := decides start subjects closed
      (Subject.sound_of_list? closed sound found) lengths
    refine ⟨least + 1 + subject.layers, ?_⟩
    rintro machine kept closedNow term _ presents ⟨patternCell, rfl, known, spells⟩ depth
    obtain ⟨shown, peels, shows⟩ := Subject.shows_of_presents (.list patternCell) rfl presents
    refine .through peels (.step fun depth => ?_) depth
    simp only [Outline.accepts, Outline.names, found]
    rw [← Subject.list?_keeps kept sound] at found
    obtain ⟨cell, rfl, presentsAll⟩ := shows.list subjects found
    rw [unifyStep_list (by rw [Subject.presentsAll_length presentsAll,
      Outline.spellsAll_length spells, lengths])]
    exact (outcomes machine kept closedNow _ _ _ _ (machine.store.spreads_places cell)
      (machine.store.spreads_places patternCell) presentsAll spells depth).checked
  · refine ⟨0 + 1 + subject.layers, ?_⟩
    rintro machine kept closedNow term _ presents ⟨patternCell, rfl, known, spells⟩ depth
    obtain ⟨shown, peels, shows⟩ := Subject.shows_of_presents (.list patternCell) rfl presents
    refine .through peels (.step fun depth => ?_) depth
    refine .refuses closedNow (unifyStep_list_refuses shows.direct shows.solid ?_) ?_
    · rintro cell rfl same
      cases found : subject.list? machine.store with
      | none => exact shows.noList found cell rfl
      | some subjects =>
          obtain ⟨other, sameCell, presentsAll⟩ := shows.list subjects found
          obtain rfl := Term.list.inj sameCell
          rw [Subject.list?_keeps kept sound] at found
          refine fits ⟨subjects, found, ?_⟩
          rw [← Subject.presentsAll_length presentsAll, ← Outline.spellsAll_length spells, same]
    · rw [← Bool.not_eq_true, Outline.accepts_list_iff]
      rintro ⟨subjects, found, accepted⟩
      exact fits ⟨subjects, found, Outline.acceptsAll_length accepted⟩

theorem isCore_of_tupleElements?
    {store : Store}
    {pattern : Term}
    {patterns : List Term}
    (elements : store.tupleElements? pattern = some patterns) :
    pattern.isCore = true := by
  cases pattern <;> first | rfl | simp [Store.tupleElements?] at elements

theorem decides_tuple
    {mode : Mode}
    {elements : List Outline}
    (decides : DecidesAll mode elements) :
    Decides mode (.tuple elements) := by
  intro start subject closed sound
  by_cases fits : ∃ subjects, subject.tuple? start = some subjects ∧
      elements.length = subjects.length
  · obtain ⟨subjects, found, lengths⟩ := fits
    obtain ⟨least, outcomes⟩ := decides start subjects closed
      (Subject.sound_of_tuple? closed sound found) lengths
    refine ⟨least + 1 + subject.layers, ?_⟩
    rintro machine kept closedNow term pattern presents ⟨patterns, patternElements, _, spells⟩ depth
    obtain ⟨shown, peels, shows⟩ := Subject.shows_of_presents pattern
      (isCore_of_tupleElements? patternElements) presents
    refine .through peels (.step fun depth => ?_) depth
    simp only [Outline.accepts, Outline.names, found]
    rw [← Subject.tuple?_keeps kept sound] at found
    obtain ⟨terms, held, presentsAll⟩ := shows.tuple subjects found
    rw [unifyStep_tuple held patternElements (by rw [Subject.presentsAll_length presentsAll,
      Outline.spellsAll_length spells, lengths])]
    exact (outcomes machine kept closedNow _ _ _ _ (Store.spreads_tuple held)
      (Store.spreads_tuple patternElements) presentsAll spells depth).checked
  · refine ⟨0 + 1 + subject.layers, ?_⟩
    rintro machine kept closedNow term pattern presents ⟨patterns, patternElements, _, spells⟩ depth
    obtain ⟨shown, peels, shows⟩ := Subject.shows_of_presents pattern
      (isCore_of_tupleElements? patternElements) presents
    refine .through peels (.step fun depth => ?_) depth
    refine .refuses closedNow
      (unifyStep_tuple_refuses shows.direct shows.solid patternElements ?_) ?_
    · intro terms held same
      cases found : subject.tuple? machine.store with
      | none => simp [shows.noTuple found] at held
      | some subjects =>
          obtain ⟨others, heldToo, presentsAll⟩ := shows.tuple subjects found
          rw [held] at heldToo
          obtain rfl := Option.some.inj heldToo
          rw [Subject.tuple?_keeps kept sound] at found
          refine fits ⟨subjects, found, ?_⟩
          rw [← Subject.presentsAll_length presentsAll, ← Outline.spellsAll_length spells, same]
    · rw [← Bool.not_eq_true, Outline.accepts_tuple_iff]
      rintro ⟨subjects, found, accepted⟩
      exact fits ⟨subjects, found, Outline.acceptsAll_length accepted⟩

theorem decides_headTail
    {mode : Mode}
    {head tail : Outline}
    (decides : DecidesAll mode [head, tail]) :
    Decides mode (.headTail head tail) := by
  intro start subject closed sound
  cases parts : subject.split? start with
  | none =>
      refine ⟨0 + 1 + subject.layers, ?_⟩
      rintro machine kept closedNow term _ presents
        ⟨raw, mark, headPattern, tailPattern, rfl, spellsHead, spellsTail⟩ depth
      obtain ⟨shown, peels, shows⟩ :=
        Subject.shows_of_presents (.headTail raw mark headPattern tailPattern) rfl presents
      refine .through peels (.step fun depth => ?_) depth
      have missing := shows.noSplit (by rw [Subject.split?_keeps kept sound, parts])
      refine .refuses closedNow
        (unifyStep_headTail_refuses shows.direct shows.solid missing.1 missing.2) ?_
      simp only [Outline.accepts, parts]
  | some both =>
      obtain ⟨first, rest⟩ := both
      obtain ⟨soundFirst, soundRest⟩ := Subject.sound_of_split? closed sound parts
      obtain ⟨least, outcomes⟩ := decides start [first, rest] closed
        (by simp [soundFirst, soundRest]) rfl
      refine ⟨least + 1 + subject.layers, ?_⟩
      rintro machine kept closedNow term _ presents
        ⟨raw, mark, headPattern, tailPattern, rfl, spellsHead, spellsTail⟩ depth
      obtain ⟨shown, peels, shows⟩ :=
        Subject.shows_of_presents (.headTail raw mark headPattern tailPattern) rfl presents
      refine .through peels (.step fun depth => ?_) depth
      have names : (Outline.headTail head tail).names = Outline.namesAll [head, tail] := by
        simp [Outline.names, Outline.namesAll]
      have answer : (Outline.headTail head tail).accepts start subject =
          Outline.acceptsAll start [head, tail] [first, rest] := by
        simp [Outline.accepts, Outline.acceptsAll, parts]
      rw [names, answer]
      rw [← Subject.split?_keeps kept sound] at parts
      rcases shows.split first rest parts with
        ⟨cell, firstTerm, restTerms, rfl, held, presentsFirst, presentsRest⟩ |
        ⟨termRaw, termMark, termHead, termTail, rfl, rfl, presentsFirst, presentsRest⟩
      · rw [unifyStep_headTail held, Action.bind_apply, Action.newList_apply]
        have added := Store.Keeps.newCell machine.store restTerms.toArray
        have holds : ∀ element ∈ restTerms, machine.store.Holds element := by
          intro element member
          exact closedNow cell element (by rw [held]; exact List.mem_cons_of_mem _ member)
        have presentsTail := presentsRest _ _ added
          (machine.store.newCell_known restTerms.toArray) (by rw [Store.elements_newCell_self])
        refine Outcome.keeps added (outcomes _ (kept.trans added) (closedNow.newCell holds)
          _ _ _ _ (Store.spreads_given _ [firstTerm, _])
          (Store.spreads_given _ [headPattern, tailPattern]) ?_ ?_ depth).checked
        · exact ⟨_, _, rfl, presentsFirst.keeps added, _, _, rfl, presentsTail, rfl⟩
        · exact ⟨_, _, rfl, spellsHead.keeps added, _, _, rfl, spellsTail.keeps added, rfl⟩
      · rw [unifyStep_headTails]
        exact (outcomes machine kept closedNow _ _ _ _
          (Store.spreads_given _ [termHead, termTail])
          (Store.spreads_given _ [headPattern, tailPattern])
          ⟨_, _, rfl, presentsFirst, _, _, rfl, presentsRest, rfl⟩
          ⟨_, _, rfl, spellsHead, _, _, rfl, spellsTail, rfl⟩ depth).checked

/-- In either mode, matching against a pattern with an outline decides whether
the outline accepts. -/
theorem decides
    (mode : Mode)
    (outline : Outline) :
    Decides mode outline := by
  induction outline with
  | identifier name => exact decides_identifier name
  | named name inner inductionHypothesis => exact decides_named name inductionHypothesis
  | number value => exact decides_number value
  | none => exact decides_none
  | nil => exact decides_nil
  | list elements inductionHypothesis => exact decides_list (decidesAll inductionHypothesis)
  | tuple elements inductionHypothesis => exact decides_tuple (decidesAll inductionHypothesis)
  | headTail head tail onHead onTail =>
      refine decides_headTail (decidesAll ?_)
      intro outline member
      simp only [List.mem_cons, List.not_mem_nil, or_false] at member
      rcases member with rfl | rfl
      · exact onHead
      · exact onTail

end Evaluator
end PatternMachine
