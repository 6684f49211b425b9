import PatternMachine.Interpreter
import PatternMachine.Proofs.Action

/-!
# Which rule of matching applies

Patterns that stand for one literal or one container are matched by a single
rule of their own, once quotes around the term are looked through. Each rule
either goes on with the parts of the pattern or refuses the term, and a refusal
leaves the machine as it was.
-/

namespace PatternMachine

namespace Term

/-- Patterns with a rule of their own: numbers, none, nil, lists, tuples, pairs,
and a head with a tail. -/
def isCore : Term -> Bool
  | integer _ => true
  | boolean _ => true
  | none => true
  | nil => true
  | list _ => true
  | tuple _ => true
  | pair _ _ => true
  | headTail _ _ _ _ => true
  | _ => false

/-- Whether matching in a mode looks at the term itself. In covering mode it
looks through named patterns, references and guards. -/
def isDirect : Mode -> Term -> Bool
  | .covering, named _ _ _ => false
  | .covering, deref _ _ => false
  | .covering, conditional _ _ _ _ => false
  | _, _ => true

/-- Whether matching in a mode looks at the term itself or at a guard. -/
def isExposed : Mode -> Term -> Bool
  | .covering, named _ _ _ => false
  | .covering, deref _ _ => false
  | _, _ => true

theorem isExposed_of_isDirect
    {mode : Mode}
    {term : Term}
    (direct : term.isDirect mode = true) :
    term.isExposed mode = true := by
  cases mode with
  | binding => rfl
  | covering => cases term <;> first | rfl | exact direct

/-- The term inside a quote that matching looks through. -/
def transparent? : Term -> Option Term
  | quote (identifier _) => Option.none
  | quote (index _ _ _) => Option.none
  | quote inner => some inner
  | _ => Option.none

end Term

/-- The action raises an error and changes nothing, or never gets to the end of the
text of that error. -/
def Action.Refuses {α : Type} (action : Action α) (machine : Machine) : Prop :=
  ∃ stop, action machine = .error stop machine ∧ ∀ message, stop ≠ .fatal message

theorem Action.Refuses.display_bind
    {α : Type}
    {machine : Machine}
    {term : Term}
    {next : String -> Action α}
    (refuses : ∀ shown, (next shown).Refuses machine) :
    (Action.display term >>= next).Refuses machine := by
  unfold Action.Refuses Action.display
  rw [Action.bind_apply, Action.finitely_apply]
  cases machine.store.display? term with
  | none => exact ⟨_, rfl, nofun⟩
  | some shown => exact refuses shown

namespace Evaluator

variable {self : Evaluator} {mode : Mode} {term pattern : Term} {machine : Machine}

theorem isMatchablePattern_core (core : pattern.isCore = true) :
    isMatchablePattern pattern = true := by
  cases pattern <;> first | rfl | simp [Term.isCore] at core

/-- A pattern with a rule of its own is reached through the rule for literals. -/
theorem unifyStep_core
    (core : pattern.isCore = true)
    (direct : term.isDirect mode = true)
    (present : term.isAbsent = false)
    (matchable : isMatchable term = true) :
    self.unifyStep mode term pattern = self.unifyLiteral mode term pattern := by
  have decorated : self.unifyDecorated mode term pattern =
      self.unifyLiteral mode term pattern := by
    unfold unifyDecorated
    split
    · simp [Term.isCore] at core
    · simp [Term.isCore] at core
    · simp [Term.isCore] at core
    · split
      · simp [Term.isDirect] at direct
      · rfl
  have objects : self.unifyObjects mode term pattern = self.unifyDecorated mode term pattern := by
    unfold unifyObjects
    split
    · simp [Term.isCore] at core
    · simp [Term.isCore] at core
    · rfl
  have absentPattern : pattern.isAbsent = false := by
    cases pattern <;> first | rfl | simp [Term.isCore] at core
  unfold unifyStep
  rw [if_neg (by simp [present, absentPattern])]
  split
  · simp [Term.isCore] at core
  · split
    · simp [Term.isDirect] at direct
    · simp [Term.isDirect] at direct
    · unfold unifyAllowed
      rw [if_neg (by simp [matchable]), if_neg (by simp [isMatchablePattern_core core]), objects,
        decorated]

theorem refuses_mismatch (message : String) :
    (mismatch message : Action (List Binding)).Refuses machine :=
  ⟨_, rfl, nofun⟩

/-- A missing term is refused. -/
theorem unifyStep_absent (absent : term.isAbsent = true) :
    (self.unifyStep mode term pattern).Refuses machine := by
  unfold unifyStep
  rw [if_pos (by simp [absent])]
  exact ⟨_, rfl, nofun⟩

/-- A term that may not be matched is refused by every pattern but an identifier. -/
theorem unifyStep_unmatchable
    (nameless : ∀ name, pattern ≠ .identifier name)
    (direct : term.isDirect mode = true)
    (unmatchable : isMatchable term = false) :
    (self.unifyStep mode term pattern).Refuses machine := by
  unfold unifyStep
  split
  · exact ⟨_, rfl, nofun⟩
  · split
    · exact absurd rfl (nameless _)
    · split
      · simp [Term.isDirect] at direct
      · simp [Term.isDirect] at direct
      · unfold unifyAllowed
        rw [if_pos (by simp [unmatchable])]
        exact refuses_mismatch _

/-- What may not be matched is refused by a pattern with a rule of its own, so
only terms that may be matched need a look. -/
theorem refuses_of_core
    (core : pattern.isCore = true)
    (direct : term.isDirect mode = true)
    (refuses : term.isAbsent = false -> isMatchable term = true ->
      (self.unifyStep mode term pattern).Refuses machine) :
    (self.unifyStep mode term pattern).Refuses machine := by
  cases absent : term.isAbsent with
  | true => exact unifyStep_absent absent
  | false =>
      cases matchable : isMatchable term with
      | true => exact refuses absent matchable
      | false =>
          refine unifyStep_unmatchable ?_ direct matchable
          rintro name rfl
          simp [Term.isCore] at core

/-- A quote that matching looks through is looked through. -/
theorem unifyStep_transparent
    (core : pattern.isCore = true)
    {inner : Term}
    (transparent : term.transparent? = some inner) :
    self.unifyStep mode term pattern = self.unify mode inner pattern := by
  obtain ⟨rfl, noIdentifier, noIndex⟩ : term = .quote inner ∧
      (∀ name, inner ≠ .identifier name) ∧
      ∀ mark subject selector, inner ≠ .index mark subject selector := by
    unfold Term.transparent? at transparent
    split at transparent <;> simp_all
  have literal : self.unifyLiteral mode (.quote inner) pattern = self.unify mode inner pattern := by
    unfold unifyLiteral
    rw [show (Term.quote inner).numericEqual? pattern = none from rfl]
    dsimp only
    unfold unifyQuoted
    split
    · simp [Term.isCore] at core
    · simp [Term.isCore] at core
    · rename_i same _
      exact absurd (Term.quote.inj same) (noIdentifier _)
    · rename_i same _
      exact absurd (Term.quote.inj same) (noIndex _ _ _)
    · simp_all
    · simp_all
  have direct : (Term.quote inner).isDirect mode = true := by cases mode <;> rfl
  rw [unifyStep_core core direct rfl rfl, literal]

/-- A term that is no such quote is matched by the rule of the pattern. -/
theorem unifyQuoted_solid
    (core : pattern.isCore = true)
    (solid : term.transparent? = none) :
    self.unifyQuoted mode term pattern = self.unifyIndirect mode term pattern := by
  unfold unifyQuoted
  split
  · simp [Term.isCore] at core
  · simp [Term.isCore] at core
  · rfl
  · rfl
  · simp_all [Term.transparent?]
  · rfl

/-! ## Identifiers and named patterns -/

theorem unifyStep_identifier
    {name : String}
    (present : term.isAbsent = false) :
    self.unifyStep mode term (.identifier name) machine =
      .ok (if name == "_" then [] else [⟨.identifier name, term⟩]) machine := by
  unfold unifyStep
  rw [if_neg (by rw [present]; simp [Term.isAbsent])]
  rfl

/-- The name of a later pattern is looked through, unless the pattern is an
identifier. -/
theorem unifyStep_unnamed
    {mark : Mark}
    {name : String}
    {inner : Term}
    (nameless : ∀ name, pattern ≠ .identifier name)
    (present : pattern.isAbsent = false) :
    self.unifyStep .covering (.named mark name inner) pattern =
      self.unify .covering inner pattern := by
  unfold unifyStep
  rw [if_neg (by rw [present]; simp [Term.isAbsent])]
  cases pattern with
  | identifier name => exact absurd rfl (nameless name)
  | _ => rfl

theorem unifyStep_named
    {mark : Mark}
    {name : String}
    {inner : Term}
    (exposed : term.isExposed mode = true)
    (present : term.isAbsent = false)
    (matchable : isMatchable term = true) :
    self.unifyStep mode term (.named mark name inner) =
      (do
        let bindings ← self.unify mode term inner
        let target ← Action.newIdentifier name
        checkLinear mode (bindings ++ [⟨target, term⟩])) := by
  have allowed : self.unifyStep mode term (.named mark name inner) =
      self.unifyAllowed mode term (.named mark name inner) := by
    unfold unifyStep
    rw [if_neg (by rw [present]; simp [Term.isAbsent])]
    dsimp only
    split
    · simp [Term.isExposed] at exposed
    · simp [Term.isExposed] at exposed
    · rfl
  have objects : self.unifyObjects mode term (.named mark name inner) =
      self.unifyDecorated mode term (.named mark name inner) := by
    cases term <;> rfl
  rw [allowed]
  unfold unifyAllowed
  rw [if_neg (by simp [matchable]), if_neg (by simp [isMatchablePattern, isMatchable]), objects]
  rfl

/-- A guarded later pattern is compared by the pattern under its guard. -/
theorem unifyStep_guarded
    {mark : Mark}
    {condition consequent alternative : Term}
    (core : pattern.isCore = true) :
    self.unifyStep .covering (.conditional mark condition consequent alternative) pattern =
      self.unify .covering consequent pattern := by
  cases pattern <;> first | rfl | simp [Term.isCore] at core

/-! ## Numbers, none and nil -/

/-- The last rule refuses terms of another kind. -/
theorem unifyEqual_refuses (apart : term.kind ≠ pattern.kind) :
    (unifyEqual term pattern).Refuses machine := by
  unfold unifyEqual agrees
  rw [if_neg (by simp [apart])]
  exact .display_bind fun _ => .display_bind fun _ => refuses_mismatch _

/-- Unless term and pattern are both tuples or pairs, the rules for constructors
and the last rule are left. -/
theorem unifyCompound_apply
    (noTuples : machine.store.tupleElements? term = none ∨
      machine.store.tupleElements? pattern = none) :
    self.unifyCompound mode term pattern machine =
      (match mode, term, pattern with
      | _, .object owner memory, .apply _ callee argument =>
          self.unifyConstructor mode owner memory callee argument
      | .covering, .apply _ termCallee termArgument, .apply _ callee argument =>
          self.unifyApplications termCallee termArgument callee argument
      | _, _, _ => unifyEqual term pattern) machine := by
  unfold unifyCompound
  rw [Action.bind_apply, Action.store_apply]
  dsimp only
  rcases noTuples with noTerms | noPatterns
  · rewrite [noTerms]
    cases machine.store.tupleElements? pattern <;> rfl
  · rewrite [noPatterns]
    cases machine.store.tupleElements? term <;> rfl

/-- A pattern with a rule of its own that is no tuple refuses what is no tuple
and of another kind. -/
theorem unifyCompound_refuses
    (core : pattern.isCore = true)
    (noTuples : machine.store.tupleElements? term = none ∨
      machine.store.tupleElements? pattern = none)
    (apart : term.kind ≠ pattern.kind) :
    (self.unifyCompound mode term pattern).Refuses machine := by
  unfold Action.Refuses
  rw [unifyCompound_apply noTuples]
  split
  · simp [Term.isCore] at core
  · simp [Term.isCore] at core
  · exact unifyEqual_refuses apart

/-- A pattern that is neither a list nor a head with a tail refuses terms of
another kind, pairs and numbers apart. -/
theorem unifyIndirect_refuses
    (core : pattern.isCore = true)
    (noList : ∀ cell, pattern ≠ .list cell)
    (noHeadTail : ∀ raw mark head tail, pattern ≠ .headTail raw mark head tail)
    (noTuples : machine.store.tupleElements? term = none ∨
      machine.store.tupleElements? pattern = none)
    (apart : term.kind ≠ pattern.kind) :
    (self.unifyIndirect mode term pattern).Refuses machine := by
  have lists : self.unifyIndirect mode term pattern = self.unifyLists mode term pattern := by
    unfold unifyIndirect
    split
    · exact absurd rfl (noHeadTail _ _ _ _)
    · simp [Term.isCore] at core
    · simp [Term.isCore] at core
    · simp [Term.isCore] at core
    · rfl
  rw [lists]
  unfold unifyLists
  dsimp only
  split
  · exact absurd rfl (noList _)
  · exact refuses_mismatch _
  · exact refuses_mismatch _
  · exact unifyCompound_refuses core noTuples apart

theorem unifyStep_number
    {actual expected : Number}
    (core : pattern.isCore = true)
    (direct : term.isDirect mode = true)
    (termNumber : term.number? = some actual)
    (patternNumber : pattern.number? = some expected)
    (equal : actual.equal expected = true) :
    self.unifyStep mode term pattern machine = .ok [] machine := by
  have present : term.isAbsent = false ∧ isMatchable term = true := by
    cases term <;> first | exact ⟨rfl, rfl⟩ | simp [Term.number?] at termNumber
  rw [unifyStep_core core direct present.1 present.2]
  simp [unifyLiteral, Term.numericEqual?, termNumber, patternNumber, equal]

theorem unifyStep_number_refuses
    {expected : Number}
    (core : pattern.isCore = true)
    (direct : term.isDirect mode = true)
    (solid : term.transparent? = none)
    (patternNumber : pattern.number? = some expected)
    (unequal : ∀ actual, term.number? = some actual -> actual.equal expected = false) :
    (self.unifyStep mode term pattern).Refuses machine := by
  refine refuses_of_core core direct fun present matchable => ?_
  rw [unifyStep_core core direct present matchable]
  unfold unifyLiteral
  cases termNumber : term.number? with
  | some actual =>
      have differ : term.numericEqual? pattern = some false := by
        simp [Term.numericEqual?, termNumber, patternNumber, unequal actual termNumber]
      rw [differ]
      exact .display_bind fun _ => .display_bind fun _ => refuses_mismatch _
  | none =>
      have nonnumeric : term.numericEqual? pattern = none := by
        simp [Term.numericEqual?, termNumber]
      have kinds : term.kind ≠ pattern.kind := by
        cases pattern <;> simp [Term.number?] at patternNumber <;>
          cases term <;> simp_all [Term.number?, Term.kind] <;> split <;> simp
      rw [nonnumeric]
      dsimp only
      split
      · simp [Term.number?] at patternNumber
      · simp [Term.number?] at patternNumber
      · rw [unifyQuoted_solid core solid]
        have literal : machine.store.tupleElements? pattern = none ∧
            (∀ cell, pattern ≠ .list cell) ∧
            ∀ raw mark head tail, pattern ≠ .headTail raw mark head tail := by
          cases pattern <;> simp_all [Term.number?, Store.tupleElements?]
        exact unifyIndirect_refuses core literal.2.1 literal.2.2 (.inr literal.1) kinds

/-- None and nil match themselves. -/
theorem unifyStep_self
    (literal : pattern = .none ∨ pattern = .nil) :
    self.unifyStep mode pattern pattern machine = .ok [] machine := by
  rcases literal with rfl | rfl <;> cases mode <;> rfl

theorem unifyStep_self_refuses
    (literal : pattern = .none ∨ pattern = .nil)
    (direct : term.isDirect mode = true)
    (solid : term.transparent? = none)
    (apart : term ≠ pattern) :
    (self.unifyStep mode term pattern).Refuses machine := by
  have core : pattern.isCore = true := by rcases literal with rfl | rfl <;> rfl
  refine refuses_of_core core direct fun present matchable => ?_
  have nonnumeric : term.numericEqual? pattern = none := by
    rcases literal with rfl | rfl <;> simp [Term.numericEqual?, Term.number?]
  have kinds : term.kind ≠ pattern.kind := by
    rcases literal with rfl | rfl <;>
      cases term <;> simp_all [Term.kind, Term.isAbsent] <;> split <;> simp
  rw [unifyStep_core core direct present matchable]
  unfold unifyLiteral
  rw [nonnumeric]
  dsimp only
  split
  · exact absurd rfl apart
  · exact absurd rfl apart
  · rw [unifyQuoted_solid core solid]
    rcases literal with rfl | rfl <;>
      exact unifyIndirect_refuses core (by simp) (by simp) (.inr rfl) kinds

/-! ## Lists and tuples -/

/-- The first term and the first pattern are looked up before they are matched. -/
theorem unifyEach_cons
    (termSite patternSite : Site)
    (rest : List (Site × Site)) :
    self.unifyEach mode ((termSite, patternSite) :: rest) machine =
      (do
        let bindings ← self.unify mode (machine.store.find termSite)
          (machine.store.find patternSite)
        return bindings ++ (← self.unifyEach mode rest)) machine := rfl

/-- A pattern for a container is matched by the rules after those for numbers. -/
theorem unifyStep_container
    (core : pattern.isCore = true)
    (container : pattern ≠ .none ∧ pattern ≠ .nil ∧ pattern.number? = none)
    (direct : term.isDirect mode = true)
    (solid : term.transparent? = none)
    (present : term.isAbsent = false)
    (matchable : isMatchable term = true) :
    self.unifyStep mode term pattern = self.unifyIndirect mode term pattern := by
  have nonnumeric : term.numericEqual? pattern = none := by
    simp only [Term.numericEqual?, container.2.2]
    cases term.number? <;> rfl
  rw [unifyStep_core core direct present matchable, ← unifyQuoted_solid core solid]
  unfold unifyLiteral
  rw [nonnumeric]
  dsimp only
  split
  · simp at container
  · simp at container
  · rfl

theorem unifyStep_list
    {cell patternCell : CellRef}
    (lengths : (machine.store.elements cell).toList.length =
      (machine.store.elements patternCell).toList.length) :
    self.unifyStep mode (.list cell) (.list patternCell) machine =
      self.unifyLinear mode (machine.store.sites (.list cell))
        (machine.store.sites (.list patternCell)) machine := by
  rw [unifyStep_container rfl (by simp [Term.number?]) (by cases mode <;> rfl) rfl rfl rfl]
  unfold unifyIndirect unifyLists
  dsimp only
  rw [Action.bind_apply, Action.store_apply]
  dsimp only
  rw [if_neg (by simp [lengths])]

theorem unifyStep_list_refuses
    {patternCell : CellRef}
    (direct : term.isDirect mode = true)
    (solid : term.transparent? = none)
    (apart : ∀ cell, term = .list cell ->
      (machine.store.elements cell).toList.length ≠
        (machine.store.elements patternCell).toList.length) :
    (self.unifyStep mode term (.list patternCell)).Refuses machine := by
  refine refuses_of_core rfl direct fun present matchable => ?_
  rw [unifyStep_container rfl (by simp [Term.number?]) direct solid present matchable]
  unfold unifyIndirect unifyLists
  cases term with
  | list cell =>
      unfold Action.Refuses
      dsimp only
      rw [Action.bind_apply, Action.store_apply]
      dsimp only
      rw [if_pos (by simpa using apart cell rfl)]
      exact refuses_mismatch _
  | _ => exact refuses_mismatch _

/-- Tuples and pairs are matched element by element. -/
theorem unifyStep_elements
    {terms patterns : List Term}
    (elements : machine.store.tupleElements? term = some terms)
    (patternElements : machine.store.tupleElements? pattern = some patterns) :
    self.unifyStep mode term pattern machine =
      (if terms.length != patterns.length then
        mismatch
          ("term and pattern tuples are not the same length: " ++ toString terms.length ++
            " and " ++ toString patterns.length)
      else self.unifyLinear mode (machine.store.sites term)
        (machine.store.sites pattern)) machine := by
  have compound : self.unifyStep mode term pattern machine =
      self.unifyCompound mode term pattern machine := by
    cases pattern <;> simp [Store.tupleElements?] at patternElements <;>
      cases term <;> simp [Store.tupleElements?] at elements <;> cases mode <;> rfl
  rw [compound]
  unfold unifyCompound
  rw [Action.bind_apply, Action.store_apply]
  dsimp only
  rw [elements, patternElements]

theorem unifyStep_tuple
    {terms patterns : List Term}
    (elements : machine.store.tupleElements? term = some terms)
    (patternElements : machine.store.tupleElements? pattern = some patterns)
    (lengths : terms.length = patterns.length) :
    self.unifyStep mode term pattern machine =
      self.unifyLinear mode (machine.store.sites term) (machine.store.sites pattern) machine := by
  rw [unifyStep_elements elements patternElements, if_neg (by simp [lengths])]

theorem unifyStep_tuple_refuses
    {patterns : List Term}
    (direct : term.isDirect mode = true)
    (solid : term.transparent? = none)
    (patternElements : machine.store.tupleElements? pattern = some patterns)
    (apart : ∀ terms, machine.store.tupleElements? term = some terms ->
      terms.length ≠ patterns.length) :
    (self.unifyStep mode term pattern).Refuses machine := by
  cases elements : machine.store.tupleElements? term with
  | some terms =>
      unfold Action.Refuses
      rw [unifyStep_elements elements patternElements,
        if_pos (by simpa using apart terms elements)]
      exact refuses_mismatch _
  | none =>
      have shape : pattern.isCore = true ∧
          (pattern ≠ .none ∧ pattern ≠ .nil ∧ pattern.number? = none) ∧
          (∀ cell, pattern ≠ .list cell) ∧
          (∀ raw mark head tail, pattern ≠ .headTail raw mark head tail) ∧
          term.kind ≠ pattern.kind := by
        cases pattern <;> simp [Store.tupleElements?] at patternElements <;>
          cases term <;> simp_all [Term.isCore, Term.number?, Term.kind, Store.tupleElements?] <;>
          split <;> simp
      obtain ⟨core, container, noList, noHeadTail, kinds⟩ := shape
      refine refuses_of_core core direct fun present matchable => ?_
      rw [unifyStep_container core container direct solid present matchable]
      exact unifyIndirect_refuses core noList noHeadTail (.inl elements) kinds

/-! ## Head and tail -/

theorem unifyStep_headTail
    {raw : Bool}
    {mark : Mark}
    {cell : CellRef}
    {head tail first : Term}
    {rest : List Term}
    (elements : (machine.store.elements cell).toList = first :: rest) :
    self.unifyStep mode (.list cell) (.headTail raw mark head tail) machine =
      (Action.newList rest >>= fun remainder =>
        self.unifyLinear mode [.given first, .given remainder]
          [.given head, .given tail]) machine := by
  rw [unifyStep_container rfl (by simp [Term.number?]) (by cases mode <;> rfl) rfl rfl rfl]
  unfold unifyIndirect unifyHeadTail
  dsimp only
  rw [Action.bind_apply, Action.store_apply]
  simp only [elements]

theorem unifyStep_headTails
    {raw termRaw : Bool}
    {mark termMark : Mark}
    {head tail termHead termTail : Term} :
    self.unifyStep .covering (.headTail termRaw termMark termHead termTail)
      (.headTail raw mark head tail) machine =
      self.unifyLinear .covering [.given termHead, .given termTail]
        [.given head, .given tail] machine := rfl

theorem unifyStep_headTail_refuses
    {raw : Bool}
    {mark : Mark}
    {head tail : Term}
    (direct : term.isDirect mode = true)
    (solid : term.transparent? = none)
    (noList : ∀ cell, term = .list cell -> (machine.store.elements cell).toList = [])
    (noHeadTail : mode = .covering -> ∀ raw mark head tail, term ≠ .headTail raw mark head tail) :
    (self.unifyStep mode term (.headTail raw mark head tail)).Refuses machine := by
  refine refuses_of_core rfl direct fun present matchable => ?_
  rw [unifyStep_container rfl (by simp [Term.number?]) direct solid present matchable]
  unfold unifyIndirect unifyHeadTail
  cases term with
  | list cell =>
      unfold Action.Refuses
      dsimp only
      rw [Action.bind_apply, Action.store_apply]
      simp only [noList cell rfl]
      exact refuses_mismatch _
  | headTail termRaw termMark termHead termTail =>
      cases mode with
      | binding => exact refuses_mismatch _
      | covering => exact absurd rfl (noHeadTail rfl _ _ _ _)
  | _ => cases mode <;> exact refuses_mismatch _

end Evaluator
end PatternMachine
