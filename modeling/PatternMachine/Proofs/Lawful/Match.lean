import PatternMachine.Match
import PatternMachine.Proofs.Lawful.Access

/-!
# Matching is lawful

The rules of matching are gone through in the order in which they are tried.
-/

namespace PatternMachine
namespace Evaluator

open PatternMachine.Action (Lawful)

variable {property : StackProperty} {self : Evaluator} {mode : Mode} {term pattern : Term}

/-- What a match yields: bindings both sides of which respect the property. -/
abbrev BindingsRespect (property : StackProperty) (bindings : List Binding) : Prop :=
  ∀ binding ∈ bindings, binding.Respects property

theorem bindingsRespect_nil : BindingsRespect property [] := by
  intro binding member
  simp at member

/-- Patterns that bind a name twice are refused, or the bindings are passed on. -/
theorem checkLinear_apply
    (mode : Mode)
    (bindings : List Binding)
    (machine : Machine) :
    checkLinear mode bindings machine = .ok bindings machine ∨
      ∃ message, checkLinear mode bindings machine =
        Action.raise .nonLinearPattern message machine := by
  unfold checkLinear
  rw [Action.bind_apply, Action.get_apply]
  dsimp only
  split
  · cases repeatedName? [] bindings with
    | some name => exact .inr ⟨_, rfl⟩
    | none => exact .inl rfl
  · exact .inl rfl

/-- Whether the bindings are passed on is told by the settings, and what is said
otherwise by the position. -/
theorem checkLinear_congr
    (machine other : Machine)
    (allowed : other.settings.allowNonLinear = machine.settings.allowNonLinear)
    (position : other.position = machine.position)
    (mode : Mode)
    (bindings : List Binding) :
    checkLinear mode bindings other =
      match checkLinear mode bindings machine with
      | .ok value _ => .ok value other
      | .error stop _ => .error stop other := by
  unfold checkLinear
  simp only [Action.bind_apply, Action.get_apply, allowed]
  split
  · cases repeatedName? [] bindings with
    | some name =>
        change Action.raise _ _ other = _
        rw [Action.raise, Action.raisePayload, position]
        rfl
    | none => rfl
  · rfl

theorem checkLinear_lawful
    {bindings : List Binding}
    (respects : BindingsRespect property bindings) :
    Lawful property (checkLinear mode bindings) (BindingsRespect property) := by
  refine Lawful.get.bind fun machine _ => ?_
  refine .ite (fun _ => ?_) fun _ => .pure respects
  split
  · exact .raise
  · exact .pure respects

theorem unifyEach_lawful
    (lawful : self.IsLawful property)
    {pairs : List (Site × Site)}
    (respects : ∀ pair ∈ pairs, pair.1.Respects property ∧ pair.2.Respects property) :
    Lawful property (self.unifyEach mode pairs) (BindingsRespect property) := by
  induction pairs with
  | nil => exact .pure bindingsRespect_nil
  | cons pair rest inductionHypothesis =>
      obtain ⟨pairRespects, restRespects⟩ := List.forall_mem_cons.mp respects
      refine (Lawful.find pairRespects.1).bind fun term termRespects => ?_
      refine (Lawful.find pairRespects.2).bind fun pattern patternRespects => ?_
      refine (lawful.unify mode _ _ termRespects patternRespects).bind fun first firstOk => ?_
      refine (inductionHypothesis restRespects).bind fun others othersOk => ?_
      exact .pure (List.forall_mem_append.mpr ⟨firstOk, othersOk⟩)

theorem unifyLinear_lawful
    (lawful : self.IsLawful property)
    {terms patterns : List Site}
    (termsRespect : ∀ site ∈ terms, site.Respects property)
    (patternsRespect : ∀ site ∈ patterns, site.Respects property) :
    Lawful property (self.unifyLinear mode terms patterns) (BindingsRespect property) := by
  have pairsRespect : ∀ pair ∈ terms.zip patterns,
      pair.1.Respects property ∧ pair.2.Respects property := by
    intro pair member
    obtain ⟨inTerms, inPatterns⟩ := List.of_mem_zip (a := pair.1) (b := pair.2) member
    exact ⟨termsRespect _ inTerms, patternsRespect _ inPatterns⟩
  exact (unifyEach_lawful lawful pairsRespect).bind fun _ => checkLinear_lawful

theorem dereference_lawful
    (lawful : self.IsLawful property)
    {expression : Term}
    (respects : expression.Respects property) :
    Lawful property (self.dereference expression) (Term.Respects property) := by
  refine (lawful.walk expression respects).bind fun value valueRespects => ?_
  split
  · exact .pure valueRespects
  · exact .pure valueRespects

theorem unifyText_lawful {text regex : String} :
    Lawful property (unifyText text regex) (BindingsRespect property) := by
  unfold unifyText
  split
  · exact .raise
  · exact .ite (fun _ => .pure bindingsRespect_nil) fun _ => .raise

theorem unifyRegex_lawful {regex : String} :
    Lawful property (unifyRegex mode term regex) (BindingsRespect property) := by
  unfold unifyRegex
  split
  · exact unifyText_lawful
  · refine Lawful.display.bind fun shown _ => ?_
    exact .ite (fun _ => .raise) fun _ => Lawful.count.bind fun _ _ => unifyText_lawful

theorem unifyType_lawful {typeName : String} :
    Lawful property (unifyType mode term typeName) (BindingsRespect property) := by
  unfold unifyType
  dsimp only
  split
  · exact .ite (fun _ => .pure bindingsRespect_nil) fun _ => .raise
  · refine .ite (fun _ => ?_) fun _ => .ite (fun _ => ?_) fun _ => .ite (fun _ => ?_) fun _ => ?_
    · split
      · exact .pure bindingsRespect_nil
      · exact .pure bindingsRespect_nil
      · exact .raise
    · split
      · exact .pure bindingsRespect_nil
      · exact .raise
    · exact .ite (fun _ => .pure bindingsRespect_nil) fun _ => .raise
    · refine Lawful.lookup?.bind fun found _ => ?_
      split
      · exact .ite (fun _ => .pure bindingsRespect_nil) fun _ => .raise
      · exact .raise

theorem warnGuard_lawful : Lawful property warnGuard fun _ => True := by
  refine Lawful.get.bind fun machine _ => ?_
  refine .ite (fun _ => .pure trivial) fun _ => ?_
  have warned : Lawful property
      (modify fun machine => { machine with guardWarned := true }) fun _ => True :=
    .update fun machine _ => .record machine _ _ _ _ _
  exact warned.bind fun _ _ => .record

/-- An action in a scope of its own is lawful: the scope is closed again. -/
theorem inFreshScope_lawful
    {α : Type}
    {action : Action α}
    {answer : α -> Prop}
    (lawful : Lawful property action answer) :
    Lawful property (inFreshScope action) answer := by
  intro machine respects
  exact lawful.ensuring respects.pushScope rfl fun _ inside => .inScope inside

theorem unifyGuarded_lawful
    (lawful : self.IsLawful property)
    {mark : Mark}
    {condition consequent alternative : Term}
    (termRespects : term.Respects property)
    (conditionRespects : condition.Respects property)
    (consequentRespects : consequent.Respects property) :
    Lawful property (self.unifyGuarded mode term mark condition consequent alternative)
      (BindingsRespect property) := by
  unfold unifyGuarded
  refine .ite (fun _ => .raise) fun _ => ?_
  split
  · exact warnGuard_lawful.bind fun _ _ => .raise
  · exact Lawful.display.bind fun _ _ => Lawful.display.bind fun _ _ => .raise
  · refine (lawful.unify .binding term consequent termRespects consequentRespects).bind
      fun bindings bindingsRespect => ?_
    have judged : Lawful property (self.declareAll bindings >>= fun _ => self.walk condition)
        (Term.Respects property) :=
      (declareAll_lawful lawful bindingsRespect).bind fun _ _ =>
        lawful.walk condition conditionRespects
    refine (inFreshScope_lawful judged).bind fun verdict _ => ?_
    refine Lawful.store.bind fun store _ => ?_
    exact .ite (fun _ => .pure bindingsRespect) fun _ => Lawful.display.bind_raise

theorem unifyHeadTail_lawful
    (lawful : self.IsLawful property)
    {head tail : Term}
    (termRespects : term.Respects property)
    (headRespects : head.Respects property)
    (tailRespects : tail.Respects property) :
    Lawful property (self.unifyHeadTail mode term head tail) (BindingsRespect property) := by
  have patternsRespect : ∀ site ∈ [Site.given head, .given tail], site.Respects property := by
    simp [headRespects, tailRespects]
  unfold unifyHeadTail
  split
  · refine Lawful.store.bind fun store storeRespects => ?_
    have elementsRespect := storeRespects.elements ‹CellRef›
    revert elementsRespect
    generalize (store.elements _).toList = elements
    intro elementsRespect
    cases elements with
    | nil => exact .raise
    | cons first rest =>
        obtain ⟨firstRespects, restRespects⟩ := List.forall_mem_cons.mp elementsRespect
        refine (Lawful.newList restRespects).bind fun remainder remainderRespects => ?_
        exact unifyLinear_lawful lawful (by simp [firstRespects, remainderRespects])
          patternsRespect
  · exact .raise
  · exact unifyLinear_lawful lawful (by simpa using termRespects) patternsRespect
  · exact .raise

theorem unifyConstructor_lawful
    (lawful : self.IsLawful property)
    {owner : Option Template}
    {memory : CellRef}
    {callee argument : Term}
    (argumentRespects : argument.Respects property) :
    Lawful property (self.unifyConstructor mode owner memory callee argument)
      (BindingsRespect property) := by
  unfold unifyConstructor
  split
  · refine .ite (fun _ => .raise) fun _ => ?_
    split
    · exact .raise
    · refine Lawful.store.bind fun store storeRespects => ?_
      have memberRespects := storeRespects.element memory
      dsimp only
      split
      · rename_i patterns found
        refine .ite (fun _ => .raise) fun _ => ?_
        refine unifyLinear_lawful lawful ?_ (store.sites_respect argumentRespects)
        intro value member
        obtain ⟨slot, _, rfl⟩ := List.mem_map.mp member
        exact memberRespects slot
      · split
        · exact .raise
        · exact lawful.unify mode _ _ (memberRespects _) argumentRespects
  · exact Lawful.display.bind_raise

theorem unifyApplications_lawful
    (lawful : self.IsLawful property)
    {termCallee termArgument callee argument : Term}
    (termArgumentRespects : termArgument.Respects property)
    (argumentRespects : argument.Respects property) :
    Lawful property (self.unifyApplications termCallee termArgument callee argument)
      (BindingsRespect property) := by
  unfold unifyApplications
  dsimp only
  split
  · refine .ite (fun _ => ?_) fun _ => ?_
    · exact lawful.unify .covering _ _ termArgumentRespects argumentRespects
    · exact Lawful.display.bind fun _ _ => Lawful.display.bind fun _ _ => .raise
  · exact Lawful.display.bind fun _ _ => Lawful.display.bind fun _ _ => .raise

theorem unifyEqual_lawful :
    Lawful property (unifyEqual term pattern) (BindingsRespect property) := by
  have compared : Lawful property (agrees term pattern) fun _ => True :=
    .ite (fun _ => .equal) fun _ => .pure trivial
  refine compared.bind fun same _ => .ite (fun _ => .pure bindingsRespect_nil) fun _ => ?_
  exact Lawful.display.bind fun _ _ => Lawful.display.bind fun _ _ => .raise

theorem unifyCompound_lawful
    (lawful : self.IsLawful property)
    (termRespects : term.Respects property)
    (patternRespects : pattern.Respects property) :
    Lawful property (self.unifyCompound mode term pattern) (BindingsRespect property) := by
  refine Lawful.store.bind fun store storeRespects => ?_
  split
  · rename_i terms patterns foundTerms foundPatterns
    refine .ite (fun _ => .raise) fun _ => ?_
    exact unifyLinear_lawful lawful (store.sites_respect termRespects)
      (store.sites_respect patternRespects)
  · split
    · exact unifyConstructor_lawful lawful patternRespects.2
    · exact unifyApplications_lawful lawful termRespects.2 patternRespects.2
    · exact unifyEqual_lawful

theorem unifyLists_lawful
    (lawful : self.IsLawful property)
    (termRespects : term.Respects property)
    (patternRespects : pattern.Respects property) :
    Lawful property (self.unifyLists mode term pattern) (BindingsRespect property) := by
  unfold unifyLists
  dsimp only
  split
  · refine Lawful.store.bind fun store storeRespects => ?_
    refine .ite (fun _ => .raise) fun _ => ?_
    exact unifyLinear_lawful lawful (store.sites_respect termRespects)
      (store.sites_respect patternRespects)
  · exact .raise
  · exact .raise
  · exact unifyCompound_lawful lawful termRespects patternRespects

/-- A constraint is counted while it is matched; its bindings are dropped. -/
theorem unifyConstraint_lawful
    (lawful : self.IsLawful property)
    {inner : Term}
    (termRespects : term.Respects property)
    (innerRespects : inner.Respects property) :
    Lawful property
      (do
        modify fun machine => { machine with constraintDepth := machine.constraintDepth + 1 }
        let _ ← Action.ensuring (self.unify mode term inner) fun machine =>
          { machine with constraintDepth := machine.constraintDepth - 1 }
        return ([] : List Binding))
      (BindingsRespect property) := by
  have counted : Lawful property
      (do
        modify fun machine => { machine with constraintDepth := machine.constraintDepth + 1 }
        Action.ensuring (self.unify mode term inner) fun machine =>
          { machine with constraintDepth := machine.constraintDepth - 1 })
      (BindingsRespect property) := by
    intro machine respects
    exact (lawful.unify mode term inner termRespects innerRespects).ensuring
      ⟨respects.store, respects.dispatch, respects.stack⟩ rfl
      fun _ inside => .inConstraint inside
  have dropped := counted.bind fun _ _ =>
    (Lawful.pure bindingsRespect_nil :
      Lawful property (pure ([] : List Binding)) (BindingsRespect property))
  rwa [bind_assoc] at dropped

theorem unifyIndirect_lawful
    (lawful : self.IsLawful property)
    (termRespects : term.Respects property)
    (patternRespects : pattern.Respects property) :
    Lawful property (self.unifyIndirect mode term pattern) (BindingsRespect property) := by
  unfold unifyIndirect
  split
  · exact unifyHeadTail_lawful lawful termRespects patternRespects.1 patternRespects.2
  · split
    · exact .pure (List.forall_mem_singleton.mpr ⟨patternRespects, termRespects⟩)
    · refine (lawful.walk _ patternRespects).bind fun value valueRespects => ?_
      exact lawful.unify _ term value termRespects valueRespects
  · rename_i mark expression
    have expressionRespects : expression.Respects property := patternRespects
    refine (dereference_lawful lawful expressionRespects).bind fun value valueRespects => ?_
    exact lawful.unify mode term value termRespects valueRespects
  · exact unifyConstraint_lawful lawful termRespects patternRespects
  · exact unifyLists_lawful lawful termRespects patternRespects

theorem unifyQuoted_lawful
    (lawful : self.IsLawful property)
    (termRespects : term.Respects property)
    (patternRespects : pattern.Respects property) :
    Lawful property (self.unifyQuoted mode term pattern) (BindingsRespect property) := by
  unfold unifyQuoted
  split
  · exact lawful.unify mode _ _ termRespects patternRespects
  · exact lawful.unify mode _ _ termRespects patternRespects
  · exact unifyIndirect_lawful lawful termRespects patternRespects
  · exact unifyIndirect_lawful lawful termRespects patternRespects
  · exact lawful.unify mode _ _ termRespects patternRespects
  · exact unifyIndirect_lawful lawful termRespects patternRespects

theorem unifyLiteral_lawful
    (lawful : self.IsLawful property)
    (termRespects : term.Respects property)
    (patternRespects : pattern.Respects property) :
    Lawful property (self.unifyLiteral mode term pattern) (BindingsRespect property) := by
  unfold unifyLiteral
  split
  · exact .pure bindingsRespect_nil
  · exact Lawful.display.bind fun _ _ => Lawful.display.bind fun _ _ => .raise
  · split
    · exact .pure bindingsRespect_nil
    · exact .pure bindingsRespect_nil
    · exact unifyQuoted_lawful lawful termRespects patternRespects

theorem unifyDecorated_lawful
    (lawful : self.IsLawful property)
    (termRespects : term.Respects property)
    (patternRespects : pattern.Respects property) :
    Lawful property (self.unifyDecorated mode term pattern) (BindingsRespect property) := by
  unfold unifyDecorated
  split
  · rename_i mark name inner
    have innerRespects : inner.Respects property := patternRespects
    refine (lawful.unify mode term inner termRespects innerRespects).bind
      fun bindings bindingsRespect => ?_
    refine Lawful.newIdentifier.bind fun target targetRespects => ?_
    refine checkLinear_lawful (List.forall_mem_append.mpr ⟨bindingsRespect, ?_⟩)
    exact List.forall_mem_singleton.mpr ⟨targetRespects, termRespects⟩
  · exact unifyType_lawful
  · exact unifyGuarded_lawful lawful termRespects patternRespects.1 patternRespects.2.1
  · split
    · exact lawful.unify _ _ _ termRespects.2.1 patternRespects
    · exact unifyLiteral_lawful lawful termRespects patternRespects

theorem unifyObjects_lawful
    (lawful : self.IsLawful property)
    (termRespects : term.Respects property)
    (patternRespects : pattern.Respects property) :
    Lawful property (self.unifyObjects mode term pattern) (BindingsRespect property) := by
  unfold unifyObjects
  split
  · refine Lawful.store.bind fun store storeRespects => ?_
    refine .ite (fun _ => .raise) fun _ => .ite (fun _ => .raise) fun _ => ?_
    exact unifyLinear_lawful lawful (store.sites_respect termRespects)
      (store.sites_respect patternRespects)
  · exact unifyRegex_lawful
  · exact unifyDecorated_lawful lawful termRespects patternRespects

/-- One step of matching is lawful. -/
theorem unifyStep_lawful
    (lawful : self.IsLawful property)
    (termRespects : term.Respects property)
    (patternRespects : pattern.Respects property) :
    Lawful property (self.unifyStep mode term pattern) (BindingsRespect property) := by
  unfold unifyStep
  refine .ite (fun _ => .raise) fun _ => ?_
  split
  · refine .pure ?_
    split
    · exact bindingsRespect_nil
    · exact List.forall_mem_singleton.mpr ⟨trivial, termRespects⟩
  · split
    · exact lawful.unify _ _ _ termRespects patternRespects
    · rename_i mark expression _
      have expressionRespects : expression.Respects property := termRespects
      refine (dereference_lawful lawful expressionRespects).bind fun value valueRespects => ?_
      exact lawful.unify _ _ _ valueRespects patternRespects
    · unfold unifyAllowed
      refine .ite (fun _ => .raise) fun _ => .ite (fun _ => .raise) fun _ => ?_
      exact unifyObjects_lawful lawful termRespects patternRespects

end Evaluator
end PatternMachine
