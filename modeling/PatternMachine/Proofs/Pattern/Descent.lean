import PatternMachine.Proofs.Refinement
import PatternMachine.Proofs.Showing

/-!
# Matching that evaluates nothing

Matching evaluates an expression only for a reference, for a guard, and in covering mode for
an index expression. Without these it goes from a term and a pattern on to parts of them. The
tail of a list is made anew, but it is nested no deeper than the list. So the recursion is no
deeper than term and pattern are nested together, and what evaluation would do makes no
difference.
-/

namespace PatternMachine

/-! ## The sizes of trees -/

namespace Tree

mutual

/-- The number of nodes of a tree. -/
def size : Tree -> Nat
  | node _ parts => sizeAll parts + 1

/-- The number of nodes of several trees. -/
def sizeAll : List Tree -> Nat
  | [] => 0
  | tree :: rest => tree.size + sizeAll rest

end

theorem size_le_sizeAll
    {tree : Tree}
    {trees : List Tree}
    (inside : tree ∈ trees) :
    tree.size ≤ sizeAll trees := by
  induction trees with
  | nil => cases inside
  | cons first rest inductionHypothesis =>
      rw [sizeAll]
      rcases List.mem_cons.mp inside with rfl | later
      · exact Nat.le_add_right _ _
      · exact Nat.le_add_left_of_le (inductionHypothesis later)

end Tree

/-- No tree is nested deeper than it is large. -/
theorem Store.expand_size
    {store : Store}
    {term : Term}
    {level : Nat}
    {tree : Tree}
    (shown : store.expand false level term = some tree) :
    store.expand false tree.size term = some tree := by
  induction level generalizing term tree with
  | zero => cases shown
  | succ level inductionHypothesis =>
      obtain ⟨parts, shownParts, rfl⟩ := expand_succ_eq_some.mp shown
      rw [Tree.size]
      refine expand_succ_eq_some.mpr
        ⟨parts, (List.mapM_congr_of_mem fun part held => ?_).trans shownParts, rfl⟩
      obtain ⟨inner, inside, found⟩ := List.exists_image_of_mem shownParts held
      rw [found]
      exact expand_mono (inductionHypothesis found) (Tree.size_le_sizeAll inside)

/-! ## Terms that need no evaluation -/

/-- What is matched without evaluating an expression. -/
def Kind.IsImmediate (kind : Kind) : Prop :=
  kind ≠ .deref ∧ kind ≠ .conditional

instance (kind : Kind) : Decidable kind.IsImmediate :=
  inferInstanceAs (Decidable (_ ∧ _))

/-- What a pattern may show if matching is to evaluate nothing. In covering mode an index
expression on the pattern side is evaluated. -/
def Mode.Permits (mode : Mode) (kind : Kind) : Prop :=
  kind.IsImmediate ∧ (mode = .covering -> kind ≠ .index)

instance (mode : Mode) (kind : Kind) : Decidable (mode.Permits kind) :=
  inferInstanceAs (Decidable (_ ∧ _))

namespace Store

/-- A term shows terms of certain kinds only, and is nested no deeper than a level. -/
structure Nests (store : Store) (kinds : Kind -> Prop) (level : Nat) (term : Term) : Prop where
  shows : store.ShowsOnly kinds term
  finite : ∃ tree, store.expand false level term = some tree

/-- As long as no cell changes, the term at the site is like that. -/
def NestsAt (store : Store) (kinds : Kind -> Prop) (level : Nat) (site : Site) : Prop :=
  ∀ after, store.Keeps after -> after.Nests kinds level (after.find site)

namespace Nests

variable {store before after : Store} {kinds : Kind -> Prop} {level deeper : Nat} {term : Term}

theorem pos (nests : store.Nests kinds level term) : 0 < level := by
  obtain ⟨tree, shown⟩ := nests.finite
  cases level with
  | zero => cases shown
  | succ level => exact Nat.succ_pos level

theorem kind (nests : store.Nests kinds level term) : kinds term.kind :=
  (nests.shows term .here).1

theorem isFinite (nests : store.Nests kinds level term) : store.IsFinite term :=
  ⟨level, nests.finite⟩

theorem mono
    (nests : store.Nests kinds level term)
    (further : level ≤ deeper) :
    store.Nests kinds deeper term :=
  ⟨nests.shows, nests.finite.imp fun _ shown => expand_mono shown further⟩

theorem keeps
    (nests : before.Nests kinds level term)
    (keeps : before.Keeps after) :
    after.Nests kinds level term := by
  refine ⟨nests.shows.keeps keeps, ?_⟩
  rw [nests.shows.expand_keeps keeps]
  exact nests.finite

/-- A part is nested less deep. -/
theorem part
    {part : Term}
    (nests : store.Nests kinds level term)
    (held : part ∈ term.subpatterns store) :
    store.Nests kinds (level - 1) part := by
  have branch := Term.branches_of_subpatterns held
  refine ⟨nests.shows.part (Term.visible_of_branches branch), ?_⟩
  obtain ⟨tree, shown⟩ := nests.finite
  cases level with
  | zero => cases shown
  | succ level =>
      obtain ⟨parts, shownParts, rfl⟩ := expand_succ_eq_some.mp shown
      obtain ⟨inner, _, found⟩ := List.exists_image_of_mem shownParts branch
      exact ⟨inner, found⟩

/-- A missing term is not nested. -/
theorem absent (own : kinds .none) : store.Nests kinds 1 .absent :=
  ⟨.of_parts own rfl fun _ inside => absurd inside List.not_mem_nil, _, rfl⟩

/-- What is at hand is like that wherever it is used. -/
theorem given (nests : store.Nests kinds level term) :
    store.NestsAt kinds level (.given term) :=
  fun _ keeps => nests.keeps keeps

/-- The elements of a term are nested less deep, wherever they stand. -/
theorem sites (nests : store.Nests kinds level term) :
    ∀ site ∈ store.sites term, store.NestsAt kinds (level - 1) site := by
  intro site held after keeps
  have inside := find_yielding term held keeps
  exact (nests.part (Term.mem_subpatterns_of_yielding inside)).keeps keeps

/-- A new list of elements of a list is nested no deeper. -/
theorem remade
    {cell fresh : CellRef}
    {elements : List Term}
    (nests : store.Nests kinds level (.list cell))
    (among : ∀ element ∈ elements, element ∈ (store.elements cell).toList)
    (keeps : store.Keeps after)
    (known : fresh.place < after.cells.size)
    (made : (after.elements fresh).toList = elements) :
    after.Nests kinds level (.list fresh) := by
  have parts : ∀ element ∈ elements, after.Nests kinds (level - 1) element :=
    fun element held => (nests.part (among element held)).keeps keeps
  refine ⟨.of_parts nests.kind (decide_eq_true known)
    fun element held => (parts element (made ▸ held)).shows, ?_⟩
  cases level with
  | zero => exact absurd nests.pos (Nat.lt_irrefl 0)
  | succ level =>
      obtain ⟨trees, shown⟩ := List.exists_mapM fun element held => (parts element held).finite
      rw [Nat.add_sub_cancel] at shown
      have spelled : (Term.list fresh).branches after false = elements := made
      exact ⟨_, expand_succ_eq_some.mpr ⟨trees, by rw [spelled, shown], rfl⟩⟩

end Nests
end Store

/-! ## Actions that settle -/

namespace Action

variable {α β : Type} {machine : Machine}

/-- Run on the machine, the action yields a result or raises an error. It does not give up,
and no cell changes. -/
def Settles (machine : Machine) (action : Action α) : Prop :=
  match action machine with
  | .ok _ after => machine.store.Keeps after.store
  | .error (.raised _) after => machine.store.Keeps after.store
  | .error _ _ => False

namespace Settles

theorem of_run
    {action : Action α}
    {value : α}
    {after : Machine}
    (run : action machine = .ok value after)
    (keeps : machine.store.Keeps after.store) :
    Settles machine action := by
  rw [Settles, run]
  exact keeps

theorem pure {value : α} : Settles machine (Pure.pure value) :=
  .of_run rfl (.refl _)

theorem raise
    {kind : ErrorKind}
    {message : String} :
    Settles machine (Action.raise kind message : Action α) :=
  Store.Keeps.refl machine.store

theorem bind
    {action : Action α}
    {next : α -> Action β}
    (first : Settles machine action)
    (second : ∀ value after, action machine = .ok value after ->
      machine.store.Keeps after.store -> Settles after (next value)) :
    Settles machine (action >>= next) := by
  unfold Settles at first ⊢
  rw [bind_apply]
  cases run : action machine with
  | ok value after =>
      rw [run] at first
      have later := second value after run first
      unfold Settles at later
      revert later
      dsimp only
      cases next value after with
      | ok result final => exact first.trans
      | error stop final =>
          cases stop with
          | raised exception => exact first.trans
          | fatal message => exact id
          | exhausted => exact id
  | error stop after =>
      rw [run] at first
      cases stop with
      | raised exception => exact first
      | fatal message => exact first
      | exhausted => exact first

/-- What is read off the machine is used. -/
theorem look
    {action : Action α}
    {next : α -> Action β}
    {value : α}
    (observed : action machine = .ok value machine)
    (settles : Settles machine (next value)) :
    Settles machine (action >>= next) := by
  rw [Settles, bind_apply, observed]
  exact settles

/-- A term with a finite tree is shown. -/
theorem display
    {term : Term}
    {next : String -> Action β}
    (finite : machine.store.IsFinite term)
    (settles : ∀ shown, Settles machine (next shown)) :
    Settles machine (Action.display term >>= next) :=
  look (by rw [Action.display, finitely_apply, finite.display?]) (settles _)

theorem ite
    {condition : Prop}
    [Decidable condition]
    {first second : Action α}
    (whenTrue : Settles machine first)
    (whenFalse : Settles machine second) :
    Settles machine (if condition then first else second) := by
  by_cases decided : condition
  · rwa [if_pos decided]
  · rwa [if_neg decided]

end Settles
end Action

namespace Evaluator

open PatternMachine.Action (Settles)

variable {self : Evaluator} {machine : Machine} {mode : Mode} {term pattern : Term}
  {level termLevel patternLevel : Nat}

/-- Matches settle if nothing in term and pattern has to be evaluated, and the two together are
nested no deeper than a level. -/
def SettlesWithin (level : Nat) (self : Evaluator) : Prop :=
  ∀ {machine : Machine} {mode : Mode} {term pattern : Term} {termLevel patternLevel : Nat},
    machine.store.Nests Kind.IsImmediate termLevel term ->
    machine.store.Nests mode.Permits patternLevel pattern ->
    termLevel + patternLevel ≤ level ->
    Settles machine (self.unify mode term pattern)

/-! ## Rules that look at the term alone -/

theorem checkLinear_settles {bindings : List Binding} :
    Settles machine (checkLinear mode bindings) := by
  refine .look rfl (.ite ?_ .pure)
  split
  · exact .raise
  · exact .pure

theorem unifyText_settles {text regex : String} : Settles machine (unifyText text regex) := by
  unfold unifyText
  split
  · exact .raise
  · exact .ite .pure .raise

theorem unifyRegex_settles
    {regex : String}
    (finite : machine.store.IsFinite term) :
    Settles machine (unifyRegex mode term regex) := by
  unfold unifyRegex
  split
  · exact unifyText_settles
  · refine .display finite fun _ => .ite .raise ?_
    exact .bind (.of_run rfl (.refl _)) fun _ _ _ _ => unifyText_settles

theorem unifyType_settles {typeName : String} :
    Settles machine (unifyType mode term typeName) := by
  unfold unifyType
  split
  · exact .ite .pure .raise
  · refine .ite ?function (.ite ?pattern (.ite (.ite .pure .raise) (.look rfl ?struct)))
    case function =>
      split
      · exact .pure
      · exact .pure
      · exact .raise
    case pattern =>
      split
      · exact .pure
      · exact .raise
    case struct =>
      split
      · exact .ite .pure .raise
      · exact .raise

theorem unifyEqual_settles
    (finite : machine.store.IsFinite term)
    (patternFinite : machine.store.IsFinite pattern) :
    Settles machine (unifyEqual term pattern) := by
  obtain ⟨agree, compared⟩ : ∃ agree, agrees term pattern machine = .ok agree machine := by
    unfold agrees
    split
    · exact ⟨_, by rw [Action.equal, Action.finitely_apply, finite.equal? patternFinite]⟩
    · exact ⟨_, rfl⟩
  refine .look compared (.ite .pure ?_)
  exact .display patternFinite fun _ => .display finite fun _ => .raise

/-! ## Rules that go on with parts -/

/-- Pairs of parts are matched one after the other. -/
theorem unifyLinear_settles
    (settles : self.SettlesWithin level)
    {terms patterns : List Site}
    (termsNest : ∀ site ∈ terms,
      machine.store.NestsAt Kind.IsImmediate termLevel site)
    (patternsNest : ∀ site ∈ patterns,
      machine.store.NestsAt mode.Permits patternLevel site)
    (small : termLevel + patternLevel ≤ level) :
    Settles machine (self.unifyLinear mode terms patterns) := by
  have each : ∀ (machine : Machine) (pairs : List (Site × Site)),
      (∀ pair ∈ pairs, machine.store.NestsAt Kind.IsImmediate termLevel pair.1 ∧
        machine.store.NestsAt mode.Permits patternLevel pair.2) ->
      Settles machine (self.unifyEach mode pairs) := by
    intro machine pairs nested
    induction pairs generalizing machine with
    | nil => exact .pure
    | cons pair rest inductionHypothesis =>
        obtain ⟨⟨termAt, patternAt⟩, restAt⟩ := List.forall_mem_cons.mp nested
        refine .look rfl (.look rfl ?_)
        refine .bind (settles (termAt _ (.refl _)) (patternAt _ (.refl _)) small)
          fun _ after _ keeps => ?_
        refine .bind (inductionHypothesis after fun other held => ?_) fun _ _ _ _ => .pure
        obtain ⟨otherTerm, otherPattern⟩ := restAt other held
        exact ⟨fun later kept => otherTerm later (keeps.trans kept),
          fun later kept => otherPattern later (keeps.trans kept)⟩
  refine .bind (each machine _ fun pair held => ?_) fun _ _ _ _ => checkLinear_settles
  obtain ⟨termHeld, patternHeld⟩ := List.of_mem_zip held
  exact ⟨termsNest _ termHeld, patternsNest _ patternHeld⟩

/-- Two terms at hand are matched against two patterns. -/
theorem unifyPair_settles
    (settles : self.SettlesWithin level)
    {first second firstPattern secondPattern : Term}
    (firstNests : machine.store.Nests Kind.IsImmediate termLevel first)
    (secondNests : machine.store.Nests Kind.IsImmediate termLevel second)
    (firstPatternNests : machine.store.Nests mode.Permits patternLevel firstPattern)
    (secondPatternNests : machine.store.Nests mode.Permits patternLevel secondPattern)
    (small : termLevel + patternLevel ≤ level) :
    Settles machine (self.unifyLinear mode [.given first, .given second]
      [.given firstPattern, .given secondPattern]) := by
  refine unifyLinear_settles settles ?_ ?_ small
  · exact List.forall_mem_cons.mpr
      ⟨firstNests.given, List.forall_mem_singleton.mpr secondNests.given⟩
  · exact List.forall_mem_cons.mpr
      ⟨firstPatternNests.given, List.forall_mem_singleton.mpr secondPatternNests.given⟩

theorem unifyHeadTail_settles
    (settles : self.SettlesWithin level)
    {raw : Bool}
    {mark : Mark}
    {head tail : Term}
    (termNests : machine.store.Nests Kind.IsImmediate termLevel term)
    (patternNests : machine.store.Nests mode.Permits patternLevel (.headTail raw mark head tail))
    (small : termLevel + patternLevel ≤ level + 1) :
    Settles machine (self.unifyHeadTail mode term head tail) := by
  have positive := termNests.pos
  have patternPositive := patternNests.pos
  have headNests : machine.store.Nests mode.Permits (patternLevel - 1) head :=
    patternNests.part List.mem_cons_self
  have tailNests : machine.store.Nests mode.Permits (patternLevel - 1) tail :=
    patternNests.part (List.mem_cons_of_mem _ List.mem_cons_self)
  unfold unifyHeadTail
  split
  · refine .look rfl ?_
    split
    · exact .raise
    · rename_i cell _ first rest spelled
      have firstNests : machine.store.Nests Kind.IsImmediate (termLevel - 1) first :=
        termNests.part (show first ∈ (machine.store.elements cell).toList from
          spelled ▸ List.mem_cons_self)
      have keeps : machine.store.Keeps (machine.store.newCell rest.toArray).2 := .newCell _ _
      refine .bind (.of_run (Action.newList_apply rest machine) keeps) fun _ _ run _ => ?_
      cases run
      have restNests := termNests.remade
        (fun element held => spelled ▸ List.mem_cons_of_mem first held) keeps
        (machine.store.newCell_known rest.toArray)
        (by rw [machine.store.elements_newCell_self])
      exact unifyPair_settles settles ((firstNests.keeps keeps).mono (Nat.sub_le _ _)) restNests
        (headNests.keeps keeps) (tailNests.keeps keeps) (by omega)
  · exact .raise
  · exact unifyPair_settles settles (termNests.part List.mem_cons_self)
      (termNests.part (List.mem_cons_of_mem _ List.mem_cons_self)) headNests tailNests (by omega)
  · exact .raise

theorem unifyConstructor_settles
    (settles : self.SettlesWithin level)
    {owner : Option Template}
    {memory : CellRef}
    {callee argument : Term}
    (objectNests : machine.store.Nests Kind.IsImmediate termLevel (.object owner memory))
    (calleeFinite : machine.store.IsFinite callee)
    (argumentNests : machine.store.Nests mode.Permits patternLevel argument)
    (small : termLevel + patternLevel ≤ level) :
    Settles machine (self.unifyConstructor mode owner memory callee argument) := by
  have positive := objectNests.pos
  have member : ∀ slot : Nat, machine.store.Nests Kind.IsImmediate termLevel
      ((machine.store.elements memory)[slot]?.getD .absent) := by
    intro slot
    cases found : (machine.store.elements memory)[slot]? with
    | none => exact (Store.Nests.absent (by decide)).mono positive
    | some value =>
        have inside : value ∈ (machine.store.elements memory).toList :=
          Array.mem_toList_iff.mpr (Array.mem_of_getElem? found)
        exact (objectNests.part inside).mono (Nat.sub_le _ _)
  unfold unifyConstructor
  split
  · refine .ite .raise ?_
    split
    · exact .raise
    · refine .look rfl ?_
      dsimp only
      split
      · refine .ite .raise ?_
        refine unifyLinear_settles settles (fun site held => ?_) argumentNests.sites
          (Nat.le_trans (Nat.add_le_add_left (Nat.sub_le _ _) _) small)
        obtain ⟨slot, _, rfl⟩ := List.mem_map.mp held
        exact (member slot).given
      · split
        · exact .raise
        · exact settles (member _) argumentNests small
  · exact .display calleeFinite fun _ => .raise

theorem unifyApplications_settles
    (settles : self.SettlesWithin level)
    {termCallee termArgument callee argument : Term}
    (termCalleeFinite : machine.store.IsFinite termCallee)
    (calleeFinite : machine.store.IsFinite callee)
    (termNests : machine.store.Nests Kind.IsImmediate termLevel termArgument)
    (argumentNests :
      machine.store.Nests (Mode.Permits .covering) patternLevel argument)
    (small : termLevel + patternLevel ≤ level) :
    Settles machine (self.unifyApplications termCallee termArgument callee argument) := by
  unfold unifyApplications
  dsimp only
  split
  · refine .ite (settles termNests argumentNests small) ?_
    exact .display calleeFinite fun _ => .display termCalleeFinite fun _ => .raise
  · exact .display calleeFinite fun _ => .display termCalleeFinite fun _ => .raise

/-- A constraint is counted while the pattern inside is matched. -/
theorem constraint_settles
    {action : Action (List Binding)}
    (settles : Settles { machine with constraintDepth := machine.constraintDepth + 1 } action) :
    Settles machine (do
      modify fun machine => { machine with constraintDepth := machine.constraintDepth + 1 }
      let _ ← Action.ensuring action fun machine =>
        { machine with constraintDepth := machine.constraintDepth - 1 }
      return ([] : List Binding)) := by
  unfold Settles at settles ⊢
  rw [Action.bind_apply, Action.modify_apply]
  dsimp only
  rw [Action.bind_apply, Action.ensuring_apply]
  revert settles
  cases action { machine with constraintDepth := machine.constraintDepth + 1 } with
  | ok bindings after => exact id
  | error stop after => cases stop <;> exact id

section Rules

variable
  (settles : self.SettlesWithin level)
  (termNests : machine.store.Nests Kind.IsImmediate termLevel term)
  (patternNests : machine.store.Nests mode.Permits patternLevel pattern)
  (small : termLevel + patternLevel ≤ level + 1)

include settles termNests patternNests small

/-- A part of the term is matched. -/
theorem unifyTermPart_settles
    {part : Term}
    (held : part ∈ term.subpatterns machine.store) :
    Settles machine (self.unify mode part pattern) := by
  have positive := termNests.pos
  exact settles (termNests.part held) patternNests (by omega)

/-- A part of the pattern is matched. -/
theorem unifyPatternPart_settles
    {part : Term}
    (held : part ∈ pattern.subpatterns machine.store) :
    Settles machine (self.unify mode term part) := by
  have positive := patternNests.pos
  exact settles termNests (patternNests.part held) (by omega)

/-- A part of the term is matched against a part of the pattern. -/
theorem unifyParts_settles
    {termPart patternPart : Term}
    (held : termPart ∈ term.subpatterns machine.store)
    (patternHeld : patternPart ∈ pattern.subpatterns machine.store) :
    Settles machine (self.unify mode termPart patternPart) := by
  have positive := termNests.pos
  exact unifyPatternPart_settles settles (termNests.part held) patternNests (by omega) patternHeld

theorem unifyElements_settles :
    Settles machine
      (self.unifyLinear mode (machine.store.sites term) (machine.store.sites pattern)) := by
  have positive := termNests.pos
  have patternPositive := patternNests.pos
  exact unifyLinear_settles settles termNests.sites patternNests.sites (by omega)

theorem unifyCompound_settles : Settles machine (self.unifyCompound mode term pattern) := by
  have positive := termNests.pos
  have patternPositive := patternNests.pos
  refine .look rfl ?_
  split
  · exact .ite .raise (unifyElements_settles settles termNests patternNests small)
  · split
    · exact unifyConstructor_settles settles termNests
        (patternNests.isFinite.part List.mem_cons_self)
        (patternNests.part List.mem_cons_self) (by omega)
    · exact unifyApplications_settles settles (termNests.isFinite.part List.mem_cons_self)
        (patternNests.isFinite.part List.mem_cons_self) (termNests.part List.mem_cons_self)
        (patternNests.part List.mem_cons_self) (by omega)
    · exact unifyEqual_settles termNests.isFinite patternNests.isFinite

theorem unifyLists_settles : Settles machine (self.unifyLists mode term pattern) := by
  unfold unifyLists
  dsimp only
  split
  · refine .look rfl (.ite .raise ?_)
    exact unifyElements_settles settles termNests patternNests small
  · exact .raise
  · exact .raise
  · exact unifyCompound_settles settles termNests patternNests small

theorem unifyIndirect_settles : Settles machine (self.unifyIndirect mode term pattern) := by
  unfold unifyIndirect
  split
  · exact unifyHeadTail_settles settles termNests patternNests small
  · split
    · exact .pure
    · exact absurd rfl (patternNests.kind.2 rfl)
  · exact absurd rfl patternNests.kind.1.1
  · have positive := patternNests.pos
    exact constraint_settles (settles termNests (patternNests.part List.mem_cons_self) (by omega))
  · exact unifyLists_settles settles termNests patternNests small

/-! ## Rules that look through the term or the pattern -/

theorem unifyQuoted_settles : Settles machine (self.unifyQuoted mode term pattern) := by
  have indirect := unifyIndirect_settles settles termNests patternNests small
  unfold unifyQuoted
  split
  · exact unifyParts_settles settles termNests patternNests small
      List.mem_cons_self List.mem_cons_self
  · exact unifyPatternPart_settles settles termNests patternNests small List.mem_cons_self
  · exact indirect
  · exact indirect
  · exact unifyTermPart_settles settles termNests patternNests small List.mem_cons_self
  · exact indirect

theorem unifyLiteral_settles : Settles machine (self.unifyLiteral mode term pattern) := by
  unfold unifyLiteral
  split
  · exact .pure
  · exact .display termNests.isFinite fun _ => .display patternNests.isFinite fun _ => .raise
  · split
    · exact .pure
    · exact .pure
    · exact unifyQuoted_settles settles termNests patternNests small

theorem unifyDecorated_settles : Settles machine (self.unifyDecorated mode term pattern) := by
  unfold unifyDecorated
  split
  · refine .bind (unifyPatternPart_settles settles termNests patternNests small
      List.mem_cons_self) fun _ _ _ _ => ?_
    exact .bind (.of_run (Action.newIdentifier_apply _ _) (.refl _))
      fun _ _ _ _ => checkLinear_settles
  · exact unifyType_settles
  · exact absurd rfl patternNests.kind.1.2
  · split
    · exact absurd rfl termNests.kind.2
    · exact unifyLiteral_settles settles termNests patternNests small

theorem unifyObjects_settles : Settles machine (self.unifyObjects mode term pattern) := by
  unfold unifyObjects
  split
  · refine .look rfl ?_
    dsimp only
    refine .ite .raise (.ite .raise ?_)
    exact unifyElements_settles settles termNests patternNests small
  · exact unifyRegex_settles termNests.isFinite
  · exact unifyDecorated_settles settles termNests patternNests small

/-- One step of matching settles if the matches of parts settle. Each of them goes on with a
part of the term or of the pattern, and with the other as it is, or with a part of it, or with
a new list that is nested no deeper. -/
theorem unifyStep_settles : Settles machine (self.unifyStep mode term pattern) := by
  refine .ite .raise ?_
  split
  · exact .pure
  · split
    · exact unifyTermPart_settles settles termNests patternNests small List.mem_cons_self
    · exact absurd rfl termNests.kind.1
    · refine .ite .raise (.ite .raise ?_)
      exact unifyObjects_settles settles termNests patternNests small

end Rules

/-! ## Matching with another evaluation -/

/-- Matching to a depth, with a given function in the place of evaluation. -/
def matching (walk : Term -> Action Term) : Nat -> Evaluator
  | 0 => { walk, unify := fun _ _ _ => throw .exhausted }
  | depth + 1 => { walk, unify := (matching walk depth).unifyStep }

/-- Whatever evaluation is, matching to a depth settles for a term and a pattern that are
together nested no deeper. -/
theorem matching_settlesWithin
    (walk : Term -> Action Term)
    (depth : Nat) :
    (matching walk depth).SettlesWithin depth := by
  induction depth with
  | zero =>
      intro machine mode term pattern termLevel patternLevel termNests _ small
      have positive := termNests.pos
      omega
  | succ depth inductionHypothesis =>
      intro machine mode term pattern termLevel patternLevel termNests patternNests small
      exact unifyStep_settles inductionHypothesis termNests patternNests small

/-- Matching where evaluation gives up gives up, or does the same as any matching step by step
that may go as deep, whatever evaluation is there. -/
theorem matching_refines
    {family : Nat -> Evaluator}
    (steps : ∀ depth, (family (depth + 1)).unify = (family depth).unifyStep)
    {depth deeper : Nat}
    (deep : depth ≤ deeper) :
    Evaluator.Refines .exhausted (matching (fun _ => throw .exhausted) depth)
      (family deeper) := by
  induction depth generalizing deeper with
  | zero =>
      exact ⟨fun _ machine => .inl ⟨machine, rfl⟩, fun _ _ _ machine => .inl ⟨machine, rfl⟩⟩
  | succ depth inductionHypothesis =>
      obtain ⟨deeper, rfl⟩ := Nat.exists_eq_add_of_le' (Nat.lt_of_lt_of_le (Nat.succ_pos _) deep)
      refine ⟨fun _ machine => .inl ⟨machine, rfl⟩, ?_⟩
      rw [steps]
      exact (inductionHypothesis (Nat.le_of_succ_le_succ deep)).unifyStep

/-- Matching settles even where evaluation gives up, and so it does the same with any
evaluation. -/
theorem unify_of_nests
    {depth deeper : Nat}
    (termNests : machine.store.Nests Kind.IsImmediate termLevel term)
    (patternNests : machine.store.Nests mode.Permits patternLevel pattern)
    (small : termLevel + patternLevel ≤ depth)
    (deep : depth ≤ deeper)
    (walk : Term -> Action Term) :
    Settles machine ((within deeper).unify mode term pattern) ∧
      (within deeper).unify mode term pattern machine =
        (matching walk depth).unify mode term pattern machine := by
  let givingUp := matching (fun _ => throw .exhausted) depth
  have settles : Settles machine (givingUp.unify mode term pattern) :=
    matching_settlesWithin _ depth termNests patternNests small
  have same : ∀ (family : Nat -> Evaluator) {further : Nat},
      (∀ depth, (family (depth + 1)).unify = (family depth).unifyStep) -> depth ≤ further ->
      givingUp.unify mode term pattern machine =
        (family further).unify mode term pattern machine := by
    intro family further steps further_le
    rcases (matching_refines steps further_le).unify mode term pattern machine with
      ⟨after, exhausted⟩ | same
    · rw [Settles, exhausted] at settles
      exact settles.elim
    · exact same
  have evaluating := same within (fun _ => rfl) deep
  have walking := same (matching walk) (fun _ => rfl) (Nat.le_refl depth)
  refine ⟨?_, evaluating.symm.trans walking⟩
  rwa [Settles, evaluating] at settles

/-- Matching that has nothing to evaluate settles, and never calls evaluation: it does the same
whatever stands in the place of it. The recursion is no deeper than term and pattern have nodes
together, and no deeper than they are nested together. -/
theorem unify_evaluates_nothing
    {level patternLevel : Nat}
    {tree patternTree : Tree}
    (finite : machine.store.expand false level term = some tree)
    (patternFinite : machine.store.expand false patternLevel pattern = some patternTree)
    (shows : machine.store.ShowsOnly Kind.IsImmediate term)
    (patternShows : machine.store.ShowsOnly mode.Permits pattern) :
    ∀ depth, level + patternLevel ≤ depth ∨ tree.size + patternTree.size ≤ depth ->
      ∀ deeper, depth ≤ deeper -> ∀ walk : Term -> Action Term,
        Settles machine ((within deeper).unify mode term pattern) ∧
          (within deeper).unify mode term pattern machine =
            (matching walk depth).unify mode term pattern machine := by
  intro depth small deeper deep walk
  rcases small with nested | large
  · exact unify_of_nests ⟨shows, tree, finite⟩ ⟨patternShows, patternTree, patternFinite⟩
      nested deep walk
  · exact unify_of_nests ⟨shows, tree, Store.expand_size finite⟩
      ⟨patternShows, patternTree, Store.expand_size patternFinite⟩ large deep walk

/-- A machine with the list of one and two. -/
def countedMachine : Machine :=
  Machine.fresh
    { Store.initial with cells := #[#[.none, .none], #[.integer 1, .integer 2]] }

/-- A list is taken apart twice. Three nodes of the list and six of the pattern are more than
the recursion needs. -/
theorem unify_evaluates_nothing_of_headTail :
    let inner := Term.headTail false 2 (.named 3 "n" (.typeMatch 4 "integer")) (.identifier "rest")
    let pattern := Term.headTail false 1 (.identifier "x") inner
    countedMachine.store.ShowsOnly Kind.IsImmediate (.list ⟨1⟩) ∧
      countedMachine.store.ShowsOnly (Mode.Permits .covering) pattern ∧
      Settles countedMachine ((within 9).unify .covering (.list ⟨1⟩) pattern) ∧
      ∀ walk, (within 9).unify .covering (.list ⟨1⟩) pattern countedMachine =
        (matching walk 9).unify .covering (.list ⟨1⟩) pattern countedMachine := by
  intro inner pattern
  have shows : countedMachine.store.ShowsOnly Kind.IsImmediate (.list ⟨1⟩) := by
    have number : ∀ value, countedMachine.store.ShowsOnly Kind.IsImmediate (.integer value) :=
      fun value => .of_parts (show Kind.IsImmediate .integer by decide) rfl
        (by simp [Term.visible, Term.contents, Term.parts])
    refine .of_parts (show Kind.IsImmediate .list by decide) rfl ?_
    exact List.forall_mem_cons.mpr ⟨number 1, List.forall_mem_singleton.mpr (number 2)⟩
  have patternShows : countedMachine.store.ShowsOnly (Mode.Permits .covering) pattern := by
    have inside : ∀ part, Term.Reaches (Term.visible countedMachine.store) pattern part ->
        part ∈ [pattern, .identifier "x", inner, .named 3 "n" (.typeMatch 4 "integer"),
          .typeMatch 4 "integer", .identifier "rest"] :=
      fun part reaches => reaches.mem_of_closed _
        (by simp [pattern, inner, Term.visible, Term.contents, Term.parts]) List.mem_cons_self
    intro part reaches
    have listed := inside part reaches
    simp only [List.mem_cons, List.not_mem_nil, or_false] at listed
    rcases listed with rfl | rfl | rfl | rfl | rfl | rfl <;>
      exact ⟨of_decide_eq_true rfl, rfl⟩
  obtain ⟨tree, shown, size⟩ : ∃ tree,
      countedMachine.store.expand false 2 (.list ⟨1⟩) = some tree ∧ tree.size = 3 :=
    ⟨_, rfl, rfl⟩
  obtain ⟨patternTree, patternShown, patternSize⟩ : ∃ tree,
      countedMachine.store.expand false 4 pattern = some tree ∧ tree.size = 6 :=
    ⟨_, rfl, rfl⟩
  have matched := unify_evaluates_nothing shown patternShown shows patternShows 9
    (.inr (by omega)) 9 (Nat.le_refl 9)
  exact ⟨shows, patternShows, (matched fun _ => throw .exhausted).1, fun walk => (matched walk).2⟩

end Evaluator
end PatternMachine
