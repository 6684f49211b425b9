import PatternMachine.Proofs.Pattern.Rules
import PatternMachine.Proofs.Store
import PatternMachine.Proofs.Tree

/-!
# Matching against a value

A value made of integers, booleans, none, nil, containers, objects, structs and
functions is a pattern that binds no name. Matching against it comes to comparing
with it: the match succeeds when the two values are equal, and fails as a match
otherwise. There is one difference, that matching takes a pair for the tuple of its
components.
-/

namespace PatternMachine

/-! ## Ground values -/

/-- The families of ground values. Values of different families are never equal. -/
inductive Family
  | number
  | none
  | nil
  | list
  | tuple
  | object
  | struct
  | closure
  deriving DecidableEq

/-- The family of a ground value by the top of its tree; a pair counts as a tuple. -/
def Shape.family? : Shape -> Option Family
  | integer _ => some .number
  | boolean _ => some .number
  | none => some .none
  | nil => some .nil
  | list => some .list
  | tuple => some .tuple
  | pair => some .tuple
  | object _ _ _ => some .object
  | struct _ => some .struct
  | closure _ _ => some .closure
  | _ => Option.none

/-- A tuple in the place of a pair. -/
def Shape.unpaired : Shape -> Shape
  | pair => tuple
  | shape => shape

namespace Tree

mutual

/-- Whether a tree shows a value made of integers, booleans, none, nil, lists,
tuples, pairs, objects, structs and functions. -/
def isGround : Tree -> Bool
  | node shape parts => shape.family?.isSome && areGround parts

/-- Whether trees show such values. -/
def areGround : List Tree -> Bool
  | [] => true
  | tree :: rest => tree.isGround && areGround rest

end

mutual

/-- Every pair replaced by the tuple of its components. -/
def unpaired : Tree -> Tree
  | node shape parts => node shape.unpaired (unpairedAll parts)

/-- The same in several trees. -/
def unpairedAll : List Tree -> List Tree
  | [] => []
  | tree :: rest => tree.unpaired :: unpairedAll rest

end

theorem length_unpairedAll (trees : List Tree) :
    (unpairedAll trees).length = trees.length := by
  induction trees with
  | nil => rfl
  | cons tree rest inductionHypothesis => simp [unpairedAll, inductionHypothesis]

/-- Values of different families are not equal. -/
theorem equal_of_family_ne
    {left right : Shape}
    {family other : Family}
    (leftFamily : left.family? = some family)
    (rightFamily : right.family? = some other)
    (apart : family ≠ other)
    (leftParts rightParts : List Tree) :
    (node left.unpaired leftParts).equal (node right.unpaired rightParts) = false := by
  cases left <;> simp only [Shape.family?, Option.some.injEq, reduceCtorEq] at leftFamily <;>
    subst leftFamily <;>
    cases right <;> simp only [Shape.family?, Option.some.injEq, reduceCtorEq] at rightFamily <;>
    subst rightFamily <;>
    first
    | exact absurd rfl apart
    | simp [Shape.unpaired, equal, Shape.number?, Shape.sameConstruct]

mutual

/-- A ground value is equal to itself. -/
theorem equal_self : ∀ {tree : Tree}, tree.isGround = true ->
    tree.unpaired.equal tree.unpaired = true
  | node shape parts, ground => by
      obtain ⟨known, groundParts⟩ := (Bool.and_eq_true _ _).mp ground
      have each := equalParts_self groundParts
      cases shape with
      | integer | boolean | none | nil | list | tuple | pair | object | struct | closure =>
          simp [unpaired, Shape.unpaired, equal, Shape.number?, Number.equal,
            Shape.sameConstruct, each]
      | _ => simp [Shape.family?] at known

theorem equalParts_self : ∀ {trees : List Tree}, areGround trees = true ->
    equalParts (unpairedAll trees) (unpairedAll trees) = true
  | [], _ => rfl
  | tree :: rest, ground => by
      obtain ⟨first, others⟩ := (Bool.and_eq_true _ _).mp ground
      simp [unpairedAll, equalParts, equal_self first, equalParts_self others]

end

end Tree

namespace Store

variable {store : Store} {depth : Nat} {term : Term}

/-- The elements of a list, tuple, pair or object as they are now. -/
def components (store : Store) (term : Term) : List Term :=
  (store.sites term).map store.find

@[simp] theorem components_list (store : Store) (cell : CellRef) :
    store.components (.list cell) = (store.elements cell).toList :=
  store.spreads_places cell store (.refl store)

@[simp] theorem components_tuple (store : Store) (cell : CellRef) :
    store.components (.tuple cell) = (store.elements cell).toList :=
  store.spreads_places cell store (.refl store)

@[simp] theorem components_pair (store : Store) (first second : Term) :
    store.components (.pair first second) = [first, second] := rfl

@[simp] theorem components_object
    (store : Store)
    (owner : Option Template)
    (memory : CellRef) :
    store.components (.object owner memory) = (store.elements memory).toList :=
  store.spreads_places memory store (.refl store)

/-- The elements of a ground value are what its tree goes on with. -/
theorem components_eq_branches (known : (term.shape store).family?.isSome = true) :
    store.components term = term.branches store false := by
  cases term with
  | list cell => exact components_list store cell
  | tuple cell => exact components_tuple store cell
  | object owner memory => exact components_object store owner memory
  | integer | boolean | none | nil | pair | struct | closure => rfl
  | _ => simp [Term.shape, Shape.family?] at known

/-- What the tree of a ground value shows. -/
theorem expand_ground
    {tree : Tree}
    (unfolds : store.expand false (depth + 1) term = some tree)
    (ground : tree.isGround = true) :
    ∃ parts, tree = .node (term.shape store) parts ∧
      (term.shape store).family?.isSome = true ∧
      (store.components term).mapM (store.expand false depth) = some parts ∧
      Tree.areGround parts = true := by
  obtain ⟨parts, partsUnfold, rfl⟩ := expand_succ_eq_some.mp unfolds
  obtain ⟨known, groundParts⟩ := (Bool.and_eq_true _ _).mp ground
  exact ⟨parts, rfl, known, by rwa [components_eq_branches known], groundParts⟩

end Store

/-! ## Matching without names -/

namespace Evaluator

open Store (components)

variable {self : Evaluator} {machine : Machine} {term pattern : Term} {depth : Nat}

/-- A match that binds no name has an answer: it succeeds, or it fails as a match. The
machine stays as it is. -/
def Answers (machine : Machine) (answer : Bool) (action : Action (List Binding)) : Prop :=
  match answer with
  | true => action machine = .ok [] machine
  | false => ∃ message, action machine = mismatch message machine

theorem Answers.congr
    {answer : Bool}
    {action other : Action (List Binding)}
    (same : action machine = other machine)
    (answers : Answers machine answer other) :
    Answers machine answer action := by
  cases answer with
  | true => exact same.trans answers
  | false => exact answers.imp fun _ failed => same.trans failed

/-- Ground values match as their trees compare. -/
def Compares (machine : Machine) (depth : Nat) (self : Evaluator) : Prop :=
  ∀ term pattern left right, machine.store.expand false depth term = some left ->
    machine.store.expand false depth pattern = some right ->
    left.isGround = true -> right.isGround = true ->
    Answers machine (left.unpaired.equal right.unpaired) (self.unify .binding term pattern)

theorem unifyEach_answers
    (compares : Compares machine depth self)
    {sites patternSites : List Site}
    {parts patternParts : List Tree}
    (unfolds : (sites.map machine.store.find).mapM (machine.store.expand false depth) =
      some parts)
    (patternUnfolds :
      (patternSites.map machine.store.find).mapM (machine.store.expand false depth) =
        some patternParts)
    (ground : Tree.areGround parts = true)
    (patternGround : Tree.areGround patternParts = true)
    (lengths : sites.length = patternSites.length) :
    Answers machine
      (Tree.equalParts (Tree.unpairedAll parts) (Tree.unpairedAll patternParts))
      (self.unifyEach .binding (sites.zip patternSites)) := by
  induction sites generalizing patternSites parts patternParts with
  | nil =>
      obtain rfl : patternSites = [] := List.length_eq_zero_iff.mp lengths.symm
      obtain rfl := Option.some.inj unfolds
      obtain rfl := Option.some.inj patternUnfolds
      rfl
  | cons site sites inductionHypothesis =>
      cases patternSites with
      | nil => simp at lengths
      | cons patternSite patternSites =>
          simp only [List.map_cons, List.mapM_cons, Option.pure_def, Option.bind_eq_bind,
            Option.bind_eq_some_iff, Option.some.injEq] at unfolds patternUnfolds
          obtain ⟨left, leftUnfolds, lefts, leftsUnfold, rfl⟩ := unfolds
          obtain ⟨right, rightUnfolds, rights, rightsUnfold, rfl⟩ := patternUnfolds
          simp only [Tree.areGround, Bool.and_eq_true] at ground patternGround
          have first := compares _ _ left right leftUnfolds rightUnfolds ground.1 patternGround.1
          have others := inductionHypothesis leftsUnfold rightsUnfold ground.2 patternGround.2
            (Nat.succ.inj lengths)
          refine .congr (unifyEach_cons site patternSite (sites.zip patternSites)) ?_
          simp only [Tree.unpairedAll, Tree.equalParts]
          cases same : left.unpaired.equal right.unpaired with
          | false =>
              rw [same] at first
              obtain ⟨message, failed⟩ := first
              exact ⟨message, by rw [Action.bind_apply, failed]; rfl⟩
          | true =>
              rw [same] at first
              have matched : self.unify .binding (machine.store.find site)
                  (machine.store.find patternSite) machine = .ok [] machine := first
              refine .congr ?_ others
              rw [Action.bind_apply, matched]
              simp

theorem checkLinear_nil (mode : Mode) :
    checkLinear mode [] machine = .ok [] machine := by
  unfold checkLinear
  rw [Action.bind_apply, Action.get_apply]
  dsimp only
  split <;> rfl

/-- Match the elements of two containers if there are equally many. -/
def unifyElements (self : Evaluator) (store : Store) (term pattern : Term) (message : String) :
    Action (List Binding) :=
  if (store.components term).length != (store.components pattern).length then mismatch message
  else self.unifyLinear .binding (store.sites term) (store.sites pattern)

/-- Containers of one length match as the trees of their elements compare; the others
do not match. -/
theorem elements_answer
    (compares : Compares machine depth self)
    {parts patternParts : List Tree}
    (unfolds : (machine.store.components term).mapM (machine.store.expand false depth) =
      some parts)
    (patternUnfolds :
      (machine.store.components pattern).mapM (machine.store.expand false depth) =
        some patternParts)
    (ground : Tree.areGround parts = true)
    (patternGround : Tree.areGround patternParts = true)
    (message : String) :
    Answers machine
      (Tree.equalParts (Tree.unpairedAll parts) (Tree.unpairedAll patternParts))
      (self.unifyElements machine.store term pattern message) := by
  unfold unifyElements
  split
  · rename_i apart
    rw [Tree.equalParts_of_length_ne]
    · exact ⟨message, rfl⟩
    · rw [Tree.length_unpairedAll, Tree.length_unpairedAll,
        List.length_of_mapM unfolds, List.length_of_mapM patternUnfolds]
      simpa using apart
  · rename_i same
    have each := unifyEach_answers compares unfolds patternUnfolds ground patternGround
      (by simpa [components] using same)
    revert each
    unfold unifyLinear
    cases Tree.equalParts (Tree.unpairedAll parts) (Tree.unpairedAll patternParts) with
    | true =>
        intro matched
        change _ = _ at matched
        refine .congr ?_ (checkLinear_nil .binding)
        rw [Action.bind_apply, matched]
    | false =>
        rintro ⟨message, failed⟩
        exact ⟨message, by rw [Action.bind_apply, failed]; rfl⟩

/-! ## The rules, family by family -/

/-- A mismatch is reported with the texts of both values. -/
theorem displays_answer
    {left right : Tree}
    (shows : machine.store.expand false depth term = some left)
    (patternShows : machine.store.expand false depth pattern = some right)
    (message : String -> String -> String) :
    Answers machine false (do
      let shown ← Action.display term
      let patternShown ← Action.display pattern
      mismatch (message shown patternShown)) := by
  refine ⟨message left.display right.display, ?_⟩
  unfold Action.display
  rw [Action.bind_apply, Action.finitely_apply, Store.display?_of_expand shows]
  dsimp only
  rw [Action.bind_apply, Action.finitely_apply, Store.display?_of_expand patternShows]

/-- The last rule compares values of one kind, and takes no others. -/
theorem unifyEqual_answers
    {left right : Tree}
    (shows : machine.store.expand false depth term = some left)
    (patternShows : machine.store.expand false depth pattern = some right) :
    Answers machine (term.kind == pattern.kind && left.equal right)
      (unifyEqual term pattern) := by
  have agreed : agrees term pattern machine =
      .ok (term.kind == pattern.kind && left.equal right) machine := by
    unfold agrees Action.equal
    cases term.kind == pattern.kind with
    | false => rfl
    | true =>
        rw [if_pos rfl, Action.finitely_apply, Store.equal?_of_expand shows patternShows]
        rfl
  cases same : term.kind == pattern.kind && left.equal right with
  | true =>
      change _ = _
      unfold unifyEqual
      rw [Action.bind_apply, agreed, same]
      rfl
  | false =>
      have reported := displays_answer patternShows shows fun patternShown shown =>
        "pattern " ++ patternShown ++ " of type " ++ pattern.kind.label ++
          " does not match term " ++ shown ++ " of type " ++ term.kind.label
      refine reported.congr ?_
      unfold unifyEqual
      rw [Action.bind_apply, agreed, same]
      rfl

/-- Values of different families do not match. -/
theorem unifyStep_apart
    {left right : Tree}
    {family other : Family}
    (shows : machine.store.expand false depth term = some left)
    (patternShows : machine.store.expand false depth pattern = some right)
    (termFamily : (term.shape machine.store).family? = some family)
    (patternFamily : (pattern.shape machine.store).family? = some other)
    (apart : family ≠ other) :
    Answers machine false (self.unifyStep .binding term pattern) := by
  have last := unifyEqual_answers shows patternShows
  cases term <;>
    simp only [Term.shape, Shape.family?, Option.some.injEq, reduceCtorEq] at termFamily <;>
    subst termFamily <;>
    cases pattern <;>
    simp only [Term.shape, Shape.family?, Option.some.injEq, reduceCtorEq] at patternFamily <;>
    subst patternFamily <;>
    first
    | exact absurd rfl apart
    | exact ⟨_, rfl⟩
    | exact last.congr rfl

theorem unifyStep_numbers
    (value other : Number)
    (termNumber : term.number? = some value)
    (patternNumber : pattern.number? = some other)
    (core : pattern.isCore = true) :
    Answers machine (value.equal other) (self.unifyStep .binding term pattern) := by
  cases equal : value.equal other with
  | true => exact unifyStep_number core rfl termNumber patternNumber equal
  | false =>
      have present : term.isAbsent = false ∧ isMatchable term = true := by
        cases term <;> first | exact ⟨rfl, rfl⟩ | simp [Term.number?] at termNumber
      have differ : term.numericEqual? pattern = some false := by
        simp [Term.numericEqual?, termNumber, patternNumber, equal]
      have flat : ∀ {term : Term} {value : Number}, term.number? = some value ->
          ∃ tree, machine.store.expand false 1 term = some tree := by
        intro term value found
        cases term <;> first | exact ⟨_, rfl⟩ | simp [Term.number?] at found
      obtain ⟨left, shows⟩ := flat termNumber
      obtain ⟨right, patternShows⟩ := flat patternNumber
      rw [unifyStep_core core rfl present.1 present.2]
      unfold unifyLiteral
      rw [differ]
      exact displays_answer shows patternShows _

theorem unifyStep_lists
    (compares : Compares machine depth self)
    {cell patternCell : CellRef}
    {parts patternParts : List Tree}
    (unfolds : (machine.store.components (.list cell)).mapM
      (machine.store.expand false depth) = some parts)
    (patternUnfolds : (machine.store.components (.list patternCell)).mapM
      (machine.store.expand false depth) = some patternParts)
    (ground : Tree.areGround parts = true)
    (patternGround : Tree.areGround patternParts = true) :
    Answers machine
      (Tree.equalParts (Tree.unpairedAll parts) (Tree.unpairedAll patternParts))
      (self.unifyStep .binding (.list cell) (.list patternCell)) := by
  obtain ⟨message, step⟩ : ∃ message,
      self.unifyStep .binding (.list cell) (.list patternCell) machine =
        self.unifyElements machine.store (.list cell) (.list patternCell) message machine := by
    unfold unifyElements
    rw [Store.components_list, Store.components_list]
    exact ⟨_, rfl⟩
  exact .congr step
    (elements_answer compares unfolds patternUnfolds ground patternGround message)

/-- Tuples and pairs match alike. -/
theorem unifyStep_tuples
    (compares : Compares machine depth self)
    {terms patterns : List Term}
    {parts patternParts : List Tree}
    (elements : machine.store.tupleElements? term = some terms)
    (patternElements : machine.store.tupleElements? pattern = some patterns)
    (unfolds : (machine.store.components term).mapM (machine.store.expand false depth) =
      some parts)
    (patternUnfolds :
      (machine.store.components pattern).mapM (machine.store.expand false depth) =
        some patternParts)
    (ground : Tree.areGround parts = true)
    (patternGround : Tree.areGround patternParts = true) :
    Answers machine
      (Tree.equalParts (Tree.unpairedAll parts) (Tree.unpairedAll patternParts))
      (self.unifyStep .binding term pattern) := by
  have spelled : ∀ {term : Term} {terms : List Term},
      machine.store.tupleElements? term = some terms -> machine.store.components term = terms :=
    fun elements => Store.spreads_tuple elements machine.store (.refl _)
  obtain ⟨message, step⟩ : ∃ message, self.unifyStep .binding term pattern machine =
      self.unifyElements machine.store term pattern message machine := by
    unfold unifyElements
    rw [spelled elements, spelled patternElements, unifyStep_elements elements patternElements]
    exact ⟨_, rfl⟩
  exact .congr step
    (elements_answer compares unfolds patternUnfolds ground patternGround message)

/-- Objects match when they have the same struct and their members match. -/
theorem unifyStep_objects
    (compares : Compares machine depth self)
    {owner patternOwner : Option Template}
    {memory patternMemory : CellRef}
    {parts patternParts : List Tree}
    (unfolds : (machine.store.components (.object owner memory)).mapM
      (machine.store.expand false depth) = some parts)
    (patternUnfolds : (machine.store.components (.object patternOwner patternMemory)).mapM
      (machine.store.expand false depth) = some patternParts)
    (ground : Tree.areGround parts = true)
    (patternGround : Tree.areGround patternParts = true) :
    Answers machine
      (structName owner == structName patternOwner &&
        Tree.equalParts (Tree.unpairedAll parts) (Tree.unpairedAll patternParts))
      (self.unifyStep .binding (.object owner memory) (.object patternOwner patternMemory)) := by
  obtain ⟨apart, message, step⟩ : ∃ apart message,
      self.unifyStep .binding (.object owner memory) (.object patternOwner patternMemory)
        machine =
      (if structName owner != structName patternOwner then mismatch apart
      else self.unifyElements machine.store (.object owner memory)
        (.object patternOwner patternMemory) message) machine := by
    unfold unifyElements
    rw [Store.components_object, Store.components_object]
    exact ⟨_, _, rfl⟩
  refine .congr step ?_
  unfold bne
  cases structName owner == structName patternOwner with
  | false => exact ⟨apart, rfl⟩
  | true => exact elements_answer compares unfolds patternUnfolds ground patternGround message

theorem unifyStep_structs (template other : Template) :
    Answers machine (template.mark == other.mark)
      (self.unifyStep .binding (.struct template) (.struct other)) := by
  have shown (struct : Template) :
      machine.store.expand false 1 (.struct struct) = some (.node (.struct struct) []) := rfl
  have last : Answers machine (template.mark == other.mark)
      (unifyEqual (.struct template) (.struct other)) :=
    unifyEqual_answers (shown template) (shown other)
  have reached : self.unifyStep .binding (.struct template) (.struct other) =
      self.unifyCompound .binding (.struct template) (.struct other) := rfl
  exact last.congr (by rw [reached, unifyCompound_apply (.inl rfl)])

theorem unifyStep_closures
    (body otherBody : String)
    (captured otherCaptured : Option Closure) :
    Answers machine
      (body == otherBody && captured.map Closure.mark == otherCaptured.map Closure.mark)
      (self.unifyStep .binding (.closure body captured) (.closure otherBody otherCaptured)) := by
  have shown (body : String) (captured : Option Closure) :
      machine.store.expand false 1 (.closure body captured) =
        some (.node (.closure body captured) []) := rfl
  have last : Answers machine
      (body == otherBody && captured.map Closure.mark == otherCaptured.map Closure.mark)
      (unifyEqual (.closure body captured) (.closure otherBody otherCaptured)) :=
    unifyEqual_answers (shown body captured) (shown otherBody otherCaptured)
  have reached :
      self.unifyStep .binding (.closure body captured) (.closure otherBody otherCaptured) =
        self.unifyCompound .binding (.closure body captured)
          (.closure otherBody otherCaptured) := rfl
  exact last.congr (by rw [reached, unifyCompound_apply (.inl rfl)])

/-! ## The comparison -/

/-- Values of one family match as their trees compare. -/
theorem unifyStep_family
    (compares : Compares machine depth self)
    {parts patternParts : List Tree}
    (unfolds : (machine.store.components term).mapM (machine.store.expand false depth) =
      some parts)
    (patternUnfolds :
      (machine.store.components pattern).mapM (machine.store.expand false depth) =
        some patternParts)
    (ground : Tree.areGround parts = true)
    (patternGround : Tree.areGround patternParts = true)
    (known : (term.shape machine.store).family?.isSome = true)
    (same : (term.shape machine.store).family? = (pattern.shape machine.store).family?) :
    Answers machine
      ((Tree.node (term.shape machine.store) parts).unpaired.equal
        (Tree.node (pattern.shape machine.store) patternParts).unpaired)
      (self.unifyStep .binding term pattern) := by
  cases term with
  | integer value =>
      cases pattern with
      | integer other => exact unifyStep_numbers (.exact value) (.exact other) rfl rfl rfl
      | boolean other => exact unifyStep_numbers (.exact value) (.exact _) rfl rfl rfl
      | _ => simp [Term.shape, Shape.family?] at same
  | boolean value =>
      cases pattern with
      | integer other => exact unifyStep_numbers (.exact _) (.exact other) rfl rfl rfl
      | boolean other => exact unifyStep_numbers (.exact _) (.exact _) rfl rfl rfl
      | _ => simp [Term.shape, Shape.family?] at same
  | none =>
      cases pattern with
      | none => rfl
      | _ => simp [Term.shape, Shape.family?] at same
  | nil =>
      cases pattern with
      | nil => rfl
      | _ => simp [Term.shape, Shape.family?] at same
  | list cell =>
      cases pattern with
      | list patternCell =>
          exact unifyStep_lists compares unfolds patternUnfolds ground patternGround
      | _ => simp [Term.shape, Shape.family?] at same
  | tuple | pair =>
      cases pattern with
      | tuple | pair =>
          exact unifyStep_tuples compares rfl rfl unfolds patternUnfolds ground patternGround
      | _ => simp [Term.shape, Shape.family?] at same
  | object owner memory =>
      cases pattern with
      | object patternOwner patternMemory =>
          have matched := unifyStep_objects compares unfolds patternUnfolds ground patternGround
          -- An object is equal to itself also by its members.
          have shortcut : (owner == patternOwner && memory == patternMemory) = true ->
              (structName owner == structName patternOwner &&
                Tree.equalParts (Tree.unpairedAll parts) (Tree.unpairedAll patternParts)) =
                true := by
            intro identical
            obtain ⟨rfl, rfl⟩ : owner = patternOwner ∧ memory = patternMemory := by
              simpa using identical
            obtain rfl := Option.some.inj (unfolds.symm.trans patternUnfolds)
            simpa using Tree.equalParts_self ground
          rw [← Bool.or_eq_right_iff_imp.mpr shortcut] at matched
          exact matched
      | _ => simp [Term.shape, Shape.family?] at same
  | struct template =>
      cases pattern with
      | struct other => exact unifyStep_structs template other
      | _ => simp [Term.shape, Shape.family?] at same
  | closure body captured =>
      cases pattern with
      | closure otherBody otherCaptured =>
          exact unifyStep_closures body otherBody captured otherCaptured
      | _ => simp [Term.shape, Shape.family?] at same
  | _ => simp [Term.shape, Shape.family?] at known

/-- Matching a value against a ground value is comparing the two, a pair counting as the
tuple of its components. It suffices that the recursion may go as deep as the values
are nested. -/
theorem unify_ground
    {machine : Machine}
    {value pattern : Term}
    {depth : Nat}
    {left right : Tree}
    (unfolds : machine.store.expand false depth value = some left)
    (patternUnfolds : machine.store.expand false depth pattern = some right)
    (ground : left.isGround = true)
    (patternGround : right.isGround = true) :
    Answers machine (left.unpaired.equal right.unpaired)
      ((within depth).unify .binding value pattern) := by
  induction depth generalizing value pattern left right with
  | zero => simp [Store.expand] at unfolds
  | succ depth inductionHypothesis =>
      obtain ⟨parts, rfl, known, partsUnfold, groundParts⟩ := Store.expand_ground unfolds ground
      obtain ⟨patternParts, rfl, patternKnown, patternPartsUnfold, patternGroundParts⟩ :=
        Store.expand_ground patternUnfolds patternGround
      have compares : Compares machine depth (within depth) :=
        fun _ _ _ _ left right leftGround rightGround =>
          inductionHypothesis left right leftGround rightGround
      change Answers machine _ ((within depth).unifyStep .binding value pattern)
      by_cases same : (value.shape machine.store).family? = (pattern.shape machine.store).family?
      · exact unifyStep_family compares partsUnfold patternPartsUnfold groundParts
          patternGroundParts known same
      · obtain ⟨family, termFamily⟩ := Option.isSome_iff_exists.mp known
        obtain ⟨other, patternFamily⟩ := Option.isSome_iff_exists.mp patternKnown
        have apart : family ≠ other := by
          rintro rfl
          exact same (termFamily.trans patternFamily.symm)
        simp only [Tree.unpaired]
        rw [Tree.equal_of_family_ne termFamily patternFamily apart]
        exact unifyStep_apart unfolds patternUnfolds termFamily patternFamily apart

/-- A machine with two lists. The first holds a pair and an object, the second a tuple
and another object of the same struct. -/
def pairedMachine : Machine where
  store :=
    { cells := #[
        #[.none, .none],
        #[.pair (.integer 1) .nil, .object (some Template.exception) ⟨2⟩],
        #[.closure "f" Option.none, .integer 0],
        #[.tuple ⟨4⟩, .object (some Template.exception) ⟨5⟩],
        #[.boolean true, .nil],
        #[.closure "f" Option.none, .boolean false]]
      scopes := #[{}]
      globals := #[[]]
      nextMark := 1 }
  scopes := #[⟨0⟩]
  globals := #[⟨0⟩]

/-- The lists match each other, and neither matches its own first element. -/
theorem unify_ground_of_pair :
    (within 3).unify .binding (.list ⟨1⟩) (.list ⟨3⟩) pairedMachine = .ok [] pairedMachine ∧
    ∃ message, (within 3).unify .binding (.list ⟨3⟩) (.tuple ⟨4⟩) pairedMachine =
      mismatch message pairedMachine := by
  let member (memory : CellRef) (value : Tree) : Tree :=
    .node (.object (some Template.exception) memory [0, 1])
      [.node (.closure "f" Option.none) [], value]
  let first : Tree :=
    .node .list [.node .pair [.node (.integer 1) [], .node .nil []],
      member ⟨2⟩ (.node (.integer 0) [])]
  let tuple : Tree := .node .tuple [.node (.boolean true) [], .node .nil []]
  let second : Tree := .node .list [tuple, member ⟨5⟩ (.node (.boolean false) [])]
  have alike : Answers pairedMachine (first.unpaired.equal second.unpaired)
      ((within 3).unify .binding (.list ⟨1⟩) (.list ⟨3⟩)) := unify_ground rfl rfl rfl rfl
  have apart : Answers pairedMachine (second.unpaired.equal tuple.unpaired)
      ((within 3).unify .binding (.list ⟨3⟩) (.tuple ⟨4⟩)) := unify_ground rfl rfl rfl rfl
  exact ⟨alike, apart⟩

end Evaluator
end PatternMachine
