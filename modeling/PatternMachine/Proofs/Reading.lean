import PatternMachine.Program.Source
import PatternMachine.Proofs.Evolution

/-!
# What is read is raw

A term that is read holds no function, no struct and no object, and its lists
and tuples are cells made while it was read. Reading only adds such cells to
the store. So a program that was read respects every property of scope stacks,
and reading it takes no such property from the store.
-/

namespace PatternMachine

/-- A term without functions, structs and objects, whose cells lie between two
places. -/
@[simp] def Term.IsRaw (low high : Nat) : Term -> Prop
  | .list cell => low ≤ cell.place ∧ cell.place < high
  | .tuple cell => low ≤ cell.place ∧ cell.place < high
  | .pair first second => first.IsRaw low high ∧ second.IsRaw low high
  | .range _ _ start stop stride =>
      start.IsRaw low high ∧ stop.IsRaw low high ∧ stride.IsRaw low high
  | .headTail _ _ head tail => head.IsRaw low high ∧ tail.IsRaw low high
  | .sequence _ first second => first.IsRaw low high ∧ second.IsRaw low high
  | .closure _ _ => False
  | .apply _ callee argument => callee.IsRaw low high ∧ argument.IsRaw low high
  | .index _ subject selector => subject.IsRaw low high ∧ selector.IsRaw low high
  | .conditional _ condition consequent alternative =>
      condition.IsRaw low high ∧ consequent.IsRaw low high ∧ alternative.IsRaw low high
  | .isMatch _ subject pattern => subject.IsRaw low high ∧ pattern.IsRaw low high
  | .membership _ element container => element.IsRaw low high ∧ container.IsRaw low high
  | .evaluation _ expression => expression.IsRaw low high
  | .named _ _ pattern => pattern.IsRaw low high
  | .constraint _ pattern => pattern.IsRaw low high
  | .quote expression => expression.IsRaw low high
  | .deref _ expression => expression.IsRaw low high
  | .struct _ => False
  | .object _ _ => False
  | .method _ _ _ => False
  | .dataMember _ value => value.IsRaw low high
  | .initMember _ value pattern => value.IsRaw low high ∧ pattern.IsRaw low high
  | _ => True

/-- A term that holds no function: it respects every property. -/
def Term.Plain (term : Term) : Prop :=
  ∀ property, term.Respects property

namespace Term.IsRaw

variable {low high later : Nat} {term : Term}

theorem mono
    (raw : term.IsRaw low high)
    (grows : high ≤ later) :
    term.IsRaw low later := by
  induction term with
  | list cell => exact ⟨raw.1, Nat.lt_of_lt_of_le raw.2 grows⟩
  | tuple cell => exact ⟨raw.1, Nat.lt_of_lt_of_le raw.2 grows⟩
  | _ => simp_all

theorem plain (raw : term.IsRaw low high) : term.Plain := by
  intro property
  induction term with
  | closure body captured => exact raw.elim
  | method mark receiver body => exact raw.elim
  | _ => simp_all

end Term.IsRaw

/-- A store to which marks and cells of raw terms were added. -/
structure Store.Extends (base : Nat) (before after : Store) : Prop where
  scopes : after.scopes = before.scopes
  globals : after.globals = before.globals
  size : before.cells.size ≤ after.cells.size
  kept : ∀ cell : CellRef, cell.place < before.cells.size ->
    after.elements cell = before.elements cell
  added : ∀ cell : CellRef, before.cells.size ≤ cell.place ->
    ∀ element ∈ after.elements cell, element.IsRaw base after.cells.size

namespace Store.Extends

variable {base : Nat}

/-- A cell that does not exist has no elements. -/
theorem elements_of_le
    (store : Store)
    {cell : CellRef}
    (missing : store.cells.size ≤ cell.place) :
    store.elements cell = #[] := by
  simp [Store.elements, Array.getElem?_eq_none missing]

theorem refl (store : Store) : store.Extends base store where
  scopes := rfl
  globals := rfl
  size := Nat.le_refl _
  kept := fun _ _ => rfl
  added := by
    intro cell missing element inside
    simp [elements_of_le store missing] at inside

theorem trans
    {first second third : Store}
    (earlier : first.Extends base second)
    (later : second.Extends base third) :
    first.Extends base third where
  scopes := later.scopes.trans earlier.scopes
  globals := later.globals.trans earlier.globals
  size := Nat.le_trans earlier.size later.size
  kept := by
    intro cell known
    rw [later.kept cell (Nat.lt_of_lt_of_le known earlier.size), earlier.kept cell known]
  added := by
    intro cell new element inside
    by_cases early : cell.place < second.cells.size
    · rw [later.kept cell early] at inside
      exact (earlier.added cell new element inside).mono later.size
    · exact later.added cell (by omega) element inside

/-- Reading takes no property of functions from a store. -/
theorem respects
    {before after : Store}
    (extended : before.Extends base after)
    (property : StackProperty)
    (respects : before.Respects property) :
    after.Respects property where
  cells := by
    intro cell element inside
    by_cases old : cell.place < before.cells.size
    · rw [extended.kept cell old] at inside
      exact respects.cells cell element inside
    · exact (extended.added cell (by omega) element inside).plain property
  scopes := by
    intro ref entry inside
    have same : after.scope ref = before.scope ref := by
      simp only [Store.scope, extended.scopes]
    rw [same] at inside
    exact respects.scopes ref entry inside

end Store.Extends

namespace Program

open Document (Node)

variable {α β : Type} {base size : Nat}

/-- A reading that succeeds on a store of at least `size` cells only extends the
store, and what it yields satisfies `answer`. -/
def Read.Inert (base size : Nat) (reading : Read α) (answer : Nat -> α -> Prop) : Prop :=
  ∀ store value after, base ≤ store.cells.size -> size ≤ store.cells.size ->
    reading store = .ok value after ->
    store.Extends base after ∧ answer after.cells.size value

/-- A reading that yields a raw term. -/
abbrev Read.YieldsRaw (base size : Nat) (reading : Read Term) : Prop :=
  reading.Inert base size fun size term => term.IsRaw base size

namespace Read
namespace Inert

theorem pure
    {value : α}
    {answer : Nat -> α -> Prop}
    (holds : ∀ later, size ≤ later -> answer later value) :
    Inert base size (Pure.pure value) answer := by
  intro store result after _ known run
  obtain ⟨rfl, rfl⟩ : value = result ∧ store = after := by simpa [Pure.pure, EStateM.pure] using run
  exact ⟨.refl store, holds _ known⟩

/-- A raw term at hand is yielded. -/
theorem pureRaw
    {term : Term}
    (raw : term.IsRaw base size) :
    Inert base size (Pure.pure term) fun size term => term.IsRaw base size :=
  pure fun _ grows => raw.mono grows

theorem throw
    {error : LoadError}
    {answer : Nat -> α -> Prop} :
    Inert base size (MonadExcept.throw error) answer := by
  intro store result after _ _ run
  cases run

theorem fail
    {node : Node}
    {problem : Problem}
    {answer : Nat -> α -> Prop} :
    Inert base size (Read.fail node problem) answer :=
  throw

theorem bind
    {reading : Read α}
    {next : α -> Read β}
    {middle : Nat -> α -> Prop}
    {answer : Nat -> β -> Prop}
    (first : Inert base size reading middle)
    (second : ∀ later value, size ≤ later -> middle later value ->
      Inert base later (next value) answer) :
    Inert base size (reading >>= next) answer := by
  intro store result after started known run
  change EStateM.bind reading next store = _ at run
  unfold EStateM.bind at run
  cases outcome : reading store with
  | error error final => simp [outcome] at run
  | ok value final =>
      simp only [outcome] at run
      obtain ⟨earlier, holds⟩ := first store value final started known outcome
      obtain ⟨later, answered⟩ := second final.cells.size value
        (Nat.le_trans known earlier.size) holds final result after
        (Nat.le_trans started earlier.size) (Nat.le_refl _) run
      exact ⟨earlier.trans later, answered⟩

theorem mono
    {reading : Read α}
    {middle answer : Nat -> α -> Prop}
    (inert : Inert base size reading middle)
    (implies : ∀ later value, middle later value -> answer later value) :
    Inert base size reading answer := by
  intro store result after started known run
  obtain ⟨extended, holds⟩ := inert store result after started known run
  exact ⟨extended, implies _ result holds⟩

/-- Adding to an error where it happened changes no success. -/
theorem within
    {reading : Read α}
    {context : LoadError -> LoadError}
    {answer : Nat -> α -> Prop}
    (inert : Inert base size reading answer) :
    Inert base size (Read.within context reading) answer := by
  intro store result after started known run
  refine inert store result after started known ?_
  revert run
  change EStateM.tryCatch reading _ store = _ -> _
  unfold EStateM.tryCatch
  cases reading store with
  | ok value final => exact id
  | error error final =>
      intro run
      cases run

theorem mark : Inert base size Read.mark fun _ _ => True := by
  intro store value after _ _ run
  cases run
  have unchanged : store.Extends base store := .refl store
  exact ⟨⟨rfl, rfl, unchanged.size, unchanged.kept, unchanged.added⟩, trivial⟩

theorem newCell
    {elements : List Term}
    (raw : ∀ element ∈ elements, element.IsRaw base size) :
    Inert base size (modifyGet fun store => store.newCell elements.toArray) fun size cell =>
      base ≤ cell.place ∧ cell.place < size := by
  intro store value after started known run
  obtain ⟨rfl, rfl⟩ : (store.newCell elements.toArray).1 = value ∧
      (store.newCell elements.toArray).2 = after := by
    cases run
    exact ⟨rfl, rfl⟩
  have grown : (store.newCell elements.toArray).2.cells.size = store.cells.size + 1 := by
    simp [Store.newCell]
  refine ⟨⟨rfl, rfl, by omega, ?_, ?_⟩, started, ?_⟩
  · exact fun cell old => store.elements_newCell_of_lt _ old
  · intro cell new element inside
    rcases store.elements_newCell elements.toArray cell with here | elsewhere
    · rw [here] at inside
      exact (raw element (by simpa using inside)).mono (by omega)
    · rw [elsewhere, Store.Extends.elements_of_le store new] at inside
      simp at inside
  · rw [grown]
    exact Nat.lt_succ_self _

theorem newList
    {elements : List Term}
    (raw : ∀ element ∈ elements, element.IsRaw base size) :
    Inert base size (Read.newList elements) fun size term => term.IsRaw base size :=
  (newCell raw).bind fun _ _ _ placed => pureRaw placed

theorem newTuple
    {elements : List Term}
    (raw : ∀ element ∈ elements, element.IsRaw base size) :
    Inert base size (Read.newTuple elements) fun size term => term.IsRaw base size :=
  (newCell raw).bind fun _ _ _ placed => pureRaw placed

theorem scalar {node : Node} : Inert base size (Read.scalar node) fun _ _ => True := by
  cases node with
  | scalar => exact pure fun _ _ => trivial
  | _ => exact fail

/-- Reading several things, each of which keeps its property while the others are
read. -/
theorem all
    {readings : List (Read α)}
    {answer : Nat -> α -> Prop}
    (stable : ∀ {earlier later value}, earlier ≤ later -> answer earlier value ->
      answer later value)
    (inert : ∀ reading ∈ readings, ∀ size, Inert base size reading answer) :
    Inert base size (Read.all readings) fun size values => ∀ value ∈ values, answer size value := by
  induction readings generalizing size with
  | nil => exact pure fun _ _ => by simp
  | cons reading rest inductionHypothesis =>
      obtain ⟨readingInert, restInert⟩ := List.forall_mem_cons.mp inert
      refine (readingInert size).bind fun _ value _ holds => ?_
      refine (inductionHypothesis restInert).bind fun _ values grows allHold => ?_
      exact pure fun _ last => List.forall_mem_cons.mpr
        ⟨stable (Nat.le_trans grows last) holds, fun other inside => stable last (allHold other inside)⟩

/-- Reading each of several things in the same way. -/
theorem allOf
    {items : List β}
    {read : β -> Read α}
    {answer : Nat -> α -> Prop}
    (stable : ∀ {earlier later value}, earlier ≤ later -> answer earlier value ->
      answer later value)
    (inert : ∀ item size, Inert base size (read item) answer) :
    Inert base size (Read.all (items.map read)) fun size values =>
      ∀ value ∈ values, answer size value := by
  refine all stable fun reading member => ?_
  obtain ⟨item, _, rfl⟩ := List.mem_map.mp member
  exact inert item

theorem checkKeys
    {allowed : List String}
    {entries : List (Node × α)} :
    Inert base size (Read.checkKeys allowed entries) fun _ _ => True := by
  induction entries with
  | nil => exact pure fun _ _ => trivial
  | cons entry rest inductionHypothesis =>
      unfold Read.checkKeys
      split
      · exact inductionHypothesis
      · exact fail

theorem literal
    {node : Node}
    {tag value : String} :
    Inert base size (Read.literal node tag value) fun size term => term.IsRaw base size := by
  unfold Read.literal
  -- The tag decides the kind of literal; a text that spells none is refused.
  repeat' split
  all_goals first
    | exact pure fun _ _ => trivial
    | exact fail

end Inert
end Read

/-! ## Terms -/

/-- The steps that read the parts of an operand yield raw terms. -/
structure Operand.Inert (base : Nat) (operand : Operand) : Prop where
  whole : ∀ size, operand.whole.YieldsRaw base size
  items : ∀ part ∈ operand.items, ∀ size, part.term.YieldsRaw base size
  entries : ∀ entry ∈ operand.entries, ∀ size, entry.2.term.YieldsRaw base size

namespace Operand
namespace Inert

variable {operand : Operand}

theorem sequence
    (inert : operand.Inert base)
    {otherwise : Problem} :
    (operand.sequence otherwise).Inert base size fun _ parts =>
      ∀ part ∈ parts, ∀ size, part.term.YieldsRaw base size := by
  unfold Operand.sequence
  split
  · exact .pure fun _ _ => inert.items
  · exact .fail

theorem allTerms
    {parts : List Part}
    (inert : ∀ part ∈ parts, ∀ size, part.term.YieldsRaw base size) :
    (Read.all (parts.map Part.term)).Inert base size fun size terms =>
      ∀ term ∈ terms, term.IsRaw base size := by
  refine .all (fun grows raw => Term.IsRaw.mono raw grows) fun reading member => ?_
  obtain ⟨part, inParts, rfl⟩ := List.mem_map.mp member
  exact inert part inParts

theorem elements (inert : operand.Inert base) :
    operand.elements.Inert base size fun size terms => ∀ term ∈ terms, term.IsRaw base size :=
  inert.sequence.bind fun _ _ _ partsInert => allTerms partsInert

theorem two
    (inert : operand.Inert base)
    {construct : Term -> Term -> Read Term}
    (constructed : ∀ {size} {first second : Term}, first.IsRaw base size ->
      second.IsRaw base size ->
      (construct first second).Inert base size fun size term => term.IsRaw base size) :
    (operand.two construct).YieldsRaw base size := by
  refine inert.elements.bind fun _ terms _ raw => ?_
  split
  · exact constructed (raw _ (by simp)) (raw _ (by simp))
  · exact .fail

/-- A construct of two operands that carries a mark. -/
theorem twoMarked
    (inert : operand.Inert base)
    {construct : Mark -> Term -> Term -> Term}
    (constructed : ∀ {size mark first second}, first.IsRaw base size -> second.IsRaw base size ->
      (construct mark first second).IsRaw base size) :
    (operand.two fun first second => do
      return construct (← Read.mark) first second).YieldsRaw base size :=
  inert.two fun firstRaw secondRaw => Read.Inert.mark.bind fun _ _ grows _ =>
    .pureRaw (constructed (firstRaw.mono grows) (secondRaw.mono grows))

/-- A construct of one operand that carries a mark. -/
theorem wholeMarked
    (inert : operand.Inert base)
    {construct : Mark -> Term -> Term}
    (constructed : ∀ {size mark term}, term.IsRaw base size ->
      (construct mark term).IsRaw base size) :
    (do
      let expression ← operand.whole
      return construct (← Read.mark) expression : Read Term).YieldsRaw base size :=
  (inert.whole _).bind fun _ _ _ raw =>
    Read.Inert.mark.bind fun _ _ grows _ => .pureRaw (constructed (raw.mono grows))

theorem fields
    (inert : operand.Inert base)
    {allowed : List String} :
    (operand.fields allowed).Inert base size fun _ entries =>
      ∀ entry ∈ entries, ∀ size, entry.2.term.YieldsRaw base size := by
  unfold Operand.fields
  split
  · exact Read.Inert.checkKeys.bind fun _ _ _ _ => .pure fun _ _ => inert.entries
  · exact .fail

theorem valueOf
    {entries : List (Node × Part)}
    (inert : ∀ entry ∈ entries, ∀ size, entry.2.term.YieldsRaw base size)
    {key : String}
    {part : Part}
    (found : Read.valueOf? key entries = some part) :
    ∀ size, part.term.YieldsRaw base size := by
  obtain ⟨entry, located, rfl⟩ := Option.map_eq_some_iff.mp found
  exact inert entry (List.mem_reverse.mp (List.mem_of_find?_eq_some located))

theorem required
    {entries : List (Node × Part)}
    (inert : ∀ entry ∈ entries, ∀ size, entry.2.term.YieldsRaw base size)
    {key : String} :
    (operand.required entries key).YieldsRaw base size := by
  unfold Operand.required
  split
  · rename_i part found
    exact valueOf inert found _
  · exact .fail

theorem optional
    {entries : List (Node × Part)}
    (inert : ∀ entry ∈ entries, ∀ size, entry.2.term.YieldsRaw base size)
    {key : String} :
    (Operand.optional entries key).YieldsRaw base size := by
  unfold Operand.optional
  split
  · rename_i part found
    exact valueOf inert found _
  · exact .pureRaw trivial

theorem scalarAs
    {γ : Type}
    {read? : String -> Option γ}
    {construct : γ -> Term}
    {otherwise : String -> Problem}
    (raw : ∀ size value, (construct value).IsRaw base size) :
    (operand.scalarAs read? construct otherwise).YieldsRaw base size := by
  refine Read.Inert.scalar.bind fun _ source _ _ => ?_
  split
  · exact .pureRaw (raw _ _)
  · exact .fail

theorem range
    (inert : operand.Inert base)
    {raw : Bool} :
    (operand.range raw).YieldsRaw base size := by
  refine inert.fields.bind fun _ entries _ entriesInert => ?_
  refine (required entriesInert).bind fun _ start _ startRaw => ?_
  refine (required entriesInert).bind fun _ stop stopGrows stopRaw => ?_
  refine (optional entriesInert).bind fun _ stride strideGrows strideRaw => ?_
  refine Read.Inert.mark.bind fun _ mark markGrows _ => .pureRaw ?_
  exact ⟨startRaw.mono (by omega), stopRaw.mono (by omega), strideRaw.mono markGrows⟩

theorem call (inert : operand.Inert base) : operand.call.YieldsRaw base size := by
  have applied : ∀ {size} name (argument : Term), argument.IsRaw base size ->
      (do return .apply (← Read.mark) (.identifier name) argument :
        Read Term).YieldsRaw base size := by
    intro size name argument raw
    refine Read.Inert.mark.bind fun _ mark grows _ => .pureRaw ?_
    exact ⟨trivial, raw.mono grows⟩
  refine inert.sequence.bind fun _ parts _ partsInert => ?_
  split
  · exact .fail
  · rename_i name arguments
    obtain ⟨_, argumentsInert⟩ := List.forall_mem_cons.mp partsInert
    refine Read.Inert.scalar.bind fun _ name _ _ => ?_
    refine (allTerms argumentsInert).bind fun _ terms _ raw => ?_
    split
    · exact applied name .none trivial
    · exact applied name _ (raw _ (by simp))
    · exact (Read.Inert.newTuple raw).bind fun _ _ _ => applied name _

theorem operatorOf {node : Node} : (operatorOf node).Inert base size fun _ _ => True := by
  refine Read.Inert.scalar.bind fun _ sign _ _ => ?_
  split
  · exact .pure fun _ _ => trivial
  · exact .fail

theorem operation (inert : operand.Inert base) : operand.operation.YieldsRaw base size := by
  refine inert.sequence.bind fun _ parts _ partsInert => ?_
  split
  · rename_i sign only
    refine operatorOf.bind fun _ operator _ _ => ?_
    refine (partsInert only (by simp) _).bind fun _ argument _ raw => ?_
    exact Read.Inert.mark.bind fun _ mark grows _ => .pureRaw ⟨trivial, raw.mono grows⟩
  · rename_i sign left right
    refine operatorOf.bind fun _ operator _ _ => ?_
    have operands : ∀ part ∈ [left, right], ∀ size, part.term.YieldsRaw base size :=
      fun part member => partsInert part (List.mem_cons_of_mem _ member)
    refine (allTerms operands).bind fun _ terms _ raw => ?_
    refine (Read.Inert.newTuple raw).bind fun _ argument _ argumentRaw => ?_
    exact Read.Inert.mark.bind fun _ mark grows _ => .pureRaw ⟨trivial, argumentRaw.mono grows⟩
  · exact .fail

theorem conditional (inert : operand.Inert base) : operand.conditional.YieldsRaw base size := by
  refine inert.fields.bind fun _ entries _ entriesInert => ?_
  refine (required entriesInert).bind fun _ condition _ conditionRaw => ?_
  refine (required entriesInert).bind fun _ consequent consequentGrows consequentRaw => ?_
  refine (optional entriesInert).bind fun _ alternative alternativeGrows alternativeRaw => ?_
  refine Read.Inert.mark.bind fun _ mark markGrows _ => .pureRaw ?_
  exact ⟨conditionRaw.mono (by omega), consequentRaw.mono (by omega),
    alternativeRaw.mono markGrows⟩

theorem termAndPattern
    (inert : operand.Inert base)
    {construct : Mark -> Term -> Term -> Term}
    (constructed : ∀ {size mark first second}, first.IsRaw base size -> second.IsRaw base size ->
      (construct mark first second).IsRaw base size) :
    (operand.termAndPattern construct).YieldsRaw base size := by
  refine inert.fields.bind fun _ entries _ entriesInert => ?_
  refine (required entriesInert).bind fun _ term _ termRaw => ?_
  refine (required entriesInert).bind fun _ pattern patternGrows patternRaw => ?_
  refine Read.Inert.mark.bind fun _ mark markGrows _ => .pureRaw ?_
  exact constructed (termRaw.mono (by omega)) (patternRaw.mono markGrows)

theorem namedPattern (inert : operand.Inert base) : operand.namedPattern.YieldsRaw base size := by
  refine inert.fields.bind fun _ entries _ entriesInert => ?_
  split
  · exact .fail
  · refine Read.Inert.scalar.bind fun _ name _ _ => ?_
    refine (required entriesInert).bind fun _ pattern _ patternRaw => ?_
    exact Read.Inert.mark.bind fun _ mark grows _ => .pureRaw (patternRaw.mono grows)

theorem typePattern : operand.typePattern.YieldsRaw base size :=
  Read.Inert.scalar.bind fun _ _ _ _ => Read.Inert.mark.bind fun _ _ _ _ => .pureRaw trivial

theorem identifier : operand.identifier.YieldsRaw base size := by
  refine Read.Inert.scalar.bind fun _ name _ _ => ?_
  split
  · exact .fail
  · exact .pureRaw trivial

theorem lineNumber {node : Node} : (lineNumber node).Inert base size fun _ _ => True := by
  unfold Operand.lineNumber
  split
  · exact .pure fun _ _ => trivial
  · exact .fail

theorem optionalLine
    (moduleName : String)
    (line : Option Node) :
    (match line with
      | some line => Operand.lineNumber line >>= fun line => Pure.pure { moduleName, line }
      | none => Pure.pure 0 >>= fun line => Pure.pure { moduleName, line } :
        Read Position).Inert base size fun _ _ => True := by
  cases line with
  | some line => exact lineNumber.bind fun _ _ _ _ => .pure fun _ _ => trivial
  | none =>
      have zero : (Pure.pure 0 : Read Int).Inert base size fun _ _ => True :=
        .pure fun _ _ => trivial
      exact zero.bind fun _ _ _ _ => .pure fun _ _ => trivial

theorem position
    {moduleName : String}
    {node : Node} :
    (position moduleName node).Inert base size fun _ _ => True := by
  unfold Operand.position
  split
  · exact lineNumber.bind fun _ _ _ _ => .pure fun _ _ => trivial
  · refine Read.Inert.checkKeys.bind fun later _ _ _ => ?_
    dsimp only
    split
    · exact Read.Inert.scalar.bind fun _ name _ _ => optionalLine name _
    · have unnamed : (Pure.pure moduleName : Read String).Inert base later fun _ _ => True :=
        .pure fun _ _ => trivial
      exact unnamed.bind fun _ name _ _ => optionalLine name _
  · exact .fail

theorem foreignValue : operand.foreignValue.YieldsRaw base size := by
  unfold Operand.foreignValue
  split
  · exact Read.Inert.mark.bind fun _ _ _ _ => .pureRaw trivial
  · exact .fail

/-- Every construct is read as a raw term. -/
theorem construct
    (inert : operand.Inert base)
    {moduleName key : String}
    {reading : Read Term}
    (named : operand.construct? moduleName key = some reading) :
    reading.YieldsRaw base size := by
  have marked : ∀ {size} (construct : Mark -> Term),
      (∀ size mark, (construct mark).IsRaw base size) ->
      (do return construct (← Read.mark) : Read Term).YieldsRaw base size :=
    fun construct raw => Read.Inert.mark.bind fun _ mark _ _ => .pureRaw (raw _ mark)
  unfold Operand.construct? at named
  split at named
  all_goals first
    | obtain rfl := Option.some.inj named
    | simp at named
  · exact scalarAs fun _ _ => trivial
  · exact scalarAs fun _ _ => trivial
  · exact scalarAs fun _ _ => trivial
  · exact scalarAs fun _ _ => trivial
  · exact .pureRaw trivial
  · exact .pureRaw trivial
  · exact inert.elements.bind fun _ _ _ => .newList
  · exact inert.elements.bind fun _ _ _ => .newTuple
  · exact inert.two fun first second => .pureRaw ⟨first, second⟩
  · exact inert.range
  · exact inert.range
  · exact inert.twoMarked fun first second => ⟨first, second⟩
  · exact inert.twoMarked fun first second => ⟨first, second⟩
  · exact inert.twoMarked fun first second => ⟨first, second⟩
  · exact Read.Inert.scalar.bind fun _ _ _ _ => marked _ fun _ _ => trivial
  · exact inert.twoMarked fun first second => ⟨first, second⟩
  · exact inert.call
  · exact inert.operation
  · exact inert.twoMarked fun first second => ⟨first, second⟩
  · exact inert.conditional
  · exact inert.termAndPattern fun first second => ⟨first, second⟩
  · exact inert.twoMarked fun first second => ⟨first, second⟩
  · exact inert.wholeMarked fun raw => raw
  · exact Read.Inert.scalar.bind fun _ _ _ _ => marked _ fun _ _ => trivial
  · exact inert.namedPattern
  · exact typePattern
  · exact inert.wholeMarked fun raw => raw
  · exact (inert.whole _).bind fun _ _ _ raw => .pureRaw raw
  · exact inert.wholeMarked fun raw => raw
  · exact identifier
  · exact position.bind fun _ _ _ _ => marked _ fun _ _ => trivial
  · exact inert.wholeMarked fun raw => raw
  · exact inert.termAndPattern fun first second => ⟨first, second⟩
  · exact foreignValue

end Inert
end Operand

/-- What is read as a term is raw. -/
theorem term_inert (moduleName : String) (node : Node) :
    ∀ size, (term moduleName node).YieldsRaw base size := by
  refine term.induct moduleName
    (fun node => ∀ size, (term moduleName node).YieldsRaw base size)
    (fun node => ∀ entry ∈ entryParts moduleName node, ∀ size, entry.2.term.YieldsRaw base size)
    (fun entries => ∀ entry ∈ valueParts moduleName entries,
      ∀ size, entry.2.term.YieldsRaw base size)
    (fun node => ∀ part ∈ itemParts moduleName node, ∀ size, part.term.YieldsRaw base size)
    (fun items => ∀ part ∈ parts moduleName items, ∀ size, part.term.YieldsRaw base size)
    ?missing ?scalar ?sequence ?construct ?unknown ?notOneKey ?reference ?selfReference
    ?entries ?noEntries ?items ?noItems ?nil ?cons ?nilEntries ?consEntries node
  case missing =>
    intro size
    unfold term
    exact .fail
  case scalar =>
    intro line tag value size
    unfold term
    exact .literal
  case sequence =>
    intro line tag items inert size
    unfold term
    exact (Operand.Inert.allTerms inert).bind fun _ _ _ => .newList
  case construct =>
    intro line tag key node operand reading named whole items entries size
    have operandInert : operand.Inert base := ⟨whole, items, entries⟩
    unfold term
    simp only [operand] at named
    simp only [named]
    exact operandInert.construct named
  case unknown =>
    intro line tag key node operand named _ _ _ size
    unfold term
    simp only [operand] at named
    simp only [named]
    exact .fail
  case notOneKey =>
    intro line tag entries several size
    unfold term
    split
    · exact absurd rfl (several _ _)
    · exact .fail
  case reference =>
    intro line name target inert size
    unfold term
    exact inert size
  case selfReference =>
    intro line name size
    unfold term
    exact .throw
  case entries =>
    intro line tag entries inert
    unfold entryParts
    exact inert
  case noEntries =>
    intro node noMapping entry member
    unfold entryParts at member
    split at member
    · exact absurd rfl (noMapping _ _ _)
    · simp at member
  case items =>
    intro line tag items inert
    unfold itemParts
    exact inert
  case noItems =>
    intro node noSequence part member
    unfold itemParts at member
    split at member
    · exact absurd rfl (noSequence _ _ _)
    · simp at member
  case nil =>
    intro part member
    simp [parts] at member
  case cons =>
    intro node rest inert restInert
    unfold parts
    exact List.forall_mem_cons.mpr ⟨inert, restInert⟩
  case nilEntries =>
    intro entry member
    simp [valueParts] at member
  case consEntries =>
    intro key node rest inert restInert
    unfold valueParts
    exact List.forall_mem_cons.mpr ⟨inert, restInert⟩

end Program
end PatternMachine
