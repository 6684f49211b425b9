import Mathlib.Data.List.Basic
import PatternMachine.Document.Decode

/-!
# Writing aliases out

Every alias of a document is replaced by the node it stands for. A node that is
no alias keeps its form, its line, its text and its tag.

Decoding looks through an alias wherever a value stands. It does not where a key stands,
and of what is merged it looks at the form first. Elsewhere a node has the value it has
with its aliases written out; only the count of aliased nodes differs, so a document
without aliases is never refused for having too many.
-/

namespace PatternMachine
namespace Document
namespace Node

/-- Whether a node is an alias. -/
@[simp] def isAlias : Node -> Bool
  | reference _ _ _ => true
  | _ => false

/-- The items of a sequence. -/
@[simp] def items : Node -> List Node
  | sequence _ _ items => items
  | _ => []

/-- The entries of a mapping. -/
@[simp] def entries : Node -> List (Node × Node)
  | mapping _ _ entries => entries
  | _ => []

mutual

/-- A node with every alias replaced by the node it stands for. -/
@[simp] def expanded : Node -> Node
  | missing => missing
  | scalar line tag value => scalar line tag value
  | sequence line tag items => sequence line tag (expandedItems items)
  | mapping line tag entries => mapping line tag (expandedEntries entries)
  | reference _ _ target => target.expanded
  | selfReference line name => selfReference line name

/-- Items with every alias replaced. -/
@[simp] def expandedItems : List Node -> List Node
  | [] => []
  | node :: rest => node.expanded :: expandedItems rest

/-- Entries with every alias replaced, in keys and in values. -/
@[simp] def expandedEntries : List (Node × Node) -> List (Node × Node)
  | [] => []
  | (key, item) :: rest => (key.expanded, item.expanded) :: expandedEntries rest

end

theorem expandedItems_eq_map (items : List Node) : expandedItems items = items.map expanded := by
  induction items with
  | nil => rfl
  | cons node rest inductionHypothesis => simp [inductionHypothesis]

theorem expandedEntries_eq_map (entries : List (Node × Node)) :
    expandedEntries entries = entries.map (Prod.map expanded expanded) := by
  induction entries with
  | nil => rfl
  | cons entry rest inductionHypothesis => simp [inductionHypothesis, Prod.map]

variable {node other : Node}

theorem expanded_line (plain : node.isAlias = false) : node.expanded.line = node.line := by
  cases node with
  | reference => cases plain
  | _ => rfl

theorem expanded_value (plain : node.isAlias = false) : node.expanded.value = node.value := by
  cases node with
  | reference => cases plain
  | _ => rfl

/-- An alias has the tag of the node it stands for, so no node changes its tag. -/
@[simp] theorem expanded_tag (node : Node) : node.expanded.tag = node.tag := by
  fun_induction Node.tag node with
  | case5 line name target inductionHypothesis => simpa using inductionHypothesis
  | _ => rfl

theorem expanded_sameForm
    (plain : node.isAlias = false)
    (otherPlain : other.isAlias = false) :
    node.expanded.sameForm other.expanded = node.sameForm other := by
  cases node with
  | reference => cases plain
  | _ =>
      cases other with
      | reference => cases otherPlain
      | _ => rfl

theorem expanded_isMerge (plain : node.isAlias = false) :
    node.expanded.isMerge = node.isMerge := by
  cases node with
  | reference => cases plain
  | _ => rfl

theorem resolved_eq (plain : node.isAlias = false) : node.resolved = node := by
  cases node with
  | reference => cases plain
  | _ => rfl

/-- No alias is left. -/
@[simp] theorem expanded_isAlias (node : Node) : node.expanded.isAlias = false := by
  fun_induction Node.tag node with
  | case5 line name target inductionHypothesis => simpa using inductionHypothesis
  | _ => rfl

/-! ## Aliases that decoding looks through -/

/-- Whether a node is a sequence. -/
@[simp] def isSequence : Node -> Bool
  | sequence _ _ _ => true
  | _ => false

/-- Whether a node is an alias that stands for an alias. -/
@[simp] def isAliasOfAlias : Node -> Bool
  | reference _ _ target => target.isAlias
  | _ => false

mutual

/-- Whether every alias in a node stands where decoding looks through it. -/
@[simp] def isTransparent : Node -> Bool
  | sequence _ _ items => areTransparent items
  | mapping _ _ entries => entriesTransparent entries
  | reference _ _ target => target.isTransparent
  | _ => true

/-- Whether every alias in several nodes stands where decoding looks through it. -/
@[simp] def areTransparent : List Node -> Bool
  | [] => true
  | node :: rest => node.isTransparent && areTransparent rest

/-- Whether every alias in the entries of a mapping stands where decoding looks through
it; no alias is a key. -/
@[simp] def entriesTransparent : List (Node × Node) -> Bool
  | [] => true
  | (key, item) :: rest =>
      !key.isAlias && key.isTransparent &&
        (if key.isMerge then item.mergesTransparently else item.isTransparent) &&
        entriesTransparent rest

/-- Whether every alias in what is merged stands where decoding looks through it. An
alias has to stand for one mapping to be merged, not for several. -/
@[simp] def mergesTransparently : Node -> Bool
  | mapping _ _ entries => entriesTransparent entries
  | sequence _ _ items => allMergeTransparently items
  | reference _ _ target => !target.isAlias && !target.isSequence && target.isTransparent
  | _ => true

/-- Whether every alias in several mappings to be merged stands where decoding looks
through it. -/
@[simp] def allMergeTransparently : List Node -> Bool
  | [] => true
  | node :: rest =>
      !node.isAliasOfAlias && node.isTransparent && allMergeTransparently rest

end

end Node

/-- The progress once one more node is counted. -/
def Progress.counting (throughAlias : Bool) (progress : Progress) : Progress :=
  { progress with
    nodes := progress.nodes + 1
    aliased := progress.aliased + (if throughAlias then 1 else 0) }

namespace Decode

variable {α β γ δ : Type}

/-- Counting a node fails if too many nodes came from aliases. -/
theorem enter_eq (throughAlias : Bool) (progress : Progress) :
    enter throughAlias progress =
      if tooManyAliases (progress.counting throughAlias) then
        .error .excessiveAliases (progress.counting throughAlias)
      else .ok () (progress.counting throughAlias) := by
  change (if tooManyAliases (progress.counting throughAlias) then throw .excessiveAliases
    else pure () : Decode Unit) (progress.counting throughAlias) = _
  by_cases many : tooManyAliases (progress.counting throughAlias)
  · rw [if_pos many, if_pos many]
    rfl
  · rw [if_neg many, if_neg many]
    rfl

/-- What two runs of a decoding come to, the second of them without aliases: the same
faults and related values, or the same failure, unless the first one met too many
aliases. -/
def SameOutcome (related : α -> β -> Prop) :
    EStateM.Result Failure Progress α -> EStateM.Result Failure Progress β -> Prop
  | .error .excessiveAliases _, _ => True
  | .error cause _, .error other _ => cause = other
  | .ok value after, .ok other later =>
      related value other ∧ after.faults = later.faults ∧ later.aliased = 0
  | _, _ => False

/-- The second decoding does without aliases what the first one does. -/
def Unaliases (related : α -> β -> Prop) (first : Decode α) (second : Decode β) : Prop :=
  ∀ progress other, progress.faults = other.faults -> other.aliased = 0 ->
    SameOutcome related (first progress) (second other)

namespace Unaliases

variable {related : α -> β -> Prop} {first : Decode α} {second : Decode β}

theorem pure
    {value : α}
    {other : β}
    (holds : related value other) :
    Unaliases related (Pure.pure value) (Pure.pure other) :=
  fun _ _ faults unaliased => ⟨holds, faults, unaliased⟩

theorem throw {cause : Failure} :
    Unaliases related (MonadExcept.throw cause) (MonadExcept.throw cause) := by
  intro progress other _ _
  cases cause with
  | excessiveAliases => trivial
  | _ => rfl

theorem bind
    {answer : γ -> δ -> Prop}
    {next : α -> Decode γ}
    {otherNext : β -> Decode δ}
    (begun : Unaliases related first second)
    (continued : ∀ value other, related value other ->
      Unaliases answer (next value) (otherNext other)) :
    Unaliases answer (first >>= next) (second >>= otherNext) := by
  intro progress other faults unaliased
  have outcome := begun progress other faults unaliased
  change SameOutcome answer (EStateM.bind first next progress) (EStateM.bind second otherNext other)
  unfold EStateM.bind
  cases ran : first progress with
  | error cause after =>
      cases otherRan : second other with
      | error otherCause later =>
          rw [ran, otherRan] at outcome
          cases cause with
          | excessiveAliases => trivial
          | _ => exact outcome
      | ok value later =>
          rw [ran, otherRan] at outcome
          cases cause with
          | excessiveAliases => trivial
          | _ => exact outcome.elim
  | ok value after =>
      cases otherRan : second other with
      | error otherCause later =>
          rw [ran, otherRan] at outcome
          exact outcome.elim
      | ok otherValue later =>
          rw [ran, otherRan] at outcome
          obtain ⟨holds, sameFaults, stillUnaliased⟩ := outcome
          exact continued value otherValue holds after later sameFaults stillUnaliased

/-- A node is counted with and without aliases, but only with them it is one too many. -/
theorem enter {throughAlias : Bool} :
    Unaliases (fun _ _ => True) (Decode.enter throughAlias) (Decode.enter false) := by
  intro progress other faults unaliased
  have few : ¬ tooManyAliases (other.counting false) := by
    simp [tooManyAliases, Progress.counting, unaliased]
  rw [enter_eq, enter_eq, if_neg few]
  split
  · trivial
  · exact ⟨trivial, faults, unaliased⟩

/-- An alias is counted; the node that is written in its place needs no such step. -/
theorem enterAlias
    {throughAlias : Bool}
    (behind : Unaliases related first second) :
    Unaliases related (do Decode.enter throughAlias; first) second := by
  intro progress other faults unaliased
  change SameOutcome related (EStateM.bind (Decode.enter throughAlias) (fun _ => first) progress) _
  unfold EStateM.bind
  rw [enter_eq]
  split
  · rename_i entered
    split at entered
    · cases entered
    · cases entered
      exact behind _ other faults unaliased
  · rename_i entered
    split at entered
    · cases entered
      trivial
    · cases entered

theorem report {fault : Fault} :
    Unaliases (fun _ _ => True) (Decode.report fault) (Decode.report fault) := by
  intro progress other faults unaliased
  refine ⟨trivial, ?_, unaliased⟩
  exact congrArg (· ++ [fault]) faults

theorem scalar {tag value : String} :
    Unaliases Eq (Decode.scalar tag value) (Decode.scalar tag value) := by
  unfold Decode.scalar
  split
  · split
    · exact pure rfl
    · exact throw
  · split
    · exact pure rfl
    · exact throw

theorem reportRepeated
    {entries others : List (Node × Node)}
    (same : repeatedKeys entries = repeatedKeys others) :
    Unaliases Eq (Decode.reportRepeated entries) (Decode.reportRepeated others) := by
  have reported : ∀ faults : List Fault,
      Unaliases (fun _ _ => True) (faults.forM Decode.report) (faults.forM Decode.report) := by
    intro faults
    induction faults with
    | nil => exact pure trivial
    | cons fault rest inductionHypothesis => exact report.bind fun _ _ _ => inductionHypothesis
  unfold Decode.reportRepeated
  rw [same]
  exact (reported _).bind fun _ _ _ => pure rfl

end Unaliases

/-! ## Keys -/

theorem plainKeys
    {entries : List (Node × Node)}
    (transparent : Node.entriesTransparent entries) :
    ∀ entry ∈ entries, entry.1.isAlias = false := by
  induction entries with
  | nil => simp
  | cons entry rest inductionHypothesis =>
      simp only [Node.entriesTransparent, Bool.and_eq_true, Bool.not_eq_true'] at transparent
      exact List.forall_mem_cons.mpr ⟨transparent.1.1.1, inductionHypothesis transparent.2⟩

theorem repeatsOf_expanded
    {key : Node}
    {entries : List (Node × Node)}
    (plain : key.isAlias = false)
    (plainKeys : ∀ entry ∈ entries, entry.1.isAlias = false) :
    repeatsOf key.expanded (Node.expandedEntries entries) = repeatsOf key entries := by
  unfold repeatsOf
  rw [Node.expandedEntries_eq_map, List.filterMap_map]
  refine List.filterMap_congr fun entry inside => ?_
  have entryPlain := plainKeys entry inside
  simp only [Function.comp_apply, Prod.map, Node.expanded_sameForm plain entryPlain,
    Node.expanded_value plain, Node.expanded_value entryPlain, Node.expanded_line plain,
    Node.expanded_line entryPlain]

theorem repeatedKeys_expanded
    {entries : List (Node × Node)}
    (plainKeys : ∀ entry ∈ entries, entry.1.isAlias = false) :
    repeatedKeys (Node.expandedEntries entries) = repeatedKeys entries := by
  induction entries with
  | nil => rfl
  | cons entry rest inductionHypothesis =>
      obtain ⟨entryPlain, restPlain⟩ := List.forall_mem_cons.mp plainKeys
      simp only [Node.expandedEntries, repeatedKeys, repeatsOf_expanded entryPlain restPlain,
        inductionHypothesis restPlain]

theorem hasTextKeys_expanded (entries : List (Node × Node)) :
    hasTextKeys (Node.expandedEntries entries) = hasTextKeys entries := by
  unfold hasTextKeys
  rw [Node.expandedEntries_eq_map, List.all_map]
  simp only [Function.comp_def, Prod.map, Node.expanded_tag]

theorem keyFor_expanded
    {target : Target}
    {key : Node}
    {found : Option Value}
    (plain : key.isAlias = false) :
    Unaliases Eq (keyFor target key found) (keyFor target key.expanded found) := by
  have wrongType : Unaliases Eq
      (do
        Decode.report (.wrongType key.line key.tag key.value "string")
        return (none : Option Value))
      (do
        Decode.report (.wrongType key.line key.tag key.value "string")
        return none) :=
    Unaliases.report.bind fun _ _ _ => .pure rfl
  cases found with
  | none => exact .pure rfl
  | some value =>
      unfold keyFor
      dsimp only
      rw [Node.resolved_eq key.expanded_isAlias, Node.resolved_eq plain]
      split
      · unfold textKey
        rw [Node.expanded_line plain, Node.expanded_value plain, Node.expanded_tag]
        cases value with
        | list => exact wrongType
        | map => exact wrongType
        | _ => exact .pure rfl
      · exact .pure rfl

/-! ## Mappings -/

/-- The merges that two mappings ask for do the same. -/
abbrev SameMerge : Merge -> Merge -> Prop :=
  Option.Rel fun first second => ∀ target, Unaliases Eq (first target) (second target)

/-- Two maps were filled alike and ask for the same merge. -/
def SameFilling (first second : Target × Merge) : Prop :=
  first.1 = second.1 ∧ SameMerge first.2 second.2

theorem mergeEntries_expanded
    {throughAlias : Bool}
    {target : Target}
    {entries : List (Node × Node)}
    {filling otherFilling : Decode (Target × Merge)}
    (plainKeys : ∀ entry ∈ entries, entry.1.isAlias = false)
    (filled : Unaliases SameFilling filling otherFilling) :
    Unaliases Eq (mergeEntries throughAlias target entries filling)
      (mergeEntries false target (Node.expandedEntries entries) otherFilling) := by
  have repeated := repeatedKeys_expanded plainKeys
  refine Unaliases.enter.bind fun _ _ _ => ?_
  refine (Unaliases.reportRepeated repeated.symm).bind fun isRepeated _ same => ?_
  subst same
  split
  · exact .pure rfl
  · refine filled.bind fun filling otherFilling same => ?_
    obtain ⟨target, merge⟩ := filling
    obtain ⟨otherTarget, otherMerge⟩ := otherFilling
    obtain ⟨rfl, merges⟩ : target = otherTarget ∧ SameMerge merge otherMerge := same
    cases merges with
    | none => exact .pure rfl
    | some merges => exact merges target

theorem mergeAll_cons
    {throughAlias : Bool}
    {target : Target}
    {node : Node}
    {rest : List Node}
    (plain : node.isAlias = false) :
    mergeAll throughAlias target (node :: rest) =
      (do mergeAll throughAlias (← mergeMapping throughAlias target node) rest) := by
  cases node with
  | reference => cases plain
  | _ => rfl

/-! ## Nodes -/

mutual

/-- A node has the value it has with its aliases written out. -/
theorem value_expanded (throughAlias : Bool) :
    ∀ node : Node, node.isTransparent ->
      Unaliases Eq (value throughAlias node) (value false node.expanded)
  | .missing, _ => by
      unfold value
      exact Unaliases.enter.bind fun _ _ _ => .pure rfl
  | .scalar line tag source, _ => by
      unfold value
      refine Unaliases.enter.bind fun _ _ _ => ?_
      exact Unaliases.scalar.bind fun _ _ same => .pure (congrArg some same)
  | .sequence line tag items, transparent => by
      unfold value
      refine Unaliases.enter.bind fun _ _ _ => ?_
      refine (values_expanded throughAlias items transparent).bind fun values _ same => ?_
      subst same
      exact .pure rfl
  | .mapping line tag entries, transparent => by
      have repeated := repeatedKeys_expanded (plainKeys transparent)
      unfold value
      refine Unaliases.enter.bind fun _ _ _ => ?_
      refine (Unaliases.reportRepeated repeated.symm).bind fun isRepeated _ same => ?_
      subst same
      split
      · exact .pure rfl
      · dsimp only
        rw [hasTextKeys_expanded]
        refine (fill_expanded throughAlias _ .none entries transparent).bind
          fun filling otherFilling same => ?_
        obtain ⟨target, merge⟩ := filling
        obtain ⟨otherTarget, otherMerge⟩ := otherFilling
        obtain ⟨rfl, merges⟩ : target = otherTarget ∧ SameMerge merge otherMerge := same
        cases merges with
        | none => exact .pure rfl
        | some merges =>
            refine (keyValues_expanded throughAlias entries transparent).bind
              fun keys _ same => ?_
            subst same
            refine (merges _).bind fun target _ same => ?_
            subst same
            exact .pure rfl
  | .reference line name target, transparent => by
      rw [value]
      exact (value_expanded true target transparent).enterAlias
  | .selfReference line name, _ => by
      unfold value
      exact .throw

/-- Several nodes have the values they have with their aliases written out. -/
theorem values_expanded (throughAlias : Bool) :
    ∀ items : List Node, Node.areTransparent items ->
      Unaliases Eq (values throughAlias items) (values false (Node.expandedItems items))
  | [], _ => .pure rfl
  | node :: rest, transparent => by
      obtain ⟨first, others⟩ := Bool.and_eq_true_iff.mp transparent
      unfold values
      refine (value_expanded throughAlias node first).bind fun found _ same => ?_
      subst same
      refine (values_expanded throughAlias rest others).bind fun behind _ same => ?_
      subst same
      exact .pure rfl

/-- The keys of a mapping are those it has with its aliases written out. -/
theorem keyValues_expanded (throughAlias : Bool) :
    ∀ entries : List (Node × Node), Node.entriesTransparent entries ->
      Unaliases Eq (keyValues throughAlias entries)
        (keyValues false (Node.expandedEntries entries))
  | [], _ => .pure rfl
  | (key, item) :: rest, transparent => by
      simp only [Node.entriesTransparent, Bool.and_eq_true] at transparent
      unfold keyValues
      refine (value_expanded throughAlias key transparent.1.1.2).bind fun found _ same => ?_
      subst same
      refine (keyValues_expanded throughAlias rest transparent.2).bind fun behind _ same => ?_
      subst same
      exact .pure rfl

/-- A mapping fills a map the way it does with its aliases written out. -/
theorem fill_expanded (throughAlias : Bool) (target : Target) {merge otherMerge : Merge}
    (merges : SameMerge merge otherMerge) :
    ∀ entries : List (Node × Node), Node.entriesTransparent entries ->
      Unaliases SameFilling (fill throughAlias target merge entries)
        (fill false target otherMerge (Node.expandedEntries entries))
  | [], _ => .pure ⟨rfl, merges⟩
  | (key, item) :: rest, transparent => by
      simp only [Node.entriesTransparent, Bool.and_eq_true, Bool.not_eq_true'] at transparent
      obtain ⟨⟨⟨plain, keyTransparent⟩, itemTransparent⟩, restTransparent⟩ := transparent
      rw [Node.expandedEntries]
      unfold fill
      rw [Node.expanded_isMerge plain]
      split
      · rename_i isMerge
        rw [if_pos isMerge] at itemTransparent
        have merged : SameMerge (some fun target => mergeNode throughAlias target item)
            (some fun target => mergeNode false target item.expanded) :=
          .some fun target => mergeNode_expanded throughAlias target item itemTransparent
        exact fill_expanded throughAlias target merged rest restTransparent
      · rename_i notMerge
        rw [if_neg notMerge] at itemTransparent
        refine (value_expanded throughAlias key keyTransparent).bind fun value _ same => ?_
        subst same
        refine (keyFor_expanded plain).bind fun found _ same => ?_
        subst same
        cases found with
        | none => exact fill_expanded throughAlias target merges rest restTransparent
        | some found =>
            dsimp only
            split
            · exact fill_expanded throughAlias target merges rest restTransparent
            · split
              · exact .throw
              · refine (value_expanded throughAlias item itemTransparent).bind
                  fun content _ same => ?_
                subst same
                cases content with
                | none => exact fill_expanded throughAlias _ merges rest restTransparent
                | some content => exact fill_expanded throughAlias _ merges rest restTransparent

/-- What is merged is what is merged with its aliases written out. -/
theorem mergeNode_expanded (throughAlias : Bool) (target : Target) :
    ∀ node : Node, node.mergesTransparently ->
      Unaliases Eq (mergeNode throughAlias target node) (mergeNode false target node.expanded)
  | .mapping line tag entries, transparent =>
      mergeEntries_expanded (plainKeys transparent)
        (fill_expanded throughAlias target .none entries transparent)
  | .sequence line tag items, transparent => by
      unfold mergeNode
      exact mergeAll_expanded throughAlias target items transparent
  | .reference line name referenced, transparent => by
      simp only [Node.mergesTransparently, Bool.and_eq_true, Bool.not_eq_true'] at transparent
      obtain ⟨⟨notAlias, notSequence⟩, referencedTransparent⟩ := transparent
      rw [mergeNode]
      refine Unaliases.enterAlias ?_
      have merged := mergeMapping_expanded true target referenced notAlias referencedTransparent
      cases referenced with
      | reference => cases notAlias
      | sequence => cases notSequence
      | _ => exact merged
  | .selfReference line name, _ => by
      unfold mergeNode
      exact .throw
  | .scalar line tag value, _ => .throw
  | .missing, _ => .throw

/-- Several mappings are merged as they are with their aliases written out. -/
theorem mergeAll_expanded (throughAlias : Bool) (target : Target) :
    ∀ items : List Node, Node.allMergeTransparently items ->
      Unaliases Eq (mergeAll throughAlias target items)
        (mergeAll false target (Node.expandedItems items))
  | [], _ => .pure rfl
  | node :: rest, transparent => by
      simp only [Node.allMergeTransparently, Bool.and_eq_true, Bool.not_eq_true'] at transparent
      obtain ⟨⟨single, nodeTransparent⟩, restTransparent⟩ := transparent
      rw [Node.expandedItems, mergeAll_cons node.expanded_isAlias]
      have continued := fun target : Target =>
        mergeAll_expanded throughAlias target rest restTransparent
      by_cases plain : node.isAlias = false
      · rw [mergeAll_cons plain]
        refine (mergeMapping_expanded throughAlias target node plain nodeTransparent).bind
          fun target _ same => ?_
        subst same
        exact continued target
      · cases node with
        | reference line name referenced =>
            rw [mergeAll]
            refine Unaliases.enterAlias ?_
            refine (mergeMapping_expanded true target referenced single nodeTransparent).bind
              fun target _ same => ?_
            subst same
            exact continued target
        | _ => exact absurd rfl plain

/-- One mapping is merged as it is with its aliases written out. -/
theorem mergeMapping_expanded (throughAlias : Bool) (target : Target) :
    ∀ node : Node, node.isAlias = false -> node.isTransparent ->
      Unaliases Eq (mergeMapping throughAlias target node)
        (mergeMapping false target node.expanded)
  | .mapping _ _ _, _, transparent =>
      mergeEntries_expanded (plainKeys transparent)
        (fill_expanded throughAlias target .none _ transparent)
  | .selfReference _ _, _, _ => .throw
  | .missing, _, _ => .throw
  | .scalar _ _ _, _, _ => .throw
  | .sequence _ _ _, _, _ => .throw

end

end Decode

/-- Whether decoding gives a node up for having too many aliases. -/
def Node.exceedsAliases (node : Node) : Bool :=
  match node.decodeValue with
  | .error (.failure .excessiveAliases) => true
  | _ => false

/-- A node has the plain value, or the faults or the failure, that it has with its
aliases written out. -/
theorem Node.decodeValue_expanded
    {node : Node}
    (transparent : node.isTransparent)
    (few : node.exceedsAliases = false) :
    node.expanded.decodeValue = node.decodeValue := by
  have outcome := Decode.value_expanded false node transparent {} {} rfl rfl
  unfold Node.exceedsAliases at few
  unfold Node.decodeValue Decode.finish at few ⊢
  generalize Decode.value false node {} = first at few outcome ⊢
  generalize Decode.value false node.expanded {} = second at outcome ⊢
  unfold Decode.SameOutcome at outcome
  split at outcome
  · simp [Except.map] at few
  · subst outcome
    rfl
  · obtain ⟨rfl, faults, _⟩ := outcome
    simp only [faults]
  · exact outcome.elim

end Document
end PatternMachine
