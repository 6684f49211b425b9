import PatternMachine.Proofs.Containment
import PatternMachine.Proofs.Tree

/-!
# The names a pattern binds

A pattern binds its names in the order in which they stand in it: an identifier
binds its own, a named pattern binds its own after those of the pattern inside,
and every other pattern binds those of the patterns inside from left to right. A
constraint binds none.
-/

namespace PatternMachine

/-- The name a pattern binds itself, beside those of the patterns inside. -/
def Term.ownNames : Term -> List String
  | .identifier name => if name == "_" then [] else [name]
  | .named _ name _ => [name]
  | _ => []

/-! ## Binders -/

namespace Store

/-- The names a pattern binds, from left to right; nothing when its patterns are
nested more than `level` deep. -/
def binders? (store : Store) : Nat -> Term -> Option (List String)
  | 0, _ => none
  | level + 1, pattern => do
      let inner ← (pattern.yielding store).mapM (store.binders? level)
      return inner.flatten ++ pattern.ownNames

variable {store : Store} {level : Nat} {pattern : Term}

/-- A pattern binds the names of the patterns inside, and then its own. -/
theorem binders?_succ
    {names : List String} :
    store.binders? (level + 1) pattern = some names ↔
      ∃ inner, (pattern.yielding store).mapM (store.binders? level) = some inner ∧
        inner.flatten ++ pattern.ownNames = names := by
  simp [binders?, Option.bind_eq_some_iff]

/-- Looking deeper into a pattern shows no other names. -/
theorem binders?_mono
    {deeper : Nat}
    {names : List String}
    (deep : level ≤ deeper)
    (bound : store.binders? level pattern = some names) :
    store.binders? deeper pattern = some names := by
  induction level generalizing pattern names deeper with
  | zero => cases bound
  | succ level inductionHypothesis =>
      obtain ⟨deeper, rfl⟩ := Nat.exists_eq_add_of_le' (Nat.lt_of_lt_of_le (Nat.succ_pos _) deep)
      obtain ⟨inner, inside, rfl⟩ := binders?_succ.mp bound
      refine binders?_succ.mpr ⟨inner, List.mapM_mono ?_ inside, rfl⟩
      exact fun part names bound => inductionHypothesis (Nat.le_of_succ_le_succ deep) bound

/-- A pattern without patterns inside binds its own name at most. -/
theorem binders?_leaf (inside : pattern.yielding store = []) :
    store.binders? (level + 1) pattern = some pattern.ownNames := by
  simp [binders?, inside]

theorem eq_ownNames_of_leaf
    {names : List String}
    (inside : pattern.yielding store = [])
    (bound : store.binders? level pattern = some names) :
    names = pattern.ownNames :=
  Option.some.inj ((binders?_mono (Nat.le_succ level) bound).symm.trans (binders?_leaf inside))

/-- Every name a pattern binds is the own name of a pattern inside. -/
theorem mem_binders?
    {names : List String}
    {name : String}
    (bound : store.binders? level pattern = some names)
    (listed : name ∈ names) :
    ∃ part, Term.Reaches (Term.yielding store) pattern part ∧ name ∈ part.ownNames := by
  induction level generalizing pattern names with
  | zero => cases bound
  | succ level inductionHypothesis =>
      obtain ⟨inner, inside, rfl⟩ := binders?_succ.mp bound
      rcases List.mem_append.mp listed with fromInside | own
      · obtain ⟨partNames, held, named⟩ := List.mem_flatten.mp fromInside
        obtain ⟨part, yielded, bound⟩ := List.exists_of_mem_mapM inside held
        obtain ⟨innermost, reaches, named⟩ := inductionHypothesis bound named
        exact ⟨innermost, reaches.onwards yielded, named⟩
      · exact ⟨pattern, .here, own⟩

/-- A pattern binds the names it bound as long as its cells are kept. -/
theorem binders?_keeps
    {before after : Store}
    {kind : Term -> Bool}
    (keeps : before.Keeps after)
    (consists : before.Consists kind pattern)
    (level : Nat) :
    after.binders? level pattern = before.binders? level pattern := by
  induction level generalizing pattern with
  | zero => rfl
  | succ level inductionHypothesis =>
      unfold binders?
      rw [yielding_keeps keeps (consists pattern .here).2,
        List.mapM_congr_of_mem fun part held => inductionHypothesis (consists.part held)]

end Store

/-- The name that a binding binds, if it binds one. -/
def Binding.name? (binding : Binding) : Option String :=
  match binding.target with
  | .identifier name => some name
  | _ => none

/-- The names that bindings bind, in their order. -/
def Binding.names (bindings : List Binding) : List String :=
  bindings.filterMap Binding.name?

end PatternMachine
