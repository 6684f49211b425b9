/-!
# Edits

A difference between two texts is a list of edits: runs of items that both
texts have, that only the old text has, or that only the new text has. Here
edits that belong together are joined.
-/

namespace PatternMachine
namespace Text

/-- What becomes of a run of items. -/
inductive Change
  | kept
  | removed
  | added
  deriving DecidableEq, Repr, Inhabited

/-- A run of items and what becomes of them. -/
structure Edit (α : Type) where
  change : Change
  items : List α
  deriving DecidableEq, Repr, Inhabited

namespace Edit

variable {α : Type}

/-- Whether an edit keeps its items. -/
def isKept (edit : Edit α) : Bool :=
  edit.change == .kept

/-- The items of the old text. -/
def old (edits : List (Edit α)) : List α :=
  edits.flatMap fun edit => if edit.change == .added then [] else edit.items

/-- The items of the new text. -/
def new (edits : List (Edit α)) : List α :=
  edits.flatMap fun edit => if edit.change == .removed then [] else edit.items

end Edit

/-- The number of items two lists have in common at the front. -/
def sharedStart {α : Type} [BEq α] : List α -> List α -> Nat
  | left :: leftRest, right :: rightRest =>
      if left == right then sharedStart leftRest rightRest + 1 else 0
  | _, _ => 0

/-- The number of items two lists have in common at the end. -/
def sharedEnd {α : Type} [BEq α] (left right : List α) : Nat :=
  sharedStart left.reverse right.reverse

/-- A list without its last items. -/
def dropEnd {α : Type} (count : Nat) (items : List α) : List α :=
  items.take (items.length - count)

/-- The last items of a list. -/
def takeEnd {α : Type} (count : Nat) (items : List α) : List α :=
  items.drop (items.length - count)

namespace Edit

variable {α : Type} [BEq α]

/-- The edits since the last kept items: how many there are of each kind, and
all their items. -/
structure Pending (α : Type) where
  removals : Nat := 0
  removed : List α := []
  additions : Nat := 0
  added : List α := []

/-- The edits that are pending, joined. -/
def Pending.edits (pending : Pending α) : List (Edit α) :=
  (if pending.removals == 0 then [] else [⟨.removed, pending.removed⟩]) ++
    (if pending.additions == 0 then [] else [⟨.added, pending.added⟩])

/-- Put kept items behind edits that are given backwards. -/
def keepBehind (items : List α) : List (Edit α) -> List (Edit α)
  | ⟨.kept, before⟩ :: rest => ⟨.kept, before ++ items⟩ :: rest
  | edits => ⟨.kept, items⟩ :: edits

/-- Put pending edits and the kept items that follow them behind edits that are
given backwards. What removed and added items have in common at either end is
kept. -/
def settle (done : List (Edit α)) (pending : Pending α) (kept : List α) : List (Edit α) :=
  if pending.removals != 0 && pending.additions != 0 then
    let start := sharedStart pending.added pending.removed
    let done := if start == 0 then done else keepBehind (pending.added.take start) done
    let removed := pending.removed.drop start
    let added := pending.added.drop start
    let finish := sharedEnd added removed
    ⟨.kept, takeEnd finish added ++ kept⟩ :: ⟨.added, dropEnd finish added⟩ ::
      ⟨.removed, dropEnd finish removed⟩ :: done
  else if pending.removals + pending.additions == 0 then keepBehind kept done
  else ⟨.kept, kept⟩ :: (pending.edits.reverse ++ done)

/-- Join the edits between kept items. The edits before are given backwards. -/
def joinFrom (done : List (Edit α)) (pending : Pending α) : List (Edit α) -> List (Edit α)
  | [] => settle done pending []
  | edit :: rest =>
      match edit.change with
      | .kept => joinFrom (settle done pending edit.items) {} rest
      | .removed =>
          joinFrom done
            { pending with
              removals := pending.removals + 1
              removed := pending.removed ++ edit.items }
            rest
      | .added =>
          joinFrom done
            { pending with
              additions := pending.additions + 1
              added := pending.added ++ edit.items }
            rest

/-- Join the edits between kept items: first what is removed, then what is
added. -/
def join (edits : List (Edit α)) : List (Edit α) :=
  match joinFrom [] {} edits with
  | ⟨_, []⟩ :: rest => rest.reverse
  | backwards => backwards.reverse

/-- Move single edits sideways over the kept items next to them where these
disappear that way; answer whether any edit moved. -/
def slide : List (Edit α) -> List (Edit α) × Bool
  | before :: edit :: behind :: rest =>
      if before.isKept && behind.isKept then
        if before.items.isSuffixOf edit.items then
          let moved := before.items ++ dropEnd before.items.length edit.items
          let (others, _) := slide (⟨.kept, before.items ++ behind.items⟩ :: rest)
          ({ edit with items := moved } :: others, true)
        else if behind.items.isPrefixOf edit.items then
          let moved := edit.items.drop behind.items.length ++ behind.items
          let (others, _) := slide ({ edit with items := moved } :: rest)
          (⟨.kept, before.items ++ behind.items⟩ :: others, true)
        else
          let (others, changed) := slide (edit :: behind :: rest)
          (before :: others, changed)
      else
        let (others, changed) := slide (edit :: behind :: rest)
        (before :: others, changed)
  | edits => (edits, false)
termination_by edits => edits.length

/-- Join and slide edits until none moves, at most `rounds` times. -/
def tidyWithin : Nat -> List (Edit α) -> List (Edit α)
  | 0, edits => join edits
  | rounds + 1, edits =>
      match slide (join edits) with
      | (slid, true) => tidyWithin rounds slid
      | (slid, false) => slid

/-- Join and slide edits. Every round but the last removes a run of kept items,
so that the number of rounds is never reached. -/
def tidy (edits : List (Edit α)) : List (Edit α) :=
  tidyWithin (2 * edits.length + 2) edits

end Edit
end Text
end PatternMachine
