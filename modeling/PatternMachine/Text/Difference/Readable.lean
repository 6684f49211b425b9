import PatternMachine.Text.Difference.Edit
import PatternMachine.Text.Utf8

/-!
# Edits for a reader

A shortest list of edits may keep stray characters in the middle of a change.
Here kept items that are outweighed by the edits around them are given up, edits
are moved to the boundaries of words and lines, and what removed and added items
share in the middle is kept after all. The last two rules work on bytes.
-/

namespace PatternMachine
namespace Text
namespace Readable

/-- How much is removed and added in one place. -/
structure Weight where
  removed : Nat := 0
  added : Nat := 0

/-- The larger one of the two. -/
def Weight.size (weight : Weight) : Nat :=
  max weight.removed weight.added

/-- The weight together with that of one more edit. -/
def Weight.add {α : Type} (weight : Weight) (edit : Edit α) : Weight :=
  match edit.change with
  | .kept => weight
  | .removed => { weight with removed := weight.removed + edit.items.length }
  | .added => { weight with added := weight.added + edit.items.length }

/-- A walk through a list of edits. -/
structure Walk (α : Type) where
  /-- The edits already seen, backwards. -/
  seen : List (Edit α) := []
  /-- The numbers of the kept runs seen, the latest first. -/
  runs : List Nat := []
  /-- The weight of the edits before the latest kept run. -/
  before : Weight := {}
  /-- The weight of the edits behind it. -/
  behind : Weight := {}
  /-- The items of the latest kept run; none if there is no run to give up. -/
  latest : List α := []

/-- Whether the latest kept run is outweighed on both sides. -/
def Walk.outweighed {α : Type} (walk : Walk α) : Bool :=
  !walk.latest.isEmpty && walk.latest.length <= walk.before.size &&
    walk.latest.length <= walk.behind.size

/-- Give up kept runs that are outweighed by the edits on both sides, in at most
`steps` steps. After a run is given up the walk goes back before the run in
front of it. -/
def giveUpFrom {α : Type} : Nat -> Walk α -> List (Edit α) -> List (Edit α)
  | 0, walk, rest => walk.seen.reverse ++ rest
  | _, walk, [] => walk.seen.reverse
  | steps + 1, walk, edit :: rest =>
      if edit.isKept then
        giveUpFrom steps
          { seen := edit :: walk.seen
            runs := walk.seen.length :: walk.runs
            before := walk.behind
            latest := edit.items }
          rest
      else
        let walk := { walk with behind := walk.behind.add edit }
        if walk.outweighed then
          let place := walk.runs.headD 0
          let all := walk.seen.reverse ++ edit :: rest
          let changed :=
            all.take place ++
              ⟨.removed, walk.latest⟩ :: ⟨.added, walk.latest⟩ :: all.drop (place + 1)
          let runs := walk.runs.drop 2
          let next := match runs with
            | run :: _ => run + 1
            | [] => 0
          giveUpFrom steps { seen := (changed.take next).reverse, runs } (changed.drop next)
        else giveUpFrom steps { walk with seen := edit :: walk.seen } rest

/-- Give up kept runs that are outweighed by the edits on both sides. -/
def giveUp {α : Type} (edits : List (Edit α)) : List (Edit α) :=
  giveUpFrom ((edits.length + 1) * (2 * edits.length + 2)) {} edits

/-- The class of a byte at a boundary. -/
inductive ByteClass
  | letterOrDigit
  | lineBreak
  | blank
  | other
  deriving DecidableEq, Repr, Inhabited

/-- The class of a byte. Bytes of longer characters are neither letters nor
blanks. -/
def classOf (byte : UInt8) : ByteClass :=
  let c := Char.ofNat byte.toNat
  if c == '\n' || c == '\r' then .lineBreak
  else if c == ' ' || c == '\t' || c == '\x0c' then .blank
  else if byte < 0x80 && c.isAlphanum then .letterOrDigit
  else .other

/-- The bytes of a line break. -/
def newline : UInt8 := 10

/-- The byte that may stand before a line break. -/
def carriageReturn : UInt8 := 13

/-- Whether bytes end in an empty line. -/
def endsInBlankLine (bytes : List UInt8) : Bool :=
  [newline, newline].isSuffixOf bytes || [newline, carriageReturn, newline].isSuffixOf bytes

/-- How good a place between two texts is for a boundary, from 6 down to 0. -/
def boundaryScore (left right : List UInt8) : Nat :=
  match left.getLast?, right.head? with
  | some last, some first =>
      let before := classOf last
      let behind := classOf first
      let isSpace (byteClass : ByteClass) : Bool :=
        byteClass == .blank || byteClass == .lineBreak
      if (before == .lineBreak && endsInBlankLine left) ||
          (behind == .lineBreak && endsInBlankLine right) then 5
      else if before == .lineBreak || behind == .lineBreak then 4
      else if before == .other && isSpace behind then 3
      else if isSpace before || isSpace behind then 2
      else if before == .other || behind == .other then 1
      else 0
  | _, _ => 6

/-- An edit between two kept runs. -/
structure Placement where
  before : List UInt8
  edit : List UInt8
  behind : List UInt8
  deriving DecidableEq

namespace Placement

/-- How good both boundaries of an edit are. -/
def score (placement : Placement) : Nat :=
  boundaryScore placement.before placement.edit + boundaryScore placement.edit placement.behind

/-- Move an edit to the left. It is moved by as many bytes as the edit and the
run before it share characters at their ends. -/
def leftmost (placement : Placement) : Placement :=
  let count := sharedEnd (charsOfBytes 0 placement.before) (charsOfBytes 0 placement.edit)
  let moved := takeEnd count placement.edit
  { before := dropEnd count placement.before
    edit := moved ++ dropEnd count placement.edit
    behind := moved ++ placement.behind }

/-- The number of bytes of the first character. -/
def firstSize (bytes : List UInt8) : Nat :=
  ((firstChar? bytes).map Prod.snd).getD 1

/-- Move an edit to the right by one character, if that is what follows it. -/
def stepRight? (placement : Placement) : Option Placement :=
  let size := firstSize placement.edit
  let moved := placement.edit.take size
  if placement.edit.isEmpty || placement.behind.isEmpty || !moved.isPrefixOf placement.behind then
    none
  else
    some
      { before := placement.before ++ moved
        edit := placement.edit.drop size ++ moved
        behind := placement.behind.drop size }

/-- The best placement from the given one to the right, at most `steps` steps
away. Of equally good ones the last one wins. -/
def bestFrom : Nat -> Placement -> Placement -> Placement
  | 0, best, _ => best
  | steps + 1, best, placement =>
      match placement.stepRight? with
      | none => best
      | some next => bestFrom steps (if best.score <= next.score then next else best) next

/-- The best placement of an edit. -/
def best (placement : Placement) : Placement :=
  let start := placement.leftmost
  bestFrom start.behind.length start start

end Placement

/-- A kept run, unless it is empty. -/
def keptRun (items : List UInt8) : List (Edit UInt8) :=
  if items.isEmpty then [] else [⟨.kept, items⟩]

/-- Move edits that stand between kept runs to the best place, in at most `steps`
steps. -/
def alignFrom : Nat -> List (Edit UInt8) -> List (Edit UInt8)
  | 0, edits => edits
  | steps + 1, before :: edit :: behind :: rest =>
      if before.isKept && behind.isKept then
        let best := Placement.best ⟨before.items, edit.items, behind.items⟩
        if best.before == before.items then before :: alignFrom steps (edit :: behind :: rest)
        else
          keptRun best.before ++
            { edit with items := best.edit } :: alignFrom steps (keptRun best.behind ++ rest)
      else before :: alignFrom steps (edit :: behind :: rest)
  | _, edits => edits

/-- Move edits that stand between kept runs to the best place. -/
def align (edits : List (Edit UInt8)) : List (Edit UInt8) :=
  alignFrom edits.length edits

/-- The longest end of some bytes, of at most `count`, that others begin with. -/
def overlapWithin (left right : List UInt8) : Nat -> Nat
  | 0 => 0
  | count + 1 =>
      if takeEnd (count + 1) left == right.take (count + 1) then count + 1
      else overlapWithin left right count

/-- The longest end of some bytes that others begin with. -/
def overlap (left right : List UInt8) : Nat :=
  overlapWithin left right (min left.length right.length)

/-- Keep what removed bytes and the added bytes behind them share where they
overlap, if that is half of either. -/
def separate (removed added : List UInt8) : List (Edit UInt8) :=
  let forwards := overlap removed added
  let backwards := overlap added removed
  let matters (size : Nat) : Bool :=
    (charsOfBytes 0 removed).length <= 2 * size || (charsOfBytes 0 added).length <= 2 * size
  if backwards <= forwards then
    if matters forwards then
      [⟨.removed, dropEnd forwards removed⟩, ⟨.kept, added.take forwards⟩,
        ⟨.added, added.drop forwards⟩]
    else [⟨.removed, removed⟩, ⟨.added, added⟩]
  else if matters backwards then
    [⟨.added, dropEnd backwards added⟩, ⟨.kept, removed.take backwards⟩,
      ⟨.removed, removed.drop backwards⟩]
  else [⟨.removed, removed⟩, ⟨.added, added⟩]

/-- Keep what removed and added bytes share. -/
def separateAll : List (Edit UInt8) -> List (Edit UInt8)
  | ⟨.removed, removed⟩ :: ⟨.added, added⟩ :: rest => separate removed added ++ separateAll rest
  | edit :: rest => edit :: separateAll rest
  | [] => []

/-- The bytes of an edit. -/
def toBytes (edit : Edit Char) : Edit UInt8 :=
  ⟨edit.change, bytesOf (String.ofList edit.items)⟩

/-- Edits made readable. -/
def ofEdits (edits : List (Edit Char)) : List (Edit UInt8) :=
  let kept := giveUp edits
  let tidied := if kept.length == edits.length then kept else Edit.tidy kept
  separateAll (align (tidied.map toBytes))

end Readable
end Text
end PatternMachine
