/-!
# Edit distance

The least number of insertions, deletions and replacements of single characters
that turn one text into another.
-/

namespace PatternMachine
namespace Text

/-- The next row of the distance table. `diagonal` is the entry above and to the
left, `left` the entry just computed, and the list holds the entries above
beside the characters they belong to. -/
def distanceRow (c : Char) : Nat -> Nat -> List (Char × Nat) -> List Nat
  | _, _, [] => []
  | diagonal, left, (other, above) :: rest =>
      let here := min (min (above + 1) (left + 1)) (if c == other then diagonal else diagonal + 1)
      here :: distanceRow c above here rest

/-- The distances from the characters read so far to every beginning of the
target; the first entry is the number of characters read. -/
def distanceRows (target : List Char) : List Char -> List Nat -> List Nat
  | [], row => row
  | c :: rest, row =>
      let first := row.headD 0
      distanceRows target rest
        ((first + 1) :: distanceRow c first (first + 1) (target.zip (row.drop 1)))

/-- The edit distance of two texts. -/
def editDistance (source target : List Char) : Nat :=
  (distanceRows target source (List.range (target.length + 1))).getLastD 0

end Text
end PatternMachine
