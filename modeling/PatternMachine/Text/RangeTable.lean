import PatternMachine.Text.Blank

/-!
# Tables of character ranges

A set of characters given by sorted, disjoint ranges of their codes. A table is
written as text: hexadecimal ranges `low-high` separated by blanks, where a
range of one code is written once.
-/

namespace PatternMachine
namespace Text

/-- Sorted, disjoint ranges of character codes. -/
structure RangeTable where
  ranges : Array (Nat × Nat)
  deriving Inhabited

namespace RangeTable

/-- The value of a hexadecimal digit; any other character counts as zero. -/
def digitValue (c : Char) : Nat :=
  if '0' <= c && c <= '9' then c.toNat - '0'.toNat
  else if 'A' <= c && c <= 'F' then c.toNat - 'A'.toNat + 10
  else if 'a' <= c && c <= 'f' then c.toNat - 'a'.toNat + 10
  else 0

/-- The number a hexadecimal numeral stands for. -/
def hexadecimal (text : String) : Nat :=
  text.foldl (fun total c => 16 * total + digitValue c) 0

/-- Read one range. -/
def parseRange (text : String) : Nat × Nat :=
  match text.splitOn "-" with
  | [low, high] => (hexadecimal low, hexadecimal high)
  | _ => (hexadecimal text, hexadecimal text)

/-- Read a list of ranges. -/
def parseRanges (text : String) : List (Nat × Nat) :=
  (words text).map parseRange

/-- Read a table. -/
def ofText (text : String) : RangeTable :=
  ⟨(parseRanges text).toArray⟩

/-- Look for a code among the ranges from `low` up to, but not including,
`high`, by halving that interval at most `steps` times. -/
def search (ranges : Array (Nat × Nat)) (code : Nat) : Nat -> Nat -> Nat -> Bool
  | 0, _, _ => false
  | steps + 1, low, high =>
      if low < high then
        let middle := (low + high) / 2
        match ranges[middle]? with
        | none => false
        | some (first, last) =>
            if code < first then search ranges code steps low middle
            else if last < code then search ranges code steps (middle + 1) high
            else true
      else false

/-- Whether a code lies in one of the ranges. -/
def contains (table : RangeTable) (code : Nat) : Bool :=
  search table.ranges code (table.ranges.size + 1) 0 table.ranges.size

end RangeTable

end Text
end PatternMachine
