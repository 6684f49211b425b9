import PatternMachine.Builtin.Formal
import PatternMachine.Operator

/-!
# Built-in functions on lists

Sorting is stable. Short lists are sorted by insertion from the right; longer
ones are cut into blocks which are sorted and then merged by halves. The first
pair of elements that cannot be compared decides the error.
-/

namespace PatternMachine
namespace Builtin

/-- The order of two numbers or two texts, or why they have none. -/
def compareValues (left right : Term) : Except String Ordering :=
  match left, right with
  | .text leftText, .text rightText => .ok (Evaluator.textOrder leftText rightText)
  | .text _, other => .error ("cannot compare string with " ++ other.typeName)
  | _, _ =>
      match left.number?, right.number? with
      | some leftNumber, some rightNumber => .ok (leftNumber.order rightNumber)
      | _, _ => .error ("cannot compare " ++ left.typeName ++ " with " ++ right.typeName)

/-- Sorting remembers the first comparison that failed. -/
abbrev Sorting (α : Type) := StateM (Option String) α

/-- Whether an element has to stand before another one. Elements that cannot be
compared count as equal. -/
def precedes (left right : Term) : Sorting Bool := do
  match compareValues left right with
  | .ok order => return order.isLT
  | .error message =>
      modify fun first => first.or (some message)
      return false

/-- Insert an element into a sorted list given from its last element on. -/
def insertBackwards (element : Term) : List Term -> Sorting (List Term)
  | [] => return [element]
  | last :: rest => do
      if ← precedes element last then return last :: (← insertBackwards element rest)
      else return element :: last :: rest

/-- Sort by insertion; the answer is given from its last element on. -/
def insertionSort : List Term -> List Term -> Sorting (List Term)
  | sorted, [] => return sorted
  | sorted, element :: rest => do
      insertionSort (← insertBackwards element sorted) rest

/-- Search the places from `low` up to, but not including, `high` by halving: go on
to the right of a place where the question is answered with yes, and to its left
otherwise. -/
def bisect (question : Nat -> Sorting Bool) (low high : Nat) : Sorting Nat := do
  if low < high then
    let middle := (low + high) / 2
    if ← question middle then bisect question (middle + 1) high
    else bisect question low middle
  else return low
termination_by high - low

/-- Ask whether one of two terms, given by their places, stands before the other. -/
def precedesAt (left right : Array Term) (leftPlace rightPlace : Nat) : Sorting Bool :=
  precedes (left[leftPlace]?.getD .none) (right[rightPlace]?.getD .none)

/-- Merge two sorted lists of which one has at most one element. -/
def mergeShort : List Term -> List Term -> Sorting (List Term)
  | [], right => return right
  | left, [] => return left
  | [element], right => do
      let terms := right.toArray
      let place ← bisect (fun place => precedesAt terms #[element] place 0) 0 terms.size
      return right.take place ++ element :: right.drop place
  | left, element :: _ => do
      let terms := left.toArray
      let place ← bisect (fun place => not <$> precedesAt #[element] terms 0 place) 0 terms.size
      return left.take place ++ element :: left.drop place

/-- Merge two sorted lists; on equal elements the left one comes first. A search
finds how many elements of the left list belong to the first half of the outcome.
The two halves are then merged apart from each other. -/
def merge (left right : List Term) : Sorting (List Term) := do
  if 1 < left.length ∧ 1 < right.length then
    let half := (left.length + right.length) / 2
    let leftTerms := left.toArray
    let rightTerms := right.toArray
    let place ← bisect
      (fun place => not <$> precedesAt rightTerms leftTerms (half - 1 - place) place)
      (half - right.length) (min left.length half)
    let first ← merge (left.take place) (right.take (half - place))
    return first ++ (← merge (left.drop place) (right.drop (half - place)))
  else mergeShort left right
termination_by left.length + right.length
decreasing_by
  all_goals
    simp only [List.length_take, List.length_drop]
    omega

/-- Merge neighbouring lists. -/
def mergePairs : List (List Term) -> Sorting (List (List Term))
  | first :: second :: rest => do
      let merged ← merge first second
      return merged :: (← mergePairs rest)
  | rest => return rest

/-- Merge until one list is left, in at most `rounds` rounds. -/
def mergeAll : Nat -> List (List Term) -> Sorting (List Term)
  | 0, lists => return lists.flatten
  | _, [] => return []
  | _, [list] => return list
  | rounds + 1, lists => do
      mergeAll rounds (← mergePairs lists)

/-- The length of the blocks sorted by insertion. -/
def blockLength : Nat := 20

/-- Cut a list into blocks, at most `count` of them. -/
def blocks : Nat -> List Term -> List (List Term)
  | 0, _ => []
  | count + 1, list =>
      if list.isEmpty then [] else list.take blockLength :: blocks count (list.drop blockLength)

/-- Sort each block. -/
def sortBlocks : List (List Term) -> Sorting (List (List Term))
  | [] => return []
  | block :: rest => do
      let sorted ← insertionSort [] block
      return sorted.reverse :: (← sortBlocks rest)

/-- Sort a list of numbers or a list of texts. -/
def sortTerms (elements : List Term) : Except String (List Term) :=
  let sorting : Sorting (List Term) := do
    mergeAll elements.length (← sortBlocks (blocks elements.length elements))
  match sorting.run none with
  | (sorted, none) => .ok sorted
  | (_, some message) => .error message

/-- Reverse a list. -/
def reverse : Action Term := do
  Action.newList (← listFormal "reverse").reverse

/-- Sort a list. -/
def sort : Action Term := do
  match sortTerms (← listFormal "sort") with
  | .ok sorted => Action.newList sorted
  | .error message => Action.raise .valueError message

/-- Whether a value equals one of some elements; nothing if finding out never comes to
an end. -/
def isAmong? (store : Store) (value : Term) (elements : List Term) : Option Bool :=
  elements.anyM fun element => store.equal? element value

/-- Keep an element unless it equals one that is kept already. -/
def keepUnlike? (store : Store) (kept : List Term) (element : Term) : Option (List Term) := do
  if ← isAmong? store element kept then return kept else return kept ++ [element]

/-- The elements that equal none before them; nothing if finding out never comes to an
end. -/
def firstOccurrences? (store : Store) (elements : List Term) : Option (List Term) :=
  elements.foldlM (keepUnlike? store) []

/-- Remove repeated elements, keeping the first of each. -/
def unique : Action Term := do
  let elements ← listFormal "unique"
  Action.newList (← Action.finitely fun store => firstOccurrences? store elements)

/-- Whether a value equals an element of a list. -/
def isMember : Action Term := do
  let x ← formal "x"
  let elements ← listFormal "member"
  return .boolean (← Action.finitely fun store => isAmong? store x elements)

end Builtin
end PatternMachine
