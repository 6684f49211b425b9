import PatternMachine.Term

/-!
# The store

The store holds everything that terms share by reference: the cells of lists,
tuples and object memories, the namespaces of the scope stack, and the sets of
names declared global. It also hands out the marks that tell constructs apart.
A reference never dangles in a store built by these operations; reading one
that does answers the empty cell, namespace or set, and binding a name there
makes the namespace.
-/

namespace PatternMachine

/-- The bindings of one scope, in the order in which the names were first bound. -/
structure Namespace where
  entries : List (String × Term) := []
  deriving Inhabited

namespace Namespace

/-- The value bound to a name. -/
def get? (scope : Namespace) (name : String) : Option Term :=
  scope.entries.lookup name

/-- Whether a name is bound. -/
def contains (scope : Namespace) (name : String) : Bool :=
  (scope.get? name).isSome

/-- Replace the value of a bound name, or bind a new name last. -/
def insertEntry (name : String) (value : Term) :
    List (String × Term) -> List (String × Term)
  | [] => [(name, value)]
  | (other, old) :: rest =>
      if other == name then (name, value) :: rest
      else (other, old) :: insertEntry name value rest

/-- Bind a name. -/
def insert (scope : Namespace) (name : String) (value : Term) : Namespace :=
  ⟨insertEntry name value scope.entries⟩

/-- The number of bound names. -/
def size (scope : Namespace) : Nat :=
  scope.entries.length

/-- The bound names in increasing order. -/
def names (scope : Namespace) : List String :=
  (scope.entries.map Prod.fst).mergeSort

end Namespace

/-- Where a term is found when its turn comes: it is at hand, or it is what a place
of a cell holds by then. -/
inductive Site
  | given (term : Term)
  | element (cell : CellRef) (place : Nat)
  deriving Inhabited

/-- Everything terms refer to. -/
structure Store where
  cells : Array (Array Term)
  scopes : Array Namespace
  globals : Array (List String)
  nextMark : Mark
  deriving Inhabited

namespace Store

/-- The store before any program is read: the first cell is the template memory
of the exception struct, whose mark is zero. -/
def initial : Store where
  cells := #[#[.none, .none]]
  scopes := #[]
  globals := #[]
  nextMark := 1

/-- The elements of a cell. -/
def elements (store : Store) (cell : CellRef) : Array Term :=
  store.cells[cell.place]?.getD #[]

/-- The namespace behind a reference. -/
def scope (store : Store) (ref : ScopeRef) : Namespace :=
  store.scopes[ref.place]?.getD {}

/-- The names declared global behind a reference. -/
def globalNames (store : Store) (ref : GlobalsRef) : List String :=
  store.globals[ref.place]?.getD []

/-- A mark no construct has yet. -/
def freshMark (store : Store) : Mark × Store :=
  (store.nextMark, { store with nextMark := store.nextMark + 1 })

/-- A new cell with the given elements. -/
def newCell (store : Store) (elements : Array Term) : CellRef × Store :=
  (⟨store.cells.size⟩, { store with cells := store.cells.push elements })

/-- A new empty namespace. -/
def newScope (store : Store) : ScopeRef × Store :=
  (⟨store.scopes.size⟩, { store with scopes := store.scopes.push {} })

/-- A new empty set of global names. -/
def newGlobals (store : Store) : GlobalsRef × Store :=
  (⟨store.globals.size⟩, { store with globals := store.globals.push [] })

/-- Overwrite one element of a cell; outside the cell nothing changes. -/
def writeElement (store : Store) (cell : CellRef) (place : Nat) (value : Term) : Store :=
  { store with
    cells := store.cells.modify cell.place fun elements => elements.setIfInBounds place value }

/-- The namespaces up to a place at least; those that are missing are empty. -/
def scopesThrough (store : Store) (place : Nat) : Array Namespace :=
  if place < store.scopes.size then store.scopes
  else store.scopes ++ Array.replicate (place + 1 - store.scopes.size) ({} : Namespace)

/-- Bind a name in a namespace. -/
def bind (store : Store) (ref : ScopeRef) (name : String) (value : Term) : Store :=
  { store with
    scopes := (store.scopesThrough ref.place).modify ref.place fun scope =>
      scope.insert name value }

/-- Add a name to a set of global names. -/
def declareGlobal (store : Store) (ref : GlobalsRef) (name : String) : Store :=
  { store with
    globals := store.globals.modify ref.place fun names =>
      if names.contains name then names else name :: names }

/-- The places of a template memory that hold data rather than functions. -/
def dataPlaces (store : Store) (memory : CellRef) : List Nat :=
  (store.elements memory).toList.zipIdx.filterMap fun (initial, place) =>
    match initial with
    | .closure _ _ => none
    | _ => some place

/-- The places of a struct's members that hold data rather than functions. -/
def dataSlots (store : Store) (template : Template) : List Nat :=
  store.dataPlaces template.memory

/-- The elements of a tuple, or of a pair taken as a tuple of two. -/
def tupleElements? (store : Store) : Term -> Option (List Term)
  | .tuple cell => some (store.elements cell).toList
  | .pair first second => some [first, second]
  | _ => none

/-- The elements of a list or tuple. -/
def sequenceElements? (store : Store) : Term -> Option (List Term)
  | .list cell => some (store.elements cell).toList
  | .tuple cell => some (store.elements cell).toList
  | _ => none

/-- The places of a cell, from left to right. -/
def places (store : Store) (cell : CellRef) : List Site :=
  (List.range (store.elements cell).size).map (.element cell)

/-- Where the elements of a list, tuple, pair or object are found, from left to
right. -/
def sites (store : Store) : Term -> List Site
  | .list cell => store.places cell
  | .tuple cell => store.places cell
  | .pair first second => [.given first, .given second]
  | .object _ memory => store.places memory
  | _ => []

/-- The term that is found at a site now; a place outside the cell reads as none. -/
def find (store : Store) : Site -> Term
  | .given term => term
  | .element cell place => (store.elements cell)[place]?.getD .none

/-- The truth value of a term. Zero, none, nil, false, the empty text, the empty
list and the empty tuple are false; everything else is true. -/
def truthy (store : Store) : Term -> Bool
  | .integer value => value != 0
  | .real value => value != 0.0
  | .boolean value => value
  | .text value => !value.isEmpty
  | .none => false
  | .nil => false
  | .list cell => !(store.elements cell).isEmpty
  | .tuple cell => !(store.elements cell).isEmpty
  | _ => true

/-- The member of an object. -/
def member? (store : Store) (template : Option Template) (memory : CellRef) (name : String) :
    Option Term := do
  let place ← (← template).memberIndex? name
  (store.elements memory)[place]?

/-- Overwrite the member of an object; nothing when there is no such member. -/
def writeMember? (store : Store) (template : Option Template) (memory : CellRef) (name : String)
    (value : Term) : Option Store := do
  let place ← (← template).memberIndex? name
  if place < (store.elements memory).size then some (store.writeElement memory place value)
  else none

end Store

end PatternMachine
