import PatternMachine.Kind

/-!
# Terms, patterns and values

One type covers the terms a program is written in, the patterns terms are
matched against, and the values evaluation produces. Lists, tuples and object
memories are references to mutable cells, so that two terms may share one
cell. Every construct without a structural notion of equality carries a mark:
two occurrences are the same construct exactly when their marks agree.
-/

namespace PatternMachine

/-- The identity of one occurrence of a construct. -/
abbrev Mark := Nat

/-- A reference to a mutable cell of elements. -/
structure CellRef where
  place : Nat
  deriving DecidableEq, Repr, Inhabited

/-- A reference to a namespace. -/
structure ScopeRef where
  place : Nat
  deriving DecidableEq, Repr, Inhabited

/-- A reference to a set of names declared global. -/
structure GlobalsRef where
  place : Nat
  deriving DecidableEq, Repr, Inhabited

/-- A position in the source of a program. -/
structure Position where
  moduleName : String := ""
  line : Int := 0
  deriving DecidableEq, Repr, Inhabited

/-- A snapshot of the active scopes, outermost first. The namespaces it refers
to stay shared with every other snapshot that holds them. -/
structure Closure where
  mark : Mark
  scopes : Array ScopeRef
  globals : Array GlobalsRef
  level : Int
  deriving DecidableEq, Repr, Inhabited

/-- A struct: its name, its member names, and the cell of initial member values
which every new object copies. -/
structure Template where
  mark : Mark
  name : String
  members : List String
  memory : CellRef
  deriving DecidableEq, Repr, Inhabited

/-- Terms, patterns and values. `absent` stands where no term was given. -/
inductive Term
  | absent
  | integer (value : Int64)
  | real (value : Float)
  | boolean (value : Bool)
  | text (value : String)
  | none
  | nil
  | list (cell : CellRef)
  | tuple (cell : CellRef)
  | pair (first second : Term)
  | range (raw : Bool) (mark : Mark) (start stop stride : Term)
  | headTail (raw : Bool) (mark : Mark) (head tail : Term)
  | sequence (mark : Mark) (first second : Term)
  | function (mark : Mark) (body : String)
  | closure (body : String) (captured : Option Closure)
  | apply (mark : Mark) (callee argument : Term)
  | index (mark : Mark) (subject selector : Term)
  | conditional (mark : Mark) (condition consequent alternative : Term)
  | isMatch (mark : Mark) (subject pattern : Term)
  | membership (mark : Mark) (element container : Term)
  | evaluation (mark : Mark) (expression : Term)
  | escape (mark : Mark) (name : String)
  | named (mark : Mark) (name : String) (pattern : Term)
  | typeMatch (mark : Mark) (typeName : String)
  | constraint (mark : Mark) (pattern : Term)
  | quote (expression : Term)
  | deref (mark : Mark) (expression : Term)
  | identifier (name : String)
  | struct (template : Template)
  | object (template : Option Template) (memory : CellRef)
  | method (mark : Mark) (receiver body : Term)
  | dataMember (mark : Mark) (value : Term)
  | initMember (mark : Mark) (value pattern : Term)
  | foreign (mark : Mark) (shown : String)
  | lineMark (mark : Mark) (position : Position)
  deriving Inhabited

namespace Term

/-- Whether a term is missing. -/
def isAbsent : Term -> Bool
  | absent => true
  | _ => false

/-- Whether an optional part of a construct is left out: missing, or none. -/
def isOmitted : Term -> Bool
  | absent => true
  | none => true
  | _ => false

/-- The kind of a term. A missing term counts as none. -/
def kind : Term -> Kind
  | absent => .none
  | integer _ => .integer
  | real _ => .real
  | boolean _ => .boolean
  | text _ => .text
  | none => .none
  | nil => .nil
  | list _ => .list
  | tuple _ => .tuple
  | pair _ _ => .pair
  | range raw _ _ _ _ => if raw then .rawRange else .range
  | headTail raw _ _ _ => if raw then .rawHeadTail else .headTail
  | sequence _ _ _ => .sequence
  | function _ _ => .function
  | closure _ _ => .closure
  | apply _ _ _ => .apply
  | index _ _ _ => .index
  | conditional _ _ _ _ => .conditional
  | isMatch _ _ _ => .isMatch
  | membership _ _ _ => .membership
  | evaluation _ _ => .evaluation
  | escape _ _ => .escape
  | named _ _ _ => .named
  | typeMatch _ _ => .typeMatch
  | constraint _ _ => .constraint
  | quote _ => .quote
  | deref _ _ => .deref
  | identifier _ => .identifier
  | struct _ => .struct
  | object _ _ => .object
  | method _ _ _ => .method
  | dataMember _ _ => .dataMember
  | initMember _ _ _ => .initMember
  | foreign _ _ => .foreign
  | lineMark _ _ => .lineMark

/-- The type name of a value, as type patterns spell it. An object answers the
name of its struct; a term that is no value answers its kind. -/
def typeName : Term -> String
  | integer _ => "integer"
  | real _ => "real"
  | boolean _ => "boolean"
  | text _ => "string"
  | list _ => "list"
  | tuple _ => "tuple"
  | pair _ _ => "pair"
  | none => "none"
  | nil => "nil"
  | closure _ _ => "function"
  | method _ _ _ => "function"
  | quote _ => "pattern"
  | foreign _ _ => "foreign"
  | struct _ => "struct"
  | object (some template) _ => template.name
  | object Option.none _ => "object"
  | other => other.kind.label

/-- Whether a term can only stand on the pattern side, never be a value. -/
def isPatternOnly : Term -> Bool
  | identifier _ => true
  | named _ _ _ => true
  | typeMatch _ _ => true
  | constraint _ _ => true
  | deref _ _ => true
  | conditional _ _ _ _ => true
  | headTail _ _ _ _ => true
  | apply _ _ _ => true
  | index _ _ _ => true
  | _ => false

end Term

namespace Template

/-- The place of a member among the members of a struct. -/
def memberIndex? (template : Template) (member : String) : Option Nat :=
  template.members.findIdx? (· == member)

/-- The struct every raised error instantiates: a kind and a value. -/
def exception : Template where
  mark := 0
  name := "Exception"
  members := ["kind", "val"]
  memory := ⟨0⟩

end Template

/-- The name of an object's struct; an object without one has the empty name. -/
def structName : Option Template -> String
  | some template => template.name
  | none => ""

/-- Whether a type pattern of this name is decided without looking up a struct. -/
def isPrimitiveTypeName (name : String) : Bool :=
  ["integer", "real", "boolean", "string", "list", "tuple", "pair", "none", "nil",
    "foreign"].contains name

end PatternMachine
