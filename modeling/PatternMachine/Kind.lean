/-!
# Kinds of terms

Every term, pattern and value has one of thirty-six kinds. The order of the
kinds is fixed: a kind's code is its place in that order, and allocation
reports list kinds in it.
-/

namespace PatternMachine

/-- The discriminant of a term. -/
inductive Kind
  | integer
  | real
  | boolean
  | text
  | none
  | nil
  | list
  | tuple
  | pair
  | range
  | rawRange
  | headTail
  | rawHeadTail
  | sequence
  | function
  | closure
  | apply
  | index
  | conditional
  | isMatch
  | membership
  | evaluation
  | escape
  | named
  | typeMatch
  | constraint
  | quote
  | deref
  | identifier
  | struct
  | object
  | method
  | dataMember
  | initMember
  | foreign
  | lineMark
  deriving DecidableEq, Repr, Inhabited

namespace Kind

/-- All kinds, each at the place given by its code. -/
def all : List Kind :=
  [integer, real, boolean, text, none, nil, list, tuple, pair, range, rawRange, headTail,
    rawHeadTail, sequence, function, closure, apply, index, conditional, isMatch, membership,
    evaluation, escape, named, typeMatch, constraint, quote, deref, identifier, struct, object,
    method, dataMember, initMember, foreign, lineMark]

/-- The place of a kind in the fixed order. -/
def code (kind : Kind) : Nat :=
  kind.ctorIdx

/-- The name of a kind as diagnostics write it. -/
def label : Kind -> String
  | integer => "Integer"
  | real => "Real"
  | boolean => "Bool"
  | text => "String"
  | none => "None"
  | nil => "Nil"
  | list => "List"
  | tuple => "Tuple"
  | pair => "Pair"
  | range => "ToList"
  | rawRange => "RawToList"
  | headTail => "HeadTail"
  | rawHeadTail => "RawHeadTail"
  | sequence => "Sequence"
  | function => "Function"
  | closure => "FunctionVal"
  | apply => "Apply"
  | index => "Index"
  | conditional => "If"
  | isMatch => "Is"
  | membership => "In"
  | evaluation => "Eval"
  | escape => "Escape"
  | named => "NamedPattern"
  | typeMatch => "TypeMatch"
  | constraint => "Constraint"
  | quote => "Quote"
  | deref => "Deref"
  | identifier => "ID"
  | struct => "Struct"
  | object => "Object"
  | method => "MemberFunctionVal"
  | dataMember => "Data"
  | initMember => "Unify"
  | foreign => "Foreign"
  | lineMark => "LineInfo"

/-- The name of the kind with a given code; codes outside the order are unknown. -/
def labelOfCode (code : Int) : String :=
  if code < 0 then "Unknown"
  else match all[code.toNat]? with
    | some kind => kind.label
    | Option.none => "Unknown"

/-- The order in `all` is the order of the codes. -/
theorem getElem?_all_code (kind : Kind) : all[kind.code]? = some kind := by
  cases kind <;> rfl

end Kind

end PatternMachine
