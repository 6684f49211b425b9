import PatternMachine.Number
import PatternMachine.Store
import PatternMachine.Number.RealFormat
import PatternMachine.Text.Quoted

/-!
# Trees: terms with their cells spelled out

A tree is what a term looks like at one moment: every reference to a cell is
replaced by the elements the cell holds. Printing and structural equality are
functions of the tree. Terms whose cells contain each other have no finite
tree.
-/

namespace PatternMachine

/-- What a node of a tree is, apart from its parts. -/
inductive Shape
  | absent
  | integer (value : Int64)
  | real (value : Float)
  | boolean (value : Bool)
  | text (value : String)
  | none
  | nil
  | list
  | tuple
  | pair
  | range (raw : Bool) (mark : Mark)
  | headTail (raw : Bool) (mark : Mark)
  | sequence (mark : Mark)
  | function (mark : Mark) (body : String)
  | closure (body : String) (captured : Option Closure)
  | apply (mark : Mark)
  | index (mark : Mark)
  | conditional (mark : Mark)
  | isMatch (mark : Mark)
  | membership (mark : Mark)
  | evaluation (mark : Mark)
  | escape (mark : Mark) (name : String)
  | named (mark : Mark) (name : String)
  | typeMatch (mark : Mark) (typeName : String)
  | constraint (mark : Mark)
  | quote
  | deref (mark : Mark)
  | identifier (name : String)
  | struct (template : Template)
  | object (template : Option Template) (memory : CellRef) (dataSlots : List Nat)
  | method (mark : Mark) (receiverType : String)
  | dataMember (mark : Mark)
  | initMember (mark : Mark)
  | foreign (mark : Mark) (shown : String)
  | lineMark (mark : Mark) (position : Position)
  deriving Inhabited

/-- A node with its parts. -/
inductive Tree
  | node (shape : Shape) (parts : List Tree)

namespace Term

/-- The node at the top of the tree of a term. -/
def shape (store : Store) : Term -> Shape
  | absent => .absent
  | integer value => .integer value
  | real value => .real value
  | boolean value => .boolean value
  | text value => .text value
  | none => .none
  | nil => .nil
  | list _ => .list
  | tuple _ => .tuple
  | pair _ _ => .pair
  | range raw mark _ _ _ => .range raw mark
  | headTail raw mark _ _ => .headTail raw mark
  | sequence mark _ _ => .sequence mark
  | function mark body => .function mark body
  | closure body captured => .closure body captured
  | apply mark _ _ => .apply mark
  | index mark _ _ => .index mark
  | conditional mark _ _ _ => .conditional mark
  | isMatch mark _ _ => .isMatch mark
  | membership mark _ _ => .membership mark
  | evaluation mark _ => .evaluation mark
  | escape mark name => .escape mark name
  | named mark name _ => .named mark name
  | typeMatch mark typeName => .typeMatch mark typeName
  | constraint mark _ => .constraint mark
  | quote _ => .quote
  | deref mark _ => .deref mark
  | identifier name => .identifier name
  | struct template => .struct template
  | object template memory =>
      .object template memory
        (match template with
        | some template => store.dataSlots template
        | Option.none => List.range (store.elements memory).size)
  | method mark receiver _ => .method mark receiver.typeName
  | dataMember mark _ => .dataMember mark
  | initMember mark _ _ => .initMember mark
  | foreign mark shown => .foreign mark shown
  | lineMark mark position => .lineMark mark position

/-- The terms the tree of a term goes on with. The initial member values of a struct
are left out unless structs are opened. -/
def branches (store : Store) (opened : Bool) : Term -> List Term
  | list cell => (store.elements cell).toList
  | tuple cell => (store.elements cell).toList
  | pair first second => [first, second]
  | range _ _ start stop stride => [start, stop, stride]
  | headTail _ _ head tail => [head, tail]
  | sequence _ first second => [first, second]
  | apply _ callee argument => [callee, argument]
  | index _ subject selector => [subject, selector]
  | conditional _ condition consequent alternative => [condition, consequent, alternative]
  | isMatch _ subject pattern => [subject, pattern]
  | membership _ element container => [element, container]
  | evaluation _ expression => [expression]
  | named _ _ pattern => [pattern]
  | constraint _ pattern => [pattern]
  | quote expression => [expression]
  | deref _ expression => [expression]
  | struct template => if opened then (store.elements template.memory).toList else []
  | object _ memory => (store.elements memory).toList
  | method _ _ body => [body]
  | dataMember _ value => [value]
  | initMember _ value pattern => [value, pattern]
  | _ => []

end Term

namespace Store

/-- The tree of a term, descending at most `depth` levels; nothing when the
term is nested deeper. The initial member values of a struct are left out
unless structs are opened. -/
def expand (store : Store) (opened : Bool) : Nat -> Term -> Option Tree
  | 0, _ => none
  | depth + 1, term => do
      let parts ← (term.branches store opened).mapM (store.expand opened depth)
      return .node (term.shape store) parts

/-- A depth out of reach of any run. -/
def nestingLimit : Nat := Nat.pow 2 60

/-- The tree of a term with all structs opened, as those who watch a machine from
outside list it; no run depends on it. A term without a finite tree is listed as
missing. -/
def tree (store : Store) (term : Term) : Tree :=
  (store.expand true nestingLimit term).getD (.node .absent [])

end Store

/-- The number a shape stands for. -/
def Shape.number? : Shape -> Option Number
  | .integer value => some (.exact value)
  | .boolean value => some (.exact (if value then 1 else 0))
  | .real value => some (.approximate value)
  | _ => Option.none

/-- Whether two constructs that have no structural equality are the same one. -/
def Shape.sameConstruct : Shape -> Shape -> Bool
  | .range raw left, .range raw' right => raw == raw' && left == right
  | .headTail raw left, .headTail raw' right => raw == raw' && left == right
  | .sequence left, .sequence right => left == right
  | .function left _, .function right _ => left == right
  | .apply left, .apply right => left == right
  | .index left, .index right => left == right
  | .conditional left, .conditional right => left == right
  | .isMatch left, .isMatch right => left == right
  | .membership left, .membership right => left == right
  | .evaluation left, .evaluation right => left == right
  | .escape left _, .escape right _ => left == right
  | .named left _, .named right _ => left == right
  | .typeMatch left _, .typeMatch right _ => left == right
  | .constraint left, .constraint right => left == right
  | .deref left, .deref right => left == right
  | .struct left, .struct right => left.mark == right.mark
  | .method left _, .method right _ => left == right
  | .dataMember left, .dataMember right => left == right
  | .initMember left, .initMember right => left == right
  | .foreign left _, .foreign right _ => left == right
  | .lineMark left _, .lineMark right _ => left == right
  | _, _ => false

namespace Tree

mutual

/-- Structural equality. Numbers compare under promotion, containers by their
elements, functions by body and captured scopes. Objects are equal when they are the
same object, or agree in struct name and members. All other constructs are equal only
to themselves. -/
def equal : Tree -> Tree -> Bool
  | node left leftParts, node right rightParts =>
      match left.number?, right.number? with
      | some leftNumber, some rightNumber => leftNumber.equal rightNumber
      | _, _ =>
          match left, right with
          | .absent, .absent => true
          | .text leftText, .text rightText => leftText == rightText
          | .none, .none => true
          | .nil, .nil => true
          | .list, .list => equalParts leftParts rightParts
          | .tuple, .tuple => equalParts leftParts rightParts
          | .pair, .pair => equalParts leftParts rightParts
          | .quote, .quote => equalParts leftParts rightParts
          | .identifier leftName, .identifier rightName => leftName == rightName
          | .closure leftBody leftScopes, .closure rightBody rightScopes =>
              leftBody == rightBody &&
                leftScopes.map Closure.mark == rightScopes.map Closure.mark
          | .object leftTemplate leftMemory _, .object rightTemplate rightMemory _ =>
              (leftTemplate == rightTemplate && leftMemory == rightMemory) ||
                (structName leftTemplate == structName rightTemplate &&
                  equalParts leftParts rightParts)
          | left, right => left.sameConstruct right

/-- Equality of two lists of trees, element by element. -/
def equalParts : List Tree -> List Tree -> Bool
  | [], [] => true
  | left :: leftRest, right :: rightRest =>
      left.equal right && equalParts leftRest rightRest
  | _, _ => false

end

/-- The shape of a tree. -/
def shape : Tree -> Shape
  | node shape _ => shape

/-- Whether a tree shows its own parentheses. -/
def isParenthesized (tree : Tree) : Bool :=
  match tree.shape with
  | .tuple => true
  | .pair => true
  | _ => false

/-- Whether nothing stands at a place of a construct. -/
def isAbsent (tree : Tree) : Bool :=
  match tree.shape with
  | .absent => true
  | _ => false

end Tree

/-- Texts separated by commas. -/
def commaSeparated (texts : List String) : String :=
  String.intercalate "," texts

/-- A position as it is shown. -/
def Position.shown (position : Position) : String :=
  position.moduleName ++ ":" ++ toString position.line

/-- Put the texts of the parts of a construct together. -/
def Shape.arrange (shape : Shape) (parts : List Tree) (texts : List String) : String :=
  match shape, texts with
  | .absent, _ => "<nil>"
  | .integer value, _ => toString value.toInt
  | .real value, _ => Number.displayed.write value
  | .boolean value, _ => if value then "true" else "false"
  | .text value, _ => Text.quoted value
  | .none, _ => "none"
  | .nil, _ => "nil"
  | .list, _ => "[" ++ commaSeparated texts ++ "]"
  | .tuple, _ => "(" ++ commaSeparated texts ++ ")"
  | .pair, _ => "(" ++ commaSeparated texts ++ ")"
  | .range _ _, [start, stop, stride] =>
      "[" ++ start ++ " to " ++ stop ++
        (if (parts.drop 2).all Tree.isAbsent then "" else " step " ++ stride) ++ "]"
  | .headTail _ _, [head, tail] => "[" ++ head ++ "|" ++ tail ++ "]"
  | .sequence _, [first, second] => first ++ "; " ++ second
  | .function _ body, _ => "function " ++ body
  | .closure body _, _ => "function " ++ body
  | .apply _, [callee, argument] =>
      if (parts.drop 1).all Tree.isParenthesized then callee ++ argument
      else callee ++ "(" ++ argument ++ ")"
  | .index _, [subject, selector] => subject ++ "@" ++ selector
  | .conditional _, [condition, consequent, alternative] =>
      if (parts.drop 2).all Tree.isAbsent then consequent ++ " if " ++ condition
      else "if " ++ condition ++ " then " ++ consequent ++ " else " ++ alternative
  | .isMatch _, [subject, pattern] => subject ++ " is " ++ pattern
  | .membership _, [element, container] => element ++ " in " ++ container
  | .evaluation _, [expression] => "eval(" ++ expression ++ ")"
  | .escape _ name, _ => "escape " ++ Text.quoted name
  | .named _ name, [pattern] => name ++ ":" ++ pattern
  | .typeMatch _ typeName, _ => "%" ++ typeName
  | .constraint _, [pattern] => "%[" ++ pattern ++ "]%"
  | .quote, [expression] => "pattern " ++ expression
  | .deref _, [expression] => "*" ++ expression
  | .identifier name, _ => name
  | .struct template, _ => "struct " ++ template.name
  | .object template _ dataSlots, _ =>
      structName template ++ "(" ++ commaSeparated (dataSlots.filterMap (texts[·]?)) ++ ")"
  | .method _ _, [body] => "method " ++ body
  | .dataMember _, [value] => "data " ++ value
  | .initMember _, [value, pattern] => "let " ++ pattern ++ " = " ++ value
  | .foreign _ shown, _ => "<foreign " ++ shown ++ ">"
  | .lineMark _ position, _ => position.shown
  | _, _ => ""

namespace Tree

mutual

/-- A tree as it is shown inside another one: texts are quoted. -/
def shown : Tree -> String
  | node shape parts => shape.arrange parts (shownAll parts)

/-- Trees as they are shown inside another one. -/
def shownAll : List Tree -> List String
  | [] => []
  | tree :: rest => tree.shown :: shownAll rest

end

/-- A tree as it is shown by itself: a text is not quoted. -/
def display : Tree -> String
  | node (.text value) _ => value
  | tree => tree.shown

end Tree

/-! ## Answers about terms

Equality and printing look into the cells a term refers to, and into those that
are met there, one after the other. Of a term whose cells contain each other they
may never come to an end. -/

/-- The answers of a recursion that goes `depth` levels deep: each level finds its
answers with those of the level below. -/
def descend {κ α : Type} (level : (κ -> Option α) -> κ -> Option α) : Nat -> κ -> Option α
  | 0, _ => none
  | depth + 1, key => level (descend level depth) key

/-- Whether two terms are equal, by the answers for the elements of two cells.
Containers compare by their elements. Objects are equal when they are the same object,
or agree in struct name and members. What has no elements or parts to compare is
compared as the top of a tree. -/
def Term.equalBy (store : Store) (cells : CellRef × CellRef -> Option Bool) :
    Term -> Term -> Option Bool
  | .list left, .list right => cells (left, right)
  | .tuple left, .tuple right => cells (left, right)
  | .pair first second, .pair otherFirst otherSecond => do
      if ← first.equalBy store cells otherFirst then second.equalBy store cells otherSecond
      else return false
  | .quote left, .quote right => left.equalBy store cells right
  | .object template memory, .object other otherMemory =>
      if template == other && memory == otherMemory then some true
      else if structName template == structName other then cells (memory, otherMemory)
      else some false
  | left, right => some ((Tree.node (left.shape store) []).equal (.node (right.shape store) []))

/-- Elements that are shown in a row: all those of a cell, or those the template
memory of a struct marks as data. -/
structure Row where
  cell : CellRef
  layout : Option CellRef := none
  deriving DecidableEq, Repr

/-- The tree that is drawn to show a term, by the trees for rows of elements. Of an
object it has the members that are shown, and no others. -/
def Term.draw (store : Store) (rows : Row -> Option (List Tree)) : Term -> Option Tree
  | .list cell => do
      return .node .list (← rows { cell })
  | .tuple cell => do
      return .node .tuple (← rows { cell })
  | .object template memory => do
      let members ← rows { cell := memory, layout := template.map Template.memory }
      return .node (.object template memory (List.range members.length)) members
  | .pair first second => do
      return .node .pair [← first.draw store rows, ← second.draw store rows]
  | .range raw mark start stop stride => do
      return .node (.range raw mark)
        [← start.draw store rows, ← stop.draw store rows, ← stride.draw store rows]
  | .headTail raw mark head tail => do
      return .node (.headTail raw mark) [← head.draw store rows, ← tail.draw store rows]
  | .sequence mark first second => do
      return .node (.sequence mark) [← first.draw store rows, ← second.draw store rows]
  | .apply mark callee argument => do
      return .node (.apply mark) [← callee.draw store rows, ← argument.draw store rows]
  | .index mark subject selector => do
      return .node (.index mark) [← subject.draw store rows, ← selector.draw store rows]
  | .conditional mark condition consequent alternative => do
      return .node (.conditional mark)
        [← condition.draw store rows, ← consequent.draw store rows,
          ← alternative.draw store rows]
  | .isMatch mark subject pattern => do
      return .node (.isMatch mark) [← subject.draw store rows, ← pattern.draw store rows]
  | .membership mark element container => do
      return .node (.membership mark) [← element.draw store rows, ← container.draw store rows]
  | .evaluation mark expression => do
      return .node (.evaluation mark) [← expression.draw store rows]
  | .named mark name pattern => do
      return .node (.named mark name) [← pattern.draw store rows]
  | .constraint mark pattern => do
      return .node (.constraint mark) [← pattern.draw store rows]
  | .quote expression => do
      return .node .quote [← expression.draw store rows]
  | .deref mark expression => do
      return .node (.deref mark) [← expression.draw store rows]
  | .method mark receiver body => do
      return .node (.method mark receiver.typeName) [← body.draw store rows]
  | .dataMember mark value => do
      return .node (.dataMember mark) [← value.draw store rows]
  | .initMember mark value pattern => do
      return .node (.initMember mark) [← value.draw store rows, ← pattern.draw store rows]
  | term => some (.node (term.shape store) [])

namespace Store

/-- How many cells one in another are looked into. Whoever comes through more cells
than there are pairs of them has been at one pair twice and goes in a circle. The
limit on top of that is for a process that runs in a circle: it ends for want of
memory and not with an answer. -/
def reach (store : Store) : Nat :=
  nestingLimit + (store.cells.size + 1) * (store.cells.size + 1)

/-- Whether the elements of two cells are equal: there are equally many, and no first
difference is found from left to right. -/
def equalCells (store : Store) (cells : CellRef × CellRef -> Option Bool) :
    CellRef × CellRef -> Option Bool
  | (left, right) =>
      let lefts := (store.elements left).toList
      let rights := (store.elements right).toList
      if lefts.length == rights.length then
        (lefts.zip rights).allM fun (left, right) => left.equalBy store cells right
      else some false

/-- Structural equality of two terms; nothing if the comparison never comes to an
end. -/
def equal? (store : Store) (left right : Term) : Option Bool :=
  left.equalBy store (descend store.equalCells store.reach) right

/-- Whether a comparison of two terms comes to an end and finds them equal. -/
def equal (store : Store) (left right : Term) : Bool :=
  store.equal? left right == some true

/-- The elements in a row. -/
def row (store : Store) (row : Row) : List Term :=
  match row.layout with
  | some layout => (store.dataPlaces layout).filterMap ((store.elements row.cell)[·]?)
  | none => (store.elements row.cell).toList

/-- The trees that are drawn to show the elements in a row. -/
def drawRow (store : Store) (rows : Row -> Option (List Tree)) (row : Row) :
    Option (List Tree) :=
  (store.row row).mapM (Term.draw store rows)

/-- A term as it is shown; nothing if its text never comes to an end. -/
def display? (store : Store) (term : Term) : Option String := do
  return (← term.draw store (descend store.drawRow store.reach)).display

/-- A term as the trace of a run and the report of an error have it. Writing a term
without a finite text never comes to an end; there it is left empty instead. -/
def display (store : Store) (term : Term) : String :=
  (store.display? term).getD ""

end Store

end PatternMachine
