import PatternMachine.Scope

/-!
# Operators

The operators of the language are dispatched by their own names before any
name is looked up. Binary operators take a pair or a tuple of two. Arithmetic
on integers wraps at 64 bits; a real on either side makes both sides real.
-/

namespace PatternMachine

/-- The operators. -/
inductive Operator
  | plus
  | minus
  | times
  | divide
  | disjunction
  | conjunction
  | equals
  | differs
  | below
  | atMost
  | above
  | atLeast
  | negate
  | complement
  deriving DecidableEq, Repr, Inhabited

namespace Operator

/-- All operators. -/
def all : List Operator :=
  [plus, minus, times, divide, disjunction, conjunction, equals, differs, below, atMost, above,
    atLeast, negate, complement]

/-- The name a program applies. -/
def name : Operator -> String
  | plus => "__plus__"
  | minus => "__minus__"
  | times => "__times__"
  | divide => "__divide__"
  | disjunction => "__or__"
  | conjunction => "__and__"
  | equals => "__eq__"
  | differs => "__ne__"
  | below => "__lt__"
  | atMost => "__le__"
  | above => "__gt__"
  | atLeast => "__ge__"
  | negate => "__uminus__"
  | complement => "__not__"

/-- The sign in messages and in program files. -/
def sign : Operator -> String
  | plus => "+"
  | minus => "-"
  | times => "*"
  | divide => "/"
  | disjunction => "or"
  | conjunction => "and"
  | equals => "=="
  | differs => "!="
  | below => "<"
  | atMost => "<="
  | above => ">"
  | atLeast => ">="
  | negate => "neg"
  | complement => "not"

/-- The operator of a name. -/
def ofName? (name : String) : Option Operator :=
  all.find? fun operator => operator.name == name

/-- The operator of a sign. -/
def ofSign? (sign : String) : Option Operator :=
  all.find? fun operator => operator.sign == sign

end Operator

namespace Evaluator

/-- The error that an operand has the wrong type. -/
def unsupported {α : Type} (sign : String) (operand : Term) : Action α :=
  Action.raise .valueError
    ("unsupported operand type for " ++ sign ++ ": " ++ operand.typeName)

/-- The two operands as numbers; the left one is checked first. -/
def numericOperands (sign : String) (left right : Term) : Action (Number × Number) :=
  match left.number?, right.number? with
  | some leftNumber, some rightNumber => return (leftNumber, rightNumber)
  | none, _ => unsupported sign left
  | _, none => unsupported sign right

/-- Apply an arithmetic operation under promotion. -/
def arithmetic (sign : String) (left right : Term) (exact : Int64 -> Int64 -> Int64)
    (approximate : Float -> Float -> Float) : Action Term := do
  match ← numericOperands sign left right with
  | (.exact leftValue, .exact rightValue) => Action.newInteger (exact leftValue rightValue)
  | (leftNumber, rightNumber) =>
      Action.newReal (approximate leftNumber.toReal rightNumber.toReal)

/-- Addition. A text on either side joins displayed forms; two lists are
appended. -/
def add (left right : Term) : Action Term := do
  match left, right with
  | .text _, _ => Action.newText ((← Action.display left) ++ (← Action.display right))
  | _, .text _ => Action.newText ((← Action.display left) ++ (← Action.display right))
  | .list leftCell, .list rightCell =>
      let store ← Action.store
      Action.newList ((store.elements leftCell).toList ++ (store.elements rightCell).toList)
  | .list _, other => Action.raise .valueError ("cannot add " ++ other.typeName ++ " to list")
  | _, _ => arithmetic "+" left right (· + ·) (· + ·)

/-- Division. Integers divide toward zero; the one quotient that does not fit
and every division by zero are errors. -/
def divide (left right : Term) : Action Term := do
  match ← numericOperands "/" left right with
  | (.exact dividend, .exact divisor) =>
      if divisor == 0 then Action.raise .arithmeticError "integer division by zero"
      else if dividend == Int64.minValue && divisor == -1 then
        Action.raise .arithmeticError "integer division overflow"
      else Action.newInteger (dividend / divisor)
  | (dividend, divisor) =>
      if divisor.toReal == 0.0 then Action.raise .arithmeticError "division by zero"
      else Action.newReal (dividend.toReal / divisor.toReal)

/-- The order of two texts: by their characters from the left. -/
def textOrder (left right : String) : Ordering :=
  if left < right then .lt else if right < left then .gt else .eq

/-- The order of two numbers under promotion, or of two texts. -/
def order (left right : Term) : Action Ordering := do
  match left, right with
  | .text leftText, .text rightText => return textOrder leftText rightText
  | .text _, other => Action.raise .valueError ("cannot compare string with " ++ other.typeName)
  | _, _ =>
      let (leftNumber, rightNumber) ← numericOperands "comparison" left right
      return leftNumber.order rightNumber

/-- Compare two operands. -/
def compareWith (accept : Ordering -> Bool) (left right : Term) : Action Term := do
  return .boolean (accept (← order left right))

/-- Negate a number. -/
def negateNumber : Term -> Action Term
  | .integer value => Action.newInteger (-value)
  | .real value => Action.newReal (-value)
  | operand => unsupported "unary -" operand

/-- Apply a binary operator to its operands. Both are evaluated already, so the
logical operators look at both. -/
def applyBinary (operator : Operator) (left right : Term) : Action Term := do
  match operator with
  | .plus => add left right
  | .minus => arithmetic "-" left right (· - ·) (· - ·)
  | .times => arithmetic "*" left right (· * ·) (· * ·)
  | .divide => divide left right
  | .disjunction =>
      let store ← Action.store
      return .boolean (store.truthy left || store.truthy right)
  | .conjunction =>
      let store ← Action.store
      return .boolean (store.truthy left && store.truthy right)
  | .equals => return .boolean (← Action.equal left right)
  | .differs => return .boolean (!(← Action.equal left right))
  | .below => compareWith Ordering.isLT left right
  | .atMost => compareWith Ordering.isLE left right
  | .above => compareWith Ordering.isGT left right
  | .atLeast => compareWith Ordering.isGE left right
  | .negate => negateNumber left
  | .complement => return .boolean (!(← Action.store).truthy left)

/-- Apply an operator to an evaluated argument. -/
def applyOperator (operator : Operator) (argument : Term) : Action Term := do
  match operator with
  | .negate => negateNumber argument
  | .complement => return .boolean (!(← Action.store).truthy argument)
  | _ =>
      match (← Action.store).tupleElements? argument with
      | some [left, right] => applyBinary operator left right
      | _ =>
          Action.raise .valueError
            ("operator " ++ operator.sign ++ " expects two operands but got " ++
              (← Action.display argument))

end Evaluator

end PatternMachine
