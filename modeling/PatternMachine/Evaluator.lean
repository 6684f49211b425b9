import PatternMachine.Scope

/-!
# The recursive calls of the machine

Evaluation and matching call each other without end. Every construct is
described by a plain function that takes the two recursive calls as an
argument; only the module that closes the circle counts steps.
-/

namespace PatternMachine

/-- What a pattern is matched for: to bind its names to parts of a value, or to
find out whether one clause already covers every argument of a later one. -/
inductive Mode
  | binding
  | covering
  deriving DecidableEq, Repr, Inhabited

/-- A place on the pattern side, an identifier or an index expression, with the
term that goes there. -/
structure Binding where
  target : Term
  value : Term
  deriving Inhabited

/-- The two recursive calls. -/
structure Evaluator where
  /-- The value of a term. -/
  walk : Term -> Action Term
  /-- The bindings under which a term matches a pattern. -/
  unify : Mode -> Term -> Term -> Action (List Binding)

namespace Evaluator

/-- The values of several terms, from left to right. Each is looked up when its
turn comes, after the terms before it have been evaluated. -/
def walkAll (self : Evaluator) : List Site -> Action (List Term)
  | [] => return []
  | site :: rest => do
      let value ← self.walk (← Action.find site)
      return value :: (← self.walkAll rest)

end Evaluator

end PatternMachine
