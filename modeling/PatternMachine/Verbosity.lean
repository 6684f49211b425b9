/-!
# Verbosity

How much is logged. A message has a level, and is logged when its level is not
above the verbosity.
-/

namespace PatternMachine

/-- The level up to which messages are logged. -/
structure Verbosity where
  level : Int := 0
  deriving DecidableEq, Repr, Inhabited

namespace Verbosity

/-- Ask for a level; only positive levels change anything. -/
def request (verbosity : Verbosity) (level : Int) : Verbosity :=
  if 0 < level then ⟨level⟩ else verbosity

/-- Whether messages of a level are logged. -/
def enables (verbosity : Verbosity) (level : Int) : Bool :=
  level <= verbosity.level

end Verbosity
end PatternMachine
