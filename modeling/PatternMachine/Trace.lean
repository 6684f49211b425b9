import PatternMachine.Term
import PatternMachine.Text.Blank
import PatternMachine.Text.Glob
import PatternMachine.Text.Utf8

/-!
# Execution traces

A trace records calls, returns, raised errors and tried clauses of the
functions selected by a list of globs, and warnings. Long texts are cut.
-/

namespace PatternMachine

/-- One recorded step. -/
inductive TraceEvent
  | called (body argument : String) (position : Position)
  | returned (body result : String)
  | raised (body error : String)
  | tried (body : String) (clause : Int) (pattern : String) (matched : Bool)
  | warned (message : String)
  deriving DecidableEq, Repr, Inhabited

namespace Trace

/-- A text of at most sixty bytes as it is; a longer one cut to 57 bytes and
three dots. -/
def shortened (text : String) : String :=
  if text.utf8ByteSize > 60 then Text.takeBytes 57 text ++ "..." else text

end Trace

namespace TraceEvent

/-- The line that records an event. -/
def line : TraceEvent -> String
  | called body argument position =>
      "[TRACE] CALL " ++ body ++ " arg=" ++ Trace.shortened argument ++ " at " ++
        position.moduleName ++ ":" ++ toString position.line ++ "\n"
  | returned body result => "[TRACE] RETURN " ++ body ++ " => " ++ Trace.shortened result ++ "\n"
  | raised body error => "[TRACE] EXCEPTION " ++ body ++ " " ++ error ++ "\n"
  | tried body clause pattern matched =>
      "[TRACE]   CLAUSE " ++ body ++ "#" ++ toString clause ++ " " ++ Trace.shortened pattern ++
        ": " ++ (if matched then "match" else "no match") ++ "\n"
  | warned message => "[TRACE] WARNING " ++ message ++ "\n"

/-- The function body an event belongs to; a warning belongs to none. -/
def body? : TraceEvent -> Option String
  | called body _ _ => some body
  | returned body _ => some body
  | raised body _ => some body
  | tried body _ _ _ => some body
  | warned _ => none

end TraceEvent

/-- Which events are recorded. -/
structure Tracer where
  enabled : Bool := false
  filters : List String := []
  deriving DecidableEq, Repr, Inhabited

namespace Tracer

/-- Read a list of globs separated by commas. A blank text has none. -/
def parseFilters (text : String) : List String :=
  if (Text.trim text).isEmpty then [] else (text.splitOn ",").map Text.trim

/-- Whether the functions of a body are traced. Without filters all are. -/
def follows (tracer : Tracer) (body : String) : Bool :=
  tracer.enabled &&
    (tracer.filters.isEmpty || tracer.filters.any fun glob => Text.globMatches glob body)

/-- Whether an event is recorded. -/
def records (tracer : Tracer) (event : TraceEvent) : Bool :=
  match event.body? with
  | some body => tracer.follows body
  | none => tracer.enabled

end Tracer

end PatternMachine
