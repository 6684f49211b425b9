import PatternMachine.Indexing
import PatternMachine.Regex

/-!
# Matching

A term is matched against a pattern by the first rule that applies. In binding
mode a match yields the bindings the pattern asks for. In covering mode the
term is itself the pattern of a later clause, and a match says that the earlier
pattern accepts every argument the later one accepts.
-/

namespace PatternMachine
namespace Evaluator

/-- The error that a match failed. -/
def mismatch {α : Type} (message : String) : Action α :=
  Action.raise .patternMatchFailed message

/-- The first name that is bound twice. -/
def repeatedName? : List String -> List Binding -> Option String
  | _, [] => none
  | seen, binding :: rest =>
      match binding.target with
      | .identifier name =>
          if seen.contains name then some name else repeatedName? (name :: seen) rest
      | _ => repeatedName? seen rest

/-- Refuse bindings that bind a name twice, unless the settings allow it. -/
def checkLinear (mode : Mode) (bindings : List Binding) : Action (List Binding) := do
  if mode == .binding && !(← get).settings.allowNonLinear then
    match repeatedName? [] bindings with
    | some name =>
        Action.raise .nonLinearPattern
          ("variable " ++ Text.quoted name ++ " is bound more than once in the same pattern")
    | none => return bindings
  else return bindings

/-- Match terms against patterns pairwise. Both are looked up when their turn
comes: a guard may have written to a container in the meantime. -/
def unifyEach (self : Evaluator) (mode : Mode) : List (Site × Site) -> Action (List Binding)
  | [] => return []
  | (termSite, patternSite) :: rest => do
      let term ← Action.find termSite
      let bindings ← self.unify mode term (← Action.find patternSite)
      return bindings ++ (← self.unifyEach mode rest)

/-- Match terms against patterns pairwise and refuse a name bound twice. -/
def unifyLinear (self : Evaluator) (mode : Mode) (terms patterns : List Site) :
    Action (List Binding) := do
  checkLinear mode (← self.unifyEach mode (terms.zip patterns))

/-- The pattern a reference to a pattern stands for. -/
def dereference (self : Evaluator) (expression : Term) : Action Term := do
  match ← self.walk expression with
  | .quote pattern => return pattern
  | value => return value

/-- Match a text against a regular expression. -/
def unifyText (text pattern : String) : Action (List Binding) :=
  match Regex.compile? pattern with
  | .error problem =>
      Action.raise .valueError
        ("invalid regular expression " ++ Text.quoted pattern ++ ": " ++ problem.message)
  | .ok regex =>
      if regex.accepts text then return []
      else
        mismatch
          ("regular expression " ++ Text.quoted pattern ++ " did not match " ++ Text.quoted text)

/-- Match any term against a regular expression: what is no text matches through
its displayed form. -/
def unifyRegex (mode : Mode) (term : Term) (pattern : String) : Action (List Binding) := do
  match term with
  | .text text => unifyText text pattern
  | _ =>
      let shown ← Action.display term
      if mode == .covering && term.isPatternOnly then
        mismatch ("pattern " ++ shown ++ " does not subsume string " ++ Text.quoted pattern)
      else
        Action.count .text
        unifyText shown pattern

/-- Whether the object is an instance of the struct a type pattern names. -/
def isInstance (template : Template) : Term -> Bool
  | .object owner _ => structName owner == template.name
  | _ => false

/-- Match a term against a type pattern. -/
def unifyType (mode : Mode) (term : Term) (typeName : String) : Action (List Binding) := do
  let wrongType : Action (List Binding) :=
    mismatch ("expected a value of type " ++ typeName ++ " but got " ++ term.typeName)
  match mode, term with
  | .covering, .typeMatch _ other =>
      if other == typeName then return []
      else mismatch ("type pattern %" ++ typeName ++ " does not subsume %" ++ other)
  | _, _ =>
      if typeName == "function" then
        match term with
        | .closure _ _ => return []
        | .method _ _ _ => return []
        | _ => wrongType
      else if typeName == "pattern" then
        match term with
        | .quote _ => return []
        | _ => wrongType
      else if isPrimitiveTypeName typeName then
        if term.typeName == typeName then return [] else wrongType
      else
        match ← Action.lookup? typeName with
        | some (.struct template) =>
            if isInstance template term then return [] else wrongType
        | _ => mismatch (typeName ++ " is not a valid type")

/-- The warning given once when two guarded clauses are compared. -/
def guardWarning : String :=
  "redundancy between conditional patterns cannot be decided; assuming they are distinct"

/-- Warn, the first time only, that guarded clauses cannot be compared. -/
def warnGuard : Action Unit := do
  unless (← get).guardWarned do
    modify fun machine => { machine with guardWarned := true }
    Action.record (.warned guardWarning)

/-- Run an action in a scope of its own. -/
def inFreshScope {α : Type} (action : Action α) : Action α := do
  modify Machine.pushScope
  Action.ensuring action Machine.popScope

/-- Match a term against a guarded pattern. The guard is evaluated with the
bindings of the pattern in a scope of their own. -/
def unifyGuarded (self : Evaluator) (mode : Mode) (term : Term) (mark : Mark)
    (condition consequent alternative : Term) : Action (List Binding) := do
  if !alternative.isOmitted then
    Action.raise .valueError "conditional patterns do not support else clauses"
  else
    match mode, term with
    | .covering, .conditional _ _ _ _ =>
        warnGuard
        mismatch "cannot decide whether one conditional pattern subsumes another"
    | .covering, _ =>
        let pattern := Term.conditional mark condition consequent alternative
        mismatch
          ("conditional pattern " ++ (← Action.display pattern) ++ " does not subsume " ++
            (← Action.display term))
    | .binding, _ =>
        let bindings ← self.unify mode term consequent
        let verdict ← inFreshScope do
          self.declareAll bindings
          self.walk condition
        if (← Action.store).truthy verdict then return bindings
        else
          mismatch ("condition " ++ (← Action.display condition) ++ " is not satisfied")

/-- Match a term against a head and a tail. -/
def unifyHeadTail (self : Evaluator) (mode : Mode) (term head tail : Term) :
    Action (List Binding) := do
  match mode, term with
  | _, .list cell =>
      match ((← Action.store).elements cell).toList with
      | [] => mismatch "head-tail operator expected a non-empty list"
      | first :: rest =>
          let remainder ← Action.newList rest
          self.unifyLinear mode [.given first, .given remainder] [.given head, .given tail]
  | .binding, .headTail _ _ _ _ => mismatch "head-tail operator expected a list"
  | .covering, .headTail _ _ termHead termTail =>
      self.unifyLinear mode [.given termHead, .given termTail] [.given head, .given tail]
  | _, _ => mismatch ("head-tail operator expected a list but got " ++ term.typeName)

/-- Match an object against a constructor pattern, over the data members in
their order. -/
def unifyConstructor (self : Evaluator) (mode : Mode) (owner : Option Template)
    (memory : CellRef) (callee argument : Term) : Action (List Binding) := do
  match callee with
  | .identifier name =>
      if name != structName owner then
        mismatch ("expected type " ++ name ++ " but got type " ++ structName owner)
      else match owner with
        | none => Action.raise .machineError "object has no struct"
        | some template =>
            let store ← Action.store
            let slots := store.dataSlots template
            let member (slot : Nat) : Term := (store.elements memory)[slot]?.getD .absent
            match store.tupleElements? argument with
            | some patterns =>
                if patterns.length != slots.length then
                  mismatch
                    ("struct " ++ name ++ " has " ++ toString slots.length ++
                      " data members but the pattern has " ++ toString patterns.length)
                else
                  self.unifyLinear mode (slots.map fun slot => .given (member slot))
                    (store.sites argument)
            | none =>
                match slots with
                | [] => mismatch ("struct " ++ name ++ " has no data members")
                | slot :: _ => self.unify mode (member slot) argument
  | _ =>
      mismatch
        ("constructor pattern " ++ (← Action.display callee) ++ " does not name a struct")

/-- Compare two constructor patterns. -/
def unifyApplications (self : Evaluator) (termCallee termArgument callee argument : Term) :
    Action (List Binding) := do
  let apart : Action (List Binding) := do
    mismatch
      ("constructor " ++ (← Action.display callee) ++ " does not subsume " ++
        (← Action.display termCallee))
  match termCallee, callee with
  | .identifier termName, .identifier name =>
      if termName == name then self.unify .covering termArgument argument else apart
  | _, _ => apart

/-- Whether a term is of the kind of a pattern and equal to it. -/
def agrees (term pattern : Term) : Action Bool :=
  if term.kind == pattern.kind then Action.equal term pattern else return false

/-- The last rule: a term matches a pattern of its own kind that is equal to it. -/
def unifyEqual (term pattern : Term) : Action (List Binding) := do
  if ← agrees term pattern then return []
  else
    mismatch
      ("pattern " ++ (← Action.display pattern) ++ " of type " ++ pattern.kind.label ++
        " does not match term " ++ (← Action.display term) ++ " of type " ++ term.kind.label)

/-- Match tuples and pairs, constructor patterns, and what is left. -/
def unifyCompound (self : Evaluator) (mode : Mode) (term pattern : Term) :
    Action (List Binding) := do
  let store ← Action.store
  match store.tupleElements? term, store.tupleElements? pattern with
  | some terms, some patterns =>
      if terms.length != patterns.length then
        mismatch
          ("term and pattern tuples are not the same length: " ++ toString terms.length ++
            " and " ++ toString patterns.length)
      else self.unifyLinear mode (store.sites term) (store.sites pattern)
  | _, _ =>
      match mode, term, pattern with
      | _, .object owner memory, .apply _ callee argument =>
          self.unifyConstructor mode owner memory callee argument
      | .covering, .apply _ termCallee termArgument, .apply _ callee argument =>
          self.unifyApplications termCallee termArgument callee argument
      | _, _, _ => unifyEqual term pattern

/-- Match lists; where neither side is a list, go on. -/
def unifyLists (self : Evaluator) (mode : Mode) (term pattern : Term) :
    Action (List Binding) := do
  let differ : Action (List Binding) :=
    mismatch
      ("term and pattern do not have the same type: " ++ term.kind.label ++ " and " ++
        pattern.kind.label)
  match term, pattern with
  | .list cell, .list patternCell =>
      let store ← Action.store
      let terms := (store.elements cell).toList
      let patterns := (store.elements patternCell).toList
      if terms.length != patterns.length then
        mismatch
          ("term and pattern lists are not the same length: " ++ toString terms.length ++
            " and " ++ toString patterns.length)
      else self.unifyLinear mode (store.sites term) (store.sites pattern)
  | .list _, _ => differ
  | _, .list _ => differ
  | _, _ => self.unifyCompound mode term pattern

/-- Match patterns that stand for other patterns: head and tail, index
expressions, references and constraints. -/
def unifyIndirect (self : Evaluator) (mode : Mode) (term pattern : Term) :
    Action (List Binding) := do
  match pattern with
  | .headTail _ _ head tail => self.unifyHeadTail mode term head tail
  | .index _ _ _ =>
      match mode with
      | .binding => return [⟨pattern, term⟩]
      | .covering => self.unify mode term (← self.walk pattern)
  | .deref _ expression => self.unify mode term (← self.dereference expression)
  | .constraint _ inner =>
      modify fun machine => { machine with constraintDepth := machine.constraintDepth + 1 }
      let _ ← Action.ensuring (self.unify mode term inner) fun machine =>
        { machine with constraintDepth := machine.constraintDepth - 1 }
      return []
  | _ => self.unifyLists mode term pattern

/-- Look through quotes. On the pattern side a quote is transparent; on the term
side it is unless it quotes an identifier or an index expression. -/
def unifyQuoted (self : Evaluator) (mode : Mode) (term pattern : Term) :
    Action (List Binding) :=
  match term, pattern with
  | .quote termInner, .quote patternInner => self.unify mode termInner patternInner
  | _, .quote patternInner => self.unify mode term patternInner
  | .quote (.identifier _), _ => self.unifyIndirect mode term pattern
  | .quote (.index _ _ _), _ => self.unifyIndirect mode term pattern
  | .quote termInner, _ => self.unify mode termInner pattern
  | _, _ => self.unifyIndirect mode term pattern

/-- Match numbers, none and nil. -/
def unifyLiteral (self : Evaluator) (mode : Mode) (term pattern : Term) :
    Action (List Binding) := do
  match term.numericEqual? pattern with
  | some true => return []
  | some false =>
      mismatch
        ((← Action.display term) ++ " is not the same as " ++ (← Action.display pattern))
  | none =>
      match term, pattern with
      | .none, .none => return []
      | .nil, .nil => return []
      | _, _ => self.unifyQuoted mode term pattern

/-- Match patterns with a rule of their own for every term: named patterns, type
patterns and guarded patterns. A guarded later clause is covered when its
pattern is. -/
def unifyDecorated (self : Evaluator) (mode : Mode) (term pattern : Term) :
    Action (List Binding) := do
  match pattern with
  | .named _ name inner =>
      let bindings ← self.unify mode term inner
      let target ← Action.newIdentifier name
      checkLinear mode (bindings ++ [⟨target, term⟩])
  | .typeMatch _ typeName => unifyType mode term typeName
  | .conditional mark condition consequent alternative =>
      self.unifyGuarded mode term mark condition consequent alternative
  | _ =>
      match mode, term with
      | .covering, .conditional _ _ consequent _ => self.unify mode consequent pattern
      | _, _ => self.unifyLiteral mode term pattern

/-- Match objects with each other, and anything with a regular expression. -/
def unifyObjects (self : Evaluator) (mode : Mode) (term pattern : Term) :
    Action (List Binding) := do
  match term, pattern with
  | .object owner memory, .object patternOwner patternMemory =>
      let store ← Action.store
      let terms := (store.elements memory).toList
      let patterns := (store.elements patternMemory).toList
      if structName owner != structName patternOwner then
        mismatch
          ("pattern type " ++ structName patternOwner ++ " and term type " ++ structName owner ++
            " do not agree")
      else if terms.length != patterns.length then
        mismatch ("objects of type " ++ structName owner ++ " have different layouts")
      else self.unifyLinear mode (store.sites term) (store.sites pattern)
  | _, .text regex => unifyRegex mode term regex
  | _, _ => self.unifyDecorated mode term pattern

/-- Whether a term may take part in a match. -/
def isMatchable : Term -> Bool
  | .range _ _ _ _ _ => false
  | .escape _ _ => false
  | .isMatch _ _ _ => false
  | .membership _ _ _ => false
  | _ => true

/-- Whether a pattern may take part in a match. -/
def isMatchablePattern : Term -> Bool
  | .foreign _ _ => false
  | .function _ _ => false
  | pattern => isMatchable pattern

/-- Match a term and a pattern after refusing kinds that cannot be matched. -/
def unifyAllowed (self : Evaluator) (mode : Mode) (term pattern : Term) :
    Action (List Binding) :=
  if !isMatchable term then
    mismatch ("term of type " ++ term.kind.label ++ " is not allowed in pattern matching")
  else if !isMatchablePattern pattern then
    mismatch ("pattern of type " ++ pattern.kind.label ++ " is not allowed in pattern matching")
  else self.unifyObjects mode term pattern

/-- Match a term against a pattern: one step of the recursion. An identifier
matches anything. In covering mode, named patterns and references on the term
side are looked through first. -/
def unifyStep (self : Evaluator) (mode : Mode) (term pattern : Term) :
    Action (List Binding) := do
  if term.isAbsent || pattern.isAbsent then
    Action.raise .machineError "unify called with a missing node"
  else
    match pattern with
    | .identifier name => return (if name == "_" then [] else [⟨pattern, term⟩])
    | _ =>
        match mode, term with
        | .covering, .named _ _ inner => self.unify mode inner pattern
        | .covering, .deref _ expression =>
            self.unify mode (← self.dereference expression) pattern
        | _, _ => self.unifyAllowed mode term pattern

end Evaluator
end PatternMachine
