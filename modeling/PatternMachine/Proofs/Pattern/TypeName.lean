import PatternMachine.Proofs.Builtin.Install

/-!
# Type names and type patterns

What the type function answers and what a type pattern asks for are names of one space. For
most values the pattern with the name of their type matches them. A struct and a sequence have
the name of a type that no pattern matches. The name of an object's type is that of its
struct, which may be the name of another type, and then the pattern for that type matches the
object.
-/

namespace PatternMachine

/-- Whether a type pattern of this name matches without looking the name up. -/
def isReservedTypeName (name : String) : Bool :=
  name == "function" || name == "pattern" || isPrimitiveTypeName name

namespace Term

/-- The values whose type has a reserved name, whatever they are made of. -/
def isTyped : Term -> Bool
  | integer _ => true
  | real _ => true
  | boolean _ => true
  | text _ => true
  | list _ => true
  | tuple _ => true
  | pair _ _ => true
  | none => true
  | nil => true
  | closure _ _ => true
  | method _ _ _ => true
  | quote _ => true
  | foreign _ _ => true
  | _ => false

/-- What else there is, but for objects, has a type without a reserved name. -/
theorem not_isReservedTypeName
    {value : Term}
    (untyped : value.isTyped = false)
    (notObject : value.kind ≠ .object) :
    isReservedTypeName value.typeName = false := by
  cases value with
  | range raw => cases raw <;> rfl
  | headTail raw => cases raw <;> rfl
  | object => exact absurd rfl notObject
  | _ => first | rfl | cases untyped

end Term

namespace Evaluator

variable {value : Term} {typeName : String} {machine : Machine}

/-- A type pattern matches a value. -/
def MatchesType (value : Term) (typeName : String) (machine : Machine) : Prop :=
  ∀ mark depth, (within (depth + 1)).unify .binding value (.typeMatch mark typeName) machine =
    .ok [] machine

/-- A type pattern does not match a value: the match is refused as a mismatch. -/
def MissesType (value : Term) (typeName : String) (machine : Machine) : Prop :=
  ∀ mark depth, ∃ message,
    (within (depth + 1)).unify .binding value (.typeMatch mark typeName) machine =
      mismatch message machine

theorem unify_typeMatch_allowed
    (present : value.isAbsent = false)
    (mark : Mark)
    (depth : Nat) :
    (within (depth + 1)).unify .binding value (.typeMatch mark typeName) =
      (within depth).unifyAllowed .binding value (.typeMatch mark typeName) := by
  change (within depth).unifyStep .binding value (.typeMatch mark typeName) = _
  unfold unifyStep
  rw [if_neg (by rw [present]; simp [Term.isAbsent])]

/-- A value that may be matched is matched by the rule for type patterns. -/
theorem unify_typeMatch
    (present : value.isAbsent = false)
    (matchable : isMatchable value = true)
    (mark : Mark)
    (depth : Nat) :
    (within (depth + 1)).unify .binding value (.typeMatch mark typeName) =
      unifyType .binding value typeName := by
  rw [unify_typeMatch_allowed present]
  unfold unifyAllowed
  rw [if_neg (by simp [matchable]), if_neg (by simp [isMatchablePattern, isMatchable])]
  cases value <;> rfl

/-- A value whose type has a reserved name is matched by the pattern of this name. -/
theorem matchesType_of_isTyped (typed : value.isTyped = true) :
    MatchesType value value.typeName machine := by
  intro mark depth
  have present : value.isAbsent = false := by
    cases value <;> first | rfl | cases typed
  have matchable : isMatchable value = true := by
    cases value <;> first | rfl | cases typed
  rw [unify_typeMatch present matchable]
  cases value <;> first | rfl | cases typed

/-- A name that is not reserved is looked up, and it matches instances of a struct only. -/
theorem missesType_of_not_reserved
    (present : value.isAbsent = false)
    (notObject : value.kind ≠ .object)
    (free : isReservedTypeName typeName = false) :
    MissesType value typeName machine := by
  intro mark depth
  cases matchable : isMatchable value with
  | false =>
      rw [unify_typeMatch_allowed present]
      unfold unifyAllowed
      rw [if_pos (by simp [matchable])]
      exact ⟨_, rfl⟩
  | true =>
      obtain ⟨⟨noFunction, noPattern⟩, notPrimitive⟩ : (typeName ≠ "function" ∧
          typeName ≠ "pattern") ∧ isPrimitiveTypeName typeName = false := by
        simpa [isReservedTypeName] using free
      have noInstance : ∀ template, isInstance template value = false := by
        intro template
        cases value <;> first | rfl | exact absurd rfl notObject
      rw [unify_typeMatch present matchable]
      unfold unifyType
      dsimp only
      rw [if_neg (by simpa using noFunction), if_neg (by simpa using noPattern),
        if_neg (by simp [notPrimitive]), Action.bind_apply]
      unfold Action.lookup?
      rw [Action.bind_apply, Action.get_apply]
      dsimp only [Action.pure_apply]
      cases machine.lookup? typeName with
      | none => exact ⟨_, rfl⟩
      | some held =>
          cases held with
          | struct template =>
              dsimp only
              rw [if_neg (by simp [noInstance])]
              exact ⟨_, rfl⟩
          | _ => exact ⟨_, rfl⟩

theorem exists_eq_object (object : value.kind = .object) :
    ∃ template memory, value = .object template memory := by
  cases value with
  | object template memory => exact ⟨template, memory, rfl⟩
  | range raw => cases raw <;> cases object
  | headTail raw => cases raw <;> cases object
  | _ => cases object

/-- A primitive name matches the objects of a struct with this name. -/
theorem matchesType_object
    (object : value.kind = .object)
    (primitive : isPrimitiveTypeName typeName = true)
    (same : value.typeName = typeName) :
    MatchesType value typeName machine := by
  obtain ⟨template, memory, rfl⟩ := exists_eq_object object
  intro mark depth
  have noFunction : typeName ≠ "function" := by
    rintro rfl
    cases primitive
  have noPattern : typeName ≠ "pattern" := by
    rintro rfl
    cases primitive
  rw [unify_typeMatch rfl rfl]
  unfold unifyType
  dsimp only
  rw [if_neg (by simpa using noFunction), if_neg (by simpa using noPattern), if_pos primitive,
    if_pos (by simpa using same)]
  rfl

/-- No other reserved name matches an object. -/
theorem missesType_object
    (object : value.kind = .object)
    (reserved : isReservedTypeName typeName = true)
    (other : ¬ (isPrimitiveTypeName typeName = true ∧ value.typeName = typeName)) :
    MissesType value typeName machine := by
  obtain ⟨template, memory, rfl⟩ := exists_eq_object object
  intro mark depth
  rw [unify_typeMatch rfl rfl]
  unfold unifyType
  dsimp only
  split
  · exact ⟨_, rfl⟩
  · split
    · exact ⟨_, rfl⟩
    · rename_i noFunction noPattern
      have primitive : isPrimitiveTypeName typeName = true := by
        simpa [isReservedTypeName, noFunction, noPattern] using reserved
      rw [if_pos primitive, if_neg (by simpa using fun same => other ⟨primitive, same⟩)]
      exact ⟨_, rfl⟩

/-- The name of a value's type is that of a type pattern which matches the value, unless the
value is a struct, a sequence or anything else without a type pattern; then no type pattern of
this name matches it. A reserved name matches an object just if it is a primitive one and the
name of the object's struct. -/
theorem applyValue_typeof
    {function : Term}
    (available : Native.typeof.Available function machine)
    (present : value.isAbsent = false)
    (depth : Nat) :
    (∃ store, (within (depth + 1)).Returns function value machine (.text value.typeName) store) ∧
      ∀ later : Machine,
        (value.isTyped = true -> MatchesType value value.typeName later) ∧
        (value.isTyped = false -> value.kind ≠ .object -> MissesType value value.typeName later) ∧
        (value.kind = .object -> ∀ typeName, isReservedTypeName typeName = true ->
          (isPrimitiveTypeName typeName = true ∧ value.typeName = typeName ->
            MatchesType value typeName later) ∧
          (¬ (isPrimitiveTypeName typeName = true ∧ value.typeName = typeName) ->
            MissesType value typeName later)) := by
  obtain ⟨entered, found, ends⟩ :=
    applyValue_native (available.callable rfl) present depth
  have run : Native.typeof.run entered = Action.newText value.typeName entered := by
    change (Builtin.formal "x" >>= _ : Action Term) entered = _
    rw [Action.bind_apply, Builtin.formal_apply found]
  refine ⟨⟨_, ends.returns _ _ (run.trans (Action.newText_apply _ entered))⟩, fun later => ?_⟩
  refine ⟨matchesType_of_isTyped, fun untyped notObject => ?_, fun object typeName reserved => ?_⟩
  · exact missesType_of_not_reserved present notObject
      (Term.not_isReservedTypeName untyped notObject)
  · exact ⟨fun named => matchesType_object object named.1 named.2,
      missesType_object object reserved⟩

/-- A struct is not matched by the pattern with the name of its type. If the struct has the name
of a primitive type, the pattern for this type matches the objects of the struct. -/
theorem applyValue_typeof_of_struct :
    let template : Template := ⟨1, "integer", [], ⟨0⟩⟩
    let machine := Machine.prepared Store.initial {} {} true
    ((∃ store, (within 1).Returns (.closure "typeof" (some Closure.global)) (.struct template)
        machine (.text "struct") store) ∧
      MissesType (.struct template) "struct" machine) ∧
    (∃ store, (within 1).Returns (.closure "typeof" (some Closure.global))
        (.object (some template) ⟨0⟩) machine (.text "integer") store) ∧
      MatchesType (.object (some template) ⟨0⟩) "integer" machine := by
  intro template machine
  have available : Native.typeof.Available (.closure "typeof" (some Closure.global)) machine :=
    (Native.prepared_available Store.initial).2 .typeof (by decide)
  have structPresent : (Term.struct template).isAbsent = false := rfl
  have objectPresent : (Term.object (some template) ⟨0⟩).isAbsent = false := rfl
  obtain ⟨struct, misses⟩ := applyValue_typeof available structPresent 0
  obtain ⟨object, matching⟩ := applyValue_typeof available objectPresent 0
  exact ⟨⟨struct, (misses machine).2.1 rfl (by simp [Term.kind])⟩, object,
    ((matching machine).2.2 rfl "integer" rfl).1 ⟨rfl, rfl⟩⟩

end Evaluator
end PatternMachine
