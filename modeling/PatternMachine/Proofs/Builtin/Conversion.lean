import PatternMachine.Proofs.Builtin.Install
import PatternMachine.Proofs.Number.Numeral

/-!
# Conversions of integers to integers

An integer is converted to an integer directly, or by way of a numeral, or by rounding it
down or up as a real. The first way changes nothing. The other ways lead through the reals
and find the real nearest to the integer.
-/

namespace PatternMachine
namespace Number

/-- The integer that is found for an integer on the way through the reals. -/
def throughReal (value : Int64) : Int64 :=
  .ofInt (nearest value.toInt)

/-- An integer that is a real is found again; up to `2 ^ 53` every integer is. -/
theorem throughReal_of_dvd
    {value : Int64}
    (exact : spacing value.toInt.natAbs ∣ value.toInt.natAbs) :
    throughReal value = value := by
  have same : nearest value.toInt = value.toInt := by
    unfold nearest
    rw [nearestSize_of_dvd exact]
    split <;> omega
  rw [throughReal, same, Int64.ofInt_toInt]

example : throughReal 9007199254740993 = 9007199254740992 := by
  decide +kernel

theorem nearestSize_le {size : Nat} (bounded : size ≤ 2 ^ 62) : nearestSize size ≤ 2 ^ 62 := by
  have top : nearestSize (2 ^ 62) = 2 ^ 62 := nearestSize_of_dvd (by decide +kernel)
  exact top ▸ nearestSize_mono bounded

/-- The reals of integers up to `2 ^ 62` are integers of 64 bits. -/
theorem Whole.wholePart_throughReal
    {real : Float}
    {value : Int64}
    (bounded : value.toInt.natAbs ≤ 2 ^ 62)
    (whole : Whole real (nearest value.toInt))
    {above below : Magnitude -> Nat}
    (aboveWhole : above = Magnitude.floor ∨ above = Magnitude.ceiling)
    (belowWhole : below = Magnitude.floor ∨ below = Magnitude.ceiling) :
    Number.wholePart above below real = throughReal value := by
  have size := nearestSize_le bounded
  rw [← natAbs_nearest] at size
  have lowest : Int64.minValue.toInt = -9223372036854775808 := rfl
  have highest : Int64.maxValue.toInt = 9223372036854775807 := rfl
  rw [whole.wholePart aboveWhole belowWhole, clamped, lowest, highest, if_neg (by omega),
    if_neg (by omega)]
  rfl

end Number

namespace Builtin

variable {value : Int64} {machine entered : Machine}

theorem toInteger_integer (found : Native.Entered "x" (.integer value) machine entered) :
    ∃ after, toInteger entered = .ok (.integer value) after := by
  unfold toInteger
  rw [Action.bind_apply, formal_apply found]
  exact Action.newInteger_apply value entered

theorem toText_integer (found : Native.Entered "x" (.integer value) machine entered) :
    ∃ after, toText entered = .ok (.text (toString value.toInt)) after := by
  unfold toText
  rw [Action.bind_apply, formal_apply found]
  exact ⟨_, rfl⟩

theorem toInteger_text
    {text : String}
    {real : Float}
    (read : Number.real? text = some real)
    (found : Native.Entered "x" (.text text) machine entered) :
    ∃ after, toInteger entered = .ok (.integer (Number.truncate real)) after := by
  unfold toInteger
  rw [Action.bind_apply, formal_apply found]
  dsimp only
  rw [read]
  exact Action.newInteger_apply _ entered

theorem realFormal_integer
    (function : String)
    (found : Native.Entered "x" (.integer value) machine entered) :
    realFormal function entered = .ok (Number.ofInteger value) entered := by
  unfold realFormal
  rw [Action.bind_apply, formal_apply found]
  rfl

end Builtin
namespace Evaluator

open Number (throughReal spacing)

/-- Converting an integer of 62 bits to an integer yields the integer. Converting its
numeral, rounding it down and rounding it up yield the real nearest to it, which is the
integer again if it is a multiple of the distance of the reals around it. -/
theorem applyValue_conversion
    {value : Int64}
    {machine : Machine}
    {toInteger toText down up : Term}
    (toIntegerCallable : Native.tointeger.Callable "x" toInteger machine)
    (toTextCallable : Native.tostring.Callable "x" toText machine)
    (downCallable : Native.floor.Callable "x" down machine)
    (upCallable : Native.ceil.Callable "x" up machine)
    (bounded : -(2 ^ 62) ≤ value.toInt ∧ value.toInt ≤ 2 ^ 62)
    (depth : Nat) :
    (∃ store, (within (depth + 1)).Returns toInteger (.integer value) machine (.integer value)
      store) ∧
    (∃ text store, (within (depth + 1)).Returns toText (.integer value) machine (.text text) store ∧
      ∀ {later : Machine} {toInteger : Term}, Native.tointeger.Callable "x" toInteger later ->
        ∃ store, (within (depth + 1)).Returns toInteger (.text text) later
          (.integer (throughReal value)) store) ∧
    (∃ store, (within (depth + 1)).Returns down (.integer value) machine
      (.integer (throughReal value)) store) ∧
    (∃ store, (within (depth + 1)).Returns up (.integer value) machine
      (.integer (throughReal value)) store) ∧
    (spacing value.toInt.natAbs ∣ value.toInt.natAbs -> throughReal value = value) := by
  have size : value.toInt.natAbs ≤ 2 ^ 62 := by omega
  have whole := Number.ofInteger_whole value
  have present : (Term.integer value).isAbsent = false := rfl
  refine ⟨?_, ?_, ?_, ?_, Number.throughReal_of_dvd⟩
  · obtain ⟨entered, found, ends⟩ := applyValue_native toIntegerCallable present depth
    obtain ⟨after, ran⟩ := Builtin.toInteger_integer found
    exact ⟨_, ends.returns _ _ ran⟩
  · obtain ⟨entered, found, ends⟩ := applyValue_native toTextCallable present depth
    obtain ⟨after, ran⟩ := Builtin.toText_integer found
    refine ⟨_, _, ends.returns _ _ ran, fun callable => ?_⟩
    have textPresent : (Term.text (toString value.toInt)).isAbsent = false := rfl
    obtain ⟨entered, found, ends⟩ := applyValue_native callable textPresent depth
    obtain ⟨real, read, numeral⟩ := Number.real?_toString value
    obtain ⟨after, ran⟩ := Builtin.toInteger_text read found
    have truncated : Number.truncate real = throughReal value :=
      numeral.wholePart_throughReal size (.inl rfl) (.inl rfl)
    rw [truncated] at ran
    exact ⟨_, ends.returns _ _ ran⟩
  · obtain ⟨entered, found, ends⟩ := applyValue_native downCallable present depth
    have rounded : Number.roundDown (Number.ofInteger value) = throughReal value :=
      whole.wholePart_throughReal size (.inl rfl) (.inr rfl)
    obtain ⟨after, ran⟩ := Action.newInteger_apply (throughReal value) entered
    refine ⟨_, ends.returns _ _ (Eq.trans ?_ ran)⟩
    change (Builtin.realFormal "floor" >>= _ : Action Term) entered = _
    rw [Action.bind_apply, Builtin.realFormal_integer "floor" found]
    dsimp only
    rw [rounded]
  · obtain ⟨entered, found, ends⟩ := applyValue_native upCallable present depth
    have rounded : Number.roundUp (Number.ofInteger value) = throughReal value :=
      whole.wholePart_throughReal size (.inr rfl) (.inl rfl)
    obtain ⟨after, ran⟩ := Action.newInteger_apply (throughReal value) entered
    refine ⟨_, ends.returns _ _ (Eq.trans ?_ ran)⟩
    change (Builtin.realFormal "ceil" >>= _ : Action Term) entered = _
    rw [Action.bind_apply, Builtin.realFormal_integer "ceil" found]
    dsimp only
    rw [rounded]

/-- The conversions of `2 ^ 53 + 1`: all but the direct one yield `2 ^ 53`. -/
theorem applyValue_conversion_of_odd :
    let machine := Machine.prepared Store.initial {} {} true
    let function (name : String) := Term.closure name (some .global)
    let value : Int64 := 9007199254740993
    let even : Int64 := 9007199254740992
    (∃ store, (within 1).Returns (function "tointeger") (.integer value) machine (.integer value)
      store) ∧
    (∃ text,
      (∃ store, (within 1).Returns (function "tostring") (.integer value) machine (.text text)
        store) ∧
      ∃ store, (within 1).Returns (function "tointeger") (.text text) machine (.integer even)
        store) ∧
    (∃ store, (within 1).Returns (function "floor") (.integer value) machine (.integer even)
      store) ∧
    ∃ store, (within 1).Returns (function "ceil") (.integer value) machine (.integer even)
      store := by
  intro machine function value even
  have toIntegerCallable : Native.tointeger.Callable "x" (function "tointeger") machine :=
    (Native.prepared_callable Store.initial).2 rfl (by decide)
  have toTextCallable : Native.tostring.Callable "x" (function "tostring") machine :=
    (Native.prepared_callable Store.initial).2 rfl (by decide)
  have downCallable : Native.floor.Callable "x" (function "floor") machine :=
    (Native.prepared_callable Store.initial).2 rfl (by decide)
  have upCallable : Native.ceil.Callable "x" (function "ceil") machine :=
    (Native.prepared_callable Store.initial).2 rfl (by decide)
  have rounded : throughReal value = even := by decide +kernel
  have converted := applyValue_conversion toIntegerCallable toTextCallable downCallable upCallable
    (show -(2 ^ 62) ≤ value.toInt ∧ value.toInt ≤ 2 ^ 62 by decide) 0
  rw [rounded] at converted
  obtain ⟨direct, ⟨text, store, shown, read⟩, down, up, _⟩ := converted
  exact ⟨direct, ⟨text, ⟨store, shown⟩, read toIntegerCallable⟩, down, up⟩

end Evaluator
end PatternMachine
