import PatternMachine.Number.Literal
import PatternMachine.Proofs.Number.Nearest

/-!
# Numerals of integers

The decimal numeral of an integer is read as the real nearest to the integer.
-/

namespace PatternMachine
namespace Number

/-- The decimal digits. -/
def decimalDigits : List Char :=
  ['0', '1', '2', '3', '4', '5', '6', '7', '8', '9']

theorem mem_decimalDigits {c : Char} (isDigit : c.isDigit = true) : c ∈ decimalDigits := by
  have bounds : 48 ≤ c.toNat ∧ c.toNat ≤ 57 := by
    simpa [Char.isDigit, UInt32.le_iff_toNat_le] using isDigit
  rw [← Char.ofNat_toNat c]
  generalize c.toNat = code at bounds
  obtain ⟨lower, upper⟩ := bounds
  have cases : code = 48 ∨ code = 49 ∨ code = 50 ∨ code = 51 ∨ code = 52 ∨ code = 53 ∨ code = 54 ∨
      code = 55 ∨ code = 56 ∨ code = 57 := by omega
  rcases cases with rfl | rfl | rfl | rfl | rfl | rfl | rfl | rfl | rfl | rfl <;> decide

/-- What a decimal digit is for the readers of numerals. -/
structure ReadsAsDigit (c : Char) : Prop where
  value : digit? c = some (c.toNat - '0'.toNat)
  small : c.toNat - '0'.toNat < 10
  lower : lowerAscii c = c
  other : c ∉ ['_', '.', '-', '+', 'x', 'i', 'n']

theorem readsAsDigit {c : Char} (isDigit : c.isDigit = true) : ReadsAsDigit c := by
  have member := mem_decimalDigits isDigit
  simp only [decimalDigits, List.mem_cons, List.not_mem_nil, or_false] at member
  rcases member with rfl | rfl | rfl | rfl | rfl | rfl | rfl | rfl | rfl | rfl <;>
    exact ⟨rfl, by decide, rfl, by simp⟩

theorem ReadsAsDigit.ne
    {c sign : Char}
    (digit : ReadsAsDigit c)
    (isSign : sign ∈ ['_', '.', '-', '+', 'x', 'i', 'n']) :
    c ≠ sign := by
  rintro rfl
  exact digit.other isSign

theorem ReadsAsDigit.beq_eq_false
    {c sign : Char}
    (digit : ReadsAsDigit c)
    (isSign : sign ∈ ['_', '.', '-', '+', 'x', 'i', 'n']) :
    (c == sign) = false :=
  beq_eq_false_iff_ne.mpr (digit.ne isSign)

/-- Reading digits alone reads all of them. -/
theorem readSignificand_digits
    {chars : List Char}
    (digits : ∀ c ∈ chars, c.isDigit = true)
    (value count : Nat) :
    readSignificand 10 ⟨value, count, 0, false⟩ chars =
      (⟨Nat.ofDigitChars 10 chars value, count + chars.length, 0, false⟩, []) := by
  induction chars generalizing value count with
  | nil => rfl
  | cons c rest inductionHypothesis =>
      obtain ⟨first, others⟩ := List.forall_mem_cons.mp digits
      have digit := readsAsDigit first
      have step : readSignificand 10 ⟨value, count, 0, false⟩ (c :: rest) =
          readSignificand 10 ⟨value * 10 + (c.toNat - '0'.toNat), count + 1, 0, false⟩ rest := by
        rw [readSignificand, digit.beq_eq_false (by decide), digit.beq_eq_false (by decide),
          digit.value]
        dsimp only
        rw [if_neg Bool.false_ne_true, if_neg Bool.false_ne_true, if_pos digit.small]
        rfl
      rw [step, inductionHypothesis others, Nat.ofDigitChars_cons, Nat.mul_comm value,
        List.length_cons, Nat.add_assoc, Nat.add_comm 1]

/-- The characters of a decimal numeral: a minus sign if the number is negative, and then
the digits of its size. -/
def numeral (negative : Bool) (size : Nat) : List Char :=
  (if negative then ['-'] else []) ++ Nat.toDigits 10 size

theorem isDigit_of_mem_toDigits {size : Nat} : ∀ c ∈ Nat.toDigits 10 size, c.isDigit = true :=
  fun _ member => Nat.isDigit_of_mem_toDigits (by decide) (by decide) member

theorem splitSign_numeral (negative : Bool) (size : Nat) :
    splitSign (numeral negative size) = (negative, Nat.toDigits 10 size) := by
  cases negative with
  | true => rfl
  | false =>
      have digits := @isDigit_of_mem_toDigits size
      change splitSign (Nat.toDigits 10 size) = (false, Nat.toDigits 10 size)
      generalize Nat.toDigits 10 size = chars at digits
      cases chars with
      | nil => rfl
      | cons c rest =>
          have digit := readsAsDigit (digits c List.mem_cons_self)
          unfold splitSign
          split
          · rename_i same
            obtain ⟨rfl, _⟩ := List.cons.inj same
            exact absurd (by decide) digit.other
          · rename_i same
            obtain ⟨rfl, _⟩ := List.cons.inj same
            exact absurd (by decide) digit.other
          · rfl

/-- What starts with another character is no name. -/
theorem name_beq_eq_false
    {first letter : Char}
    (rest letters : List Char)
    (lower : lowerAscii first = first)
    (other : first ≠ letter) :
    (String.ofList ((first :: rest).map lowerAscii) == String.ofList (letter :: letters)) =
      false := by
  rw [beq_eq_false_iff_ne, List.map_cons, lower]
  intro same
  exact other (List.cons.inj (String.ofList_injective same)).1

/-- A decimal numeral names no special real. -/
theorem namedReal?_numeral
    {text : String}
    {negative : Bool}
    {size : Nat}
    (chars : text.toList = numeral negative size) :
    namedReal? text = none := by
  obtain ⟨first, rest, digits⟩ := List.exists_cons_of_ne_nil
    (Nat.toDigits_ne_nil : Nat.toDigits 10 size ≠ [])
  have digit : ReadsAsDigit first :=
    readsAsDigit (isDigit_of_mem_toDigits first (digits ▸ List.mem_cons_self))
  have notInf : (String.ofList ((first :: rest).map lowerAscii) == "inf") = false :=
    name_beq_eq_false rest ['n', 'f'] digit.lower (digit.ne (by decide))
  have notInfinity : (String.ofList ((first :: rest).map lowerAscii) == "infinity") = false :=
    name_beq_eq_false rest ['n', 'f', 'i', 'n', 'i', 't', 'y'] digit.lower (digit.ne (by decide))
  have notNan : (text.map lowerAscii == "nan") = false := by
    rw [String.map_eq_internal, chars, numeral, digits]
    cases negative with
    | true => exact name_beq_eq_false (first :: rest) ['a', 'n'] (by decide) (by decide)
    | false => exact name_beq_eq_false rest ['a', 'n'] digit.lower (digit.ne (by decide))
  unfold namedReal?
  rw [chars, splitSign_numeral, digits]
  dsimp only
  rw [notInf, notInfinity, notNan]
  rfl

/-- A decimal numeral is read as the quotient of its size by one. -/
theorem numericReal?_numeral
    {text : String}
    {negative : Bool}
    {size : Nat}
    (chars : text.toList = numeral negative size) :
    numericReal? text = ofQuotient? negative size 1 := by
  have read := readSignificand_digits (@isDigit_of_mem_toDigits size) 0 0
  rw [Nat.ofDigitChars_ten_toDigits, Nat.zero_add] at read
  have nonempty : ((Nat.toDigits 10 size).length == 0) = false := by
    simp
  have noUnderscore : (numeral negative size).contains '_' = false := by
    rw [List.contains_eq_mem, decide_eq_false_iff_not, numeral, List.mem_append]
    rintro (sign | digit)
    · cases negative <;> simp at sign
    · exact Nat.underscore_not_in_toDigits digit
  have exact : scaled? negative size 10 0 = ofQuotient? negative size 1 := by
    change ofQuotient? negative (size * 1) 1 = _
    rw [Nat.mul_one]
  unfold numericReal?
  simp only [chars, splitSign_numeral]
  split
  · rename_i mark first rest digits
    have digit : ReadsAsDigit mark :=
      readsAsDigit (isDigit_of_mem_toDigits mark (by rw [digits]; simp))
    have notHexadecimal := digit.beq_eq_false (show 'x' ∈ _ by decide)
    simp only [digit.lower, notHexadecimal, Bool.false_eq_true, if_false, read, nonempty,
      exponentPart?, noUnderscore, Bool.false_and]
    exact exact
  · simp only [Bool.false_eq_true, if_false, read, nonempty, exponentPart?, noUnderscore,
      Bool.false_and]
    exact exact

/-- An integer is written as its numeral. -/
theorem toList_toString (whole : Int) :
    (toString whole).toList = numeral (decide (whole < 0)) whole.natAbs := by
  cases whole with
  | ofNat size => exact Nat.toList_repr
  | negSucc size =>
      change ("-" ++ (size + 1).repr).toList = _
      rw [String.toList_append, Nat.toList_repr, decide_eq_true (Int.negSucc_lt_zero size)]
      rfl

/-- The numeral of an integer of 64 bits is read as the real nearest to the integer. -/
theorem real?_toString (value : Int64) :
    ∃ real, real? (toString value.toInt) = some real ∧ Whole real (nearest value.toInt) := by
  have chars := toList_toString value.toInt
  unfold real?
  rw [namedReal?_numeral chars]
  dsimp only
  rw [numericReal?_numeral chars]
  exact ofQuotient?_toInt value

end Number
end PatternMachine
