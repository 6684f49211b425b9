import Mathlib.Algebra.Group.Nat.Defs
import PatternMachine.Text.Quoted

/-!
# Quoted texts are self-delimiting

What stands between the quotes can be read back character by character, and the closing
quote is the first one that is not written as an escape. So a text in quotes tells the
text and where it ends, whatever follows.
-/

namespace PatternMachine
namespace Text

/-- The value of a hexadecimal digit in lower case. -/
def hexValue (digit : Char) : Nat :=
  if digit.toNat < 'a'.toNat then digit.toNat - '0'.toNat else digit.toNat - 'a'.toNat + 10

/-- The number that hexadecimal digits stand for. -/
def hexNumber (digits : List Char) : Nat :=
  digits.foldl (fun number digit => 16 * number + hexValue digit) 0

/-- Read one character between the quotes. -/
def readQuotedChar : List Char -> Option (Char × List Char)
  | [] => none
  | '"' :: _ => none
  | '\\' :: mark :: rest =>
      match mark with
      | 'n' => some ('\n', rest)
      | 'r' => some ('\r', rest)
      | 't' => some ('\t', rest)
      | 'a' => some (Char.ofNat 7, rest)
      | 'b' => some (Char.ofNat 8, rest)
      | 'f' => some (Char.ofNat 12, rest)
      | 'v' => some (Char.ofNat 11, rest)
      | 'x' => some (Char.ofNat (hexNumber (rest.take 2)), rest.drop 2)
      | 'u' => some (Char.ofNat (hexNumber (rest.take 4)), rest.drop 4)
      | 'U' => some (Char.ofNat (hexNumber (rest.take 8)), rest.drop 8)
      | plain => some (plain, rest)
  | c :: rest => some (c, rest)

theorem hexValue_hexDigit {value : Nat} (small : value < 16) :
    hexValue (hexDigit value) = value := by
  have all : ∀ value : Fin 16, hexValue (hexDigit value) = value := by decide
  exact all ⟨value, small⟩

theorem length_hexDigits (width value : Nat) : (hexDigits width value).length = width := by
  induction width generalizing value with
  | zero => rfl
  | succ width inductionHypothesis => simp [hexDigits, inductionHypothesis]

/-- A number that has enough hexadecimal digits is read back from them. -/
theorem hexNumber_hexDigits
    {width value : Nat}
    (fits : value < 16 ^ width) :
    hexNumber (hexDigits width value) = value := by
  induction width generalizing value with
  | zero =>
      obtain rfl : value = 0 := by simpa using fits
      rfl
  | succ width inductionHypothesis =>
      have quotient : value / 16 < 16 ^ width := by
        rw [Nat.pow_succ] at fits
        omega
      have last : value % 16 < 16 := Nat.mod_lt _ (by decide)
      have split := Nat.div_add_mod value 16
      have digits := inductionHypothesis quotient
      unfold hexNumber at digits ⊢
      rw [hexDigits, List.foldl_append, digits, List.foldl_cons, List.foldl_nil,
        hexValue_hexDigit last, split]

/-- The character of a code that is written with enough hexadecimal digits is read back. -/
theorem hexNumber_code
    {width : Nat}
    {c : Char}
    (fits : c.toNat < 16 ^ width)
    (rest : List Char) :
    (Char.ofNat (hexNumber ((hexDigits width c.toNat ++ rest).take width)),
      (hexDigits width c.toNat ++ rest).drop width) = (c, rest) := by
  have length := length_hexDigits width c.toNat
  rw [List.take_left' length, List.drop_left' length, hexNumber_hexDigits fits,
    Char.ofNat_toNat]

/-- A character that is neither the quote nor the backslash stands for itself. -/
theorem readQuotedChar_plain
    {c : Char}
    (notQuote : c ≠ '"')
    (notBackslash : c ≠ '\\')
    (rest : List Char) :
    readQuotedChar (c :: rest) = some (c, rest) := by
  unfold readQuotedChar
  split
  · rename_i none
    cases none
  · rename_i quote
    exact absurd (List.cons.inj quote).1 notQuote
  · rename_i escape
    exact absurd (List.cons.inj escape).1 notBackslash
  · rename_i plain
    obtain ⟨rfl, rfl⟩ := List.cons.inj plain
    rfl

/-- A character between quotes is read back, whatever follows it. -/
theorem readQuotedChar_quotedChar (c : Char) (rest : List Char) :
    readQuotedChar (quotedChar c ++ rest) = some (c, rest) := by
  have code : ∀ value, c.toNat = value -> Char.ofNat value = c := by
    rintro _ rfl
    exact Char.ofNat_toNat c
  unfold quotedChar
  by_cases quote : c = '"'
  · subst quote
    rfl
  by_cases backslash : c = '\\'
  · subst backslash
    rfl
  rw [if_neg (by simpa using quote), if_neg (by simpa using backslash)]
  by_cases printable : isPrintable c = true
  · rw [if_pos printable]
    exact readQuotedChar_plain quote backslash rest
  rw [if_neg printable]
  -- The remaining branches are the escapes with a letter, in the order of the definition.
  split
  · rename_i newline
    rw [eq_of_beq newline]
    rfl
  split
  · rename_i carriageReturn
    rw [eq_of_beq carriageReturn]
    rfl
  split
  · rename_i tab
    rw [eq_of_beq tab]
    rfl
  split
  · rename_i bell
    rw [← code 7 (eq_of_beq bell)]
    rfl
  split
  · rename_i backspace
    rw [← code 8 (eq_of_beq backspace)]
    rfl
  split
  · rename_i formFeed
    rw [← code 12 (eq_of_beq formFeed)]
    rfl
  split
  · rename_i verticalTab
    rw [← code 11 (eq_of_beq verticalTab)]
    rfl
  split
  · rename_i control
    have fits : c.toNat < 16 ^ 2 := by
      simp only [Bool.or_eq_true, decide_eq_true_eq, beq_iff_eq] at control
      omega
    exact congrArg some (hexNumber_code fits rest)
  split
  · rename_i basic
    have fits : c.toNat < 16 ^ 4 := basic
    exact congrArg some (hexNumber_code fits rest)
  · have fits : c.toNat < 16 ^ 8 := c.val.toNat_lt
    exact congrArg some (hexNumber_code fits rest)

/-- The text between the quotes, with the closing quote. -/
theorem eq_of_quotedChars
    {chars others rest otherRest : List Char}
    (same : chars.flatMap quotedChar ++ '"' :: rest =
      others.flatMap quotedChar ++ '"' :: otherRest) :
    chars = others ∧ rest = otherRest := by
  have closing : ∀ rest, readQuotedChar ('"' :: rest) = none := fun _ => rfl
  induction chars generalizing others with
  | nil =>
      cases others with
      | nil => exact ⟨rfl, (List.cons.inj same).2⟩
      | cons other others =>
          have read := congrArg readQuotedChar same
          rw [List.flatMap_cons, List.append_assoc, readQuotedChar_quotedChar,
            List.flatMap_nil, List.nil_append, closing] at read
          cases read
  | cons c chars inductionHypothesis =>
      have read := congrArg readQuotedChar same
      rw [List.flatMap_cons, List.append_assoc, readQuotedChar_quotedChar] at read
      cases others with
      | nil => cases read
      | cons other others =>
          rw [List.flatMap_cons, List.append_assoc, readQuotedChar_quotedChar] at read
          obtain ⟨rfl, behind⟩ := Prod.mk.inj (Option.some.inj read)
          obtain ⟨rfl, rfl⟩ := inductionHypothesis behind
          exact ⟨rfl, rfl⟩

/-- A text in quotes at the front tells the text and what follows it. -/
theorem eq_of_quoted_append
    {text other : String}
    {rest otherRest : List Char}
    (same : (quoted text).toList ++ rest = (quoted other).toList ++ otherRest) :
    text = other ∧ rest = otherRest := by
  simp only [quoted, String.toList_ofList, List.cons_append, List.append_assoc,
    List.nil_append] at same
  obtain ⟨chars, behind⟩ := eq_of_quotedChars (List.cons.inj same).2
  exact ⟨String.toList_inj.mp chars, behind⟩

end Text
end PatternMachine
