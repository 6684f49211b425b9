import Mathlib.Order.Defs.LinearOrder
import Mathlib.Data.String.Basic
import Mathlib.Tactic.SplitIfs
import PatternMachine.Text.Utf8

/-!
# The order of texts by their bytes

Texts are ordered by their characters, and characters by their codes. Written in UTF-8 they
are ordered by their bytes in the same way: the codes of two characters differ first in one
of their digits to the base 64, and those stand in the bytes, the highest first.
-/

namespace PatternMachine
namespace Text

/-- Of two numbers the smaller one is smaller in the first digit in which they differ. -/
theorem digits_of_lt
    {small large : Nat}
    (smaller : small < large) :
    small / 262144 < large / 262144 ∨ small / 262144 = large / 262144 ∧
      (small / 4096 % 64 < large / 4096 % 64 ∨ small / 4096 % 64 = large / 4096 % 64 ∧
        (small / 64 % 64 < large / 64 % 64 ∨ small / 64 % 64 = large / 64 % 64 ∧
          small % 64 < large % 64)) := by
  omega

/-- A character that comes first is written in bytes that come first, whatever follows. -/
theorem utf8EncodeChar_append_lt
    {first second : Char}
    (earlier : first < second)
    (rest others : List UInt8) :
    String.utf8EncodeChar first ++ rest < String.utf8EncodeChar second ++ others := by
  have smaller : first.val.toNat < second.val.toNat := earlier
  have bound : second.val.toNat < 0x110000 := by
    rcases second.valid with low | ⟨_, high⟩
    · exact Nat.lt_trans low (by decide)
    · exact high
  unfold String.utf8EncodeChar
  generalize first.val.toNat = small at *
  generalize second.val.toNat = large at *
  have digits := digits_of_lt smaller
  dsimp only
  -- The number of bytes shows in the first one, and of as many bytes each holds one digit.
  split_ifs <;>
    simp (disch := omega) only [List.cons_append, List.nil_append, List.cons_lt_cons_iff,
      UInt8.lt_iff_toNat_lt, ← UInt8.toNat_inj, UInt8.toNat_ofNat', Nat.mod_eq_of_lt,
      Nat.add_lt_add_iff_right, Nat.add_right_cancel_iff] <;>
    omega

theorem flatMap_utf8EncodeChar_lt
    {chars others : List Char}
    (earlier : chars < others) :
    chars.flatMap String.utf8EncodeChar < others.flatMap String.utf8EncodeChar := by
  induction chars generalizing others with
  | nil =>
      cases others with
      | nil => exact absurd earlier (List.lt_irrefl _)
      | cons other rest =>
          cases written : (other :: rest).flatMap String.utf8EncodeChar with
          | nil => simp [String.utf8EncodeChar_ne_nil] at written
          | cons byte bytes => exact List.nil_lt_cons byte bytes
  | cons char chars inductionHypothesis =>
      cases others with
      | nil => exact absurd earlier (List.not_lt_nil _)
      | cons other others =>
          simp only [List.flatMap_cons]
          rcases List.cons_lt_cons_iff.mp earlier with smaller | ⟨rfl, earlierRest⟩
          · exact utf8EncodeChar_append_lt smaller _ _
          · exact List.append_left_lt (inductionHypothesis earlierRest)

/-- Listing bytes from a place on adds them to those that are listed already. -/
theorem toList_loop_eq
    (bytes : ByteArray)
    (place : Nat)
    (listed : List UInt8) :
    ByteArray.toList.loop bytes place listed = listed.reverse ++ bytes.data.toList.drop place := by
  fun_induction ByteArray.toList.loop bytes place listed with
  | case1 place listed inside inductionHypothesis =>
      have bound : place < bytes.data.toList.length := by simpa using inside
      rw [inductionHypothesis, List.drop_eq_getElem_cons bound]
      simp [ByteArray.get!, inside]
  | case2 place listed outside =>
      have beyond : bytes.data.toList.length ≤ place := by simpa using outside
      simp [List.drop_eq_nil_of_le beyond]

/-- The bytes of a text are those of its characters. -/
theorem bytesOf_eq_flatMap (text : String) :
    bytesOf text = text.toList.flatMap String.utf8EncodeChar := by
  have written : text.toUTF8 = (text.toList.flatMap String.utf8EncodeChar).toByteArray := by
    rw [String.toUTF8_eq_toByteArray, ← String.utf8Encode_toList]
    rfl
  rw [bytesOf, written, ByteArray.toList, toList_loop_eq]
  simp

/-- Texts are ordered as their bytes are. -/
theorem bytesOf_lt_iff {text other : String} :
    bytesOf text < bytesOf other ↔ text < other := by
  have forward : ∀ {text other : String}, text < other -> bytesOf text < bytesOf other := by
    intro text other earlier
    rw [bytesOf_eq_flatMap, bytesOf_eq_flatMap]
    exact flatMap_utf8EncodeChar_lt (String.lt_iff_toList_lt.mp earlier)
  refine ⟨fun earlier => ?_, forward⟩
  rcases lt_trichotomy text other with smaller | rfl | larger
  · exact smaller
  · exact absurd earlier (List.lt_irrefl _)
  · exact absurd (forward larger) (List.lt_asymm earlier)

theorem bytesOf_le_iff {text other : String} :
    bytesOf text ≤ bytesOf other ↔ text ≤ other := by
  rw [← not_lt]
  exact not_congr bytesOf_lt_iff

end Text
end PatternMachine
