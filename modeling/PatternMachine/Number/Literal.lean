import PatternMachine.Number.Binary64

/-!
# Numerals

Reading integers, reals and truth values from text. An integer may carry a
sign, a base mark (`0b`, `0o`, `0x`, or a plain leading zero for base eight)
and underscores between digits. A real may be decimal or hexadecimal, and has
named forms for infinity and not-a-number.
-/

namespace PatternMachine
namespace Number

/-- The ASCII lower case of a character. -/
def lowerAscii (c : Char) : Char :=
  c.toLower

/-- The value of a digit in bases up to thirty-six. -/
def digit? (c : Char) : Option Nat :=
  if '0' <= c && c <= '9' then some (c.toNat - '0'.toNat)
  else if 'a' <= lowerAscii c && lowerAscii c <= 'z' then
    some ((lowerAscii c).toNat - 'a'.toNat + 10)
  else none

/-- What the underscore rule remembers of the character before. -/
inductive Before
  | start
  | digit
  | underscore
  | other
  deriving DecidableEq

/-- Whether every underscore stands between two digits, a base mark counting as
a digit. -/
def underscoresSeparate (hexadecimal : Bool) : Before -> List Char -> Bool
  | before, [] => before != .underscore
  | before, c :: rest =>
      if c.isDigit || (hexadecimal && 'a' <= lowerAscii c && lowerAscii c <= 'f') then
        underscoresSeparate hexadecimal .digit rest
      else if c == '_' then
        if before == .digit then underscoresSeparate hexadecimal .underscore rest else false
      else if before == .underscore then false
      else underscoresSeparate hexadecimal .other rest

/-- Whether the underscores of a numeral are placed well. -/
def underscoresAllowed (chars : List Char) : Bool :=
  let body := match chars with
    | '-' :: rest => rest
    | '+' :: rest => rest
    | _ => chars
  match body with
  | '0' :: mark :: rest =>
      if lowerAscii mark == 'b' || lowerAscii mark == 'o' || lowerAscii mark == 'x' then
        underscoresSeparate (lowerAscii mark == 'x') .digit rest
      else underscoresSeparate false .start body
  | _ => underscoresSeparate false .start body

/-- The value of digits in a base; underscores are skipped. -/
def digitsValue? (base : Nat) : List Char -> Nat -> Option Nat
  | [], total => some total
  | '_' :: rest, total => digitsValue? base rest total
  | c :: rest, total => do
      let value ← digit? c
      if value < base then digitsValue? base rest (total * base + value) else none

/-- Split a numeral without sign into its base and its digits. -/
def baseAndDigits (chars : List Char) : Nat × List Char :=
  match chars with
  | '0' :: mark :: first :: rest =>
      if lowerAscii mark == 'b' then (2, first :: rest)
      else if lowerAscii mark == 'o' then (8, first :: rest)
      else if lowerAscii mark == 'x' then (16, first :: rest)
      else (8, mark :: first :: rest)
  | '0' :: rest => (8, rest)
  | _ => (10, chars)

/-- The value of a numeral without sign. -/
def natural? (chars : List Char) : Option Nat :=
  if chars.isEmpty then none
  else do
    let (base, digits) := baseAndDigits chars
    let value ← digitsValue? base digits 0
    if chars.contains '_' && !underscoresAllowed chars then none else some value

/-- Split off a sign; true means negative. -/
def splitSign (chars : List Char) : Bool × List Char :=
  match chars with
  | '-' :: rest => (true, rest)
  | '+' :: rest => (false, rest)
  | _ => (false, chars)

/-- Read a numeral as an integer of 64 bits. -/
def integer? (text : String) : Option Int64 := do
  let (negative, chars) := splitSign text.toList
  let size ← natural? chars
  if negative then
    if size <= Nat.pow 2 63 then some (Int64.ofInt (-(size : Int))) else none
  else if size < Nat.pow 2 63 then some (Int64.ofInt size) else none

/-- Read a numeral without sign as a natural number of 64 bits. -/
def unsigned? (text : String) : Option Nat := do
  let size ← natural? text.toList
  if size < Nat.pow 2 64 then some size else none

/-- The digits of a significand as they are read: their value, how many there
are, and how many stand behind the point. -/
structure Significand where
  value : Nat := 0
  count : Nat := 0
  behindPoint : Nat := 0
  pointSeen : Bool := false

/-- Read the digits and the point of a significand; answer the rest. -/
def readSignificand (base : Nat) : Significand -> List Char -> Significand × List Char
  | seen, [] => (seen, [])
  | seen, c :: rest =>
      if c == '_' then readSignificand base seen rest
      else if c == '.' then
        if seen.pointSeen then (seen, c :: rest)
        else readSignificand base { seen with pointSeen := true } rest
      else match digit? c with
        | some value =>
            if value < base then
              readSignificand base
                { seen with
                  value := seen.value * base + value
                  count := seen.count + 1
                  behindPoint := seen.behindPoint + (if seen.pointSeen then 1 else 0) } rest
            else (seen, c :: rest)
        | none => (seen, c :: rest)

/-- Read the digits of an exponent. Its size counts no further than ten
thousand and one more digit: every larger exponent overflows or vanishes. -/
def readExponent : Nat -> List Char -> Nat × List Char
  | total, [] => (total, [])
  | total, c :: rest =>
      if c == '_' then readExponent total rest
      else if c.isDigit then
        readExponent (if total < 10000 then total * 10 + (c.toNat - '0'.toNat) else total) rest
      else (total, c :: rest)

/-- Read an optional exponent introduced by a letter; nothing when it is
malformed. -/
def exponentPart? (letter : Char) (chars : List Char) : Option (Bool × Int × List Char) :=
  match chars with
  | [] => some (false, 0, [])
  | c :: rest =>
      if lowerAscii c == letter then
        let (negative, digits) := splitSign rest
        match digits with
        | first :: _ =>
            if first.isDigit then
              let (size, rest) := readExponent 0 digits
              some (true, if negative then -(size : Int) else size, rest)
            else none
        | [] => none
      else some (false, 0, c :: rest)

/-- The float for `significand * base ^ exponent`. -/
def scaled? (negative : Bool) (significand base : Nat) (exponent : Int) : Option Float :=
  if exponent < 0 then ofQuotient? negative significand (Nat.pow base exponent.natAbs)
  else ofQuotient? negative (significand * Nat.pow base exponent.natAbs) 1

/-- The named reals: infinity with an optional sign, and not-a-number. -/
def namedReal? (text : String) : Option Float :=
  let (negative, chars) := splitSign text.toList
  let name := String.ofList (chars.map lowerAscii)
  if name == "inf" || name == "infinity" then
    some (if negative then ofFields true 2047 0 else ofFields false 2047 0)
  else if (text.map lowerAscii) == "nan" then some (ofFields false 2047 (Nat.pow 2 51))
  else none

/-- Read a numeral as a real; nothing when it is malformed or too large. -/
def numericReal? (text : String) : Option Float :=
  let all := text.toList
  let (negative, chars) := splitSign all
  let (hexadecimal, body) := match chars with
    | '0' :: mark :: first :: rest =>
        if lowerAscii mark == 'x' then (true, first :: rest) else (false, chars)
    | _ => (false, chars)
  let (seen, rest) := readSignificand (if hexadecimal then 16 else 10) {} body
  if seen.count == 0 then none
  else match exponentPart? (if hexadecimal then 'p' else 'e') rest with
    | some (written, exponent, []) =>
        if all.contains '_' && !underscoresAllowed all then none
        else if hexadecimal then
          if written then scaled? negative seen.value 2 (exponent - 4 * seen.behindPoint) else none
        else scaled? negative seen.value 10 (exponent - seen.behindPoint)
    | _ => none

/-- Read a real. -/
def real? (text : String) : Option Float :=
  match namedReal? text with
  | some value => some value
  | none => numericReal? text

/-- Read a truth value. -/
def boolean? (text : String) : Option Bool :=
  if ["1", "t", "T", "TRUE", "true", "True"].contains text then some true
  else if ["0", "f", "F", "FALSE", "false", "False"].contains text then some false
  else none

end Number
end PatternMachine
