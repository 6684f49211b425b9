import PatternMachine.Number.Literal

/-!
# Timestamps

A document may write a day, or a day and a time of day with an optional zone.
The year has four digits; month, day, hour, minute and second have one or two.
-/

namespace PatternMachine
namespace Document

/-- A moment as it is written: the offset is that of its zone from universal
time, in minutes, and is zero when no zone is given. -/
structure Timestamp where
  year : Nat
  month : Nat
  day : Nat
  hour : Nat := 0
  minute : Nat := 0
  second : Nat := 0
  nanosecond : Nat := 0
  offset : Int := 0
  deriving DecidableEq, Repr, Inhabited

namespace Timestamp

/-- The value of a run of decimal digits. -/
def decimal (digits : List Char) : Nat :=
  digits.foldl (fun total c => total * 10 + (c.toNat - '0'.toNat)) 0

/-- Read one or two digits. -/
def shortNumber? : List Char -> Option (Nat × List Char)
  | first :: second :: rest =>
      if first.isDigit then
        if second.isDigit then some (decimal [first, second], rest)
        else some (decimal [first], second :: rest)
      else none
  | [only] => if only.isDigit then some (decimal [only], []) else none
  | [] => none

/-- Read exactly two digits. -/
def twoDigits? : List Char -> Option (Nat × List Char)
  | first :: second :: rest =>
      if first.isDigit && second.isDigit then some (decimal [first, second], rest) else none
  | _ => none

/-- Read one given character. -/
def expect? (wanted : Char) : List Char -> Option (List Char)
  | c :: rest => if c == wanted then some rest else none
  | [] => none

/-- Whether a year of the Gregorian calendar has a leap day. -/
def isLeapYear (year : Nat) : Bool :=
  year % 4 == 0 && (year % 100 != 0 || year % 400 == 0)

/-- The number of days of a month. -/
def daysIn (year month : Nat) : Nat :=
  if month == 2 then (if isLeapYear year then 29 else 28)
  else if month == 4 || month == 6 || month == 9 || month == 11 then 30
  else 31

/-- Read a day. -/
def day? (chars : List Char) : Option (Timestamp × List Char) := do
  let digits := chars.take 4
  if digits.length != 4 || !digits.all Char.isDigit then none
  else
    let rest ← expect? '-' (chars.drop 4)
    let (month, rest) ← shortNumber? rest
    let rest ← expect? '-' rest
    let (day, rest) ← shortNumber? rest
    let year := decimal digits
    if month < 1 || 12 < month || day < 1 || daysIn year month < day then none
    else some ({ year, month, day }, rest)

/-- Read an optional fraction of a second, in nanoseconds. Further digits do not
count. -/
def fraction (chars : List Char) : Nat × List Char :=
  match chars with
  | point :: first :: rest =>
      if (point == '.' || point == ',') && first.isDigit then
        let digits := (first :: rest).takeWhile Char.isDigit
        let counted := (digits ++ List.replicate 9 '0').take 9
        (decimal counted, (first :: rest).dropWhile Char.isDigit)
      else (0, chars)
  | _ => (0, chars)

/-- Read a time of day after a day. -/
def timeOfDay? (day : Timestamp) (chars : List Char) : Option (Timestamp × List Char) := do
  let (hour, rest) ← shortNumber? chars
  let rest ← expect? ':' rest
  let (minute, rest) ← shortNumber? rest
  let rest ← expect? ':' rest
  let (second, rest) ← shortNumber? rest
  if 24 <= hour || 60 <= minute || 60 <= second then none
  else
    let (nanosecond, rest) := fraction rest
    some ({ day with hour, minute, second, nanosecond }, rest)

/-- Read a zone: `Z`, or a signed offset in hours and minutes. -/
def zone? (moment : Timestamp) (chars : List Char) : Option Timestamp :=
  match chars with
  | ['Z'] => some moment
  | sign :: rest => do
      if sign != '+' && sign != '-' then none
      else
        let (hours, rest) ← twoDigits? rest
        let rest ← expect? ':' rest
        let (minutes, rest) ← twoDigits? rest
        if !rest.isEmpty || 24 < hours || 60 < minutes then none
        else
          let size : Int := hours * 60 + minutes
          some { moment with offset := if sign == '-' then -size else size }
  | [] => none

/-- Read a whole timestamp: a day alone, a day and a time apart by blanks, or a
day and a time joined by the letter `T` with a zone. -/
def ofText? (text : String) : Option Timestamp := do
  let (day, rest) ← day? text.toList
  match rest with
  | [] => some day
  | ' ' :: rest =>
      let (moment, rest) ← timeOfDay? day (rest.dropWhile (· == ' '))
      if rest.isEmpty then some moment else none
  | joint :: rest =>
      if joint == 'T' || joint == 't' then do
        let (moment, rest) ← timeOfDay? day rest
        zone? moment rest
      else none

/-- A number with leading zeros up to a width. -/
def padded (width value : Nat) : String :=
  let digits := toString value
  String.ofList (List.replicate (width - digits.length) '0') ++ digits

/-- The fraction of a second as it is shown, without zeros at its end. -/
def shownFraction (nanosecond : Nat) : String :=
  if nanosecond == 0 then ""
  else "." ++ String.ofList (((padded 9 nanosecond).toList.reverse.dropWhile (· == '0')).reverse)

/-- The offset of a zone as it is shown. -/
def shownOffset (offset : Int) : String :=
  (if offset < 0 then "-" else "+") ++ padded 2 (offset.natAbs / 60) ++
    padded 2 (offset.natAbs % 60)

/-- A timestamp as it is shown. -/
def shown (moment : Timestamp) : String :=
  padded 4 moment.year ++ "-" ++ padded 2 moment.month ++ "-" ++ padded 2 moment.day ++ " " ++
    padded 2 moment.hour ++ ":" ++ padded 2 moment.minute ++ ":" ++ padded 2 moment.second ++
    shownFraction moment.nanosecond ++ " " ++ shownOffset moment.offset ++ " " ++
    (if moment.offset == 0 then "UTC" else shownOffset moment.offset)

end Timestamp
end Document
end PatternMachine
