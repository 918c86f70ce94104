import DeviceLab.Decimal.Powers
import DeviceLab.Decimal.Numeral
import DeviceLab.Text.Blank

/-!
# Points in calendar time

A timestamp counts seconds from the start of 1970 in universal time; a leap second shares the count
of the second before it and has nanoseconds from `10^9` on.  The text follows RFC 3339 with `Z` and
no fraction, or one of three, six or nine digits.  Reading is more generous: blanks may stand
between the parts, the two halves may be joined by a blank, and any whole-minute offset is taken.
-/

namespace DeviceLab

open Decimal Text

/-- A point in universal time. -/
structure Timestamp where
  seconds : Int
  /-- Below `10^9`, or below `2 · 10^9` in a leap second. -/
  nanos : Nat
  deriving DecidableEq, Repr, Inhabited

/-- A day of the Gregorian calendar, extended to all years. -/
structure CalendarDay where
  year : Int
  month : Nat
  day : Nat
  deriving DecidableEq, Repr

namespace CalendarDay

/-- Whether February has 29 days. -/
def isLeapYear (year : Int) : Bool := year % 4 == 0 && (year % 100 != 0 || year % 400 == 0)

/-- The number of days in a month from 1 to 12. -/
def monthLength (year : Int) (month : Nat) : Nat :=
  if month = 2 then if isLeapYear year then 29 else 28
  else if month = 4 ∨ month = 6 ∨ month = 9 ∨ month = 11 then 30
  else 31

def isValid (d : CalendarDay) : Bool :=
  1 ≤ d.month && d.month ≤ 12 && 1 ≤ d.day && d.day ≤ monthLength d.year d.month

/-- The day's number, counted from the first day of 1970.  Years are taken to begin in March, so
that the leap day is the last one of its year, and are counted in eras of 400. -/
def number (d : CalendarDay) : Int :=
  let year := if d.month ≤ 2 then d.year - 1 else d.year
  let era := Int.fdiv year 400
  let yearOfEra := year - era * 400
  let month : Int := (d.month + 9) % 12
  let dayOfYear := (153 * month + 2) / 5 + d.day - 1
  era * 146097 + (yearOfEra * 365 + yearOfEra / 4 - yearOfEra / 100 + dayOfYear) - 719468

/-- The day with a number. -/
def ofNumber (n : Int) : CalendarDay :=
  let shifted := n + 719468
  let era := Int.fdiv shifted 146097
  let dayOfEra := shifted - era * 146097
  let yearOfEra := (dayOfEra - dayOfEra / 1460 + dayOfEra / 36524 - dayOfEra / 146096) / 365
  let dayOfYear := dayOfEra - (365 * yearOfEra + yearOfEra / 4 - yearOfEra / 100)
  let month := (5 * dayOfYear + 2) / 153
  let day := dayOfYear - (153 * month + 2) / 5 + 1
  let number := if month < 10 then month + 3 else month - 9
  let year := yearOfEra + era * 400 + (if number ≤ 2 then 1 else 0)
  ⟨year, number.toNat, day.toNat⟩

end CalendarDay

namespace Timestamp

/-- The first second of 1970. -/
def epoch : Timestamp := ⟨0, 0⟩

/-- A number in at least `width` digits. -/
def padded (width n : Nat) : String :=
  let cs := Nat.toDigits 10 n
  String.ofList (List.replicate (width - cs.length) '0' ++ cs)

/-- The year in four digits; one outside 0 to 9999 has its sign in front. -/
def yearText (year : Int) : String :=
  if 0 ≤ year ∧ year ≤ 9999 then padded 4 year.toNat
  else (if year < 0 then "-" else "+") ++ padded 4 year.natAbs

/-- The fraction of a second: nothing, or as few groups of three digits as show all of it. -/
def fractionText (nanos : Nat) : String :=
  if nanos = 0 then ""
  else if nanos % tenTo 6 = 0 then "." ++ padded 3 (nanos / tenTo 6)
  else if nanos % tenTo 3 = 0 then "." ++ padded 6 (nanos / tenTo 3)
  else "." ++ padded 9 nanos

/-- The timestamp as text. -/
def text (t : Timestamp) : String :=
  let day := CalendarDay.ofNumber (Int.fdiv t.seconds 86400)
  let second := (Int.fmod t.seconds 86400).toNat
  let leap := tenTo 9 ≤ t.nanos
  let date := yearText day.year ++ "-" ++ padded 2 day.month ++ "-" ++ padded 2 day.day
  let time := padded 2 (second / 3600) ++ ":" ++ padded 2 (second / 60 % 60) ++ ":" ++
    padded 2 (second % 60 + if leap then 1 else 0)
  date ++ "T" ++ time ++ fractionText (if leap then t.nanos - tenTo 9 else t.nanos) ++ "Z"

/-- A reader of one part of a text: its value and the rest. -/
abbrev PartReader (α : Type) := StateT (List Char) Option α

/-- One to `width` digits. -/
def readDigits (width : Nat) : PartReader (List Char) := fun cs =>
  let found := (cs.take width).takeWhile isDigit
  if found.isEmpty then none else some (found, cs.drop found.length)

/-- Blanks, then a number of at most `width` digits. -/
def readNumber (width : Nat) : PartReader Nat := do
  modify trimStart
  return ofDigits (← readDigits width)

/-- Blanks, then a year: four digits at most, or any number of them after a sign. -/
def readYear : PartReader Int := do
  modify trimStart
  match ← get with
  | '-' :: rest =>
    set rest
    return -(ofDigits (← readDigits rest.length) : Int)
  | '+' :: rest =>
    set rest
    return ofDigits (← readDigits rest.length)
  | _ => return ofDigits (← readDigits 4)

/-- Blanks, then one given character. -/
def readMark (c : Char) : PartReader Unit := fun cs =>
  match trimStart cs with
  | d :: rest => if c = d then some ((), rest) else none
  | [] => none

/-- A point and a fraction of a second, of which nine digits count. -/
def readFraction : PartReader Nat := do
  match ← get with
  | '.' :: rest =>
    set rest
    let found ← readDigits 9
    modify (·.dropWhile isDigit)
    return ofDigits found * tenTo (9 - found.length)
  | _ => return 0

/-- The minutes of an offset: two digits, the first below six. -/
def readOffsetMinutes : PartReader Nat := fun cs =>
  match cs with
  | c :: d :: rest =>
    if isDigit c && c < '6' && isDigit d then some (ofDigits [c, d], rest) else none
  | _ => none

/-- The offset from universal time in seconds, less than a day. -/
def readOffset : PartReader Int := do
  let cs ← get
  if (cs.take 3).map Char.toUpper = ['U', 'T', 'C'] then
    set (cs.drop 3)
    return 0
  match cs with
  | [] => failure
  | c :: rest =>
    set rest
    if c = 'Z' ∨ c = 'z' then return 0
    guard (c = '+' ∨ c = '-' ∨ c = '\u2212')
    let hours ← readDigits 2
    guard (hours.length = 2)
    modify (·.dropWhile fun c => c == ':' || isBlank c)
    let seconds : Int := ofDigits hours * 3600 + (← readOffsetMinutes) * 60
    guard (seconds < 86400)
    return if c = '+' then seconds else -seconds

/-- The day numbers that a timestamp may fall on. -/
def inRange (dayNumber : Int) : Bool :=
  CalendarDay.number ⟨-262143, 1, 1⟩ ≤ dayNumber && dayNumber ≤ CalendarDay.number ⟨262142, 12, 31⟩

/-- Date, time and offset; a second numbered 60 is a leap second. -/
def readTimestamp : PartReader Timestamp := do
  let year ← readYear
  readMark '-'
  let month ← readNumber 2
  readMark '-'
  let day ← readNumber 2
  match ← get with
  | c :: rest =>
    guard (c = 't' ∨ c = 'T' ∨ c = ' ')
    set rest
  | [] => failure
  let hour ← readNumber 2
  readMark ':'
  let minute ← readNumber 2
  readMark ':'
  let second ← readNumber 2
  let fraction ← readFraction
  modify trimStart
  let offset ← readOffset
  let date : CalendarDay := ⟨year, month, day⟩
  guard (date.isValid && inRange date.number && hour ≤ 23 && minute ≤ 59 && second ≤ 60)
  let inDay : Int := hour * 3600 + minute * 60 + min second 59
  let total := date.number * 86400 + inDay - offset
  guard (inRange (Int.fdiv total 86400))
  return ⟨total, fraction + if second = 60 then tenTo 9 else 0⟩

/-- The timestamp that a text tells. -/
def ofText? (text : String) : Option Timestamp :=
  match readTimestamp text.toList with
  | some (t, rest) => if (trimStart rest).isEmpty then some t else none
  | none => none

end Timestamp

end DeviceLab
