/-
Timestamps — moments in coordinated universal time, to the nanosecond.

A written moment is a date, a separator, a time of day and an offset.  The reader is lenient
where people are careless: blanks may stand before every number and every separator, numbers
may have fewer digits than usual, the separator may be a blank or a T in either case, and an
offset may leave out its colon, or be a Z or the word UTC.  It is strict about the calendar.
A leap second may end any minute.

Days are counted from the first of January 1970, in the calendar in use today extended to
both sides, and only the years from `firstYear` to `lastYear` are kept.
-/

import MediaCodec.Text.Basic
import MediaCodec.Text.Numeral

namespace MediaCodec

/-! ## The calendar -/

/-- A day of the calendar. -/
structure CivilDate where
  year : Int
  month : Nat
  day : Nat
  deriving DecidableEq, Repr

namespace CivilDate

/-- Whether a year has a leap day. -/
def isLeapYear (y : Int) : Bool := y % 4 == 0 && (y % 100 != 0 || y % 400 == 0)

/-- The number of days in a month. -/
def monthLength (y : Int) (m : Nat) : Nat :=
  if m == 2 then (if isLeapYear y then 29 else 28)
  else if m == 4 || m == 6 || m == 9 || m == 11 then 30
  else 31

/-- The first year that is kept. -/
def firstYear : Int := -262143

/-- The last year that is kept. -/
def lastYear : Int := 262142

/-- Whether a date is in the calendar, within the years that are kept. -/
def isValid (d : CivilDate) : Bool :=
  firstYear ≤ d.year && d.year ≤ lastYear && 1 ≤ d.month && d.month ≤ 12 && 1 ≤ d.day
    && d.day ≤ monthLength d.year d.month

/-- The number of days since the first of January 1970.  Years are taken to begin in March,
so that a leap day is the last of its year. -/
def toDays (d : CivilDate) : Int :=
  let y := if d.month ≤ 2 then d.year - 1 else d.year
  let cycle := y / 400
  let yearOfCycle := y - cycle * 400
  let month : Int := (d.month + 9) % 12
  let dayOfYear := (153 * month + 2) / 5 + d.day - 1
  let dayOfCycle := yearOfCycle * 365 + yearOfCycle / 4 - yearOfCycle / 100 + dayOfYear
  cycle * 146097 + dayOfCycle - 719468

/-- The date a number of days after the first of January 1970. -/
def ofDays (n : Int) : CivilDate :=
  let z := n + 719468
  let cycle := z / 146097
  let dayOfCycle := z - cycle * 146097
  let yearOfCycle :=
    (dayOfCycle - dayOfCycle / 1460 + dayOfCycle / 36524 - dayOfCycle / 146096) / 365
  let dayOfYear := dayOfCycle - (365 * yearOfCycle + yearOfCycle / 4 - yearOfCycle / 100)
  let month := (5 * dayOfYear + 2) / 153
  let day := dayOfYear - (153 * month + 2) / 5 + 1
  let m := if month < 10 then month + 3 else month - 9
  let y := yearOfCycle + cycle * 400
  ⟨if m ≤ 2 then y + 1 else y, m.toNat, day.toNat⟩

end CivilDate

/-- A moment: a day, a second of it, and the nanoseconds since, which reach two thousand
million within a leap second. -/
structure Timestamp where
  day : Int
  second : Nat
  nanos : Nat
  deriving DecidableEq, Repr

namespace Timestamp

/-! ## Reading -/

/-- Reads a number of at most so many digits, with blanks before it. -/
def number (width : Nat) (cs : List Char) : Option (Nat × List Char) :=
  let cs := Text.trimStart cs
  let ds := (cs.take width).takeWhile Char.isDigit
  if ds.isEmpty then none
  else some ((ds.foldl (fun n c => n * 10 + (c.toNat - '0'.toNat)) 0), cs.drop ds.length)

/-- Reads a year: four digits at most without a sign, and any number of digits after one. -/
def year (cs : List Char) : Option (Int × List Char) :=
  match Text.trimStart cs with
  | '-' :: rest => (digitsAfter rest).map fun (n, rest) => (-(n : Int), rest)
  | '+' :: rest => (digitsAfter rest).map fun (n, rest) => ((n : Int), rest)
  | cs => (number 4 cs).map fun (n, rest) => ((n : Int), rest)
where
  /-- Reads the digits that follow a sign at once. -/
  digitsAfter (cs : List Char) : Option (Nat × List Char) :=
    match cs with
    | [] => none
    | c :: _ => if c.isDigit then number cs.length cs else none

/-- Reads a separator with blanks before it. -/
def separator (c : Char) (cs : List Char) : Option (List Char) :=
  match Text.trimStart cs with
  | d :: rest => if d == c then some rest else none
  | [] => none

/-- Reads what stands between a date and a time. -/
def middle (cs : List Char) : Option (List Char) :=
  match cs with
  | c :: rest => if c == 'T' || c == 't' || c == ' ' then some rest else none
  | [] => none

/-- Reads a fraction of a second, in nanoseconds; digits beyond the ninth are passed over. -/
def fraction (cs : List Char) : Option (Nat × List Char) :=
  match cs with
  | '.' :: rest =>
    let ds := rest.takeWhile Char.isDigit
    if ds.isEmpty then none
    else
      let nine := ds.take 9
      let n := nine.foldl (fun n c => n * 10 + (c.toNat - '0'.toNat)) 0
      some (n * Nat.pow 10 (9 - nine.length), rest.drop ds.length)
  | _ => some (0, cs)

/-- The minutes that two pairs of digits and what stands between them make up. -/
def offsetMinutes (cs : List Char) : Option (Nat × List Char) :=
  match cs with
  | a :: b :: rest =>
    match Text.digit? a, Text.digit? b, rest.dropWhile (fun c => c == ':' || Text.isBlank c) with
    | some a, some b, c :: d :: rest =>
      match Text.digit? c, Text.digit? d with
      | some c, some d => if c ≤ 5 then some ((a * 10 + b) * 60 + c * 10 + d, rest) else none
      | _, _ => none
    | _, _, _ => none
  | _ => none

/-- Reads an offset, in minutes east. -/
def offset (cs : List Char) : Option (Int × List Char) :=
  let cs := Text.trimStart cs
  if (Text.lower (cs.take 3)) == ['u', 't', 'c'] then some (0, cs.drop 3)
  else
    match cs with
    | 'Z' :: rest => some (0, rest)
    | 'z' :: rest => some (0, rest)
    | '+' :: rest => (offsetMinutes rest).map fun (n, rest) => ((n : Int), rest)
    | '-' :: rest => (offsetMinutes rest).map fun (n, rest) => (-(n : Int), rest)
    | '−' :: rest => (offsetMinutes rest).map fun (n, rest) => (-(n : Int), rest)
    | _ => none

/-- The moment of a date and a time of day at an offset, if the calendar has it. -/
def ofCivil (date : CivilDate) (hour minute second nanos : Nat) (east : Int) : Option Timestamp :=
  if date.isValid && hour ≤ 23 && minute ≤ 59 && second ≤ 60 && east.natAbs < 1440 then
    let inDay : Int := (hour * 60 + minute : Nat) - east
    let day := date.toDays + inDay / 1440
    let minutes := (inDay % 1440).toNat
    let d := CivilDate.ofDays day
    if CivilDate.firstYear ≤ d.year && d.year ≤ CivilDate.lastYear then
      some ⟨day, minutes * 60 + min second 59, if second == 60 then 1000000000 + nanos else nanos⟩
    else none
  else none

def ofText? (s : String) : Option Timestamp := do
  let (y, cs) ← year s.toList
  let cs ← separator '-' cs
  let (m, cs) ← number 2 cs
  let cs ← separator '-' cs
  let (d, cs) ← number 2 cs
  let cs ← middle cs
  let (hour, cs) ← number 2 cs
  let cs ← separator ':' cs
  let (minute, cs) ← number 2 cs
  let cs ← separator ':' cs
  let (second, cs) ← number 2 cs
  let (nanos, cs) ← fraction cs
  let (east, cs) ← offset cs
  if (Text.trimStart cs).isEmpty then ofCivil ⟨y, m, d⟩ hour minute second nanos east else none

/-! ## Writing -/

/-- A number with at least so many digits. -/
def padded (width n : Nat) : String :=
  let ds := toString n
  String.ofList (List.replicate (width - ds.length) '0') ++ ds

/-- A year: four digits, and outside them a sign and at least four digits. -/
def yearText (y : Int) : String :=
  if 0 ≤ y && y ≤ 9999 then padded 4 y.toNat
  else (if y < 0 then "-" else "+") ++ padded 4 y.natAbs

/-- The date in digits. -/
def dateText (t : Timestamp) : String :=
  let d := CivilDate.ofDays t.day
  yearText d.year ++ "-" ++ padded 2 d.month ++ "-" ++ padded 2 d.day

/-- The time of day in whole seconds; a leap second is the sixtieth of its minute. -/
def timeText (t : Timestamp) : String :=
  let second := t.second % 60 + t.nanos / 1000000000
  padded 2 (t.second / 3600) ++ ":" ++ padded 2 (t.second / 60 % 60) ++ ":" ++ padded 2 second

/-- The nanoseconds within the second. -/
def subsecond (t : Timestamp) : Nat := t.nanos % 1000000000

/-- The fraction in as few groups of three digits as are exact. -/
def fractionText (n : Nat) : String :=
  if n == 0 then ""
  else if n % 1000000 == 0 then "." ++ padded 3 (n / 1000000)
  else if n % 1000 == 0 then "." ++ padded 6 (n / 1000)
  else "." ++ padded 9 n

/-- The moment as a standard text. -/
def toText (t : Timestamp) : String :=
  t.dateText ++ "T" ++ t.timeText ++ fractionText t.subsecond ++ "Z"

/-- The moment as people read it, to the millisecond. -/
def display (t : Timestamp) : String :=
  t.dateText ++ " " ++ t.timeText ++ "." ++ padded 3 (t.subsecond / 1000000)

end Timestamp

end MediaCodec
