import Courier.Calendar.Digits

/-!
# Dates

Days of the proleptic Gregorian calendar.

Main definitions:

- `Date` is a day that exists; `Date.of?` checks a year, a month and a day.
- `Date.epochDay` counts days from 1 January 1970 and `Date.ofEpochDay?` counts back.
- `Date.text` is the text `YYYY-MM-DD`, and `Date.read` reads one.
-/

namespace Courier.Calendar

/-- Whether a year has a 29 February. -/
def isLeapYear (year : Int) : Bool :=
  year % 4 == 0 && (year % 100 != 0 || year % 400 == 0)

/-- The number of days in a month. -/
def daysIn (year : Int) (month : Nat) : Nat :=
  if month = 2 then (if isLeapYear year then 29 else 28)
  else if month = 4 ∨ month = 6 ∨ month = 9 ∨ month = 11 then 30
  else 31

/-- The first year that dates reach. -/
def minYear : Int := -262143

/-- The last year that dates reach. -/
def maxYear : Int := 262142

/-- Whether a year, a month and a day name a day of the calendar. -/
def isDate (year : Int) (month day : Nat) : Bool :=
  minYear ≤ year && year ≤ maxYear && 1 ≤ month && month ≤ 12 && 1 ≤ day &&
    day ≤ daysIn year month

/-- A day of the calendar. -/
structure Date where
  /-- The year; zero is the year before the year one. -/
  year : Int
  /-- The month, from 1 to 12. -/
  month : Nat
  /-- The day of the month, from 1. -/
  day : Nat
  valid : isDate year month day = true
deriving DecidableEq, Repr

namespace Date

/-- The first of January 1970. -/
def epoch : Date := ⟨1970, 1, 1, by decide⟩

instance : Inhabited Date := ⟨epoch⟩

/-- The date with the given parts, when there is such a day. -/
def of? (year : Int) (month day : Nat) : Option Date :=
  if h : isDate year month day = true then some ⟨year, month, day, h⟩ else none

/-- A date is made again from its own parts. -/
@[simp]
theorem of?_self (d : Date) : of? d.year d.month d.day = some d := by
  simp [of?, d.valid]

/-! ## Counting days -/

/-- The number of days from 1 January 1970.  Years are counted from March, so that the leap
day comes last. -/
def epochDay (d : Date) : Int :=
  let year := if d.month ≤ 2 then d.year - 1 else d.year
  let era := year / 400
  let yearOfEra := year % 400
  let shifted : Int := if 2 < d.month then (d.month : Int) - 3 else d.month + 9
  let dayOfYear := (153 * shifted + 2) / 5 + d.day - 1
  let dayOfEra := yearOfEra * 365 + yearOfEra / 4 - yearOfEra / 100 + dayOfYear
  era * 146097 + dayOfEra - 719468

/-- The date that lies a number of days after 1 January 1970, when it is in reach. -/
def ofEpochDay? (n : Int) : Option Date :=
  let z := n + 719468
  let era := z / 146097
  let dayOfEra := z % 146097
  let yearOfEra :=
    (dayOfEra - dayOfEra / 1460 + dayOfEra / 36524 - dayOfEra / 146096) / 365
  let dayOfYear := dayOfEra - (365 * yearOfEra + yearOfEra / 4 - yearOfEra / 100)
  let shifted := (5 * dayOfYear + 2) / 153
  let day := dayOfYear - (153 * shifted + 2) / 5 + 1
  let month := if shifted < 10 then shifted + 3 else shifted - 9
  let year := yearOfEra + era * 400 + (if month ≤ 2 then 1 else 0)
  of? year month.toNat day.toNat

/-- The date some days later, or earlier for a negative count. -/
def plusDays? (d : Date) (n : Int) : Option Date :=
  if n = 0 then some d else ofEpochDay? (d.epochDay + n)

/-! ## Text -/

/-- The characters of a date, `YYYY-MM-DD`. -/
def chars (d : Date) : List Char :=
  yearChars d.year ++ '-' :: padded 2 d.month ++ '-' :: padded 2 d.day

/-- The text of a date, `YYYY-MM-DD`. -/
def text (d : Date) : String :=
  String.ofList d.chars

/-- Read a date from the front of a text. -/
def read (cs : List Char) : Option (Date × List Char) := do
  let (year, cs) ← readYear cs
  let cs ← literal '-' (skipBlanks cs)
  let (month, cs) ← field 2 cs
  let cs ← literal '-' (skipBlanks cs)
  let (day, cs) ← field 2 cs
  let date ← of? year month day
  return (date, cs)

/-- The date that a whole text stands for. -/
def parse? (s : String) : Option Date := do
  let (date, cs) ← read s.toList
  if (skipBlanks cs).isEmpty then some date else none

end Date

end Courier.Calendar
