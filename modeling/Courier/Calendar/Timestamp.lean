import Courier.Calendar.Date

/-!
# Times of day and local timestamps

A timestamp is a date with a time of day, without a time zone.  Its fraction of a second
counts nanoseconds.  A leap second is kept as the second before it with a fraction of one
second or more, and written as the second after that one: as second 60 at the end of a minute.

Main definitions:

- `TimeOfDay` is a time that exists; `TimeOfDay.of?` checks its parts.
- `Timestamp.text` is the text `YYYY-MM-DDTHH:MM:SS` with a fraction when there is one, and
  `Timestamp.parse?` reads one.
- `Timestamp.digits` is the text of fourteen digits without separators, and
  `Timestamp.ofDigits?` reads one.
-/

namespace Courier.Calendar

/-- Nanoseconds in a second. -/
def nanosPerSecond : Nat := 1000000000

/-- Whether parts name a time of day.  Any second can be extended by a leap second. -/
def isTime (hour minute second nano : Nat) : Bool :=
  hour < 24 && minute < 60 && second < 60 && nano < 2 * nanosPerSecond

/-- A time of day. -/
structure TimeOfDay where
  /-- The hour, below 24. -/
  hour : Nat
  /-- The minute, below 60. -/
  minute : Nat
  /-- The second, below 60. -/
  second : Nat
  /-- The nanoseconds, at least 10⁹ within a leap second. -/
  nano : Nat
  valid : isTime hour minute second nano = true
deriving DecidableEq, Repr

namespace TimeOfDay

/-- The first instant of a day. -/
def midnight : TimeOfDay := ⟨0, 0, 0, 0, by decide⟩

instance : Inhabited TimeOfDay := ⟨midnight⟩

/-- The time with the given parts, when there is such a time. -/
def of? (hour minute second nano : Nat) : Option TimeOfDay :=
  if h : isTime hour minute second nano = true then some ⟨hour, minute, second, nano, h⟩
  else none

/-- A time is made again from its own parts. -/
@[simp]
theorem of?_self (t : TimeOfDay) : of? t.hour t.minute t.second t.nano = some t := by
  simp [of?, t.valid]

/-- The second as it is written: one more within a leap second. -/
def shownSecond (t : TimeOfDay) : Nat :=
  t.second + t.nano / nanosPerSecond

/-- The fraction of the second in nanoseconds. -/
def fraction (t : TimeOfDay) : Nat :=
  t.nano % nanosPerSecond

/-- The second and nanoseconds that a written second and fraction stand for. -/
def ofShown? (hour minute shown fraction : Nat) : Option TimeOfDay :=
  if shown = 60 then of? hour minute 59 (nanosPerSecond + fraction)
  else of? hour minute shown fraction

/-- The characters of a fraction: none, or three, six or nine digits, the fewest that lose
nothing. -/
def fractionChars (nanos : Nat) : List Char :=
  if nanos = 0 then []
  else if nanos % 1000000 = 0 then '.' :: padded 3 (nanos / 1000000)
  else if nanos % 1000 = 0 then '.' :: padded 6 (nanos / 1000)
  else '.' :: padded 9 nanos

/-- The characters of a time, `HH:MM:SS` and a fraction. -/
def chars (t : TimeOfDay) : List Char :=
  padded 2 t.hour ++ ':' :: padded 2 t.minute ++ ':' :: padded 2 t.shownSecond ++
    fractionChars t.fraction

/-- Read a fraction of a second, if there is one.  Digits after the ninth are dropped. -/
def readFraction (cs : List Char) : Option (Nat × List Char) :=
  match cs with
  | '.' :: rest =>
      let digits := rest.takeWhile Char.isDigit
      if digits.isEmpty then none
      else
        let kept := digits.take 9
        some (Json.digitsValue kept * Nat.pow 10 (9 - kept.length), rest.drop digits.length)
  | _ => some (0, cs)

/-- Read a time from the front of a text. -/
def read (cs : List Char) : Option (TimeOfDay × List Char) := do
  let (hour, cs) ← field 2 cs
  let cs ← literal ':' (skipBlanks cs)
  let (minute, cs) ← field 2 cs
  let cs ← literal ':' (skipBlanks cs)
  let (second, cs) ← field 2 cs
  let (fraction, cs) ← readFraction cs
  let time ← ofShown? hour minute second fraction
  return (time, cs)

end TimeOfDay

/-- A date with a time of day. -/
structure Timestamp where
  date : Date
  time : TimeOfDay
deriving DecidableEq, Repr, Inhabited

namespace Timestamp

/-! ## Text -/

/-- The characters of a timestamp. -/
def chars (t : Timestamp) : List Char :=
  t.date.chars ++ 'T' :: t.time.chars

/-- The text of a timestamp, `YYYY-MM-DDTHH:MM:SS` and a fraction when there is one. -/
def text (t : Timestamp) : String :=
  String.ofList t.chars

/-- The timestamp that a whole text stands for. -/
def parse? (s : String) : Option Timestamp := do
  let (date, cs) ← Date.read s.toList
  let cs ← literal 'T' (skipBlanks cs)
  let (time, cs) ← TimeOfDay.read cs
  if (skipBlanks cs).isEmpty then some ⟨date, time⟩ else none

/-- The text of a timestamp as a row of digits, `YYYYMMDDhhmmss`, without its fraction. -/
def digits (t : Timestamp) : String :=
  String.ofList (yearChars t.date.year ++ padded 2 t.date.month ++ padded 2 t.date.day ++
    padded 2 t.time.hour ++ padded 2 t.time.minute ++ padded 2 t.time.shownSecond)

/-- The timestamp that a row of digits stands for. -/
def ofDigits? (s : String) : Option Timestamp := do
  let (year, cs) ← readYear s.toList
  let (month, cs) ← field 2 cs
  let (day, cs) ← field 2 cs
  let (hour, cs) ← field 2 cs
  let (minute, cs) ← field 2 cs
  let (second, cs) ← field 2 cs
  if cs.isEmpty then
    let date ← Date.of? year month day
    let time ← TimeOfDay.ofShown? hour minute second 0
    return ⟨date, time⟩
  else none

/-! ## Counting -/

/-- The timestamp some seconds later, or earlier for a negative count.  The fraction
stays. -/
def plusSeconds? (t : Timestamp) (delta : Int) : Option Timestamp := do
  let total := ((t.time.hour * 60 + t.time.minute) * 60 + t.time.second : Int) + delta
  let day := total / 86400
  let rest := (total % 86400).toNat
  let date ← t.date.plusDays? day
  let time ← TimeOfDay.of? (rest / 3600) (rest / 60 % 60) (rest % 60) t.time.nano
  return ⟨date, time⟩

/-- The timestamp a number of nanoseconds after the start of 1970, when it is in reach. -/
def ofEpochNanos? (n : Int) : Option Timestamp := do
  let seconds := n / nanosPerSecond
  let nano := (n % nanosPerSecond).toNat
  let date ← Date.ofEpochDay? (seconds / 86400)
  let rest := (seconds % 86400).toNat
  let time ← TimeOfDay.of? (rest / 3600) (rest / 60 % 60) (rest % 60) nano
  return ⟨date, time⟩

end Timestamp

end Courier.Calendar
