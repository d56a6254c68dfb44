import Courier.Calendar.Timestamp
import Courier.Json.Decode

/-!
# Moments

A moment is a point in time, kept as its timestamp in Coordinated Universal Time.

Main definitions:

- `Moment.text` is the text of a moment, which ends in `Z`.
- `Moment.parse?` reads a moment that is given in any zone: the zone is `Z`, `UTC`, or an
  offset of hours and minutes.
- `Moment.toJson`, `Moment.ofJson` and their likes for dates and timestamps are the forms in
  which times travel.
- `Zone` is what the clocks of a host show.
-/

namespace Courier.Calendar

/-- A point in time. -/
structure Moment where
  /-- The date and time of day in Coordinated Universal Time. -/
  utc : Timestamp
deriving DecidableEq, Repr, Inhabited

namespace Moment

/-- The text of a moment. -/
def text (m : Moment) : String :=
  String.ofList (m.utc.chars ++ ['Z'])

/-! ## Reading -/

/-- The sign that an offset begins with: whether it is a minus.  The minus may be the
mathematical one. -/
def readSign : List Char → Option (Bool × List Char)
  | '+' :: rest => some (false, rest)
  | '-' :: rest => some (true, rest)
  | '\u2212' :: rest => some (true, rest)
  | _ => none

/-- Read exactly two digits. -/
def readTwoDigits : List Char → Option (Nat × List Char)
  | a :: b :: rest =>
      if a.isDigit && b.isDigit then some (Json.digitsValue [a, b], rest) else none
  | _ => none

/-- Skip the colons and blanks between the hours and the minutes of an offset. -/
def skipColon (cs : List Char) : List Char :=
  cs.dropWhile fun c => c == ':' || Text.isBlank c

/-- Whether three characters spell the name of the universal zone, in any case. -/
def isUniversal (a b c : Char) : Bool :=
  (a == 'U' || a == 'u') && (b == 'T' || b == 't') && (c == 'C' || c == 'c')

/-- Read an offset of hours and minutes, in seconds. -/
def readOffset (cs : List Char) : Option (Int × List Char) := do
  let (negative, cs) ← readSign cs
  let (hours, cs) ← readTwoDigits cs
  let (minutes, cs) ← readTwoDigits (skipColon cs)
  if 60 ≤ minutes then none
  else
    let seconds : Int := (hours * 60 + minutes) * 60
    return (if negative then -seconds else seconds, cs)

/-- Read a zone: its offset in seconds. -/
def readZone : List Char → Option (Int × List Char)
  | 'Z' :: rest | 'z' :: rest => some (0, rest)
  | a :: b :: c :: rest =>
      if isUniversal a b c then some (0, rest) else readOffset (a :: b :: c :: rest)
  | cs => readOffset cs

/-- The moment on a date whose time of day and zone are all that is left of a text. -/
def readOnDate (date : Date) (cs : List Char) : Option Moment := do
  let (time, cs) ← TimeOfDay.read cs
  let (offset, cs) ← readZone (skipBlanks cs)
  if !(skipBlanks cs).isEmpty || 86400 ≤ offset.natAbs then none
  else
    let utc ← Timestamp.plusSeconds? ⟨date, time⟩ (-offset)
    return ⟨utc⟩

/-- The moment that a whole text stands for.  A date and a time are separated by a `T` or
one blank. -/
def parse? (s : String) : Option Moment := do
  let (date, cs) ← Date.read s.toList
  match cs with
  | 'T' :: rest | 't' :: rest | ' ' :: rest => readOnDate date rest
  | _ => none

/-- The moment a number of nanoseconds after the start of 1970; the start itself when the
count is out of reach. -/
def ofEpochNanos (n : Int) : Moment :=
  ⟨(Timestamp.ofEpochNanos? n).getD default⟩

/-! ## JSON -/

/-- A moment as a string. -/
def toJson (m : Moment) : Json :=
  .string m.text

/-- Read a moment from a string. -/
def ofJson (j : Json) : Json.Decoded Moment := do
  let s ← Json.toText j
  match parse? s with
  | some m => .ok m
  | none => .error (.unexpected "a moment")

end Moment

/-- A timestamp as a string. -/
def Timestamp.toJson (t : Timestamp) : Json :=
  .string t.text

/-- Read a timestamp from a string. -/
def Timestamp.ofJson (j : Json) : Json.Decoded Timestamp := do
  let s ← Json.toText j
  match Timestamp.parse? s with
  | some t => .ok t
  | none => .error (.unexpected "a timestamp")

/-- A date as a string. -/
def Date.toJson (d : Date) : Json :=
  .string d.text

/-- Read a date from a string. -/
def Date.ofJson (j : Json) : Json.Decoded Date := do
  let s ← Json.toText j
  match Date.parse? s with
  | some d => .ok d
  | none => .error (.unexpected "a date")

/-! ## Zones -/

/-- The time zone of a host, as far as the courier asks its clocks. -/
structure Zone where
  /-- The date that the clocks show at a moment. -/
  date : Moment → Date
  /-- The first moment at which the clocks show a date and a time, if they ever show them. -/
  first? : Timestamp → Option Moment

namespace Zone

/-- The zone of clocks that show Coordinated Universal Time. -/
def utc : Zone where
  date m := m.utc.date
  first? t := some ⟨t⟩

instance : Inhabited Zone := ⟨utc⟩

instance : Repr Zone := ⟨fun _ _ => "zone"⟩

end Zone

end Courier.Calendar
