import Courier.Calendar.Digits

/-!
# Spans of time

Lengths of time, counted in nanoseconds.

Main definitions:

- `Span.ofMillis` and `Span.ofNanos` make a span; `Span.millis` is its length in whole
  milliseconds and `Span.ticks` the milliseconds that a wait of that length takes.
- `Span.text` is the text of a span in the largest unit that fits, such as `1.5s`.
-/

namespace Courier.Calendar

/-- A length of time. -/
structure Span where
  /-- The length in nanoseconds. -/
  nanos : Nat
deriving DecidableEq, Repr, Inhabited

namespace Span

/-- No time at all. -/
def zero : Span := ⟨0⟩

/-- A span of nanoseconds. -/
def ofNanos (n : Nat) : Span := ⟨n⟩

/-- A span of milliseconds. -/
def ofMillis (n : Nat) : Span := ⟨n * 1000000⟩

/-- A span of seconds. -/
def ofSeconds (n : Nat) : Span := ⟨n * 1000000000⟩

/-- The length in whole milliseconds. -/
def millis (s : Span) : Nat := s.nanos / 1000000

/-- The milliseconds that a wait takes: part of a millisecond counts as a whole one. -/
def ticks (s : Span) : Nat := (s.nanos + 999999) / 1000000

/-- A span of milliseconds has that many of them. -/
@[simp]
theorem millis_ofMillis (n : Nat) : (ofMillis n).millis = n := by
  simp [millis, ofMillis]

/-- A wait of some milliseconds takes exactly these. -/
@[simp]
theorem ticks_ofMillis (n : Nat) : (ofMillis n).ticks = n := by
  simp only [ticks, ofMillis]
  omega

/-! ## Text -/

/-- The digits after the point for a remainder below `10 ^ places`, without the zeros that
end them. -/
def fractionText (places rest : Nat) : String :=
  let digits := ((padded places rest).reverse.dropWhile (· == '0')).reverse
  if digits.isEmpty then "" else "." ++ String.ofList digits

/-- A number of units, each of `10 ^ places` nanoseconds. -/
def inUnit (places : Nat) (unit : String) (nanos : Nat) : String :=
  toString (nanos / Nat.pow 10 places) ++ fractionText places (nanos % Nat.pow 10 places) ++ unit

/-- The text of a span in seconds, milliseconds, microseconds or nanoseconds: the largest of
these that it reaches. -/
def text (s : Span) : String :=
  if 1000000000 ≤ s.nanos then inUnit 9 "s" s.nanos
  else if 1000000 ≤ s.nanos then inUnit 6 "ms" s.nanos
  else if 1000 ≤ s.nanos then inUnit 3 "µs" s.nanos
  else inUnit 0 "ns" s.nanos

end Span

end Courier.Calendar
