import Courier.Calendar.Span
import Courier.Json.Decode
import Courier.Json.Float

/-!
# Retries and waits

How often the courier tries to reach a partner and how long it waits.

Main definitions:

- `Backoff` is the delay between attempts, which grows from attempt to attempt up to a
  limit and is varied by up to a quarter.
- `Policy` holds all bounds.
- `Settings` are the bounds as they are written in a configuration.
-/

namespace Courier

open Calendar

/-! ## Delays -/

/-- The delay between attempts to reach a partner. -/
structure Backoff where
  /-- The delay after the first attempt; without it there is no delay at all. -/
  initial : Span
  /-- The longest delay, before it is varied. -/
  limit : Span
  /-- What the delay is multiplied by after each attempt. -/
  factor : Float
deriving Repr, Inhabited

namespace Backoff

/-- No delay. -/
def none : Backoff := ⟨.zero, .zero, 1.0⟩

/-- The length of a span in seconds. -/
def seconds (s : Span) : Float :=
  Float.ofNat (s.nanos / 1000000000) + Float.ofNat (s.nanos % 1000000000) / 1000000000.0

/-- A power with a natural exponent, by repeated squaring; `bound` limits the number of
binary digits of the exponent. -/
def power : Nat → Float → Nat → Float → Float
  | 0, _, _, r => r
  | bound + 1, a, e, r =>
      let r := if e % 2 = 1 then r * a else r
      if e / 2 = 0 then r else power bound (a * a) (e / 2) r

/-- The span of a number of seconds, to the nearest nanosecond. -/
def ofSeconds (f : Float) : Span :=
  match Json.Number.binaryOf f with
  | (true, _) => .zero
  | (false, Option.none) => .zero
  | (false, some b) =>
      let scaled := b.mantissa * 1000000000
      if 0 ≤ b.exponent then ⟨scaled * Nat.pow 2 b.exponent.toNat⟩
      else
        let unit := Nat.pow 2 (-b.exponent).toNat
        let whole := scaled / unit
        let rest := 2 * (scaled % unit)
        if unit < rest ∨ (rest = unit ∧ whole % 2 = 1) then ⟨whole + 1⟩ else ⟨whole⟩

/-- The largest exponent of the factor. -/
def maxExponent : Nat := 63

/-- The delay after an attempt, which are counted from one.  `fraction` is the fraction of
the current second in nanoseconds; it varies the delay by up to a quarter. -/
def delay (b : Backoff) (attempt : Nat) (fraction : Nat) : Span :=
  if b.initial.nanos = 0 then .zero
  else
    let grown := seconds b.initial * power 7 b.factor (min (attempt - 1) maxExponent) 1.0
    let cap := seconds b.limit
    let capped := if grown < cap then grown else cap
    let offset := Float.ofNat fraction / 1000000000.0 * 2.0 - 1.0
    let varied := capped + capped * 0.25 * offset
    if 0.0 < varied then ofSeconds varied else .zero

/-- Without an initial delay there is none. -/
theorem delay_of_initial_eq_zero {b : Backoff} (h : b.initial.nanos = 0)
    (attempt fraction : Nat) : b.delay attempt fraction = .zero := by
  simp [delay, h]

end Backoff

/-! ## Bounds -/

/-- The bounds that hold for every dealing with partners. -/
structure Policy where
  /-- How often a partner is tried. -/
  retryLimit : Nat
  /-- How many times a partner may say that it is too busy.  The count has 32 bits, so the largest
  limit of this width is none: the count runs over before it is past it. -/
  overloadRetryLimit : Nat
  /-- How long to wait for a busy partner. -/
  overloadBackoff : Span
  /-- How long to wait for a partner that is not there yet. -/
  reconnect : Backoff
  /-- How long a transfer may take, if that is bounded. -/
  completionTimeout : Option Span
  /-- How long an answer may take. -/
  requestTimeout : Span
deriving Repr, Inhabited

namespace Policy

/-- The usual bounds. -/
def standard : Policy where
  retryLimit := 3
  overloadRetryLimit := 3
  overloadBackoff := .ofSeconds 10
  reconnect := ⟨.ofMillis 250, .ofSeconds 15, 2.0⟩
  completionTimeout := none
  requestTimeout := .ofSeconds 30

/-- The usual bounds without any waiting between attempts. -/
def immediate (retryLimit : Nat) : Policy :=
  { standard with retryLimit, overloadBackoff := .zero, reconnect := .none }

/-- How often a partner is tried: at least once. -/
def attempts (p : Policy) : Nat :=
  max p.retryLimit 1

theorem attempts_pos (p : Policy) : 0 < p.attempts := by
  simp only [attempts]
  omega

/-- The bounds as an object, with times in milliseconds. -/
def toJson (p : Policy) : Json :=
  .object [("retryLimit", .ofNat p.retryLimit),
    ("overloadRetryLimit", .ofNat p.overloadRetryLimit),
    ("overloadBackoffMs", .ofNat p.overloadBackoff.millis),
    ("initialMs", .ofNat p.reconnect.initial.millis),
    ("maxMs", .ofNat p.reconnect.limit.millis),
    ("factor", .number (.ofFloat p.reconnect.factor)),
    ("completionTimeoutMs", .ofOption (fun s => .ofNat s.millis) p.completionTimeout),
    ("requestTimeoutMs", .ofNat p.requestTimeout.millis)]

end Policy

/-! ## Settings -/

/-- The bounds as they are written in a configuration; all times are in milliseconds. -/
structure Settings where
  /-- How often a partner is tried. -/
  retryLimit : Nat
  /-- How many times a partner may say that it is too busy. -/
  overloadRetryLimit : Nat
  /-- How long to wait for a busy partner. -/
  overloadBackoffMs : Nat
  reconnectInitialMs : Nat
  reconnectMaxMs : Nat
  /-- What the delay is multiplied by. -/
  reconnectFactor : Float
  /-- How long a transfer may take. -/
  completionTimeoutMs : Option Nat
  /-- How long an answer may take. -/
  requestTimeoutMs : Nat
deriving Repr, Inhabited

namespace Settings

/-- The settings of some bounds. -/
def ofPolicy (p : Policy) : Settings where
  retryLimit := p.retryLimit
  overloadRetryLimit := p.overloadRetryLimit
  overloadBackoffMs := p.overloadBackoff.millis
  reconnectInitialMs := p.reconnect.initial.millis
  reconnectMaxMs := p.reconnect.limit.millis
  reconnectFactor := p.reconnect.factor
  completionTimeoutMs := p.completionTimeout.map Span.millis
  requestTimeoutMs := p.requestTimeout.millis

/-- The usual settings. -/
def standard : Settings :=
  ofPolicy .standard

/-- The bounds that settings stand for. -/
def toPolicy (s : Settings) : Policy where
  retryLimit := s.retryLimit
  overloadRetryLimit := s.overloadRetryLimit
  overloadBackoff := .ofMillis s.overloadBackoffMs
  reconnect := ⟨.ofMillis s.reconnectInitialMs, .ofMillis s.reconnectMaxMs, s.reconnectFactor⟩
  completionTimeout := s.completionTimeoutMs.map Span.ofMillis
  requestTimeout := .ofMillis s.requestTimeoutMs

/-- Settings are found again in the bounds that they stand for. -/
theorem ofPolicy_toPolicy (s : Settings) : ofPolicy s.toPolicy = s := by
  cases s with
  | mk _ _ _ _ _ _ timeout _ => cases timeout <;> simp [ofPolicy, toPolicy]

/-- The fields of the settings, in order. -/
def fieldNames : List String := [
  "retryLimit", "overloadRetryLimit", "overloadBackoffMs", "reconnectInitialMs",
  "reconnectMaxMs", "reconnectFactor", "completionTimeoutMs", "requestTimeoutMs"]

/-- Settings as an object. -/
def toJson (s : Settings) : Json :=
  .object [("retryLimit", .ofNat s.retryLimit),
    ("overloadRetryLimit", .ofNat s.overloadRetryLimit),
    ("overloadBackoffMs", .ofNat s.overloadBackoffMs),
    ("reconnectInitialMs", .ofNat s.reconnectInitialMs),
    ("reconnectMaxMs", .ofNat s.reconnectMaxMs),
    ("reconnectFactor", .number (.ofFloat s.reconnectFactor)),
    ("completionTimeoutMs", .ofOption .ofNat s.completionTimeoutMs),
    ("requestTimeoutMs", .ofNat s.requestTimeoutMs)]

/-- Read settings.  Every field has its usual value as default. -/
def ofJson (j : Json) : Json.Decoded Settings := do
  let f ← Json.fields fieldNames j
  let usual := standard
  let retryLimit ← f.withDefault "retryLimit" usual.retryLimit Json.toNat32
  let overloadRetryLimit ← f.withDefault "overloadRetryLimit" usual.overloadRetryLimit Json.toNat32
  let overloadBackoffMs ← f.withDefault "overloadBackoffMs" usual.overloadBackoffMs Json.toNat64
  let reconnectInitialMs ← f.withDefault "reconnectInitialMs" usual.reconnectInitialMs Json.toNat64
  let reconnectMaxMs ← f.withDefault "reconnectMaxMs" usual.reconnectMaxMs Json.toNat64
  let reconnectFactor ← f.withDefault "reconnectFactor" usual.reconnectFactor Json.toFloat
  let completionTimeoutMs ← f.withDefault "completionTimeoutMs" usual.completionTimeoutMs
    (Json.toOption Json.toNat64)
  let requestTimeoutMs ← f.withDefault "requestTimeoutMs" usual.requestTimeoutMs Json.toNat64
  return {
    retryLimit, overloadRetryLimit, overloadBackoffMs, reconnectInitialMs, reconnectMaxMs
    reconnectFactor, completionTimeoutMs, requestTimeoutMs }

end Settings

end Courier
