import Courier.Json.Basic
import Courier.Decimal.Shortest

/-!
# Floating-point numbers in JSON

How a number that was written with a point or an exponent becomes a double-precision
number, and how such a number is written.

Main definitions:

- `Number.toFloat?` reads a number.  The digits are gathered in a 64-bit word; what does not
  fit is dropped and only counted, and the word is then scaled by one power of ten.  A number
  that is too large is refused.
- `Number.ofFloat` writes the shortest decimal that reads back, positionally for the usual
  magnitudes and with an exponent otherwise.
-/

namespace Courier.Json.Number

/-! ## Reading -/

/-- The largest word that digits are gathered in. -/
def maxWord : Nat := 18446744073709551615

/-- Gather digits before the point: the word, and how many digits did not fit.  Once a digit
did not fit, all later ones only count. -/
def gatherWhole : Nat → List Char → Nat × Nat
  | word, [] => (word, 0)
  | word, c :: cs =>
      if 10 * word + digitValue c ≤ maxWord then gatherWhole (10 * word + digitValue c) cs
      else (word, cs.length + 1)

/-- Gather digits after the point: the word, and how many digits went into it.  Digits
after the first that does not fit are dropped. -/
def gatherFraction : Nat → Nat → List Char → Nat × Nat
  | word, taken, [] => (word, taken)
  | word, taken, c :: cs =>
      if 10 * word + digitValue c ≤ maxWord then
        gatherFraction (10 * word + digitValue c) (taken + 1) cs
      else (word, taken)

/-- A power of ten as a floating-point number. -/
def powerOfTen (n : Nat) : Float :=
  Float.ofScientific 1 false n

/-- Scale by a negative power of ten, in steps that stay in range.  `bound` limits the
number of steps; each one divides by `10 ^ 308`, so that three always reach zero. -/
def scaleDown : Nat → Float → Nat → Float
  | 0, f, _ => f
  | bound + 1, f, e =>
      if e ≤ 308 then f / powerOfTen e
      else if f == 0.0 then f
      else scaleDown bound (f / powerOfTen 308) (e - 308)

/-- A word times a power of ten, unless that is out of range. -/
def scale? (word : Nat) (exponent : Int) : Option Float :=
  let f := Float.ofNat word
  if 0 ≤ exponent then
    if exponent ≤ 308 then
      let g := f * powerOfTen exponent.toNat
      if g.isInf then none else some g
    else if word = 0 then some f else none
  else some (scaleDown 8 f (-exponent).toNat)

/-- Exponents with more digits than this word can hold are cut off. -/
def maxExponent : Nat := 2147483647

/-- The floating-point number that a number stands for, unless it is out of range. -/
def toFloat? (n : Number) : Option Float :=
  let (word, dropped) := gatherWhole 0 n.whole
  let (word, taken) := match n.fraction with
    | none => (word, 0)
    | some ds => gatherFraction word 0 ds
  let start : Int := (dropped : Int) - (taken : Int)
  let magnitude? : Option Float := match n.exponent with
    | none => scale? word start
    | some (negative, ds) =>
        let e := digitsValue ds
        if maxExponent < e then
          if word ≠ 0 && !negative then none else some 0.0
        else scale? word (if negative then start - e else start + e)
  magnitude?.map fun f => if n.negative then -f else f

/-! ## Writing -/

/-- The number of fractions that a floating-point number can have: two to the 52nd. -/
def fractionUnits : Nat := Nat.pow 2 52

/-- The parts of a floating-point number: its sign and, unless it is zero, its magnitude. -/
def binaryOf (f : Float) : Bool × Option Decimal.Binary :=
  let bits := f.toBits.toNat
  let negative := decide (Nat.pow 2 63 ≤ bits)
  let field : Nat := bits / fractionUnits % 2048
  let fraction : Nat := bits % fractionUnits
  if field = 0 then
    if fraction = 0 then (negative, none) else (negative, some ⟨fraction, -1074, false⟩)
  else (negative, some ⟨fraction + fractionUnits, (field : Int) - 1075, fraction == 0 && 1 < field⟩)

/-- Positional notation is used while the point stands at most this far right. -/
def maxPoint : Int := 16

/-- Positional notation is used while fewer than this many zeros follow the point. -/
def minPoint : Int := -5

/-- Set out the digits of a decimal: positionally, with at least one digit after the point,
or as one digit before the point and an exponent. -/
def ofDecimal (negative : Bool) (d : Decimal) : Number :=
  let digits := Nat.toDigits 10 d.digits
  let point : Int := digits.length + d.exponent
  if 0 ≤ d.exponent && point ≤ maxPoint then
    { negative, whole := digits ++ List.replicate d.exponent.toNat '0', fraction := some ['0'] }
  else if 0 < point && point ≤ maxPoint then
    { negative, whole := digits.take point.toNat, fraction := some (digits.drop point.toNat) }
  else if minPoint < point && point ≤ 0 then
    { negative, whole := ['0'],
      fraction := some (List.replicate (-point).toNat '0' ++ digits) }
  else
    let power := point - 1
    { negative, whole := digits.take 1,
      fraction := if digits.length = 1 then none else some (digits.drop 1),
      exponent := some (decide (power < 0), Nat.toDigits 10 power.natAbs) }

/-- The number that a floating-point number is written as. -/
def ofFloat (f : Float) : Number :=
  match binaryOf f with
  | (negative, none) => { negative, whole := ['0'], fraction := some ['0'] }
  | (negative, some b) => ofDecimal negative b.shortest.normalize

end Courier.Json.Number
