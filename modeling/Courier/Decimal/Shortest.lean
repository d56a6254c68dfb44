/-!
# The shortest decimal that reads back

A binary floating-point number stands for every real number that rounds to it.  Its
shortest decimal is the one with the fewest digits among the decimals in that interval, and
of several such the one nearest to the number itself.

Main definitions:

- `Binary` is a positive number `mantissa * 2 ^ exponent` with the interval that rounds to it.
- `Decimal` is a number `digits * 10 ^ exponent`.
- `Binary.shortest` searches the decimal grids from coarse to fine.

All arithmetic is on exact natural numbers.
-/

namespace Courier

/-- A decimal number `digits * 10 ^ exponent`. -/
structure Decimal where
  /-- The digits, read as one natural number. -/
  digits : Nat
  /-- The power of ten that the last digit counts. -/
  exponent : Int
deriving DecidableEq, Repr

namespace Decimal

/-- A positive binary floating-point number. -/
structure Binary where
  /-- The significant bits, read as one natural number. -/
  mantissa : Nat
  /-- The power of two that the last bit counts. -/
  exponent : Int
  /-- Whether the next smaller number is only half a unit away. -/
  narrowBelow : Bool
deriving DecidableEq, Repr

/-- A positive fraction. -/
structure Fraction where
  num : Nat
  den : Nat

/-- The fraction `m * 2 ^ e`. -/
def scaled (m : Nat) (e : Int) : Fraction :=
  if 0 ≤ e then ⟨m * Nat.pow 2 e.toNat, 1⟩ else ⟨m, Nat.pow 2 (-e).toNat⟩

namespace Binary

/-- The number itself. -/
def value (b : Binary) : Fraction :=
  scaled (4 * b.mantissa) (b.exponent - 2)

/-- The lower end of the interval of reals that round to the number. -/
def low (b : Binary) : Fraction :=
  scaled (4 * b.mantissa - (if b.narrowBelow then 1 else 2)) (b.exponent - 2)

/-- The upper end of that interval. -/
def high (b : Binary) : Fraction :=
  scaled (4 * b.mantissa + 2) (b.exponent - 2)

end Binary

/-- Whether the decimal `d * 10 ^ p` is below a fraction, or equal to it when `closed`. -/
def atMost (closed : Bool) (d : Nat) (p : Int) (f : Fraction) : Bool :=
  let left := if 0 ≤ p then d * Nat.pow 10 p.toNat * f.den else d * f.den
  let right := if 0 ≤ p then f.num else f.num * Nat.pow 10 (-p).toNat
  if closed then left ≤ right else left < right

/-- Whether the decimal `d * 10 ^ p` is above a fraction, or equal to it when `closed`. -/
def atLeast (closed : Bool) (d : Nat) (p : Int) (f : Fraction) : Bool :=
  !atMost (!closed) d p f

/-- Whether a decimal rounds to the number: the ends of the interval do when the mantissa
is even. -/
def Binary.contains (b : Binary) (d : Nat) (p : Int) : Bool :=
  let closed := b.mantissa % 2 == 0
  atLeast closed d p b.low && atMost closed d p b.high

/-- The number of digits before the point, zero or negative for a number below one tenth. -/
def Fraction.magnitude (f : Fraction) : Int :=
  if f.den ≤ f.num then ((Nat.toDigits 10 (f.num / f.den)).length : Int)
  else
    match (List.range 400).find? (fun j => f.den ≤ f.num * Nat.pow 10 j) with
    | some j => 1 - (j : Int)
    | none => 0

/-- The numerator of a fraction counted in units of `10 ^ p`, and its denominator. -/
def Fraction.inUnits (f : Fraction) (p : Int) : Fraction :=
  if 0 ≤ p then ⟨f.num, f.den * Nat.pow 10 p.toNat⟩ else ⟨f.num * Nat.pow 10 (-p).toNat, f.den⟩

/-- The better of the two decimals with the last digit at `10 ^ p` that surround the
number, if one of them rounds to it.  Of two, the nearer one wins, and at a tie the even
one. -/
def Binary.onGrid (b : Binary) (p : Int) : Option Decimal :=
  let units := b.value.inUnits p
  let d := units.num / units.den
  let rest := units.num % units.den
  match b.contains d p, b.contains (d + 1) p with
  | false, false => none
  | true, false => some ⟨d, p⟩
  | false, true => some ⟨d + 1, p⟩
  | true, true =>
      if 2 * rest < units.den || (2 * rest == units.den && d % 2 == 0) then some ⟨d, p⟩
      else some ⟨d + 1, p⟩

/-- The shortest decimal that rounds to the number.  Seventeen digits always suffice. -/
def Binary.shortest (b : Binary) : Decimal :=
  let m := b.value.magnitude
  match (List.range 17).findSome? (fun n : Nat => b.onGrid (m - 1 - (n : Int))) with
  | some d => d
  | none => ⟨0, 0⟩

/-- A decimal without the zeros it ends in. -/
def normalize (d : Decimal) : Decimal :=
  let zeros := ((Nat.toDigits 10 d.digits).reverse.takeWhile (· == '0')).length
  if d.digits = 0 then ⟨0, 0⟩ else ⟨d.digits / Nat.pow 10 zeros, d.exponent + zeros⟩

end Decimal

end Courier
