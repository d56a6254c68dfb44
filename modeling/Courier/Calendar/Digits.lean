import Courier.Json.Basic
import Courier.Text.Blank

/-!
# Digits of dates and times

How the numbers in a date or a time are written and read.  They are written with leading
zeros.  They are read more leniently: blank space may precede a number, and leading zeros
may be absent.

Main definitions:

- `padded` writes a number with at least a given count of digits.
- `number` reads digits, `field` skips blanks first, `literal` reads one fixed character.

Main statements:

- A padded number that fits its width has exactly that width (`length_padded`) and keeps its
  value (`digitsValue_padded`).
-/

namespace Courier.Calendar

open Text (isBlank)

/-! ## Writing -/

/-- The digits of a number, with leading zeros up to a width. -/
def padded (width n : Nat) : List Char :=
  List.replicate (width - (Nat.toDigits 10 n).length) '0' ++ Nat.toDigits 10 n

/-- Leading zeros do not change the value of a row of digits. -/
theorem digitsValue_padded (width n : Nat) : Json.digitsValue (padded width n) = n := by
  have zeros : ∀ k, Json.digitsValue (List.replicate k '0') = 0 := by
    intro k
    induction k with
    | zero => rfl
    | succ k ih =>
        rw [List.replicate_succ', Json.digitsValue_append, ih]
        rfl
  rw [padded, Json.digitsValue_append, zeros, Json.digitsValue_toDigits]
  simp

/-- A number that fits its width is written with exactly that many digits. -/
theorem length_padded {width n : Nat} (h : (Nat.toDigits 10 n).length ≤ width) :
    (padded width n).length = width := by
  simp [padded]
  omega

/-- The signed text of a year: four digits for the years from 0 to 9999, a sign and at
least four digits for all others. -/
def yearChars (year : Int) : List Char :=
  if 0 ≤ year ∧ year ≤ 9999 then padded 4 year.toNat
  else (if year < 0 then '-' else '+') :: padded 4 year.natAbs

/-! ## Reading -/

/-- The text without the blanks it begins with. -/
def skipBlanks (cs : List Char) : List Char :=
  cs.dropWhile isBlank

/-- Read at least one digit and at most `width` of them. -/
def number (width : Nat) (cs : List Char) : Option (Nat × List Char) :=
  let digits := (cs.take width).takeWhile Char.isDigit
  if digits.isEmpty then none else some (Json.digitsValue digits, cs.drop digits.length)

/-- Read all the digits that follow, at least one. -/
def wholeNumber (cs : List Char) : Option (Nat × List Char) :=
  number cs.length cs

/-- Read a number of at most `width` digits, blanks before it included. -/
def field (width : Nat) (cs : List Char) : Option (Nat × List Char) :=
  number width (skipBlanks cs)

/-- Read one fixed character. -/
def literal (c : Char) : List Char → Option (List Char)
  | d :: rest => if d = c then some rest else none
  | [] => none

/-- Read a year: any number of digits after a sign, at most four without one. -/
def readYear (cs : List Char) : Option (Int × List Char) :=
  match skipBlanks cs with
  | '-' :: rest => (wholeNumber rest).map fun (n, rest) => (-(n : Int), rest)
  | '+' :: rest => (wholeNumber rest).map fun (n, rest) => ((n : Int), rest)
  | cs => (number 4 cs).map fun (n, rest) => ((n : Int), rest)

end Courier.Calendar
