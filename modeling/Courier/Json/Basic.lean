/-!
# JSON values

The values of the JSON data format.  Objects keep the order of their members and also
members of the same name, because a reader of a record has to notice both.  A number keeps
the digits it was written with, so that no value loses precision before its reader has
decided what kind of number it wants.

Main definitions:

- `Json.Number` is a number as written; `Json.Number.ofInt` writes an integer and
  `Json.Number.toInt?` reads one back.
- `Json` is a value.  `Json.broken` stands for a string with an unpaired surrogate escape:
  such text is well formed, but it is no string that anybody can use.

Main statements:

- An integer is read back from the number it is written as (`toInt?_ofInt`).
-/

namespace Courier

/-- A number as written: a sign, the digits before the point, the digits after it when there
is a point, and the sign and digits of the exponent when there is one. -/
structure Json.Number where
  /-- Whether the number begins with a minus sign. -/
  negative : Bool
  whole : List Char
  fraction : Option (List Char) := none
  /-- Whether the exponent is negative, and its digits. -/
  exponent : Option (Bool × List Char) := none
deriving DecidableEq, Repr, Inhabited

/-- A JSON value. -/
inductive Json where
  | null
  | bool (b : Bool)
  | number (n : Json.Number)
  | string (s : String)
  /-- A string with an unpaired surrogate escape, or an object with such a name in it. -/
  | broken
  | list (items : List Json)
  /-- An object: names with their values, in the order of the text. -/
  | object (members : List (String × Json))
deriving BEq, Repr, Inhabited

namespace Json

/-! ## Numbers -/

/-- The value of one digit. -/
def digitValue (c : Char) : Nat :=
  c.toNat - '0'.toNat

/-- The value of a row of decimal digits. -/
def digitsValue (cs : List Char) : Nat :=
  cs.foldl (fun n c => 10 * n + digitValue c) 0

namespace Number

/-- The number that stands for an integer. -/
def ofInt (i : Int) : Number :=
  { negative := decide (i < 0), whole := Nat.toDigits 10 i.natAbs }

/-- The integer that a number stands for.  A number with a point or an exponent is no
integer, and neither is a negative zero. -/
def toInt? (n : Number) : Option Int :=
  if n.fraction.isSome || n.exponent.isSome then none
  else
    let value := digitsValue n.whole
    if n.negative then (if value = 0 then none else some (-(value : Int))) else some value

/-- The text of a number. -/
def text (n : Number) : String :=
  let sign := if n.negative then "-" else ""
  let fraction := match n.fraction with
    | none => ""
    | some ds => "." ++ String.ofList ds
  let exponent := match n.exponent with
    | none => ""
    | some (negative, ds) => "e" ++ (if negative then "-" else "") ++ String.ofList ds
  sign ++ String.ofList n.whole ++ fraction ++ exponent

end Number

/-- Reading digits after a number already read shifts that number by as many places. -/
theorem foldl_digits (cs : List Char) (n : Nat) :
    cs.foldl (fun n c => 10 * n + digitValue c) n =
      Nat.pow 10 cs.length * n + digitsValue cs := by
  unfold digitsValue
  induction cs generalizing n with
  | nil => simp
  | cons c cs ih =>
      have hp : Nat.pow 10 (cs.length + 1) = Nat.pow 10 cs.length * 10 := rfl
      rw [List.foldl_cons, List.foldl_cons, ih, ih (10 * 0 + digitValue c), List.length_cons, hp]
      generalize Nat.pow 10 cs.length = p
      grind

/-- The digits of a concatenation. -/
theorem digitsValue_append (cs ds : List Char) :
    digitsValue (cs ++ ds) = Nat.pow 10 ds.length * digitsValue cs + digitsValue ds := by
  rw [digitsValue, List.foldl_append, foldl_digits]
  rfl

/-- A digit character has the value it was made from. -/
theorem digitValue_digitChar {d : Nat} (h : d < 10) : digitValue (Nat.digitChar d) = d := by
  match d, h with
  | 0, _ | 1, _ | 2, _ | 3, _ | 4, _ | 5, _ | 6, _ | 7, _ | 8, _ | 9, _ => decide

/-- The decimal digits of a natural number have its value. -/
theorem digitsValue_toDigits (n : Nat) : digitsValue (Nat.toDigits 10 n) = n := by
  induction n using Nat.strongRecOn with
  | _ n ih =>
      by_cases h : n < 10
      · rw [Nat.toDigits_of_lt_base h]
        simp [digitsValue, digitValue_digitChar h]
      · have hpos : 0 < n / 10 := Nat.div_pos (by omega) (by omega)
        rw [Nat.toDigits_of_base_le (by omega) (by omega), digitsValue_append,
          ih (n / 10) (by omega)]
        have hd : n % 10 < 10 := Nat.mod_lt _ (by omega)
        simp [digitsValue, digitValue_digitChar hd]
        omega

/-- An integer is read back from the number it is written as. -/
theorem Number.toInt?_ofInt (i : Int) : (Number.ofInt i).toInt? = some i := by
  by_cases h : i < 0
  · have hne : i.natAbs ≠ 0 := by omega
    have hi : -(i.natAbs : Int) = i := by omega
    simp only [Number.ofInt, Number.toInt?, digitsValue_toDigits, h, hne, hi, decide_true,
      Option.isSome_none, Bool.or_self, Bool.false_eq_true, if_false, if_true]
  · have hi : (i.natAbs : Int) = i := by omega
    simp only [Number.ofInt, Number.toInt?, digitsValue_toDigits, h, hi, decide_false,
      Option.isSome_none, Bool.or_self, Bool.false_eq_true, if_false]

/-! ## Words -/

/-- How many values a word of so many bits has. -/
def wordValues (bits : Nat) : Nat :=
  Nat.pow 2 bits

/-! ## Convenient constructors -/

/-- The value that stands for an integer. -/
def ofInt (i : Int) : Json :=
  .number (.ofInt i)

/-- The value that stands for a natural number. -/
def ofNat (n : Nat) : Json :=
  ofInt n

/-- The value of an optional member, `null` when it is absent. -/
def ofOption {α : Type} (f : α → Json) : Option α → Json
  | none => .null
  | some a => f a

/-- A member that is left out when its value is absent. -/
def optionalMember {α : Type} (name : String) (f : α → Json) : Option α → List (String × Json)
  | none => []
  | some a => [(name, f a)]

end Json

end Courier
