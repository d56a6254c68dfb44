import Courier.Json.Reader
import Courier.Json.Writer
import Mathlib.Tactic.SplitIfs

/-!
# The characters of JSON text

The writer appends to a text.  What it appends depends on the value, the layout and the depth
alone, and is described here by the characters themselves, which a reader can be followed
over.  The two layouts differ only in the space between tokens.

Main definitions:

- `Json.IsWhole` says that a value has a text of its own: its numbers are well formed and no
  string in it is broken.
- `Json.valueChars` are the characters of a value in a layout.

Main statements:

- The writer appends exactly these characters (`toList_write`).
-/

namespace Courier.Json

/-! ## Values that have a text -/

/-- Whether characters are decimal digits, at least one. -/
def AreDigits (ds : List Char) : Prop :=
  ds ≠ [] ∧ ∀ c ∈ ds, c.isDigit = true

/-- Whether a text does not begin with a digit. -/
def NoDigit (rest : List Char) : Prop :=
  ∀ c ∈ rest.head?, c.isDigit = false

/-- Whether a number can be written: it has the digits that its parts need, and a leading zero
stands alone. -/
structure Number.WellFormed (n : Number) : Prop where
  whole : AreDigits n.whole
  leading : n.whole.head? = some '0' → n.whole = ['0']
  fraction : ∀ ds ∈ n.fraction, AreDigits ds
  exponent : ∀ e ∈ n.exponent, AreDigits e.2

mutual

/-- Whether a value has a text of its own. -/
def IsWhole : Json → Prop
  | .null | .bool _ | .string _ => True
  | .number n => n.WellFormed
  | .broken => False
  | .list items => AreWhole items
  | .object members => AreWholeMembers members

/-- Whether all of several values have a text. -/
def AreWhole : List Json → Prop
  | [] => True
  | item :: items => IsWhole item ∧ AreWhole items

/-- Whether the values of all of several members have a text. -/
def AreWholeMembers : List (String × Json) → Prop
  | [] => True
  | (_, value) :: members => IsWhole value ∧ AreWholeMembers members

end

theorem areWhole_iff {items : List Json} : AreWhole items ↔ ∀ item ∈ items, IsWhole item := by
  induction items with
  | nil => simp [AreWhole]
  | cons item items ih => simp [AreWhole, ih]

theorem toNat_of_isDigit {c : Char} (h : c.isDigit = true) : 48 ≤ c.toNat ∧ c.toNat ≤ 57 := by
  simpa [Char.isDigit, UInt32.le_iff_toNat_le] using h

theorem areDigits_toDigits (n : Nat) : AreDigits (Nat.toDigits 10 n) :=
  ⟨Nat.toDigits_ne_nil, fun _ hc => Nat.isDigit_of_mem_toDigits (by omega) (by omega) hc⟩

/-- The decimal digits of a natural number begin with a zero only for zero itself. -/
theorem toDigits_of_head?_eq_zero {n : Nat} (h : (Nat.toDigits 10 n).head? = some '0') :
    Nat.toDigits 10 n = ['0'] := by
  induction n using Nat.strongRecOn with
  | _ n ih =>
      by_cases hn : n < 10
      · rw [Nat.toDigits_of_lt_base hn] at h ⊢
        simpa using h
      · rw [Nat.toDigits_of_base_le (by omega) (by omega)] at h
        have hne : Nat.toDigits 10 (n / 10) ≠ [] := Nat.toDigits_ne_nil
        have hhead : (Nat.toDigits 10 (n / 10)).head? = some '0' := by
          rw [List.head?_append, List.head?_eq_some_head hne, Option.some_or] at h
          rw [List.head?_eq_some_head hne, h]
        have hzero := congrArg digitsValue (ih (n / 10) (by omega) hhead)
        rw [digitsValue_toDigits] at hzero
        have hpos : 0 < n / 10 := Nat.div_pos (by omega) (by omega)
        simp [digitsValue, digitValue] at hzero
        omega

theorem isWhole_ofInt (i : Int) : IsWhole (ofInt i) where
  whole := areDigits_toDigits i.natAbs
  leading := toDigits_of_head?_eq_zero
  fraction := by simp [Number.ofInt]
  exponent := by simp [Number.ofInt]

theorem isWhole_ofNat (n : Nat) : IsWhole (ofNat n) :=
  isWhole_ofInt n

/-! ## The characters of a text -/

/-- The characters that stand for one character of a string. -/
def escapeChars (c : Char) : List Char :=
  if c = '"' then ['\\', '"']
  else if c = '\\' then ['\\', '\\']
  else if c = '\n' then ['\\', 'n']
  else if c = '\r' then ['\\', 'r']
  else if c = '\t' then ['\\', 't']
  else if c = '\x08' then ['\\', 'b']
  else if c = '\x0c' then ['\\', 'f']
  else if c.toNat < 0x20 then
    ['\\', 'u', '0', '0', hexDigit (c.toNat / 16), hexDigit c.toNat]
  else [c]

/-- The characters of a string after its opening quote. -/
def stringChars (s : String) : List Char :=
  s.toList.flatMap escapeChars ++ ['"']

/-- The characters of the fraction of a number. -/
def fractionChars : Option (List Char) → List Char
  | none => []
  | some ds => '.' :: ds

/-- The characters of the exponent of a number. -/
def exponentChars : Option (Bool × List Char) → List Char
  | none => []
  | some (negative, ds) => 'e' :: ((if negative then ['-'] else []) ++ ds)

/-- The characters of a number after its sign. -/
def magnitudeChars (n : Number) : List Char :=
  n.whole ++ (fractionChars n.fraction ++ exponentChars n.exponent)

/-- The characters of the break before a part that stands `depth` levels deep. -/
def Layout.breakChars (layout : Layout) (depth : Nat) : List Char :=
  match layout with
  | .compact => []
  | .indented => '\n' :: List.replicate (2 * depth) ' '

/-- The characters that separate a name from its value. -/
def Layout.colonChars (layout : Layout) : List Char :=
  match layout with
  | .compact => [':']
  | .indented => [':', ' ']

/-- The separator before a part, unless it is the first one. -/
def commaChars (first : Bool) : List Char :=
  if first then [] else [',']

mutual

/-- The characters of a value that stands `depth` levels deep. -/
def valueChars (layout : Layout) (depth : Nat) : Json → List Char
  | .null | .broken => ['n', 'u', 'l', 'l']
  | .bool b => if b then ['t', 'r', 'u', 'e'] else ['f', 'a', 'l', 's', 'e']
  | .number n => (if n.negative then ['-'] else []) ++ magnitudeChars n
  | .string s => '"' :: stringChars s
  | .list [] => ['[', ']']
  | .list (item :: items) =>
      '[' :: (itemsChars layout (depth + 1) true (item :: items) ++
        (layout.breakChars depth ++ [']']))
  | .object [] => ['{', '}']
  | .object (m :: members) =>
      '{' :: (membersChars layout (depth + 1) true (m :: members) ++
        (layout.breakChars depth ++ ['}']))

/-- The characters of the items of a list. -/
def itemsChars (layout : Layout) (depth : Nat) (first : Bool) : List Json → List Char
  | [] => []
  | item :: items =>
      commaChars first ++ (layout.breakChars depth ++
        (valueChars layout depth item ++ itemsChars layout depth false items))

/-- The characters of the members of an object. -/
def membersChars (layout : Layout) (depth : Nat) (first : Bool) :
    List (String × Json) → List Char
  | [] => []
  | (name, value) :: members =>
      commaChars first ++ (layout.breakChars depth ++ ('"' :: (stringChars name ++
        (layout.colonChars ++
          (valueChars layout depth value ++ membersChars layout depth false members)))))

end

/-! ## The writer appends these characters -/

theorem toList_writeChar (out : String) (c : Char) :
    (writeChar out c).toList = out.toList ++ escapeChars c := by
  unfold writeChar escapeChars
  split_ifs <;> simp

theorem toList_writeString (out s : String) :
    (writeString out s).toList = out.toList ++ '"' :: stringChars s := by
  have hfold : ∀ (cs : List Char) (out : String),
      (cs.foldl writeChar out).toList = out.toList ++ cs.flatMap escapeChars := by
    intro cs
    induction cs with
    | nil => simp
    | cons c cs ih =>
        intro out
        rw [List.foldl_cons, ih, toList_writeChar, List.flatMap_cons, List.append_assoc]
  simp [writeString, stringChars, hfold]

theorem toList_text (n : Number) :
    n.text.toList = (if n.negative then ['-'] else []) ++ magnitudeChars n := by
  unfold Number.text magnitudeChars fractionChars exponentChars
  rcases n with ⟨negative, whole, fraction, exponent⟩
  cases negative <;> cases fraction <;> rcases exponent with _ | ⟨_ | _, ds⟩ <;> simp

theorem Layout.toList_writeBreak (layout : Layout) (depth : Nat) (out : String) :
    (layout.writeBreak depth out).toList = out.toList ++ layout.breakChars depth := by
  cases layout <;> simp [writeBreak, breakChars]

theorem Layout.toList_writeColon (layout : Layout) (out : String) :
    (layout.writeColon out).toList = out.toList ++ layout.colonChars := by
  cases layout <;> simp [writeColon, colonChars]

theorem toList_writeComma (first : Bool) (out : String) :
    (writeComma first out).toList = out.toList ++ commaChars first := by
  cases first <;> simp [writeComma, commaChars]

mutual

/-- The writer appends the characters of a value. -/
theorem toList_write (layout : Layout) (depth : Nat) (out : String) :
    (j : Json) → (write layout depth out j).toList = out.toList ++ valueChars layout depth j
  | .null => by simp [write, valueChars]
  | .broken => by simp [write, valueChars]
  | .bool b => by cases b <;> simp [write, valueChars]
  | .number n => by simp [write, valueChars, toList_text]
  | .string s => by simp [write, valueChars, toList_writeString]
  | .list [] => by simp [write, valueChars]
  | .list (item :: items) => by
      have hitems := toList_writeItems layout (depth + 1) true (out.push '[') (item :: items)
      simp [write, valueChars, Layout.toList_writeBreak, hitems]
  | .object [] => by simp [write, valueChars]
  | .object (m :: members) => by
      have hmembers :=
        toList_writeMembers layout (depth + 1) true (out.push '{') (m :: members)
      simp [write, valueChars, Layout.toList_writeBreak, hmembers]

theorem toList_writeItems (layout : Layout) (depth : Nat) (first : Bool) (out : String) :
    (items : List Json) → (writeItems layout depth first out items).toList =
      out.toList ++ itemsChars layout depth first items
  | [] => by simp [writeItems, itemsChars]
  | item :: items => by
      rw [writeItems, toList_writeItems layout depth false _ items,
        toList_write layout depth _ item, Layout.toList_writeBreak, toList_writeComma]
      simp [itemsChars]

theorem toList_writeMembers (layout : Layout) (depth : Nat) (first : Bool) (out : String) :
    (members : List (String × Json)) → (writeMembers layout depth first out members).toList =
      out.toList ++ membersChars layout depth first members
  | [] => by simp [writeMembers, membersChars]
  | (name, value) :: members => by
      rw [writeMembers, toList_writeMembers layout depth false _ members,
        toList_write layout depth _ value, Layout.toList_writeColon, toList_writeString,
        Layout.toList_writeBreak, toList_writeComma]
      simp [membersChars]

end

end Courier.Json
