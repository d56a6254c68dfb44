import Courier.Json.Basic

/-!
# Reading JSON text

A reader of the JSON grammar.  It accepts exactly the well-formed texts, of any depth and
with numbers of any size, and leaves every decision about what a value means to the caller.

Main definitions:

- `Json.readValue` reads one value from the front of a text and returns the rest.
- `Json.parse` reads a whole text: one value with blank space around it.

Each function recurses on a bound that is larger than the number of characters it may read,
so `Json.parse` starts with the length of the text.
-/

namespace Courier.Json

/-! ## Blank space and digits -/

/-- The four characters that may stand between tokens. -/
def isSpace (c : Char) : Bool :=
  c == ' ' || c == '\n' || c == '\t' || c == '\r'

/-- Skip the space before a token. -/
def skipSpace (cs : List Char) : List Char :=
  cs.dropWhile isSpace

/-- The decimal digits at the front of a text and the rest. -/
def takeDigits (cs : List Char) : List Char × List Char :=
  (cs.takeWhile Char.isDigit, cs.dropWhile Char.isDigit)

/-! ## Strings -/

/-- The value of a hexadecimal digit. -/
def hexValue? (c : Char) : Option Nat :=
  if c.isDigit then some (c.toNat - '0'.toNat)
  else if 'a' ≤ c ∧ c ≤ 'f' then some (c.toNat - 'a'.toNat + 10)
  else if 'A' ≤ c ∧ c ≤ 'F' then some (c.toNat - 'A'.toNat + 10)
  else none

/-- The code unit that four hexadecimal digits stand for, and the rest. -/
def readHex4 : List Char → Option (Nat × List Char)
  | a :: b :: c :: d :: rest => do
      let a ← hexValue? a
      let b ← hexValue? b
      let c ← hexValue? c
      let d ← hexValue? d
      return (((a * 16 + b) * 16 + c) * 16 + d, rest)
  | _ => none

/-- The character that a one-letter escape stands for. -/
def simpleEscape? : Char → Option Char
  | '"' => some '"'
  | '\\' => some '\\'
  | '/' => some '/'
  | 'b' => some '\x08'
  | 'f' => some '\x0c'
  | 'n' => some '\n'
  | 'r' => some '\r'
  | 't' => some '\t'
  | _ => none

/-- Read the code points of a string up to its closing quote.  `units` holds those already
read, backwards; an escape may contribute a surrogate. -/
def readUnits : Nat → List Nat → List Char → Option (List Nat × List Char)
  | 0, _, _ => none
  | bound + 1, units, cs =>
      match cs with
      | [] => none
      | '"' :: rest => some (units.reverse, rest)
      | '\\' :: 'u' :: rest =>
          match readHex4 rest with
          | none => none
          | some (u, rest) => readUnits bound (u :: units) rest
      | '\\' :: c :: rest =>
          match simpleEscape? c with
          | none => none
          | some d => readUnits bound (d.toNat :: units) rest
      | c :: rest =>
          if c.toNat < 0x20 || c == '\\' then none
          else readUnits bound (c.toNat :: units) rest

/-- Join each pair of surrogates into the character it encodes; fail at an unpaired one.
`done` holds the characters already joined, backwards. -/
def joinUnits (done : List Char) : List Nat → Option (List Char)
  | [] => some done.reverse
  | [u] => if 0xD800 ≤ u && u ≤ 0xDFFF then none else some (Char.ofNat u :: done).reverse
  | u :: v :: rest =>
      if 0xD800 ≤ u && u ≤ 0xDBFF then
        if 0xDC00 ≤ v && v ≤ 0xDFFF then
          joinUnits (Char.ofNat (0x10000 + (u - 0xD800) * 0x400 + (v - 0xDC00)) :: done) rest
        else none
      else if 0xDC00 ≤ u && u ≤ 0xDFFF then none
      else joinUnits (Char.ofNat u :: done) (v :: rest)

/-- Read a string after its opening quote; the string is absent when a surrogate in it is
unpaired. -/
def readString (cs : List Char) : Option (Option String × List Char) :=
  match readUnits (cs.length + 1) [] cs with
  | none => none
  | some (units, rest) => some ((joinUnits [] units).map String.ofList, rest)

/-! ## Numbers -/

/-- Read the exponent of a number, if there is one. -/
def readExponent (cs : List Char) : Option (Option (Bool × List Char) × List Char) :=
  match cs with
  | c :: rest =>
      if c == 'e' || c == 'E' then
        let (negative, rest) := match rest with
          | '+' :: r => (false, r)
          | '-' :: r => (true, r)
          | r => (false, r)
        match takeDigits rest with
        | ([], _) => none
        | (ds, rest) => some (some (negative, ds), rest)
      else some (none, cs)
  | [] => some (none, [])

/-- Read the fraction of a number, if there is one. -/
def readFraction (cs : List Char) : Option (Option (List Char) × List Char) :=
  match cs with
  | '.' :: rest =>
      match takeDigits rest with
      | ([], _) => none
      | (ds, rest) => some (some ds, rest)
  | _ => some (none, cs)

/-- Read a number after its sign.  A leading zero stands alone. -/
def readNumber (negative : Bool) (cs : List Char) : Option (Number × List Char) :=
  match takeDigits cs with
  | ([], _) => none
  | ('0' :: _ :: _, _) => none
  | (whole, rest) =>
      match readFraction rest with
      | none => none
      | some (fraction, rest) =>
          match readExponent rest with
          | none => none
          | some (exponent, rest) => some (⟨negative, whole, fraction, exponent⟩, rest)

/-! ## Values -/

/-- The text after a keyword, when the text begins with it. -/
def dropKeyword : List Char → List Char → Option (List Char)
  | [], cs => some cs
  | k :: ks, c :: cs => if k = c then dropKeyword ks cs else none
  | _ :: _, [] => none

/-- The object with the given members, unless one of its names is broken. -/
def ofMembers (members : List (Option String × Json)) : Json :=
  if members.all (fun m => m.1.isSome) then
    .object (members.filterMap fun m => m.1.map (·, m.2))
  else .broken

mutual

/-- Read one value from the front of a text, space before it included. -/
def readValue : Nat → List Char → Option (Json × List Char)
  | 0, _ => none
  | bound + 1, cs =>
      match skipSpace cs with
      | 'n' :: rest => (dropKeyword ['u', 'l', 'l'] rest).map (.null, ·)
      | 't' :: rest => (dropKeyword ['r', 'u', 'e'] rest).map (.bool true, ·)
      | 'f' :: rest => (dropKeyword ['a', 'l', 's', 'e'] rest).map (.bool false, ·)
      | '"' :: rest =>
          (readString rest).map fun (s, rest) => (s.elim .broken .string, rest)
      | '[' :: rest =>
          match skipSpace rest with
          | ']' :: rest => some (.list [], rest)
          | rest => readItems bound [] rest
      | '{' :: rest =>
          match skipSpace rest with
          | '}' :: rest => some (.object [], rest)
          | rest => readMembers bound [] rest
      | '-' :: rest => (readNumber true rest).map fun (n, rest) => (.number n, rest)
      | cs => (readNumber false cs).map fun (n, rest) => (.number n, rest)

/-- Read the items of a list and its closing bracket; `items` holds those already read,
backwards. -/
def readItems : Nat → List Json → List Char → Option (Json × List Char)
  | 0, _, _ => none
  | bound + 1, items, cs =>
      match readValue bound cs with
      | none => none
      | some (item, rest) =>
          match skipSpace rest with
          | ',' :: rest => readItems bound (item :: items) rest
          | ']' :: rest => some (.list (item :: items).reverse, rest)
          | _ => none

/-- Read the members of an object and its closing brace; `members` holds those already
read, backwards. -/
def readMembers :
    Nat → List (Option String × Json) → List Char → Option (Json × List Char)
  | 0, _, _ => none
  | bound + 1, members, cs =>
      match skipSpace cs with
      | '"' :: rest =>
          match readString rest with
          | none => none
          | some (name, rest) =>
              match skipSpace rest with
              | ':' :: rest =>
                  match readValue bound rest with
                  | none => none
                  | some (value, rest) =>
                      match skipSpace rest with
                      | ',' :: rest => readMembers bound ((name, value) :: members) rest
                      | '}' :: rest => some (ofMembers ((name, value) :: members).reverse, rest)
                      | _ => none
              | _ => none
      | _ => none

end

/-- Read a whole text: one value with nothing but space around it. -/
def parse (text : String) : Option Json :=
  let cs := text.toList
  match readValue (cs.length + 1) cs with
  | none => none
  | some (value, rest) => if (skipSpace rest).isEmpty then some value else none

end Courier.Json
