import Courier.Json.Float
import Courier.Json.Reader

/-!
# Reading typed values from JSON

What a reader of a typed value accepts, beyond the grammar of JSON.

Main definitions:

- `Json.Fault` is the reason why a value cannot be read.
- `Json.fields` is the view of a record: an object, or a list of the fields in order.  Names
  that the record does not have are ignored, and no name may occur twice.
- `Json.choice` reads one of several named values, written as its name or as an object with
  that one name and `null`.
- `Json.buffered` is the stricter reading of a value whose type is not known before all of
  it has been read: its depth is bounded, its numbers must be representable and its strings
  whole.  `Json.splitTag` separates the name of the type from the rest.
- `Json.decode` reads a typed value from a text.
-/

namespace Courier.Json

/-- Why a value cannot be read. -/
inductive Fault where
  /-- The text is not JSON. -/
  | malformed
  /-- The text ends within an object, at a line and a column. -/
  | unfinishedObject (line column : Nat)
  /-- Another kind of value is wanted. -/
  | unexpected (wanted : String)
  | missing (field : String)
  | repeated (field : String)
  /-- A list has more elements than the record has fields. -/
  | excess
  /-- A number is too large or too small for what it counts. -/
  | outOfRange
  /-- A name is none of the known ones. -/
  | unknownName (name : String)
  /-- The value is nested too deeply. -/
  | tooDeep
deriving DecidableEq, Repr

namespace Fault

/-- The text of the reason. -/
def message : Fault → String
  | malformed => "malformed text"
  | unfinishedObject line column =>
      "EOF while parsing an object at line " ++ toString line ++ " column " ++ toString column
  | unexpected wanted => "expected " ++ wanted
  | missing field => "missing field " ++ field
  | repeated field => "duplicate field " ++ field
  | excess => "too many elements"
  | outOfRange => "number out of range"
  | unknownName name => "unknown name " ++ name
  | tooDeep => "nested too deeply"

end Fault

/-- The result of reading a typed value. -/
abbrev Decoded (α : Type) := Except Fault α

/-! ## Plain values -/

/-- Read a string. -/
def toText : Json → Decoded String
  | .string s => .ok s
  | _ => .error (.unexpected "a string")

/-- Read a truth value. -/
def toBool : Json → Decoded Bool
  | .bool b => .ok b
  | _ => .error (.unexpected "a boolean")

/-- Read an integer between two bounds. -/
def toIntBetween (low high : Int) : Json → Decoded Int
  | .number n =>
      match n.toInt? with
      | none => .error (.unexpected "an integer")
      | some i => if low ≤ i ∧ i ≤ high then .ok i else .error .outOfRange
  | _ => .error (.unexpected "an integer")

/-- Read a signed integer of 64 bits. -/
def toInt64 : Json → Decoded Int :=
  toIntBetween (-(wordValues 63 : Int)) ((wordValues 63 : Int) - 1)

/-- Read a natural number below a bound. -/
def toNatBelow (bound : Nat) (j : Json) : Decoded Nat :=
  (toIntBetween 0 ((bound : Int) - 1) j).map Int.toNat

/-- Read a natural number of 8 bits. -/
def toByte (j : Json) : Decoded UInt8 :=
  (toNatBelow (wordValues 8) j).map Nat.toUInt8

/-- Read a natural number of 32 bits. -/
def toNat32 : Json → Decoded Nat :=
  toNatBelow (wordValues 32)

/-- Read a natural number of 64 bits. -/
def toNat64 : Json → Decoded Nat :=
  toNatBelow (wordValues 64)

/-- Read a floating-point number, which may be written as an integer. -/
def toFloat : Json → Decoded Float
  | .number n =>
      match n.toFloat? with
      | none => .error .outOfRange
      | some f => .ok f
  | _ => .error (.unexpected "a number")

/-- Read a list whose items are all readable. -/
def toListOf {α : Type} (item : Json → Decoded α) : Json → Decoded (List α)
  | .list items => items.mapM item
  | _ => .error (.unexpected "a list")

/-- Read a value that may be `null`. -/
def toOption {α : Type} (value : Json → Decoded α) : Json → Decoded (Option α)
  | .null => .ok none
  | j => (value j).map some

/-- Read one of several named values: a name, or an object that gives that name alone the
value `null`. -/
def choice {α : Type} (names : List (String × α)) (j : Json) : Decoded α :=
  let name? : Decoded String := match j with
    | .string s => .ok s
    | .object [(s, .null)] => .ok s
    | _ => .error (.unexpected "a name")
  name?.bind fun name =>
    match names.lookup name with
    | some a => .ok a
    | none => .error (.unknownName name)

/-! ## Records -/

/-- The fields of a record, each with its value. -/
abbrev Fields := List (String × Json)

/-- The first name that occurs in two members. -/
def repeatedName? : Fields → Option String
  | [] => none
  | (name, _) :: rest =>
      if rest.any (fun m => m.1 == name) then some name else repeatedName? rest

/-- The fields of a record that has the given names, from an object or from a list in the
order of the names.  A list may stop early. -/
def fields (names : List String) : Json → Decoded Fields
  | .object members =>
      let known := members.filter fun m => names.contains m.1
      match repeatedName? known with
      | some name => .error (.repeated name)
      | none => .ok known
  | .list items =>
      if names.length < items.length then .error .excess else .ok (names.zip items)
  | _ => .error (.unexpected "a record")

namespace Fields

/-- Read a field that has to be there. -/
def required {α : Type} (f : Fields) (name : String) (value : Json → Decoded α) : Decoded α :=
  match f.lookup name with
  | some j => value j
  | none => .error (.missing name)

/-- Read a field that has a default.  The default stands in for an absent field, never for
an unreadable one. -/
def withDefault {α : Type} (f : Fields) (name : String) (default : α)
    (value : Json → Decoded α) : Decoded α :=
  match f.lookup name with
  | some j => value j
  | none => .ok default

/-- Read a field that may be absent or `null`. -/
def optional {α : Type} (f : Fields) (name : String) (value : Json → Decoded α) :
    Decoded (Option α) :=
  match f.lookup name with
  | some j => toOption value j
  | none => .ok none

end Fields

/-! ## Values that are read before their type is known -/

/-- The number of containers that may be nested in a buffered value. -/
def maxDepth : Nat := 127

/-- Whether a number can be kept before its type is known: an integer of 64 bits as it is, any
other number as a floating-point number. -/
def Number.isKept (n : Number) : Bool :=
  match n.toInt? with
  | some i =>
      decide (-(wordValues 63 : Int) ≤ i ∧ i < wordValues 64) || n.toFloat?.isSome
  | none => n.toFloat?.isSome

mutual

/-- Whether a value can be kept before its type is known, with `depth` levels to spare. -/
def isBufferable (depth : Nat) : Json → Bool
  | .null | .bool _ | .string _ => true
  | .number n => n.isKept
  | .broken => false
  | .list items => match depth with
      | 0 => false
      | depth + 1 => areBufferable depth items
  | .object members => match depth with
      | 0 => false
      | depth + 1 => areBufferableMembers depth members

/-- Whether all of several values can be kept. -/
def areBufferable (depth : Nat) : List Json → Bool
  | [] => true
  | item :: items => isBufferable depth item && areBufferable depth items

/-- Whether the values of all of several members can be kept. -/
def areBufferableMembers (depth : Nat) : List (String × Json) → Bool
  | [] => true
  | (_, value) :: members => isBufferable depth value && areBufferableMembers depth members

end

/-- The value itself, when it can be kept before its type is known. -/
def buffered (j : Json) : Decoded Json :=
  if isBufferable maxDepth j then .ok j else .error .tooDeep

/-- A buffered name that is given alone with an empty object is as good as one that is given
with `null`. -/
def settleName : Json → Json
  | .object [(name, .object [])] => .object [(name, .null)]
  | j => j

/-- Read one of several named values from a buffered value. -/
def bufferedChoice {α : Type} (value : Json → Decoded α) (j : Json) : Decoded α :=
  value (settleName j)

/-- Read the tag of a buffered value: one of several names, or the place of one in their
order. -/
def bufferedTag {α : Type} (names : List (String × α)) : Json → Decoded α
  | .string s =>
      match names.lookup s with
      | some a => .ok a
      | none => .error (.unknownName s)
  | .number n =>
      match n.toInt? with
      | some (.ofNat i) =>
          match names[i]? with
          | some m => .ok m.2
          | none => .error .outOfRange
      | _ => .error (.unexpected "a name")
  | _ => .error (.unexpected "a name")

/-- Read the tag of a value whose tag comes first: one of several names. -/
def plainTag {α : Type} (names : List (String × α)) : Json → Decoded α
  | .string s =>
      match names.lookup s with
      | some a => .ok a
      | none => .error (.unknownName s)
  | _ => .error (.unexpected "a name")

/-- The tag of a record that names its own kind, and what is left of the record.  A list
has the tag as its first element. -/
def splitTag (tag : String) : Json → Decoded (Json × Json)
  | .object members =>
      match members.filter (fun m => m.1 == tag) with
      | [] => .error (.missing tag)
      | [(_, value)] => .ok (value, .object (members.filter fun m => m.1 != tag))
      | _ => .error (.repeated tag)
  | .list (value :: rest) => .ok (value, .list rest)
  | .list [] => .error (.missing tag)
  | _ => .error (.unexpected "a record")

/-! ## Texts -/

/-- Read a typed value from a text. -/
def decode {α : Type} (value : Json → Decoded α) (text : String) : Decoded α :=
  match parse text with
  | none => .error .malformed
  | some j => value j

end Courier.Json
