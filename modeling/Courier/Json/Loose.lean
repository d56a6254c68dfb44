import Courier.Json.Decode
import Courier.Json.Float

/-!
# Loosely written values

Values that follow no strict form: members may be missing, may be null, may come in any
order, and of several members with one name the last one counts.

Main definitions:

- `Json.member?` looks up a member; `Json.need`, `Json.may` and `Json.mayOr` read one.
- `Json.canonical` is a value with every name once and every number in one form, and
  `Json.sorted` a value whose members are in order.
- `Json.parseLoose?` is the canonical value in a text.
-/

namespace Courier.Json

/-! ## Members -/

/-- The member of an object with a name; the last one, if there are several. -/
def member? (j : Json) (name : String) : Option Json :=
  match j with
  | .object members => (members.reverse.find? fun m => m.1 == name).map Prod.snd
  | _ => none

/-- The member of an object with a name, unless it is null. -/
def given? (j : Json) (name : String) : Option Json :=
  match j.member? name with
  | some .null => none
  | other => other

/-- Read a member that has to be there. -/
def need {α : Type} (j : Json) (name : String) (value : Json → Decoded α) : Decoded α :=
  match j.member? name with
  | some member => value member
  | none => .error (.missing name)

/-- Read a member that may be missing or null. -/
def may {α : Type} (j : Json) (name : String) (value : Json → Decoded α) :
    Decoded (Option α) :=
  (j.given? name).mapM value

/-- Read a member that may be missing or null, and has a default then. -/
def mayOr {α : Type} (j : Json) (name : String) (default : α) (value : Json → Decoded α) :
    Decoded α :=
  (j.may name value).map fun found => found.getD default

/-- The text of a member, empty when it has none. -/
def textAt (j : Json) (name : String) : String :=
  match j.member? name with
  | some (.string s) => s
  | _ => ""

/-- Whether a member is true. -/
def flagAt (j : Json) (name : String) : Bool :=
  match j.member? name with
  | some (.bool b) => b
  | _ => false

/-- The elements of a member, none when it is no list. -/
def listAt (j : Json) (name : String) : List Json :=
  match j.member? name with
  | some (.list items) => items
  | _ => []

/-! ## Canonical values -/

/-- A number in one form: an integer of 64 bits stays, all others become floats. -/
def Number.canonical (n : Number) : Number :=
  match n.toInt? with
  | some i =>
      if -(wordValues 63 : Int) ≤ i ∧ i < wordValues 64 then n else (n.toFloat?.map Number.ofFloat).getD n
  | none => (n.toFloat?.map Number.ofFloat).getD n

/-- Each name once, with the last of its values, in the order of these. -/
def lastOfEach (members : List (String × Json)) : List (String × Json) :=
  (members.foldl (fun kept m => m :: kept.filter fun k => k.1 != m.1) []).reverse

mutual

/-- A value with every name once and every number in one form. -/
def canonical : Json → Json
  | .number n => .number n.canonical
  | .list items => .list (canonicalItems items)
  | .object members => .object (lastOfEach (canonicalMembers members))
  | other => other

/-- Values with every name once and every number in one form. -/
def canonicalItems : List Json → List Json
  | [] => []
  | j :: rest => canonical j :: canonicalItems rest

/-- Members whose values have every name once and every number in one form. -/
def canonicalMembers : List (String × Json) → List (String × Json)
  | [] => []
  | (name, j) :: rest => (name, canonical j) :: canonicalMembers rest

end

/-- Whether a member is not after another one. -/
def notAfter (a b : String × Json) : Bool :=
  !decide (b.1 < a.1)

mutual

/-- A value whose members are in the order of their names. -/
def sorted : Json → Json
  | .list items => .list (sortedItems items)
  | .object members => .object ((sortedMembers members).mergeSort notAfter)
  | other => other

/-- Values whose members are in the order of their names. -/
def sortedItems : List Json → List Json
  | [] => []
  | j :: rest => sorted j :: sortedItems rest

/-- Members whose values have their members in the order of their names. -/
def sortedMembers : List (String × Json) → List (String × Json)
  | [] => []
  | (name, j) :: rest => (name, sorted j) :: sortedMembers rest

end

/-- The canonical value in a text. -/
def parseLoose? (text : String) : Option Json :=
  (decode buffered text).toOption.map canonical

end Courier.Json
