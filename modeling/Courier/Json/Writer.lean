import Courier.Json.Basic

/-!
# Writing JSON text

Values are written in one of two layouts.  The compact one has no space at all and is the
one that travels between partners.  The indented one puts each item on a line of its own,
two spaces deeper than what surrounds it, and is the one that is kept in files.

Main definitions:

- `Json.compact` and `Json.indented` are the two texts of a value.
-/

namespace Courier.Json

/-! ## Strings -/

/-- The hexadecimal digit of a number below sixteen. -/
def hexDigit (n : Nat) : Char :=
  Nat.digitChar (n % 16)

/-- Write one character of a string.  A quote, a backslash and the control characters are
escaped, and nothing else is. -/
def writeChar (out : String) (c : Char) : String :=
  if c = '"' then out ++ "\\\""
  else if c = '\\' then out ++ "\\\\"
  else if c = '\n' then out ++ "\\n"
  else if c = '\r' then out ++ "\\r"
  else if c = '\t' then out ++ "\\t"
  else if c = '\x08' then out ++ "\\b"
  else if c = '\x0c' then out ++ "\\f"
  else if c.toNat < 0x20 then
    ((out ++ "\\u00").push (hexDigit (c.toNat / 16))).push (hexDigit c.toNat)
  else out.push c

/-- Write a string with its quotes. -/
def writeString (out : String) (s : String) : String :=
  (s.toList.foldl writeChar (out.push '"')).push '"'

/-! ## Layouts -/

/-- How the parts of a value are set out. -/
inductive Layout where
  | compact
  /-- One line for each part, indented by two spaces for each level. -/
  | indented
deriving DecidableEq, Repr

/-- Write the break before a part that stands `depth` levels deep. -/
def Layout.writeBreak (layout : Layout) (depth : Nat) (out : String) : String :=
  match layout with
  | .compact => out
  | .indented => (out.push '\n') ++ String.ofList (List.replicate (2 * depth) ' ')

/-- Write what separates a name from its value. -/
def Layout.writeColon (layout : Layout) (out : String) : String :=
  match layout with
  | .compact => out.push ':'
  | .indented => out ++ ": "

/-- Write the separator before a part, unless it is the first one. -/
def writeComma (first : Bool) (out : String) : String :=
  if first then out else out.push ','

mutual

/-- Write a value that stands `depth` levels deep. -/
def write (layout : Layout) (depth : Nat) (out : String) : Json → String
  | .null => out ++ "null"
  | .bool b => out ++ (if b then "true" else "false")
  | .number n => out ++ n.text
  | .string s => writeString out s
  | .broken => out ++ "null"
  | .list [] => out ++ "[]"
  | .list (item :: items) =>
      let out := writeItems layout (depth + 1) true (out.push '[') (item :: items)
      (layout.writeBreak depth out).push ']'
  | .object [] => (out.push '{').push '}'
  | .object (m :: members) =>
      let out := writeMembers layout (depth + 1) true (out.push '{') (m :: members)
      (layout.writeBreak depth out).push '}'

/-- Write the items of a list. -/
def writeItems (layout : Layout) (depth : Nat) (first : Bool) (out : String) :
    List Json → String
  | [] => out
  | item :: items =>
      let out := layout.writeBreak depth (writeComma first out)
      writeItems layout depth false (write layout depth out item) items

/-- Write the members of an object. -/
def writeMembers (layout : Layout) (depth : Nat) (first : Bool) (out : String) :
    List (String × Json) → String
  | [] => out
  | (name, value) :: members =>
      let out := layout.writeBreak depth (writeComma first out)
      let out := layout.writeColon (writeString out name)
      writeMembers layout depth false (write layout depth out value) members

end

/-- The text of a value without any space. -/
def compact (j : Json) : String :=
  write .compact 0 "" j

/-- The text of a value with a line for each part. -/
def indented (j : Json) : String :=
  write .indented 0 "" j

end Courier.Json
