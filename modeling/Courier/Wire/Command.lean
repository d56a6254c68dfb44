import Courier.Calendar.Moment
import Courier.Json.Writer

/-!
# Commands about transfers

A command names a transfer of a partner, and perhaps a time to start it again.  It travels
in one of two forms: as JSON, or as a plain text of three or four words for partners that do
not understand JSON.

Main definitions:

- `Command` is the command; `Command.about` makes the usual one.
- `Command.plain` and `Command.ofPlain` are the text of words.
- `Command.toJson` and `Command.ofJson` are the JSON form.
- `WireFault` is the reason why something that travelled cannot be understood.
-/

namespace Courier

open Calendar

/-- Why something that travelled cannot be understood. -/
inductive WireFault where
  /-- It is no JSON of the right shape. -/
  | json (fault : Json.Fault)
  /-- It is no command in words. -/
  | malformedCommand (text : String)
  | unknownCode (letter : Char)
deriving DecidableEq, Repr

/-- The text of the reason. -/
def WireFault.message : WireFault → String
  | json fault => "JSON error: " ++ fault.message
  | malformedCommand text => "malformed command: " ++ text
  | unknownCode letter => "unknown result code: " ++ letter.toString

/-- The comment of the usual command. -/
def requestComment : String := "Request on Transfer"

/-- A command about a transfer. -/
structure Command where
  /-- The host that was asked for the transfer. -/
  requested : String
  /-- The host that asked for it. -/
  requester : String
  specialId : Int
  /-- When it shall start again, in the time of the partner. -/
  restartTime : Option Timestamp
  comment : String
deriving DecidableEq, Repr, Inhabited

namespace Command

/-- The usual command about a transfer. -/
def about (requested requester : String) (specialId : Int)
    (restartTime : Option Timestamp) : Command :=
  { requested, requester, specialId, restartTime, comment := requestComment }

/-! ## Words -/

/-- The text of a command in words. -/
def plain (c : Command) : String :=
  let text := c.requested ++ " " ++ c.requester ++ " " ++ toString c.specialId
  match c.restartTime with
  | none => text
  | some time => text ++ " " ++ time.digits

/-- The digits of a number, or nothing when a character is none or there are no digits. -/
def natOfDigits? (cs : List Char) : Option Nat :=
  if cs.isEmpty || !cs.all Char.isDigit then none else some (Json.digitsValue cs)

/-- The signed number of 64 bits that a word stands for.  A plus sign is allowed. -/
def readId? (word : String) : Option Int :=
  let value : Option Int := match word.toList with
    | '-' :: cs => (natOfDigits? cs).map fun n => -(n : Int)
    | '+' :: cs => (natOfDigits? cs).map fun n => (n : Int)
    | cs => (natOfDigits? cs).map fun n => (n : Int)
  value.filter fun i => decide (-(Json.wordValues 63 : Int) ≤ i ∧ i < Json.wordValues 63)

/-- Read the parts of a command in words. -/
def ofWords : List String → Option Command
  | [requested, requester, id] => do
      let specialId ← readId? id
      return about requested requester specialId none
  | [requested, requester, id, time] => do
      let specialId ← readId? id
      let restartTime ← Timestamp.ofDigits? time
      return about requested requester specialId (some restartTime)
  | _ => none

/-- Read a command in words. -/
def ofPlain (text : String) : Except WireFault Command :=
  match ofWords (Text.words text) with
  | some c => .ok c
  | none => .error (.malformedCommand text)

/-! ## JSON -/

/-- The fields of a command, in order. -/
def fieldNames : List String :=
  ["requested", "requester", "specialId", "restartTime", "comment"]

/-- A command as an object.  An absent time and an empty remark are left out. -/
def toJson (c : Command) : Json :=
  .object (
    [("requested", .string c.requested), ("requester", .string c.requester),
      ("specialId", .ofInt c.specialId)] ++
    Json.optionalMember "restartTime" Timestamp.toJson c.restartTime ++
    (if c.comment = "" then [] else [("comment", .string c.comment)]))

/-- Read a command from JSON. -/
def ofJson (j : Json) : Json.Decoded Command := do
  let f ← Json.fields fieldNames j
  let requested ← f.required "requested" Json.toText
  let requester ← f.required "requester" Json.toText
  let specialId ← f.required "specialId" Json.toInt64
  let restartTime ← f.optional "restartTime" Timestamp.ofJson
  let comment ← f.withDefault "comment" "" Json.toText
  return { requested, requester, specialId, restartTime, comment }

/-- The JSON text of a command. -/
def encode (c : Command) : String :=
  c.toJson.compact

/-- Read a command from a JSON text. -/
def decode (text : String) : Except WireFault Command :=
  match Json.decode ofJson text with
  | .ok c => .ok c
  | .error fault => .error (.json fault)

end Command

end Courier
