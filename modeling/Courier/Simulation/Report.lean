import Courier.Json.Loose
import Courier.Simulation.Schedule

/-!
# Reports of simulations

What happened in a simulation, as JSON values.

Main definitions:

- `Occurrence.toJson` is what a program did with a partner, and `Packet.display` a packet in
  it.
- `Sighting.toJson` is what was seen of a watch.
- `Progress.text` is a piece of news, and `Record.summary` a record, on one line.
-/

namespace Courier

open Calendar

/-- A packet, with the argument of a task as a value when it is the text of one. -/
def Packet.display (p : Packet) : Json :=
  match p, p.toJson with
  | .business r, .object members =>
      match Json.parseLoose? r.argument with
      | some value =>
          .object (members.map fun m => if m.1 == "argument" then (m.1, value) else m)
      | none => .object members
  | _, other => other

/-- A piece of news on one line. -/
def Progress.text : Progress → String
  | started partner file => "start " ++ partner ++ " " ++ file
  | finished partner file success code =>
      "end " ++ partner ++ " " ++ file ++ " " ++ toString success ++ " " ++ code.name

/-- A name with a capital as its first letter. -/
def capitalize (s : String) : String :=
  match s.toList with
  | [] => ""
  | c :: rest => String.ofList (c.toUpper :: rest)

/-- A record on one line. -/
def Record.summary (r : Record) : String :=
  r.key.text ++ " " ++ r.filename ++ " " ++ capitalize r.mode.name ++ " " ++
    capitalize r.status.name ++ " " ++ r.errorCode.name ++ " rank=" ++ toString r.rank ++
    " size=" ++ toString r.originalSize

/-- An outcome as an object; `display` says how its record is shown. -/
def Outcome.toJson (display : Record → Json) (o : Outcome) : Json :=
  .object [("ok", .bool o.success), ("code", o.code.toJson), ("exit", .ofNat o.exitStatus),
    ("cause", .ofOption .string o.cause), ("id", .ofOption .ofInt o.specialId),
    ("record", .ofOption display o.record)]

/-- A block, without its bytes, and its place in a row of blocks. -/
def Block.display (b : Block) (index : Nat) : Json :=
  .object [("index", .ofNat index), ("rank", .ofNat b.rank), ("len", .ofNat b.data.size),
    ("empty", .bool b.data.isEmpty), ("eof", .bool b.eof), ("digest", .ofOption .string b.digest)]

/-- A monitor as an object, with the result of what was done last. -/
def Monitor.toJson (m : Monitor) (result : Json) : Json :=
  .object [("r", result), ("items", .list (m.items.map Item.toJson)),
    ("counters", m.counters.toJson), ("name", .string m.name)]

namespace Simulation

/-- The name of a kind of stream. -/
def throughName : Through → String
  | .none => "None"
  | .send => "Send"
  | .receive => "Recv"

/-- What is shown of a record when a session is opened for it. -/
def stateOf (r : Record) : Json :=
  .object [("id", .ofInt r.specialId), ("status", r.status.toJson),
    ("errorCode", r.errorCode.toJson), ("rank", .ofNat r.rank), ("mode", r.mode.toJson)]

/-- A span in milliseconds. -/
def millisOf (s : Span) : Json :=
  .ofNat s.millis

/-- What a program did with a partner, as the members of an object. -/
def Occurrence.members : Occurrence → List (String × Json)
  | connected c =>
      [("ev", .string "connect"), ("host", .string c.partner.hostId),
        ("through", .string (throughName c.through)), ("record", .ofOption stateOf c.record)]
  | sent host packet flush =>
      [("ev", .string "send"), ("host", .string host), ("packet", packet.display),
        ("flush", .bool flush)]
  | wrote host => [("ev", .string "writable"), ("host", .string host)]
  | awaited host timeout =>
      [("ev", .string "await"), ("host", .string host),
        ("timeoutMs", .ofOption millisOf timeout)]
  | asked host packet timeout =>
      [("ev", .string "request"), ("host", .string host), ("packet", packet.display),
        ("timeoutMs", millisOf timeout)]
  | closed host => [("ev", .string "close"), ("host", .string host)]

/-- What a program did with a partner, perhaps with its time. -/
def Occurrence.toJson (o : Occurrence) (time : Option Nat) : Json :=
  .object (o.members ++ Json.optionalMember "t" .ofNat time)

/-- The report of a failure. -/
def failureOf (r : Record) : Json :=
  .object [("id", .ofInt r.specialId), ("status", r.status.toJson),
    ("code", r.errorCode.toJson), ("message", .ofOption .string r.errorMessage)]

/-- The name of a stage. -/
def stageName : Watch.Stage → String
  | .initializing => "Initializing"
  | .watching => "Watching"
  | .dispatching => "Dispatching"
  | .stopped => "Stopped"

/-- What was seen of a watch, with the time from a start. -/
def Sighting.toJson (start : Nat) (s : Sighting) : Json :=
  .object [("t", .ofNat (s.time - start)), ("state", .string (stageName s.stage)),
    ("sent", .ofNat s.sent), ("error", .ofNat s.failed)]

end Simulation

end Courier
