import Courier.Code
import Courier.Digest.Sha256
import Courier.Wire.Command
import Courier.Wire.Query

/-!
# Packets and answers

What the courier hands to a session, and what a partner answers.

Main definitions:

- `Block` is a block of a stream.
- `ControlBody` is a command in the form that the partner understands.
- `Packet` is what is sent; `Answer` is the answer to a single request.
- `Packet.encode`, `Packet.decode` and their likes are the JSON texts.
-/

namespace Courier

/-! ## Blocks -/

/-- A block of a stream. -/
structure Block where
  rank : Nat
  /-- The bytes. -/
  data : ByteArray
  /-- The digest of the bytes, where digests are asked for. -/
  digest : Option String
  /-- Whether this block ends the stream. -/
  eof : Bool
deriving DecidableEq, Inhabited

namespace Block

/-- The empty block that ends a stream. -/
def endOfFile (rank : Nat) : Block :=
  { rank, data := ⟨#[]⟩, digest := none, eof := true }

/-- The block of some bytes, with or without their digest. -/
def ofBytes (rank : Nat) (data : ByteArray) (withDigest : Bool) : Block :=
  { rank, data, digest := if withDigest then some (Digest.Sha256.hexDigest data) else none,
    eof := false }

/-- The fields of a block, in order. -/
def fieldNames : List String := ["rank", "data", "digest", "eof"]

/-- The members of a block.  An absent digest is left out. -/
def members (b : Block) : List (String × Json) :=
  [("rank", .ofNat b.rank),
    ("data", .list (b.data.data.toList.map fun byte => .ofNat byte.toNat))] ++
  Json.optionalMember "digest" .string b.digest ++ [("eof", .bool b.eof)]

/-- Read a block. -/
def ofJson (j : Json) : Json.Decoded Block := do
  let f ← Json.fields fieldNames j
  let rank ← f.required "rank" Json.toNat32
  let data ← f.required "data" (Json.toListOf Json.toByte)
  let digest ← f.optional "digest" Json.toText
  let eof ← f.withDefault "eof" false Json.toBool
  return { rank, data := ⟨data.toArray⟩, digest, eof }

end Block

/-! ## Control -/

/-- What a command does to a transfer. -/
inductive ControlKind where
  | cancel
  | stop
  | restart
deriving DecidableEq, Repr, Inhabited

namespace ControlKind

/-- The name of a kind. -/
def name : ControlKind → String
  | cancel => "cancel"
  | stop => "stop"
  | restart => "restart"

/-- A kind as its name. -/
def toJson (k : ControlKind) : Json :=
  .string k.name

/-- Read a kind. -/
def ofJson (j : Json) : Json.Decoded ControlKind :=
  Json.choice [("cancel", cancel), ("stop", stop), ("restart", restart)] j

end ControlKind

/-- A command in the form that the partner understands. -/
inductive ControlBody where
  | json (text : String)
  /-- A command in words. -/
  | plain (text : String)
deriving DecidableEq, Repr, Inhabited

namespace ControlBody

/-- The forms of a command. -/
inductive Form where
  | json
  | plain
deriving DecidableEq, Repr

/-- The names of the forms. -/
def forms : List (String × Form) :=
  [("json", .json), ("legacy", .plain)]

/-- The body of a form with a text. -/
def ofForm : Form → String → ControlBody
  | .json, text => json text
  | .plain, text => plain text

/-- Write a command, in JSON when the partner understands that. -/
def encode (c : Command) (useJson : Bool) : ControlBody :=
  if useJson then json c.encode else plain c.plain

/-- Read the command, whatever its form. -/
def decode : ControlBody → Except WireFault Command
  | json text => Command.decode text
  | plain text => Command.ofPlain text

/-- A body as an object. -/
def toJson : ControlBody → Json
  | json text => .object [("encoding", .string "json"), ("body", .string text)]
  | plain text => .object [("encoding", .string "legacy"), ("body", .string text)]

/-- Read a body: an object of a form and a text, or a list of the two. -/
def ofParts (form : Json → Json.Decoded Form) (j : Json) : Json.Decoded ControlBody := do
  let f ← Json.fields ["encoding", "body"] j
  let form ← f.required "encoding" form
  let text ← f.required "body" Json.toText
  return ofForm form text

/-- Read a body. -/
def ofJson (j : Json) : Json.Decoded ControlBody :=
  ofParts (Json.choice forms) j

/-- Read a body that was kept before its kind was known. -/
def ofBuffered (j : Json) : Json.Decoded ControlBody :=
  ofParts (Json.bufferedChoice (Json.choice forms)) j

end ControlBody

/-! ## Packets -/

/-- What is sent over a session. -/
inductive Packet where
  | data (b : Block)
  /-- The stream ended with a block. -/
  | endTransfer (lastRank : Nat)
  | endRequest (code : ResultCode)
  | error (code : ResultCode) (message : String)
  | control (kind : ControlKind) (body : ControlBody)
  | information (q : Query)
  | business (r : BusinessRequest)
deriving DecidableEq, Inhabited

namespace Packet

/-- The kinds of packets. -/
inductive Kind where
  | data
  | endTransfer
  | endRequest
  | error
  | control
  | information
  | business
deriving DecidableEq, Repr

/-- The names of the kinds, in order. -/
def kinds : List (String × Kind) := [
  ("data", .data), ("endTransfer", .endTransfer), ("endRequest", .endRequest),
  ("error", .error), ("control", .control), ("information", .information),
  ("business", .business)]

/-- The short name of a packet. -/
def name : Packet → String
  | data _ => "data"
  | endTransfer _ => "end-transfer"
  | endRequest _ => "end-request"
  | error _ _ => "error"
  | control _ _ => "control"
  | information _ => "information"
  | business _ => "business"

/-- The members of a packet without its type. -/
def members : Packet → List (String × Json)
  | data b => b.members
  | endTransfer lastRank => [("lastRank", .ofNat lastRank)]
  | endRequest code => [("code", code.toJson)]
  | error code message => [("code", code.toJson), ("message", .string message)]
  | control kind body => [("kind", kind.toJson), ("body", body.toJson)]
  | information q => q.members
  | business r => r.members

/-- The type under which a packet travels. -/
def typeName : Packet → String
  | data _ => "data"
  | endTransfer _ => "endTransfer"
  | endRequest _ => "endRequest"
  | error _ _ => "error"
  | control _ _ => "control"
  | information _ => "information"
  | business _ => "business"

/-- A packet as an object that begins with its type. -/
def toJson (p : Packet) : Json :=
  .object (("type", .string p.typeName) :: p.members)

/-- Read what a packet of a kind holds. -/
def ofKind : Kind → Json → Json.Decoded Packet
  | .data, j => (Block.ofJson j).map data
  | .endTransfer, j => do
      let f ← Json.fields ["lastRank"] j
      return endTransfer (← f.required "lastRank" Json.toNat32)
  | .endRequest, j => do
      let f ← Json.fields ["code"] j
      return endRequest (← f.required "code" (Json.bufferedChoice ResultCode.ofJson))
  | .error, j => do
      let f ← Json.fields ["code", "message"] j
      let code ← f.required "code" (Json.bufferedChoice ResultCode.ofJson)
      return error code (← f.required "message" Json.toText)
  | .control, j => do
      let f ← Json.fields ["kind", "body"] j
      let kind ← f.required "kind" (Json.bufferedChoice ControlKind.ofJson)
      return control kind (← f.required "body" ControlBody.ofBuffered)
  | .information, j => (Query.ofBuffered j).map information
  | .business, j => (BusinessRequest.ofJson j).map business

/-- Read a packet. -/
def ofJson (j : Json) : Json.Decoded Packet := do
  let (tag, rest) ← Json.splitTag "type" j
  let kind ← Json.plainTag kinds tag
  let rest ← Json.buffered rest
  ofKind kind rest

/-- The JSON text of a packet. -/
def encode (p : Packet) : String :=
  p.toJson.compact

/-- Read a packet from a JSON text. -/
def decode (text : String) : Json.Decoded Packet :=
  Json.decode ofJson text

end Packet

/-! ## Answers -/

/-- The answer of a partner to a single request. -/
structure Answer where
  code : ResultCode
  message : Option String := none
  payload : Option String := none
deriving DecidableEq, Repr, Inhabited

namespace Answer

/-- The fields of an answer, in order. -/
def fieldNames : List String := ["code", "message", "payload"]

/-- An answer as an object.  Absent fields are left out. -/
def toJson (a : Answer) : Json :=
  .object ([("code", a.code.toJson)] ++ Json.optionalMember "message" .string a.message ++
    Json.optionalMember "payload" .string a.payload)

/-- Read an answer. -/
def ofJson (j : Json) : Json.Decoded Answer := do
  let f ← Json.fields fieldNames j
  let code ← f.required "code" ResultCode.ofJson
  let message ← f.optional "message" Json.toText
  let payload ← f.optional "payload" Json.toText
  return { code, message, payload }

end Answer

end Courier
