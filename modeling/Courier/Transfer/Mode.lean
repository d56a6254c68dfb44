import Courier.Json.Decode

/-!
# Modes, statuses and roles

The small vocabularies of a transfer.

Main definitions:

- `Mode` says how a rule moves data, seen from the host that asks for it: the direction,
  whether blocks carry digests, and whether the data is streamed by the caller.
- `Status` is the stage of life of a transfer.
- `Role` says whether a host accepts sessions.

Main statements:

- Adding digests or streaming changes nothing else about a mode (`isSend_withHash`,
  `isThrough_withHash`, `isSend_withThrough`, `hasHash_withThrough`).
-/

namespace Courier

/-! ## Modes -/

/-- How a rule moves data, seen from the requester. -/
inductive Mode where
  | send
  | recv
  /-- Send a file with digests. -/
  | sendHash
  /-- Receive a file with digests. -/
  | recvHash
  | sendThrough
  | recvThrough
  /-- Send a stream with digests. -/
  | sendHashThrough
  /-- Receive a stream with digests. -/
  | recvHashThrough
deriving DecidableEq, Repr, Inhabited

namespace Mode

/-- Whether the requester sends. -/
def isSend : Mode → Bool
  | send | sendHash | sendThrough | sendHashThrough => true
  | _ => false

/-- Whether the requester receives. -/
def isRecv (m : Mode) : Bool :=
  !m.isSend

/-- Whether the caller streams the data. -/
def isThrough : Mode → Bool
  | sendThrough | recvThrough | sendHashThrough | recvHashThrough => true
  | _ => false

/-- Whether blocks carry digests. -/
def hasHash : Mode → Bool
  | sendHash | recvHash | sendHashThrough | recvHashThrough => true
  | _ => false

/-- The same mode with digests. -/
def withHash : Mode → Mode
  | send => sendHash
  | recv => recvHash
  | sendThrough => sendHashThrough
  | recvThrough => recvHashThrough
  | m => m

/-- The same mode with a stream. -/
def withThrough : Mode → Mode
  | send => sendThrough
  | recv => recvThrough
  | sendHash => sendHashThrough
  | recvHash => recvHashThrough
  | m => m

@[simp]
theorem hasHash_withHash (m : Mode) : m.withHash.hasHash = true := by cases m <;> rfl

@[simp]
theorem isSend_withHash (m : Mode) : m.withHash.isSend = m.isSend := by cases m <;> rfl

@[simp]
theorem isThrough_withHash (m : Mode) : m.withHash.isThrough = m.isThrough := by
  cases m <;> rfl

@[simp]
theorem isThrough_withThrough (m : Mode) : m.withThrough.isThrough = true := by
  cases m <;> rfl

@[simp]
theorem isSend_withThrough (m : Mode) : m.withThrough.isSend = m.isSend := by cases m <;> rfl

@[simp]
theorem hasHash_withThrough (m : Mode) : m.withThrough.hasHash = m.hasHash := by
  cases m <;> rfl

/-- The name of a mode. -/
def name : Mode → String
  | send => "send"
  | recv => "recv"
  | sendHash => "sendHash"
  | recvHash => "recvHash"
  | sendThrough => "sendThrough"
  | recvThrough => "recvThrough"
  | sendHashThrough => "sendHashThrough"
  | recvHashThrough => "recvHashThrough"

/-- Every mode. -/
def all : List Mode :=
  [send, recv, sendHash, recvHash, sendThrough, recvThrough, sendHashThrough, recvHashThrough]

/-- A mode as its name. -/
def toJson (m : Mode) : Json :=
  .string m.name

/-- Read a mode. -/
def ofJson (j : Json) : Json.Decoded Mode :=
  Json.choice (all.map fun m => (m.name, m)) j

/-- A mode is read back from its name. -/
theorem ofJson_toJson (m : Mode) : ofJson m.toJson = .ok m := by cases m <;> rfl

end Mode

/-! ## Statuses -/

/-- The stage of life of a transfer. -/
inductive Status where
  /-- Registered, to be picked up later. -/
  | toSubmit
  | running
  | done
  | inError
  | interrupted
deriving DecidableEq, Repr, Inhabited

namespace Status

/-- Whether a transfer at this stage has ended. -/
def isTerminal : Status → Bool
  | done | inError | interrupted => true
  | _ => false

/-- The name of a status. -/
def name : Status → String
  | toSubmit => "toSubmit"
  | running => "running"
  | done => "done"
  | inError => "inError"
  | interrupted => "interrupted"

/-- Every status. -/
def all : List Status :=
  [toSubmit, running, done, inError, interrupted]

/-- A status as its name. -/
def toJson (s : Status) : Json :=
  .string s.name

/-- Read a status. -/
def ofJson (j : Json) : Json.Decoded Status :=
  Json.choice (all.map fun s => (s.name, s)) j

/-- A status is read back from its name. -/
theorem ofJson_toJson (s : Status) : ofJson s.toJson = .ok s := by cases s <;> rfl

end Status

/-! ## Roles -/

/-- Whether a host accepts sessions. -/
inductive Role where
  | server
  /-- The host only opens sessions; nothing can connect to it. -/
  | clientOnly
deriving DecidableEq, Repr, Inhabited

namespace Role

/-- The name of a role. -/
def name : Role → String
  | server => "server"
  | clientOnly => "clientOnly"

/-- A role as its name. -/
def toJson (r : Role) : Json :=
  .string r.name

/-- Read a role. -/
def ofJson (j : Json) : Json.Decoded Role :=
  Json.choice [("server", server), ("clientOnly", clientOnly)] j

/-- A role is read back from its name. -/
theorem ofJson_toJson (r : Role) : ofJson r.toJson = .ok r := by cases r <;> rfl

end Role

end Courier
