import Courier.Calendar.Moment
import Courier.Transfer.Fault
import Courier.Transfer.Mode

/-!
# Partners and the directory of hosts

Who the courier talks to and who it is itself.

Main definitions:

- `Partner` is the entry of a host: where it listens and what it understands.
- `Directory` lists the hosts, the aliases that stand for them, and the two names that this
  host goes by, one of them for encrypted sessions.
- `Directory.lookup`, `Directory.resolve`, `Directory.localId` and `Directory.isLocal` ask it.

Main statements:

- A host that was added is found, and others are found as before (`lookup_addHost`,
  `lookup_addHost_of_ne`).
-/

namespace Courier

/-- The entry of a host. -/
structure Partner where
  hostId : String
  /-- Where it listens; empty for a host that does not. -/
  address : String := ""
  /-- Whether sessions with it are encrypted. -/
  useTls : Bool := false
  role : Role := .server
  /-- Whether it understands commands in JSON. -/
  useJson : Bool := true
deriving DecidableEq, Repr, Inhabited

namespace Partner

/-- A host that only opens sessions. -/
def clientOnly (hostId : String) : Partner :=
  { hostId, role := .clientOnly }

/-- Whether nothing can connect to the host. -/
def isClientOnly (p : Partner) : Bool :=
  p.role == .clientOnly

/-- The fields of an entry, in order. -/
def fieldNames : List String := ["hostId", "address", "useTls", "role", "useJson"]

/-- An entry as an object. -/
def toJson (p : Partner) : Json :=
  .object [("hostId", .string p.hostId), ("address", .string p.address),
    ("useTls", .bool p.useTls), ("role", p.role.toJson), ("useJson", .bool p.useJson)]

/-- Read an entry.  Only the name is required. -/
def ofJson (j : Json) : Json.Decoded Partner := do
  let f ← Json.fields fieldNames j
  let hostId ← f.required "hostId" Json.toText
  let address ← f.withDefault "address" "" Json.toText
  let useTls ← f.withDefault "useTls" false Json.toBool
  let role ← f.withDefault "role" .server Role.ofJson
  let useJson ← f.withDefault "useJson" true Json.toBool
  return { hostId, address, useTls, role, useJson }

end Partner

/-- The hosts that are known, and the names and the time zone of this host. -/
structure Directory where
  /-- The name of this host towards plain partners. -/
  plainId : String
  /-- The name of this host towards encrypted partners. -/
  secureId : String
  /-- The entries, a later one before an earlier one. -/
  hosts : List (String × Partner) := []
  /-- The aliases with the hosts they stand for, a later one before an earlier one. -/
  aliases : List (String × String) := []
  /-- What the clocks of this host show. -/
  zone : Calendar.Zone := .utc
deriving Repr, Inhabited

namespace Directory

/-- Add a host; it replaces one of the same name. -/
def addHost (d : Directory) (p : Partner) : Directory :=
  { d with hosts := (p.hostId, p) :: d.hosts }

/-- Add an alias; it replaces an equal one. -/
def addAlias (d : Directory) (name hostId : String) : Directory :=
  { d with aliases := (name, hostId) :: d.aliases }

/-- The entry of a host. -/
def lookup (d : Directory) (hostId : String) : Except TransferFault Partner :=
  match d.hosts.lookup hostId with
  | some p => .ok p
  | none => .error (.unknownHost hostId)

/-- The host that a name stands for; a name that is no alias stands for itself. -/
def resolve (d : Directory) (name : String) : String :=
  (d.aliases.lookup name).getD name

/-- The name of this host towards a partner. -/
def localId (d : Directory) (useTls : Bool) : String :=
  if useTls then d.secureId else d.plainId

/-- Whether a name is one of this host's own. -/
def isLocal (d : Directory) (hostId : String) : Bool :=
  hostId == d.plainId || hostId == d.secureId

/-- A host that was added is found. -/
@[simp]
theorem lookup_addHost (d : Directory) (p : Partner) :
    (d.addHost p).lookup p.hostId = .ok p := by
  simp [lookup, addHost]

/-- Adding a host does not change what other names mean. -/
theorem lookup_addHost_of_ne (d : Directory) {p : Partner} {name : String}
    (h : name ≠ p.hostId) : (d.addHost p).lookup name = d.lookup name := by
  have hb : (name == p.hostId) = false := by simp [h]
  simp only [lookup, addHost, List.lookup_cons, hb]

end Directory

end Courier
