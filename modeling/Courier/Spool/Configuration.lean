import Courier.Json.Writer
import Courier.Ordered
import Courier.Session.Policy
import Courier.Spool.Job
import Courier.Transfer.Partner
import Courier.Transfer.Rule

/-!
# The configuration of spools

Everything that is read when the spools of a machine are started.

Main definitions:

- `Configuration` is the configuration; `Configuration.load` and `Configuration.save` read
  and write it.
- `Configuration.complete` gives the common stop file to the jobs that name none.
- `Configuration.check` tells what is wrong with it.
- `Configuration.directory` and `Configuration.ruleBook` are the hosts and rules in it.
-/

namespace Courier

/-- The configuration of the spools of a machine. -/
structure Configuration where
  /-- The bounds for dealings with partners. -/
  client : Settings
  /-- The name of this host towards plain partners. -/
  hostId : String
  /-- The name of this host towards encrypted partners, when it is another one. -/
  secureId : Option String
  hosts : List Partner
  /-- The aliases with the hosts they stand for, in order. -/
  aliases : List (String × String)
  rules : List Rule
  /-- The file that the ledger is kept in. -/
  recordStore : Path
  /-- The stop file of the jobs that name none. -/
  stopFile : Option Path
  jobs : List Job
deriving Repr, Inhabited

namespace Configuration

/-! ## JSON -/

/-- Whether an alias comes before another one. -/
def aliasBefore (a b : String × String) : Bool :=
  decide (a.1 < b.1)

/-- Aliases in order; of equal ones the last one counts. -/
def sortAliases (aliases : List (String × String)) : List (String × String) :=
  aliases.foldl (fun row a => Ordered.put aliasBefore a row) []

/-- Read aliases. -/
def aliasesOfJson : Json → Json.Decoded (List (String × String))
  | .object members => do
      let aliases ← members.mapM fun m => (Json.toText m.2).map fun host => (m.1, host)
      return sortAliases aliases
  | _ => .error (.unexpected "a record")

/-- The fields of a configuration, in order. -/
def fieldNames : List String := [
  "client", "hostId", "tlsHostId", "hosts", "aliases", "rules", "recordStore", "stopFile",
  "spools"]

/-- A configuration as an object. -/
def toJson (c : Configuration) : Json :=
  .object [
    ("client", c.client.toJson), ("hostId", .string c.hostId),
    ("tlsHostId", .ofOption .string c.secureId),
    ("hosts", .list (c.hosts.map Partner.toJson)),
    ("aliases", .object (c.aliases.map fun a => (a.1, .string a.2))),
    ("rules", .list (c.rules.map Rule.toJson)), ("recordStore", c.recordStore.toJson),
    ("stopFile", .ofOption Path.toJson c.stopFile),
    ("spools", .list (c.jobs.map Job.toJson))]

/-- Read a configuration.  `machine` is the name that this host goes by when the
configuration has none. -/
def ofJson (machine : String) (j : Json) : Json.Decoded Configuration := do
  let f ← Json.fields fieldNames j
  let client ← f.withDefault "client" .standard Settings.ofJson
  let hostId ← f.withDefault "hostId" machine Json.toText
  let secureId ← f.optional "tlsHostId" Json.toText
  let hosts ← f.withDefault "hosts" [] (Json.toListOf Partner.ofJson)
  let aliases ← f.withDefault "aliases" [] aliasesOfJson
  let rules ← f.withDefault "rules" [] (Json.toListOf Rule.ofJson)
  let recordStore ← f.required "recordStore" Path.ofJson
  let stopFile ← f.optional "stopFile" Path.ofJson
  let jobs ← f.required "spools" (Json.toListOf Job.ofJson)
  return { client, hostId, secureId, hosts, aliases, rules, recordStore, stopFile, jobs }

/-! ## Defaults and checks -/

/-- Give the common stop file to the jobs that name none. -/
def complete (c : Configuration) : Configuration :=
  match c.stopFile with
  | none => c
  | some stopFile =>
      { c with
        jobs := c.jobs.map fun job =>
          if job.stopFile.isEmpty then { job with stopFile } else job }

/-- The fault of a status file that several jobs use. -/
def sharedStatusFile (p : Path) : SpoolFault :=
  .invalid ("status file " ++ p.text ++ " shared by several spools")

variable {m : Type → Type} [Monad m] [Files m]

/-- What is wrong with jobs, given the status files of the jobs before them. -/
def checkJobs : List Path → List Job → m (Except SpoolFault Unit)
  | _, [] => return .ok ()
  | used, job :: rest => do
      match ← job.check with
      | .error fault => return .error fault
      | .ok () =>
          if used.any (·.same job.statusFile) then
            return .error (sharedStatusFile job.statusFile)
          else checkJobs (job.statusFile :: used) rest

/-- What is wrong with a configuration. -/
def check (c : Configuration) : m (Except SpoolFault Unit) :=
  if c.jobs.isEmpty then return .error (.invalid "no spool configured")
  else checkJobs [] c.jobs

/-! ## Files -/

/-- Read and check a configuration. -/
def load (machine : String) (p : Path) : m (Except SpoolFault Configuration) := do
  match ← Files.readText p with
  | .error fault => return .error (.io fault)
  | .ok text =>
      match Json.decode (ofJson machine) text with
      | .error fault => return .error (.json fault)
      | .ok c =>
          let c := c.complete
          match ← c.check with
          | .error fault => return .error fault
          | .ok () => return .ok c

/-- Write a configuration. -/
def save (c : Configuration) (p : Path) : m (Except SpoolFault Unit) := do
  match ← Files.save p c.toJson.indented with
  | .error fault => return .error (.io fault)
  | .ok () => return .ok ()

/-! ## Parts -/

/-- The hosts and the names of this host. -/
def directory (c : Configuration) : Directory :=
  let start : Directory := { plainId := c.hostId, secureId := c.secureId.getD c.hostId }
  let listed := c.hosts.foldl Directory.addHost start
  c.aliases.foldl (fun d a => d.addAlias a.1 a.2) listed

/-- The rules. -/
def ruleBook (c : Configuration) : RuleBook :=
  .ofList c.rules

end Configuration

end Courier
