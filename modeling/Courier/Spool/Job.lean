import Courier.Spool.Fault
import Courier.Transfer.Record

/-!
# Spool jobs

What a spool watches, what it does with the files that appear there, and how.

Main definitions:

- `Job` is the job as it is configured, with the usual value for everything that need not be
  said.
- `Job.check` tells what is wrong with a job, as far as that can be known without looking at
  the watched directories.
- `Job.isParallel` and `Job.limit?` say how many files are dispatched at a time.
-/

namespace Courier

open Calendar

/-- A spool job. -/
structure Job where
  name : String
  directories : List Path
  /-- The file that keeps what the spool knows. -/
  statusFile : Path
  /-- The file that stops the spool when it appears. -/
  stopFile : Path := ⟨""⟩
  rule : String
  hosts : List String
  /-- A regular expression for the names of files. -/
  filter : Option String := none
  minimalSize : Nat := 0
  /-- The time between two looks at the directories, in milliseconds. -/
  elapseMs : Nat := 1000
  /-- Whether to look into inner directories. -/
  recursive : Bool := false
  /-- Whether to dispatch files beside each other. -/
  parallel : Bool := true
  /-- How many files to dispatch beside each other; zero for any number. -/
  limitParallel : Nat := 0
  /-- Whether to only file the transfers. -/
  submitOnly : Bool := true
  observerHosts : List String := []
  /-- The time between two messages to observers, in milliseconds. -/
  elapseObserverMs : Nat := 5000
  /-- What to say about the files. -/
  fileInfo : String := noFileInfo
  /-- The size of blocks in bytes. -/
  blockSize : Nat := defaultBlockSize
  useHash : Bool := false
  /-- Whether to drop the records of transfers that ended well. -/
  noLog : Bool := false
  /-- Whether failures are only worth a warning. -/
  logAsWarn : Bool := true
deriving DecidableEq, Repr, Inhabited

namespace Job

/-- The file that marks a running spool. -/
def lockFile (j : Job) : Path :=
  j.statusFile.addExtension ".chk"

/-- Whether files are dispatched beside each other. -/
def isParallel (j : Job) : Bool :=
  j.parallel && j.limitParallel != 1

/-- How many files may be dispatched at a time. -/
def limit? (j : Job) : Option Nat :=
  if !j.isParallel then some 1
  else if 1 < j.limitParallel then some j.limitParallel
  else none

/-! ## Checks -/

/-- The fault of a job that makes no sense. -/
def invalid (j : Job) (reason : String) : SpoolFault :=
  .invalid (j.name ++ ": " ++ reason)

variable {m : Type → Type} [Monad m] [Files m]

/-- Whether a path cannot be the name of a file. -/
def isBadFile (p : Path) : m Bool := do
  if p.isEmpty then return true else Files.isDirectory p

/-- What is wrong with the filter of a job. -/
def checkFilter (j : Job) : Except SpoolFault Unit :=
  match j.filter with
  | none => .ok ()
  | some pattern =>
      match Regex.parse pattern with
      | .ok _ => .ok ()
      | .error fault => .error (.filter fault)

/-- What is wrong with the files of a job. -/
def checkFiles (j : Job) : m (Except SpoolFault Unit) := do
  if ← isBadFile j.statusFile then
    return .error (j.invalid ("bad status file " ++ j.statusFile.text))
  else if ← isBadFile j.stopFile then
    return .error (j.invalid ("bad stop file " ++ j.stopFile.text))
  else return j.checkFilter

/-- What is wrong with a job. -/
def check (j : Job) : m (Except SpoolFault Unit) :=
  if j.directories.isEmpty then return .error (j.invalid "no directory to watch")
  else if j.hosts.isEmpty then return .error (j.invalid "no destination host")
  else if j.rule == "" then return .error (j.invalid "no rule")
  else if j.elapseMs == 0 || j.elapseObserverMs == 0 then
    return .error (j.invalid "polling intervals must be positive")
  else j.checkFiles

/-! ## JSON -/

/-- The fields of a job, in order. -/
def fieldNames : List String := [
  "name", "directories", "statusFile", "stopFile", "rule", "hosts", "regex", "minimalSize",
  "elapseMs", "recursive", "parallel", "limitParallel", "submitOnly", "observerHosts",
  "elapseObserverMs", "fileInfo", "blockSize", "useHash", "noLog", "logAsWarn"]

/-- A job as an object. -/
def toJson (j : Job) : Json :=
  .object [
    ("name", .string j.name), ("directories", .list (j.directories.map Path.toJson)),
    ("statusFile", j.statusFile.toJson), ("stopFile", j.stopFile.toJson),
    ("rule", .string j.rule), ("hosts", .list (j.hosts.map .string)),
    ("regex", .ofOption .string j.filter), ("minimalSize", .ofNat j.minimalSize),
    ("elapseMs", .ofNat j.elapseMs), ("recursive", .bool j.recursive),
    ("parallel", .bool j.parallel), ("limitParallel", .ofNat j.limitParallel),
    ("submitOnly", .bool j.submitOnly),
    ("observerHosts", .list (j.observerHosts.map .string)),
    ("elapseObserverMs", .ofNat j.elapseObserverMs), ("fileInfo", .string j.fileInfo),
    ("blockSize", .ofNat j.blockSize), ("useHash", .bool j.useHash),
    ("noLog", .bool j.noLog), ("logAsWarn", .bool j.logAsWarn)]

/-- Read a job.  Its name, directories, status file, rule and hosts are required. -/
def ofJson (j : Json) : Json.Decoded Job := do
  let f ← Json.fields fieldNames j
  let name ← f.required "name" Json.toText
  let directories ← f.required "directories" (Json.toListOf Path.ofJson)
  let statusFile ← f.required "statusFile" Path.ofJson
  let stopFile ← f.withDefault "stopFile" ⟨""⟩ Path.ofJson
  let rule ← f.required "rule" Json.toText
  let hosts ← f.required "hosts" (Json.toListOf Json.toText)
  let filter ← f.optional "regex" Json.toText
  let minimalSize ← f.withDefault "minimalSize" 0 Json.toNat64
  let elapseMs ← f.withDefault "elapseMs" 1000 Json.toNat64
  let recursive ← f.withDefault "recursive" false Json.toBool
  let parallel ← f.withDefault "parallel" true Json.toBool
  let limitParallel ← f.withDefault "limitParallel" 0 Json.toNat64
  let submitOnly ← f.withDefault "submitOnly" true Json.toBool
  let observerHosts ← f.withDefault "observerHosts" [] (Json.toListOf Json.toText)
  let elapseObserverMs ← f.withDefault "elapseObserverMs" 5000 Json.toNat64
  let fileInfo ← f.withDefault "fileInfo" noFileInfo Json.toText
  let blockSize ← f.withDefault "blockSize" defaultBlockSize Json.toNat32
  let useHash ← f.withDefault "useHash" false Json.toBool
  let noLog ← f.withDefault "noLog" false Json.toBool
  let logAsWarn ← f.withDefault "logAsWarn" true Json.toBool
  return {
    name, directories, statusFile, stopFile, rule, hosts, filter, minimalSize, elapseMs
    recursive, parallel, limitParallel, submitOnly, observerHosts, elapseObserverMs, fileInfo
    blockSize, useHash, noLog, logAsWarn }

end Job

end Courier
