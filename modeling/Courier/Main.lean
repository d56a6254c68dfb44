import Courier.Spool.Service
import Courier.Spool.Watch
import Std.Time.DateTime.Timestamp

/-!
# The service program

Runs the spools of a configuration file until each of them has ended:
the file that stops a spool ends it.

No network belongs to this program.  Transfers that are only filed work without one, and all
others fail because their partner cannot be reached.  So no task ever waits for a partner, and
every task is run to its end as soon as it begins.

Main definitions:

- `Service.answer` answers the requests of programs from the disk, the clock and the ledger.
- `Service.watchAll` runs watches until they have ended.
- `main` is the program.
-/

namespace Courier

open Calendar

/-! ## Files -/

/-- What a failed operation means. -/
def FileFault.ofError (e : IO.Error) : FileFault :=
  match e with
  | .noFileOrDirectory _ _ _ => .notFound
  | .alreadyExists _ _ _ => .alreadyExists
  | e => .other (toString e)

/-- An operation that may fail. -/
def attempt {α : Type} (act : IO α) : IO (Except FileFault α) := do
  match ← act.toBaseIO with
  | .ok a => return .ok a
  | .error e => return .error (.ofError e)

/-- What is known of a file. -/
def Metadata.ofDisk (m : IO.FS.Metadata) : Metadata where
  kind := match m.type with
    | .file => .file
    | .dir => .directory
    | .symlink => .link
    | .other => .other
  size := m.byteSize.toNat
  modified := m.modified.sec * 1000 + (m.modified.nsec.toNat / 1000000 : Nat)

/-- The entries of a directory on the disk. -/
def diskEntries (p : Path) : IO (List DirectoryEntry) := do
  let found ← ((← IO.currentDir) / p.text).readDir
  found.toList.mapM fun e => do
    let info ← attempt e.path.symlinkMetadata
    return ⟨e.fileName, info.map Metadata.ofDisk⟩

/-- What a path leads to on the disk; an empty one leads nowhere. -/
def diskMetadata (p : Path) : IO (Except FileFault Metadata) :=
  if p.isEmpty then return .error .notFound
  else attempt do return .ofDisk (← ((← IO.currentDir) / p.text).metadata)

/-- Perform an operation on the disk. -/
def performOnDisk : (op : FileOp) → IO op.Answer
  | .metadata p => diskMetadata p
  | .entries p => attempt (diskEntries p)
  | .read p => attempt (IO.FS.readBinFile p.text)
  | .write p content => attempt (IO.FS.writeBinFile p.text content)
  | .makeDirectories p => attempt (IO.FS.createDirAll p.text)
  | .rename source target => attempt (IO.FS.rename source.text target.text)
  | .remove p => attempt (IO.FS.removeFile p.text)

instance : Files IO where
  perform := performOnDisk

/-! ## Requests -/

namespace Service

/-- The time by the clock. -/
def readClock : IO Moment := do
  let now ← Std.Time.Timestamp.now
  return .ofEpochNanos now.toNanosecondsSinceUnixEpoch.val

/-- Milliseconds by a clock that is never set back. -/
def readTimer : IO Nat :=
  IO.monoMsNow

/-- Wait for some milliseconds. -/
def pause (millis : Nat) : IO Unit :=
  IO.sleep (min millis 4294967295).toUInt32

/-- Answer a request. -/
def answer (store : IO.Ref Store) : (r : Request) → IO r.Answer
  | .now => readClock
  | .clockFraction => return (← readClock).utc.time.fraction
  | .files op => performOnDisk op
  | .ledger op => do
      let (answer, changed) ← (← store.get).perform op
      store.set changed
      return answer
  | .reportFailure _ => return ()
  | .reportProgress _ => return ()
  | .tally _ => return ()
  | .sleep s => pause s.ticks
  | .connect c =>
      return .fatal .connectionImpossible ("no transport attached to reach " ++ c.partner.hostId)
  | .send _ _ _ => return .error .closed
  | .writable _ => return .error .closed
  | .complete _ _ => return .error .closed
  | .ask _ _ _ => return .error .closed
  | .close _ => return ()

/-- Run a program. -/
def run {α : Type} (store : IO.Ref Store) (p : Program α) : IO α :=
  p.runM (answer store)

/-! ## Watches -/

/-- Run a task to its end. -/
def runTask (ctx : Context) (store : IO.Ref Store) (job : Job) (id : Nat) :
    Watch.Task → IO Watch.Event
  | .dispatch item => return .dispatched id (← run store (Dispatch.run ctx job item))
  | .inform bulletins => return .informed id (← run store (Bulletin.sendAll ctx bulletins))

/-- Run the tasks that a watch started, and those that follow from them. -/
partial def settle (ctx : Context) (store : IO.Ref Store) : Watch.Change → IO Watch
  | (w, []) => return w
  | (w, (id, task) :: rest) => do
      let event ← runTask ctx store w.job id task
      let (w, more) ← run store (w.handle (← readTimer) event)
      settle ctx store (w, rest ++ more)

/-- Go on with a watch whose time has come. -/
def goOn (ctx : Context) (store : IO.Ref Store) (w : Watch) : IO Watch := do
  let now ← readTimer
  match w.due? with
  | some (time, event) =>
      if time ≤ now then settle ctx store (← run store (w.handle now event)) else return w
  | none => return w

/-- Run watches until they have ended. -/
partial def watchAll (ctx : Context) (store : IO.Ref Store) (watches : List Watch) :
    IO (List Watch) := do
  let watches ← watches.mapM (goOn ctx store)
  match (watches.filterMap fun w => w.due?.map Prod.fst).min? with
  | none => return watches
  | some next =>
      pause (next - (← readTimer))
      watchAll ctx store watches

/-- Begin a watch: the watch, or the outcome of one that ended before it began. -/
def begin (ctx : Context) (store : IO.Ref Store) (job : Job) : IO (Except Outcome Watch) := do
  match ← run store (Watch.start ctx job (← readTimer)) with
  | .error outcome => return .error outcome
  | .ok change => return .ok (← settle ctx store change)

/-- The watches among those that were begun. -/
def begun : Except Outcome Watch → Option Watch
  | .ok w => some w
  | .error _ => none

/-- The outcomes in the order of the jobs, given the watches that have ended. -/
def outcomesOf : List (Except Outcome Watch) → List Watch → List Outcome
  | [], _ => []
  | .error outcome :: rest, ended => outcome :: outcomesOf rest ended
  | .ok _ :: rest, w :: ended => w.outcome?.toList ++ outcomesOf rest ended
  | .ok _ :: rest, [] => outcomesOf rest []

/-- Run all jobs and give the status at the end. -/
def serve (s : Service) : IO Nat := do
  let store ← IO.mkRef s.store
  let watches ← s.configuration.jobs.mapM (begin s.context store)
  let ended ← watchAll s.context store (watches.filterMap begun)
  return exitStatus (outcomesOf watches ended)

/-- The name of this machine. -/
def machineName : IO String := do
  match ← attempt (IO.FS.readFile "/etc/hostname") with
  | .ok text => return Text.trim text
  | .error _ => return "localhost"

end Service

end Courier

open Courier in
/-- Run the spools of the configuration file that the argument names. -/
def main (arguments : List String) : IO UInt32 := do
  match ← Service.prepare (← Service.machineName) arguments with
  | .error status =>
      if arguments.isEmpty then IO.eprintln "usage: courier <config.json>"
      return status.toUInt32
  | .ok service => return (← service.serve).toUInt32
