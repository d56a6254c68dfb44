import Courier.Delivery.Intervention
import Courier.Spool.Item
import Courier.Spool.Job

/-!
# Dispatches

Sending one file of a spool to all hosts of its job.

Main definitions:

- `Dispatch.run` dispatches an item, and `Dispatch.Result` is what becomes of it.
-/

namespace Courier.Dispatch

open Calendar

/-- What became of a dispatch. -/
structure Result where
  path : Path
  /-- Whether it went to all hosts. -/
  success : Bool
  /-- The number of its last transfer. -/
  specialId : Option Int
deriving DecidableEq, Repr, Inhabited

/-- The order for a file, perhaps for a transfer that is known already. -/
def form (job : Job) (host file : String) (fixedId : Option Int) : Order.Form :=
  Order.Form.withBlockSize
    { partner := host
      rule := some job.rule
      filename := some file
      fileInfo := some job.fileInfo
      useHash := job.useHash
      fixedId := fixedId
      noLog := job.noLog
      logAsWarn := job.logAsWarn } job.blockSize

/-- Carry out the order for a file. -/
def carryOut (ctx : Context) (job : Job) (host file : String) (fixedId : Option Int)
    (act : Context → Order → Program Outcome) : Program Outcome :=
  match (form job host file fixedId).complete ctx.hosts with
  | .error fault => return .failed .internal fault.message none
  | .ok order => act ctx order

/-- Transfer a file by a new transfer. -/
def runFresh (ctx : Context) (job : Job) (host file : String) : Program Outcome :=
  carryOut ctx job host file none Delivery.run

/-- Whether a filed transfer could not be used again, so that a new one is wanted. -/
def wantsFresh (o : Outcome) : Bool :=
  !o.success && (o.code == .queryRemotelyUnknown || o.code == .queryAlreadyFinished)

/-- File the transfer of a file.  A known one is filed again unless it is gone or done. -/
def submit (ctx : Context) (job : Job) (host file : String) (knownId : Option Int) :
    Program Outcome :=
  match knownId with
  | none => carryOut ctx job host file none Delivery.submit
  | some id => do
      let outcome ← carryOut ctx job host file (some id) Delivery.submit
      if wantsFresh outcome then carryOut ctx job host file none Delivery.submit
      else return outcome

/-- Transfer a file that was transferred before: restart the known transfer, or cancel it
and begin a new one. -/
def resubmit (ctx : Context) (job : Job) (host file : String) (specialId : Int) :
    Program Outcome := do
  match ctx.hosts.lookup (ctx.hosts.resolve host) with
  | .error _ => runFresh ctx job host file
  | .ok partner =>
      let requester := ctx.hosts.localId partner.useTls
      let restarted ← Intervention.restart ctx specialId host requester none
      if restarted.success then return restarted
      else
        let _ ← Intervention.cancel ctx specialId host requester
        runFresh ctx job host file

/-- Send a file to a host. -/
def sendTo (ctx : Context) (job : Job) (file : String) (knownId : Option Int)
    (host : String) : Program Outcome :=
  if job.submitOnly then submit ctx job host file knownId
  else
    match knownId with
    | some id => resubmit ctx job host file id
    | none => runFresh ctx job host file

/-- Send a file to hosts one after the other, adding to the result so far. -/
def sendToAll (ctx : Context) (job : Job) (file : String) (knownId : Option Int) :
    List String → Result → Program Result
  | [], result => return result
  | host :: rest, result => do
      let outcome ← sendTo ctx job file knownId host
      Program.perform (.tally outcome.success)
      sendToAll ctx job file knownId rest
        { result with
          success := result.success && outcome.success
          specialId := outcome.specialId.or result.specialId }

/-- Dispatch an item.  A number names a transfer with a single host only, so it is of use
only when there is one. -/
def run (ctx : Context) (job : Job) (item : Item) : Program Result :=
  let knownId := if job.hosts.length = 1 then item.specialId else none
  sendToAll ctx job item.path.text knownId job.hosts ⟨item.path, true, none⟩

end Courier.Dispatch
