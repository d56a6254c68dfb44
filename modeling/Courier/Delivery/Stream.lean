import Courier.Delivery.Transfer

/-!
# Streams

Transfers whose bytes the caller produces or consumes.  A sender is driven step by step:
open, then a block and its sending for each piece, then the end.  A receiver is one program;
whoever runs it hands the blocks over.  No record of a stream that failed is kept.

Main definitions:

- `Stream.Sender` is the state of a sender.  `Sender.initiate`, `Sender.block`,
  `Sender.write`, `Sender.finalize` and `Sender.giveUp` are its steps.
- `Stream.receive` carries out an order whose blocks go to the caller.
-/

namespace Courier.Stream

/-! ## Senders -/

/-- A stream that is being sent. -/
structure Active where
  session : Session
  prepared : Prepared
  /-- The number of the next block. -/
  nextRank : Nat
  /-- Whether the block that ends the stream was sent. -/
  ended : Bool
deriving DecidableEq, Repr

/-- The sender of a stream. -/
structure Sender where
  order : Order
  /-- The stream, while it is being sent. -/
  active : Option Active := none
  /-- Whether the stream ended or failed. -/
  finished : Bool := false
deriving DecidableEq, Repr

namespace Sender

/-- The outcome of a step that needs a stream where there is none. -/
def notInitiated : Outcome :=
  .failed .internal "send-through transfer not initiated" none

/-- The fault of a step that needs a stream where there is none. -/
def notActive : SessionFault :=
  .notConnected "send-through transfer not initiated"

/-- A sender cannot be run as a whole, because the caller sets the pace of its blocks. -/
def run : Outcome :=
  .failed .internal "run() is not available on a send-through transfer" none

/-- Prepare the transfer and open its session. -/
def initiate (ctx : Context) (s : Sender) : Program (Except Outcome Unit × Sender) := do
  if s.active.isSome || s.finished then
    return (.error (.failed .internal "send-through transfer already initiated" none), s)
  else
    match ← Preparation.prepare ctx s.order .sendThrough with
    | .error outcome => return (.error outcome, s)
    | .ok prepared =>
        match ← Delivery.connect ctx.policy .send prepared with
        | .error outcome => return (.error outcome, { s with finished := true })
        | .ok (session, prepared) =>
            let active := { session, prepared, nextRank := prepared.record.rank, ended := false }
            return (.ok (), { s with active := some active })

/-- The next block: of some bytes, or the empty one that ends the stream. -/
def block (s : Sender) (data : Option ByteArray) : Except SessionFault Block × Sender :=
  match s.active with
  | none => (.error notActive, s)
  | some a =>
      let block := match data with
        | none => Block.endOfFile a.nextRank
        | some bytes => Block.ofBytes a.nextRank bytes a.prepared.record.mode.hasHash
      (.ok block, { s with active := some { a with nextRank := a.nextRank + 1 } })

/-- Send a block once the session takes more. -/
def sendBlock (session : Session) (block : Block) : Program (Except SessionFault Unit) := do
  match ← Program.perform (.writable session) with
  | .error fault => return .error fault
  | .ok () => Program.send session (.data block)

/-- Send a block of the stream. -/
def write (s : Sender) (block : Block) : Program (Except SessionFault Unit × Sender) := do
  match s.active with
  | none => return (.error notActive, s)
  | some a =>
      match ← sendBlock a.session block with
      | .error fault => return (.error fault, s)
      | .ok () =>
          return (.ok (), { s with active := some { a with ended := a.ended || block.eof } })

/-- Tell the partner that the stream failed, close the session and end the transfer. -/
def abort (a : Active) (code : ResultCode) (cause : String) : Program Outcome := do
  let _ ← Program.send a.session (.error .transferError cause)
  Program.close a.session
  Delivery.terminate a.prepared code cause

/-- Send the block that ends the stream, unless the caller did. -/
def ensureEnd (a : Active) : Program (Except SessionFault Active) := do
  if a.ended then return .ok a
  else
    match ← sendBlock a.session (.endOfFile a.nextRank) with
    | .error fault => return .error fault
    | .ok () => return .ok { a with nextRank := a.nextRank + 1 }

/-- Close a transfer that the transport reported to have gone well. -/
def acknowledge (a : Active) (lastRank : Nat) (completion : Completion) : Program Outcome := do
  match ← Program.send a.session (.endRequest .completeOk) with
  | .error fault => abort a fault.code fault.message
  | .ok () =>
      Program.close a.session
      Delivery.conclude a.prepared (some (completion.rank.getD lastRank))

/-- End a stream: announce its last block, wait for the report and close the transfer. -/
def conclude (ctx : Context) (a : Active) : Program Outcome := do
  let lastRank := a.nextRank - 1
  match ← Program.send a.session (.endTransfer lastRank) with
  | .error fault => abort a fault.code fault.message
  | .ok () =>
      match ← Program.perform (.complete a.session ctx.policy.completionTimeout) with
      | .error fault => abort a fault.code fault.message
      | .ok completion =>
          if completion.success then acknowledge a lastRank completion
          else abort a completion.code completion.cause

/-- End the stream. -/
def finalize (ctx : Context) (s : Sender) : Program (Outcome × Sender) := do
  match s.active with
  | none => return (notInitiated, s)
  | some a =>
      let closed := { s with active := none, finished := true }
      match ← ensureEnd a with
      | .error fault =>
          let outcome ← abort a fault.code fault.message
          return (outcome, closed)
      | .ok a =>
          let outcome ← conclude ctx a
          return (outcome, closed)

/-- Give the stream up. -/
def giveUp (s : Sender) (cause : String) : Program (Outcome × Sender) := do
  match s.active with
  | none => return (notInitiated, s)
  | some a =>
      let outcome ← abort a .transferError cause
      return (outcome, { s with active := none, finished := true })

end Sender

/-! ## Receivers -/

/-- Carry out an order whose blocks go to the caller. -/
def receive (ctx : Context) (order : Order) : Program Outcome :=
  Delivery.carryOut ctx order .recvThrough .receive

end Courier.Stream
