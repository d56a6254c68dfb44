import Courier.Delivery.Inquiry
import Courier.Delivery.Transfer

/-!
# Interventions

Canceling, stopping and restarting a transfer that a partner takes part in.  The record is
looked up in the ledger first.  When it is missing there, the partner's copy is fetched and
adopted.

Main definitions:

- `Intervention.cancel`, `Intervention.stop` and `Intervention.restart` are the
  interventions.
- `Intervention.Parties` are both ends of the transfer; `Parties.peer` is the end that is not
  this host.
- `Intervention.locate` finds or adopts the record.
-/

namespace Courier.Intervention

open Calendar

/-! ## Parties -/

/-- Both ends of a transfer. -/
structure Parties where
  requested : Partner
  requester : Partner
  requesterIsLocal : Bool
deriving DecidableEq, Repr

namespace Parties

/-- The key of a transfer between the two. -/
def key (p : Parties) (specialId : Int) : Record.Key :=
  ⟨specialId, p.requester.hostId, p.requested.hostId⟩

/-- The end that is not this host. -/
def peer (p : Parties) : Partner :=
  if p.requesterIsLocal then p.requested else p.requester

end Parties

/-- The entry of a host.  This host need not be listed; it then only opens sessions. -/
def entryOf (hosts : Directory) (hostId : String) : Except TransferFault Partner :=
  match hosts.lookup hostId with
  | .ok partner => .ok partner
  | .error fault => if hosts.isLocal hostId then .ok (.clientOnly hostId) else .error fault

/-- Both ends of a transfer from their names. -/
def resolve (hosts : Directory) (requested requester : String) : Except Outcome Parties :=
  let requestedId := hosts.resolve requested
  let requesterId := hosts.resolve requester
  match entryOf hosts requestedId with
  | .error fault => .error (.failed .connectionImpossible fault.message none)
  | .ok requested =>
      match entryOf hosts requesterId with
      | .error fault => .error (.failed .internal fault.message none)
      | .ok requester => .ok ⟨requested, requester, hosts.isLocal requesterId⟩

/-! ## Records -/

/-- An outcome of this side having failed. -/
def internal (cause : String) (record : Option Record) : Outcome :=
  .failed .internal cause record

/-- Take over a record that a partner described. -/
def adopt (key : Record.Key) (record : Record) : Program (Except Outcome Record) := do
  if record.key ≠ key then
    return .error (internal
      ("partner described " ++ record.key.text ++ " instead of " ++ key.text) none)
  else if record.isAllDone then
    return .error (internal ("remote transfer " ++ key.text ++ " is already done") (some record))
  else
    let now ← Program.now
    let record := record.setToSubmit now
    match ← Program.ledger (.insert record) with
    | .ok () => return .ok record
    | .error fault => return .error (internal fault.message (some record))

/-- Find the record of a transfer, here or at the other end. -/
def locate (ctx : Context) (key : Record.Key) (peer : Partner) :
    Program (Except Outcome Record) := do
  match ← Program.ledger (.load key) with
  | some record => return .ok record
  | none =>
      if peer.isClientOnly then
        return .error (internal
          ("no local transfer " ++ key.text ++ " and " ++ peer.hostId ++ " cannot be queried")
          none)
      else
        match ← Inquiry.describe ctx peer.hostId key with
        | .error fault =>
            return .error (internal
              ("cannot describe transfer " ++ key.text ++ ": " ++ fault.message) none)
        | .ok record => adopt key record

/-- Find both ends and the record of a transfer. -/
def find (ctx : Context) (specialId : Int) (requested requester : String) :
    Program (Except Outcome (Parties × Record)) := do
  match resolve ctx.hosts requested requester with
  | .error outcome => return .error outcome
  | .ok parties =>
      match ← locate ctx (parties.key specialId) parties.peer with
      | .error outcome => return .error outcome
      | .ok record => return .ok (parties, record)

/-- The command about a transfer in the form that a partner understands. -/
def packet (kind : ControlKind) (key : Record.Key) (time : Option Timestamp)
    (partner : Partner) : Packet :=
  .control kind
    (.encode (.about key.requested key.requester key.specialId time) partner.useJson)

/-- An outcome for a transfer that had ended before. -/
def alreadyFinished (code : ResultCode) (record : Record) : Outcome :=
  (Outcome.succeeded code (some record)).withCause "transfer already finished"

/-! ## Cancel and stop -/

/-- The two ways to break a transfer off. -/
inductive Interrupt where
  | cancel
  | stop
deriving DecidableEq, Repr

namespace Interrupt

/-- The kind of command. -/
def kind : Interrupt → ControlKind
  | cancel => .cancel
  | stop => .stop

/-- The code of a transfer that was broken off. -/
def code : Interrupt → ResultCode
  | cancel => .canceledTransfer
  | stop => .stoppedTransfer

/-- The record of a transfer that was broken off. -/
def mark : Interrupt → Record → Moment → Record
  | cancel, record, now =>
      record.setInError .canceledTransfer (some "canceled on request") now
  | stop, record, now => record.setInterrupted .stoppedTransfer now

end Interrupt

/-- Mark the record of a transfer that was broken off and file it. -/
def breakOff (action : Interrupt) (record : Record) : Program Record := do
  let now ← Program.now
  let record := action.mark record now
  Delivery.save record
  return record

/-- What the answer to the command means. -/
def interpretInterrupt (action : Interrupt) (record : Record) (answer : Answer) :
    Program Outcome := do
  if answer.code = .completeOk then
    let record ← breakOff action record
    return .succeeded .completeOk (some record)
  else if answer.code = .transferOk then return alreadyFinished .transferOk record
  else return internal ("unexpected answer: " ++ answer.code.text) (some record)

/-- Break a transfer off. -/
def interrupt (ctx : Context) (action : Interrupt) (specialId : Int)
    (requested requester : String) : Program Outcome := do
  match ← find ctx specialId requested requester with
  | .error outcome => return outcome
  | .ok (parties, record) =>
      let peer := parties.peer
      if record.isAllDone then return alreadyFinished .transferOk record
      else if peer.isClientOnly then
        let record ← breakOff action record
        return (Outcome.succeeded action.code (some record)).withCause
          (peer.hostId ++ " is client-only, local record marked")
      else
        let command := packet action.kind (parties.key specialId) none peer
        match ← Connection.exchange ctx.policy peer command with
        | .error fault => return .failed fault.code fault.message (some record)
        | .ok answer => interpretInterrupt action record answer

/-- Cancel a transfer. -/
def cancel (ctx : Context) (specialId : Int) (requested requester : String) :
    Program Outcome :=
  interrupt ctx .cancel specialId requested requester

/-- Stop a transfer. -/
def stop (ctx : Context) (specialId : Int) (requested requester : String) : Program Outcome :=
  interrupt ctx .stop specialId requested requester

/-! ## Restart -/

/-- Whether an answer to a restart means that it was understood. -/
def isRestartAnswer : ResultCode → Bool
  | .queryStillRunning | .running | .preProcessingOk | .completeOk | .remoteError
  | .passThroughMode => true
  | _ => false

/-- What the answer to a restart means. -/
def interpretRestart (record : Record) (answer : Answer) : Outcome :=
  if isRestartAnswer answer.code then
    let outcome := Outcome.succeeded answer.code (some record)
    match answer.message with
    | some message => outcome.withCause message
    | none => outcome
  else internal ("unexpected answer to restart: " ++ answer.code.text) (some record)

/-- The order that runs a filed transfer again, not before a time that the clocks of a zone
show.  A time that they never show is left out. -/
def restartForm (zone : Zone) (record : Record) (time : Option Timestamp) : Order.Form :=
  { partner := record.key.requested
    fixedId := some record.specialId
    startTime := time.bind zone.first? }

/-- Run a filed transfer again from here. -/
def restartLocally (ctx : Context) (record : Record) (time : Option Timestamp) :
    Program Outcome := do
  match (restartForm ctx.hosts.zone record time).complete ctx.hosts with
  | .error fault => return internal fault.message (some record)
  | .ok order =>
      let outcome ← Delivery.run ctx order
      if outcome.success then return .succeeded .preProcessingOk outcome.record
      else return outcome

/-- Restart a transfer, perhaps at a later time.  A requester that only opens sessions cannot
be asked; when it is this host, the transfer is run from here. -/
def restart (ctx : Context) (specialId : Int) (requested requester : String)
    (time : Option Timestamp) : Program Outcome := do
  match ← find ctx specialId requested requester with
  | .error outcome => return outcome
  | .ok (parties, record) =>
      let key := parties.key specialId
      if record.isAllDone then return alreadyFinished .completeOk record
      else if parties.requester.isClientOnly then
        if parties.requesterIsLocal then restartLocally ctx record time
        else
          return .failed .connectionImpossible
            (key.requester ++ " is client-only and cannot be asked to restart") (some record)
      else
        let command := packet .restart key time parties.requester
        match ← Connection.exchange ctx.policy parties.requester command with
        | .error fault => return .failed fault.code fault.message (some record)
        | .ok answer => return interpretRestart record answer

end Courier.Intervention
