import Courier.Delivery.Preparation
import Courier.Session.Connection

/-!
# Carrying out a transfer

A transfer from its order to its end: prepare the record, open a session with a bounded
number of attempts, wait until the transport reports, and leave the record in a terminal
state.

Main definitions:

- `Delivery.run` carries out an order, `Delivery.submit` only files it.
- `Delivery.connect` opens the session of a transfer: a partner that is not there yet uses up
  an attempt, a busy one is waited for and counted on its own, any other refusal ends the
  transfer.
- `Delivery.conclude` ends a transfer well, `Delivery.terminate` ends it in error.
-/

namespace Courier.Delivery

/-! ## Ends -/

/-- File a changed record.  A failure to do so changes nothing else. -/
def save (record : Record) : Program Unit := do
  let _ ← Program.ledger (.update record)

/-- Take the record out of the ledger. -/
def discard (record : Record) : Program Unit := do
  let _ ← Program.ledger (.delete record.key)

/-- Mark a record in error, file it and report the failure.  A record that is done stays as
it is. -/
def finalizeInError (record : Record) (code : ResultCode) (cause : String) :
    Program Record := do
  if record.isAllDone then return record
  else
    let now ← Program.now
    let record := record.setInError code (some cause) now
    save record
    Program.perform (.reportFailure record)
    return record

/-- End a transfer in error.  The record is dropped when it is not meant to be kept. -/
def terminate (p : Prepared) (code : ResultCode) (cause : String) : Program Outcome := do
  let record ← finalizeInError p.record code cause
  if p.noLog || record.ignoreSave then discard record
  return .failed code cause (some record)

/-- The record with a block acknowledged, unless its rank would go backwards. -/
def acknowledge (record : Record) : Option Nat → Program Record
  | none => return record
  | some rank => do
      let now ← Program.now
      match record.advanceRank rank now with
      | .ok record => return record
      | .error _ => return record

/-- End a transfer well. -/
def conclude (p : Prepared) (rank : Option Nat) : Program Outcome := do
  let record ← acknowledge p.record rank
  let now ← Program.now
  let record := record.setDone now
  save record
  if p.noLog then discard record
  return .succeeded .completeOk (some record)

/-! ## Sessions -/

/-- A session was opened for the transfer. -/
def started (p : Prepared) : Program Prepared := do
  let now ← Program.now
  let record := p.record.setRunning now
  save record
  return { p with record }

/-- The partner is too busy: note it in the record, unless the record is terminal. -/
def noteOverload (p : Prepared) : Program Prepared := do
  if p.record.isTerminal then return p
  else
    let now ← Program.now
    let record := p.record.setInError .serverOverloaded (some "partner overloaded") now
    save record
    return { p with record }

/-- The cause of giving up a partner that stays too busy. -/
def overloadedCause (policy : Policy) : String :=
  "partner still overloaded after " ++ toString policy.overloadRetryLimit ++ " retries"

/-- The cause of giving up a partner that does not appear. -/
def unreachedCause (policy : Policy) (reason : String) : String :=
  "no connection after " ++ toString policy.attempts ++ " attempt(s): " ++ reason

/-- Try a partner with some attempts and some patience for overloads left; `reason` is why
it was not reached the last time.  The patience goes down from the limit, without a width: a
count of 32 bits that goes up to the limit comes to the same unless it runs over. -/
def tryConnect (policy : Policy) (through : Through) (p : Prepared) (reason : String)
    (attempts overloads : Nat) : Program (Except Outcome (Session × Prepared)) :=
  match attempts with
  | 0 => do
      let outcome ← terminate p .connectionImpossible (unreachedCause policy reason)
      return .error outcome
  | left + 1 => do
      match ← Program.perform (.connect ⟨p.partner, some p.record, through⟩) with
      | .connected session => do
          let p ← started p
          return .ok (session, p)
      | .pending reason => do
          if left ≠ 0 then
            let delay ← Connection.reconnectDelay policy (policy.attempts - left)
            Program.sleep delay
          tryConnect policy through p reason left overloads
      | .overloaded => do
          let p ← noteOverload p
          match overloads with
          | 0 => do
              let outcome ← terminate p .connectionImpossible (overloadedCause policy)
              return .error outcome
          | overloads + 1 => do
              Program.sleep policy.overloadBackoff
              tryConnect policy through p reason (left + 1) overloads
      | .fatal code message => do
          let outcome ← terminate p code message
          return .error outcome
termination_by attempts + overloads

/-- Open the session of a transfer. -/
def connect (policy : Policy) (through : Through) (p : Prepared) :
    Program (Except Outcome (Session × Prepared)) :=
  tryConnect policy through p "no attempt made" policy.attempts policy.overloadRetryLimit

/-- Wait for the end of a transfer, close its session and end it. -/
def finish (policy : Policy) (session : Session) (p : Prepared) : Program Outcome := do
  let completion ← Program.perform (.complete session policy.completionTimeout)
  Program.close session
  match completion with
  | .ok completion =>
      if completion.success then conclude p completion.rank
      else terminate p completion.code completion.cause
  | .error fault => terminate p fault.code fault.message

/-! ## Orders -/

/-- Carry out an order over a session of a kind. -/
def carryOut (ctx : Context) (order : Order) (kind : Preparation.Kind) (through : Through) :
    Program Outcome := do
  match ← Preparation.prepare ctx order kind with
  | .error outcome => return outcome
  | .ok p =>
      match ← connect ctx.policy through p with
      | .error outcome => return outcome
      | .ok (session, p) => finish ctx.policy session p

/-- Carry out an order. -/
def run (ctx : Context) (order : Order) : Program Outcome :=
  carryOut ctx order .direct .none

/-- File an order for someone else to pick up. -/
def submit (ctx : Context) (order : Order) : Program Outcome := do
  match ← Preparation.prepare ctx order .submit with
  | .error outcome => return outcome
  | .ok p => return .succeeded .initOk (some p.record)

end Courier.Delivery
