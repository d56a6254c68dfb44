import Courier.Session.Program

/-!
# Sessions for single requests

A session that is opened for one request and closed after its answer.

Main definitions:

- `Connection.openSession` tries a partner up to the bound; a busy partner uses up attempts
  like one that is not there yet.
- `Connection.exchange` sends one packet and returns its answer.
-/

namespace Courier.Connection

/-- The delay after an attempt, varied by the clock. -/
def reconnectDelay (policy : Policy) (attempt : Nat) : Program Calendar.Span := do
  let fraction ← Program.perform .clockFraction
  return policy.reconnect.delay attempt fraction

/-- Why a partner was given up. -/
def givenUp (partner : Partner) (attempts : Nat) (reason : String) : SessionFault :=
  .connect .connectionImpossible
    ("no connection to " ++ partner.hostId ++ " after " ++ toString attempts ++
      " attempt(s): " ++ reason)

/-- Try a partner `left` more times; `reason` is why it was not reached the last time. -/
def tryOpen (policy : Policy) (partner : Partner) :
    Nat → String → Program (Except SessionFault Session)
  | 0, reason => return .error (givenUp partner policy.attempts reason)
  | left + 1, _ => do
      let attempt := policy.attempts - left
      match ← Program.perform (.connect ⟨partner, none, .none⟩) with
      | .connected session => return .ok session
      | .fatal code message => return .error (.connect code message)
      | .pending reason =>
          if left ≠ 0 then
            let delay ← reconnectDelay policy attempt
            Program.sleep delay
          tryOpen policy partner left reason
      | .overloaded =>
          if left ≠ 0 then Program.sleep policy.overloadBackoff
          tryOpen policy partner left "partner overloaded"

/-- Open a session for single requests. -/
def openSession (policy : Policy) (partner : Partner) :
    Program (Except SessionFault Session) :=
  tryOpen policy partner policy.attempts "no attempt made"

/-- Send a packet to a partner and wait for its answer. -/
def exchange (policy : Policy) (partner : Partner) (packet : Packet) :
    Program (Except SessionFault Answer) := do
  match ← openSession policy partner with
  | .error fault => return .error fault
  | .ok session =>
      let answer ← Program.perform (.ask session packet policy.requestTimeout)
      Program.close session
      return answer

end Courier.Connection
