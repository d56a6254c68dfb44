import Courier.Session.Connection
import Courier.Spool.Monitor

/-!
# Bulletins

The messages of a spool to its observers.  They are made from the monitor first and sent
then, so that the monitor can go on while they are on their way, and what became of them is
noted last.

Main definitions:

- `Bulletin` is a message for one observer with the items that it was made from.
- `Bulletin.prepare`, `Bulletin.sendAll` and `Bulletin.apply` are the three steps.
-/

namespace Courier

open Calendar

/-- A message for an observer, before it is sent. -/
structure Bulletin where
  observer : String
  summary : Summary
  /-- The items that it was made from. -/
  items : Items
deriving DecidableEq, Repr, Inhabited

/-- What became of a message. -/
structure Bulletin.Receipt where
  observer : String
  /-- The items that the message was made from. -/
  items : Items
  delivered : Bool
deriving DecidableEq, Repr, Inhabited

namespace Bulletin

/-- The task that messages are sent to. -/
def task : String := "spooled-inform"

/-- What an observer answers that wants a full message. -/
def needFull : String := "needfull"

/-- The messages for some observers. -/
def prepare (observers : List String) (m : Monitor) (now : Moment) : List Bulletin :=
  observers.map fun observer => ⟨observer, m.summaryFor observer now, m.items⟩

/-- Whether a text asks for a full message. -/
def isNeedFull (text : String) : Bool :=
  (Text.trim text).toLower == needFull

/-- Whether an answer asks for a full message. -/
def asksForFull (answer : Answer) : Bool :=
  answer.payload.any isNeedFull || answer.message.any isNeedFull

/-- Whether an answer means that the message was accepted. -/
def isAccepted (answer : Answer) : Bool :=
  answer.code.isOkStep && !asksForFull answer

/-- Send a message. -/
def deliver (ctx : Context) (b : Bulletin) : Program Bool := do
  match ctx.hosts.lookup b.observer with
  | .error _ => return false
  | .ok partner =>
      let request : BusinessRequest := ⟨task, b.summary.toJson.compact⟩
      match ← Connection.exchange ctx.policy partner (.business request) with
      | .error _ => return false
      | .ok answer => return isAccepted answer

/-- Send messages one after the other. -/
def sendAll (ctx : Context) : List Bulletin → Program (List Receipt)
  | [] => return []
  | b :: rest => do
      let delivered ← deliver ctx b
      let others ← sendAll ctx rest
      return ⟨b.observer, b.items, delivered⟩ :: others

/-- Note what became of a message. -/
def applyOne (m : Monitor) (r : Receipt) : Monitor :=
  if r.delivered then m.markDelivered r.observer r.items else m.forceFull r.observer

/-- Note what became of messages. -/
def apply (m : Monitor) (receipts : List Receipt) : Monitor :=
  receipts.foldl applyOne m

end Bulletin

end Courier
