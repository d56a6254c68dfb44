import Courier.Session.Connection

/-!
# Questions to partners

Questions that change nothing: a partner's record of a transfer, and the files that it would
send under a rule.

Main definitions:

- `Inquiry.describe` asks for a record, `Inquiry.listFiles` for names of files.
-/

namespace Courier.Inquiry

/-- The answer, when its code says that all went well. -/
def accepted (answer : Answer) : Except SessionFault Answer :=
  if answer.code.isOkStep then .ok answer
  else .error (.remote answer.code (answer.message.getD answer.code.message))

/-- Ask a host a question. -/
def ask (ctx : Context) (hostId : String) (query : Query) :
    Program (Except SessionFault Answer) := do
  match ctx.hosts.lookup hostId with
  | .error fault => return .error (.transfer fault)
  | .ok partner =>
      match ← Connection.exchange ctx.policy partner (.information query) with
      | .error fault => return .error fault
      | .ok answer => return accepted answer

/-- The record in an answer. -/
def recordOf (answer : Answer) : Except SessionFault Record :=
  match Json.decode Record.ofJson (answer.payload.getD "") with
  | .ok record => .ok record
  | .error fault => .error (.json fault)

/-- Ask a host for its record of a transfer. -/
def describe (ctx : Context) (hostId : String) (key : Record.Key) :
    Program (Except SessionFault Record) := do
  match ← ask ctx hostId (.describeTransfer key.specialId key.requester key.requested) with
  | .error fault => return .error fault
  | .ok answer => return recordOf answer

/-- The names in an answer, one on each line. -/
def namesOf (answer : Answer) : List String :=
  ((Text.lines (answer.payload.getD "")).map Text.trim).filter fun name => name != ""

/-- Ask a host which files match a pattern under a rule. -/
def listFiles (ctx : Context) (hostId rule pattern : String) :
    Program (Except SessionFault (List String)) := do
  match ← ask ctx hostId (.listFiles rule pattern) with
  | .error fault => return .error fault
  | .ok answer => return .ok (namesOf answer)

end Courier.Inquiry
