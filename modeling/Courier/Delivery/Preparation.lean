import Courier.Delivery.Outcome
import Courier.Session.Program
import Courier.Transfer.Order

/-!
# Preparing a transfer

Before a partner is called, the record of the transfer is made or found.

Main definitions:

- `Preparation.Kind` says how the order will be carried out.
- `Prepared` is an order whose partner is known and whose record is filed.
- `Preparation.prepare` makes it: a new record for an order in full, the filed one for an
  order by number.
-/

namespace Courier

/-- An order whose partner is known and whose record is filed. -/
structure Prepared where
  partner : Partner
  record : Record
  /-- Whether to drop the record of a transfer that ended well. -/
  noLog : Bool
deriving DecidableEq, Repr, Inhabited

namespace Preparation

/-- How an order is going to be carried out. -/
inductive Kind where
  | direct
  /-- Later, by whoever picks it up. -/
  | submit
  /-- At once, the caller sending a stream. -/
  | sendThrough
  /-- At once, the caller receiving a stream. -/
  | recvThrough
deriving DecidableEq, Repr

/-- Whether the caller streams the data. -/
def Kind.isThrough : Kind → Bool
  | sendThrough | recvThrough => true
  | _ => false

/-- An outcome of this side having failed. -/
def internal (cause : String) : Outcome :=
  .failed .internal cause none

/-! ## New records -/

/-- The mode of a transfer under a rule. -/
def modeFor (rule : Rule) (order : Order) (kind : Kind) : Mode :=
  let mode := if order.useHash then rule.mode.withHash else rule.mode
  if kind.isThrough then mode.withThrough else mode

/-- The size of the file that a rule would send, or -1 when it is missing or empty. -/
def localFileSize (rule : Rule) (filename : String) : Program Int := do
  match ← Files.metadata (rule.sendPath.join ⟨filename⟩) with
  | .ok info => return if 0 < info.size then (info.size : Int) else -1
  | .error _ => return -1

/-- Why a rule cannot carry a stream in the wanted direction. -/
def refusal (rule : Rule) : Kind → Option String
  | .sendThrough => if rule.canSend then none else some ("rule " ++ rule.name ++ " cannot send")
  | .recvThrough =>
      if rule.canReceive then none else some ("rule " ++ rule.name ++ " cannot receive")
  | _ => none

/-- The draft of an order under a rule. -/
def draft (rule : Rule) (order : Order) (partner : Partner) (requester : String) (kind : Kind)
    (originalSize : Int) : Draft where
  requester := requester
  requested := partner.hostId
  rule := rule.name
  filename := order.filename.getD ""
  mode := modeFor rule order kind
  isSender := (modeFor rule order kind).isSend
  blockSize := order.blockSize
  fileInfo := order.fileInfo
  followId := order.followId
  originalSize := originalSize
  startTime := order.startTime
  status := .toSubmit

/-- Make the record of an order in full. -/
def createRecord (ctx : Context) (order : Order) (partner : Partner) (requester : String)
    (kind : Kind) : Program (Except Outcome Record) := do
  match ctx.rules.resolve (order.rule.getD "") with
  | .error fault => return .error (internal fault.message)
  | .ok rule =>
      match refusal rule kind with
      | some cause => return .error (internal cause)
      | none =>
          let mode := modeFor rule order kind
          let size ←
            if mode.isSend && !mode.isThrough then localFileSize rule (order.filename.getD "")
            else pure (-1)
          let now ← Program.now
          match ← Program.ledger (.create (draft rule order partner requester kind size) now) with
          | .ok record => return .ok record
          | .error fault =>
              return .error (internal ("cannot save transfer record: " ++ fault.message))

/-! ## Filed records -/

/-- The filed record with what the order says about it. -/
def amend (record : Record) (order : Order) : Record :=
  let record := if order.hasFileInfo then { record with fileInfo := order.fileInfo } else record
  match order.startTime with
  | some time => { record with startTime := time }
  | none => record

/-- Find the record of an order by number. -/
def recoverRecord (order : Order) (key : Record.Key) (kind : Kind) :
    Program (Except Outcome Record) := do
  match ← Program.ledger (.load key) with
  | none => return .error (.failed .queryRemotelyUnknown ("no transfer " ++ key.text) none)
  | some record =>
      if record.isAllDone then
        return .error (.failed .queryAlreadyFinished
          ("transfer " ++ key.text ++ " is already done") (some record))
      else
        let record := amend record order
        let record ←
          if kind = .submit then do
            let now ← Program.now
            pure (record.setToSubmit now)
          else pure record
        match ← Program.ledger (.update record) with
        | .ok () => return .ok record
        | .error fault => return .error (.failed .internal fault.message (some record))

/-! ## Preparation -/

/-- Mark the record of a stream: it does not outlive its transfer. -/
def markTransient (kind : Kind) (record : Record) : Program (Except Outcome Record) := do
  if kind.isThrough && !record.ignoreSave then
    let record := { record with ignoreSave := true }
    match ← Program.ledger (.update record) with
    | .ok () => return .ok record
    | .error fault => return .error (.failed .internal fault.message (some record))
  else return .ok record

/-- Make or find the record of an order. -/
def findRecord (ctx : Context) (order : Order) (partner : Partner) (kind : Kind) :
    Program (Except Outcome Record) :=
  let requester := ctx.hosts.localId partner.useTls
  match order.fixedId with
  | some id => recoverRecord order ⟨id, requester, partner.hostId⟩ kind
  | none => createRecord ctx order partner requester kind

/-- Prepare an order. -/
def prepare (ctx : Context) (order : Order) (kind : Kind) :
    Program (Except Outcome Prepared) := do
  match ctx.hosts.lookup order.partner with
  | .error fault => return .error (.failed .connectionImpossible fault.message none)
  | .ok partner =>
      match ← findRecord ctx order partner kind with
      | .error outcome => return .error outcome
      | .ok record =>
          match ← markTransient kind record with
          | .error outcome => return .error outcome
          | .ok record => return .ok ⟨partner, record, order.noLog⟩

end Preparation

end Courier
