import Courier.Calendar.Moment
import Courier.Code
import Courier.Transfer.Fault
import Courier.Transfer.Mode

/-!
# Records of transfers

The state of one transfer as it is kept, and the changes it goes through.

Main definitions:

- `Record` is the state of a transfer.
- `Record.setRunning`, `Record.setDone`, `Record.setInError`, `Record.setInterrupted` and
  `Record.setToSubmit` change its status; `Record.advanceRank` notes an acknowledged block.
  Each of them stamps the record with the moment of the change.
- `Draft` is a record that has no number yet; `Draft.toRecord` gives it one.
- `Record.toJson` and `Record.ofJson` are its stored form.

Main statements:

- A change of status keeps the key, the rank and the mode.
- The rank of a running record never decreases (`rank_le_of_advanceRank`).
-/

namespace Courier

open Calendar

/-- The size of a block unless another one is asked for: 64 KiB. -/
def defaultBlockSize : Nat := 65536

/-- The information about a file unless another one is given. -/
def noFileInfo : String := "noinfo"

/-- The state of one transfer. -/
structure Record where
  key : Record.Key
  rule : String
  /-- The file or stream that is moved. -/
  filename : String
  mode : Mode
  isSender : Bool
  /-- The size of its blocks in bytes. -/
  blockSize : Nat
  /-- The last block that the partner acknowledged. -/
  rank : Nat
  status : Status
  /-- The code that goes with the status. -/
  errorCode : ResultCode
  errorMessage : Option String
  /-- What the requester says about the file. -/
  fileInfo : String
  /-- The transfer that this one follows. -/
  followId : Option String
  /-- The size of the file in bytes, or -1 when it is not known. -/
  originalSize : Int
  startTime : Moment
  updatedAt : Moment
  /-- Whether the record should not outlive its transfer. -/
  ignoreSave : Bool
deriving DecidableEq, Repr, Inhabited

namespace Record

/-- The number of the transfer. -/
def specialId (r : Record) : Int :=
  r.key.specialId

/-- Whether the transfer ended well, so that its record cannot change any more. -/
def isAllDone (r : Record) : Bool :=
  r.status == .done

/-- Whether the transfer has ended. -/
def isTerminal (r : Record) : Bool :=
  r.status.isTerminal

/-! ## Changes -/

/-- The record with the moment of its last change. -/
def touch (r : Record) (now : Moment) : Record :=
  { r with updatedAt := now }

/-- The transfer goes on. -/
def setRunning (r : Record) (now : Moment) : Record :=
  { r with status := .running, errorCode := .running, errorMessage := none, updatedAt := now }

/-- The transfer ended well. -/
def setDone (r : Record) (now : Moment) : Record :=
  { r with status := .done, errorCode := .completeOk, errorMessage := none, updatedAt := now }

/-- The transfer failed. -/
def setInError (r : Record) (code : ResultCode) (message : Option String) (now : Moment) :
    Record :=
  { r with status := .inError, errorCode := code, errorMessage := message, updatedAt := now }

/-- The transfer was stopped. -/
def setInterrupted (r : Record) (code : ResultCode) (now : Moment) : Record :=
  { r with status := .interrupted, errorCode := code, updatedAt := now }

/-- The transfer waits to be picked up. -/
def setToSubmit (r : Record) (now : Moment) : Record :=
  { r with status := .toSubmit, errorCode := .initOk, errorMessage := none, updatedAt := now }

/-- The record with a given status and code, as a status change makes it.  The code is set
whatever the status says about it. -/
def mark (r : Record) (status : Status) (code : ResultCode) (now : Moment) : Record :=
  let changed := match status with
    | .done => r.setDone now
    | .running => r.setRunning now
    | .toSubmit => r.setToSubmit now
    | .inError => r.setInError code none now
    | .interrupted => r.setInterrupted code now
  { changed with errorCode := code }

/-- Note a block that the partner acknowledged.  The rank of a running transfer never goes
backwards. -/
def advanceRank (r : Record) (rank : Nat) (now : Moment) : Except TransferFault Record :=
  if r.status = .running ∧ rank < r.rank then
    .error (.rankRegression r.key r.rank rank)
  else .ok { r with rank := rank, updatedAt := now }

@[simp] theorem setRunning_key (r : Record) (now : Moment) : (r.setRunning now).key = r.key := rfl

@[simp] theorem setDone_key (r : Record) (now : Moment) : (r.setDone now).key = r.key := rfl

@[simp] theorem setInError_key (r : Record) (code : ResultCode) (message : Option String)
    (now : Moment) : (r.setInError code message now).key = r.key := rfl

@[simp] theorem setInterrupted_key (r : Record) (code : ResultCode) (now : Moment) :
    (r.setInterrupted code now).key = r.key := rfl

@[simp] theorem setToSubmit_key (r : Record) (now : Moment) :
    (r.setToSubmit now).key = r.key := rfl

@[simp] theorem mark_key (r : Record) (status : Status) (code : ResultCode) (now : Moment) :
    (r.mark status code now).key = r.key := by
  cases status <;> rfl

@[simp] theorem mark_rank (r : Record) (status : Status) (code : ResultCode) (now : Moment) :
    (r.mark status code now).rank = r.rank := by
  cases status <;> rfl

/-- An acknowledged block is noted as the new rank, and nothing else but the moment of the
change differs. -/
theorem eq_of_advanceRank {r s : Record} {rank : Nat} {now : Moment}
    (h : r.advanceRank rank now = .ok s) : s = { r with rank := rank, updatedAt := now } := by
  unfold advanceRank at h
  split at h
  · simp at h
  · simpa using h.symm

/-- The rank of a running record never decreases. -/
theorem rank_le_of_advanceRank {r s : Record} {rank : Nat} {now : Moment}
    (hr : r.status = .running) (h : r.advanceRank rank now = .ok s) : r.rank ≤ s.rank := by
  have hs := eq_of_advanceRank h
  unfold advanceRank at h
  split at h
  · simp at h
  · next hn =>
      subst hs
      simp only [hr, true_and, Nat.not_lt] at hn
      exact hn

/-! ## JSON -/

/-- The fields of a record, in order. -/
def fieldNames : List String := [
  "key", "rule", "filename", "mode", "isSender", "blockSize", "rank", "status", "errorCode",
  "errorMessage", "fileInfo", "followId", "originalSize", "startTime", "updatedAt",
  "ignoreSave"]

/-- A record as an object.  Absent fields are left out. -/
def toJson (r : Record) : Json :=
  .object (
    [("key", r.key.toJson), ("rule", .string r.rule), ("filename", .string r.filename),
      ("mode", r.mode.toJson), ("isSender", .bool r.isSender),
      ("blockSize", .ofNat r.blockSize), ("rank", .ofNat r.rank),
      ("status", r.status.toJson), ("errorCode", r.errorCode.toJson)] ++
    Json.optionalMember "errorMessage" .string r.errorMessage ++
    [("fileInfo", .string r.fileInfo)] ++
    Json.optionalMember "followId" .string r.followId ++
    [("originalSize", .ofInt r.originalSize), ("startTime", r.startTime.toJson),
      ("updatedAt", r.updatedAt.toJson), ("ignoreSave", .bool r.ignoreSave)])

/-- Read a record. -/
def ofJson (j : Json) : Json.Decoded Record := do
  let f ← Json.fields fieldNames j
  let key ← f.required "key" Key.ofJson
  let rule ← f.required "rule" Json.toText
  let filename ← f.required "filename" Json.toText
  let mode ← f.required "mode" Mode.ofJson
  let isSender ← f.required "isSender" Json.toBool
  let blockSize ← f.required "blockSize" Json.toNat32
  let rank ← f.required "rank" Json.toNat32
  let status ← f.required "status" Status.ofJson
  let errorCode ← f.required "errorCode" ResultCode.ofJson
  let errorMessage ← f.optional "errorMessage" Json.toText
  let fileInfo ← f.required "fileInfo" Json.toText
  let followId ← f.optional "followId" Json.toText
  let originalSize ← f.required "originalSize" Json.toInt64
  let startTime ← f.required "startTime" Moment.ofJson
  let updatedAt ← f.required "updatedAt" Moment.ofJson
  let ignoreSave ← f.withDefault "ignoreSave" false Json.toBool
  return {
    key, rule, filename, mode, isSender, blockSize, rank, status, errorCode, errorMessage
    fileInfo, followId, originalSize, startTime, updatedAt, ignoreSave }

end Record

/-! ## Drafts -/

/-- Everything about a new transfer but its number. -/
structure Draft where
  requester : String
  requested : String
  rule : String
  filename : String
  mode : Mode
  isSender : Bool
  /-- The size of blocks in bytes. -/
  blockSize : Nat
  /-- What the requester says about the file. -/
  fileInfo : String
  /-- The transfer that this one follows. -/
  followId : Option String
  /-- The size of the file in bytes, or -1. -/
  originalSize : Int
  /-- When the transfer may start, if not at once. -/
  startTime : Option Moment
  status : Status
deriving DecidableEq, Repr, Inhabited

/-- The record of a draft with a number, made at a moment. -/
def Draft.toRecord (d : Draft) (specialId : Int) (now : Moment) : Record where
  key := ⟨specialId, d.requester, d.requested⟩
  rule := d.rule
  filename := d.filename
  mode := d.mode
  isSender := d.isSender
  blockSize := d.blockSize
  rank := 0
  status := d.status
  errorCode := if d.status = .running then .running else .initOk
  errorMessage := none
  fileInfo := d.fileInfo
  followId := d.followId
  originalSize := d.originalSize
  startTime := d.startTime.getD now
  updatedAt := now
  ignoreSave := false

end Courier
