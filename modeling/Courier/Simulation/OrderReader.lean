import Courier.Delivery.Batch
import Courier.Json.Loose

/-!
# Orders as JSON

Orders, drafts and batches written as objects, in which everything with a default may be
missing.

Main definitions:

- `Order.Form.ofJson` and `Order.toJson` read a form and write a complete order.
- `Draft.ofJson` reads a draft, `Batch.ofJson` a batch.
-/

namespace Courier

open Calendar Json

/-- Read the form of an order.  Sizes of blocks are asked for one after the other. -/
def Order.Form.ofJson (j : Json) : Decoded Order.Form := do
  let sizes ← j.mayOr "blockSize" [] (toListOf toNat32)
  let form : Order.Form :=
    { partner := ← j.need "host" toText
      rule := ← j.may "rule" toText
      filename := ← j.may "file" toText
      fileInfo := ← j.may "fileInfo" toText
      useHash := j.flagAt "useHash"
      fixedId := ← j.may "id" toInt64
      startTime := ← j.may "startTime" Moment.ofJson
      followId := ← j.may "followId" toText
      noLog := j.flagAt "noLog"
      logAsWarn := j.flagAt "logAsWarn" }
  return sizes.foldl Order.Form.withBlockSize form

/-- A complete order as an object. -/
def Order.toJson (o : Order) : Json :=
  .object [("host", .string o.partner), ("rule", .ofOption .string o.rule),
    ("file", .ofOption .string o.filename), ("fileInfo", .string o.fileInfo),
    ("hasFileInfo", .bool o.hasFileInfo), ("blockSize", .ofNat o.blockSize),
    ("useHash", .bool o.useHash), ("id", .ofOption .ofInt o.fixedId),
    ("startTime", .ofOption Moment.toJson o.startTime),
    ("followId", .ofOption .string o.followId), ("noLog", .bool o.noLog),
    ("logAsWarn", .bool o.logAsWarn)]

/-- Read a draft.  The requester sends when the mode says so. -/
def Draft.ofJson (j : Json) : Decoded Draft := do
  let mode ← j.mayOr "mode" .send Mode.ofJson
  return {
    requester := ← j.mayOr "requester" "local" toText
    requested := ← j.mayOr "requested" "hosta" toText
    rule := ← j.mayOr "rule" "out" toText
    filename := ← j.mayOr "filename" "a.txt" toText
    mode
    isSender := mode.isSend
    blockSize := ← j.mayOr "blockSize" defaultBlockSize toNat32
    fileInfo := ← j.mayOr "fileInfo" noFileInfo toText
    followId := ← j.may "followId" toText
    originalSize := ← j.mayOr "originalSize" (-1) toInt64
    startTime := ← j.may "startTime" Moment.ofJson
    status := ← j.mayOr "status" .toSubmit Status.ofJson }

/-- Read a batch. -/
def Batch.ofJson (j : Json) : Decoded Batch := do
  return { Batch.ofLists (j.textAt "hosts") (j.textAt "files") (j.textAt "rule") with
    fileInfo := ← j.may "fileInfo" toText
    blockSize := ← j.mayOr "blockSize" 0 toNat32
    useHash := j.flagAt "useHash"
    startTime := ← j.may "startTime" Moment.ofJson
    noLog := j.flagAt "noLog"
    logAsWarn := j.flagAt "logAsWarn"
    submitOnly := j.flagAt "submitOnly" }

end Courier
