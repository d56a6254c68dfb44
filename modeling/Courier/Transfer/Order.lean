import Courier.Transfer.Partner
import Courier.Transfer.Record

/-!
# Orders

What a caller asks for: one transfer, either described in full or known by its number.

Main definitions:

- `Order.Form` is an order as a caller fills it in.
- `Order.Form.complete` resolves the name of the partner and checks that the order says
  which transfer is meant: its rule and file, or its number.
- `Order` is a complete order.

Main statements:

- A complete order names the partner without its alias (`partner_of_complete`) and means a
  transfer (`target_of_complete`).
-/

namespace Courier

open Calendar

/-- A complete order. -/
structure Order where
  partner : String
  rule : Option String
  /-- The file or stream to move. -/
  filename : Option String
  /-- What to say about the file. -/
  fileInfo : String
  /-- The size of blocks in bytes. -/
  blockSize : Nat
  useHash : Bool
  /-- The number of a transfer that is known already. -/
  fixedId : Option Int
  startTime : Option Moment
  /-- The transfer that this one follows. -/
  followId : Option String
  /-- Whether to drop the record of a transfer that ended well. -/
  noLog : Bool
  /-- Whether a failure is only worth a warning. -/
  logAsWarn : Bool
deriving DecidableEq, Repr, Inhabited

/-- Whether the caller said anything about the file. -/
def Order.hasFileInfo (o : Order) : Bool :=
  o.fileInfo != noFileInfo

/-- An order as a caller fills it in. -/
structure Order.Form where
  /-- The host to transfer with, or an alias of it. -/
  partner : String
  rule : Option String := none
  /-- The file or stream to move. -/
  filename : Option String := none
  /-- What to say about the file. -/
  fileInfo : Option String := none
  /-- The size of blocks in bytes. -/
  blockSize : Nat := defaultBlockSize
  useHash : Bool := false
  /-- The number of a transfer that is known already. -/
  fixedId : Option Int := none
  startTime : Option Moment := none
  /-- The transfer that this one follows. -/
  followId : Option String := none
  /-- Whether to drop the record of a transfer that ended well. -/
  noLog : Bool := false
  /-- Whether a failure is only worth a warning. -/
  logAsWarn : Bool := false
deriving DecidableEq, Repr, Inhabited

namespace Order.Form

/-- Ask for a size of blocks; zero leaves the size as it is. -/
def withBlockSize (f : Form) (size : Nat) : Form :=
  if 0 < size then { f with blockSize := size } else f

/-- Whether the form names both a rule and a file. -/
def hasTarget (f : Form) : Bool :=
  f.rule.any (fun s => s != "") && f.filename.any (fun s => s != "")

/-- The order that a form describes. -/
def order (f : Form) (hosts : Directory) : Order where
  partner := hosts.resolve (Text.trim f.partner)
  rule := f.rule
  filename := f.filename
  fileInfo := (f.fileInfo.filter fun s => s != "").getD noFileInfo
  blockSize := f.blockSize
  useHash := f.useHash
  fixedId := f.fixedId
  startTime := f.startTime
  followId := f.followId
  noLog := f.noLog
  logAsWarn := f.logAsWarn

/-- The complete order of a form. -/
def complete (f : Form) (hosts : Directory) : Except TransferFault Order :=
  if Text.trim f.partner = "" then .error (.invalidRequest "remote host is empty")
  else if !f.hasTarget && f.fixedId.isNone then
    .error (.invalidRequest "either rule and file or a transfer id is required")
  else .ok (f.order hosts)

/-- A form is complete when it names a partner and says which transfer is meant. -/
theorem complete_eq_ok_iff {f : Form} {hosts : Directory} {o : Order} :
    f.complete hosts = .ok o ↔
      Text.trim f.partner ≠ "" ∧ (f.hasTarget = true ∨ f.fixedId.isSome = true) ∧
        o = f.order hosts := by
  unfold complete
  by_cases hpartner : Text.trim f.partner = ""
  · simp [hpartner]
  · cases htarget : f.hasTarget <;> cases hid : f.fixedId <;> simp [hpartner, eq_comm]

/-- A complete order names the partner itself, never an alias of it. -/
theorem partner_of_complete {f : Form} {hosts : Directory} {o : Order}
    (h : f.complete hosts = .ok o) : o.partner = hosts.resolve (Text.trim f.partner) := by
  obtain ⟨-, -, rfl⟩ := complete_eq_ok_iff.1 h
  rfl

/-- A complete order means a transfer: by its rule and file, or by its number. -/
theorem target_of_complete {f : Form} {hosts : Directory} {o : Order}
    (h : f.complete hosts = .ok o) : f.hasTarget = true ∨ o.fixedId.isSome = true := by
  obtain ⟨-, htarget, rfl⟩ := complete_eq_ok_iff.1 h
  exact htarget

end Order.Form

end Courier
