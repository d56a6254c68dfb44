import Courier.Calendar.Span
import Courier.Code
import Courier.Transfer.Fault
import Courier.Wire.Command

/-!
# Faults of sessions

Why talking to a partner failed, and the result code that such a failure is reported with.

Main definitions:

- `SessionFault` is the reason, `SessionFault.message` its text and `SessionFault.code` its
  code.
-/

namespace Courier

open Calendar

/-- Why talking to a partner failed. -/
inductive SessionFault where
  /-- A file cannot be read or written. -/
  | io (reason : String)
  | json (fault : Json.Fault)
  /-- Something about the transfer is refused on this side. -/
  | transfer (fault : TransferFault)
  | wire (fault : WireFault)
  | connect (code : ResultCode) (message : String)
  | remote (code : ResultCode) (message : String)
  /-- The partner did not answer in time. -/
  | timeout (limit : Span)
  | closed
  | notConnected (reason : String)
  /-- A pattern for files makes no sense. -/
  | invalidPattern (reason : String)
deriving DecidableEq, Repr

namespace SessionFault

/-- The text of the reason. -/
def message : SessionFault → String
  | io reason => "I/O error: " ++ reason
  | json fault => "JSON error: " ++ fault.message
  | transfer fault => "transfer error: " ++ fault.message
  | wire fault => "protocol error: " ++ fault.message
  | connect _ message => "cannot connect: " ++ message
  | remote code message => "partner answered " ++ code.text ++ ": " ++ message
  | timeout limit => "timed out after " ++ limit.text
  | closed => "session closed"
  | notConnected reason => "not connected: " ++ reason
  | invalidPattern reason => "invalid file pattern: " ++ reason

/-- The code that the failure is reported with. -/
def code : SessionFault → ResultCode
  | connect code _ => code
  | remote code _ => code
  | transfer (.unknownHost _) => .notKnownHost
  | transfer (.recordNotFound _) => .queryRemotelyUnknown
  | timeout _ => .disconnection
  | closed => .disconnection
  | io _ => .transferError
  | notConnected _ => .transferError
  | _ => .internal

end SessionFault

end Courier
