import Courier.Pattern.Regex.Reader
import Courier.Transfer.Fault

/-!
# Faults of spools

Why a spool cannot be configured or run.

Main definitions:

- `SpoolFault` is the reason and `SpoolFault.message` its text.
-/

namespace Courier

/-- Why a spool cannot be configured or run. -/
inductive SpoolFault where
  /-- A file cannot be read or written. -/
  | io (fault : FileFault)
  | json (fault : Json.Fault)
  /-- The filter on names is no regular expression. -/
  | filter (fault : Regex.Fault)
  | invalid (reason : String)
  | alreadyRunning (lock : Path)
  /-- Something about its transfers is refused. -/
  | transfer (fault : TransferFault)
deriving DecidableEq, Repr

/-- The text of the reason. -/
def SpoolFault.message : SpoolFault → String
  | io fault => "I/O error: " ++ fault.message
  | json fault => "JSON error: " ++ fault.message
  | filter fault => "invalid filter: " ++ fault.message
  | invalid reason => "invalid configuration: " ++ reason
  | alreadyRunning lock => "another instance holds " ++ lock.text
  | transfer fault => "transfer error: " ++ fault.message

end Courier
