import Courier.Files.Operation
import Courier.Transfer.Key

/-!
# Faults of transfers

Why a record, a host, a rule or an order is refused.

Main definitions:

- `TransferFault` is the reason and `TransferFault.message` its text.
-/

namespace Courier

/-- Why something about a transfer is refused. -/
inductive TransferFault where
  /-- A file cannot be read or written. -/
  | io (fault : FileFault)
  | json (fault : Json.Fault)
  | unknownRule (name : String)
  | unknownHost (name : String)
  /-- There is no record under the key. -/
  | recordNotFound (key : Record.Key)
  /-- There is a record under the key already. -/
  | duplicateRecord (key : Record.Key)
  /-- The record is done and cannot change any more. -/
  | recordImmutable (key : Record.Key)
  /-- The rank of a running record would go backwards. -/
  | rankRegression (key : Record.Key) (current wanted : Nat)
  | invalidRequest (reason : String)
deriving DecidableEq, Repr

namespace TransferFault

/-- The text of the reason. -/
def message : TransferFault → String
  | io fault => "I/O error: " ++ fault.message
  | json fault => "JSON error: " ++ fault.message
  | unknownRule name => "unknown rule: " ++ name
  | unknownHost name => "unknown host: " ++ name
  | recordNotFound key => "record not found: " ++ key.text
  | duplicateRecord key => "record already exists: " ++ key.text
  | recordImmutable key => "record is done and can no longer change: " ++ key.text
  | rankRegression key current wanted =>
      "rank went backwards for " ++ key.text ++ ": " ++ toString current ++ " -> " ++
        toString wanted
  | invalidRequest reason => "invalid request: " ++ reason

end TransferFault

end Courier
