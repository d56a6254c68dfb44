import Courier.Delivery.Outcome
import Courier.Session.Program
import Courier.Spool.Configuration
import Courier.Transfer.LedgerFile

/-!
# The service

A service runs all jobs of a configuration over one ledger and ends with a status.

Main definitions:

- `Service` is what runs, and `Service.prepare` reads it from a file.
- `Service.exitStatus` is the status at the end.
-/

namespace Courier

/-- The jobs of a configuration with the ledger they share. -/
structure Service where
  configuration : Configuration
  store : Store
deriving Repr

namespace Service

variable {m : Type → Type} [Monad m] [Files m]

/-- Read the configuration that the first argument names, and open its ledger; or give the
status to end with.  `machine` is the name of the machine. -/
def prepare (machine : String) : List String → m (Except Nat Service)
  | [] => return .error exitBadArguments
  | path :: _ => do
      match ← Configuration.load machine ⟨path⟩ with
      | .error _ => return .error exitBadArguments
      | .ok configuration =>
          match ← LedgerFile.openAt configuration.recordStore with
          | .error _ => return .error exitUnexpected
          | .ok f => return .ok ⟨configuration, .file f⟩

/-- What the jobs have in common. -/
def context (s : Service) : Context :=
  ⟨s.configuration.directory, s.configuration.ruleBook, s.configuration.client.toPolicy⟩

/-- The status so far with that of one more job that ended: a failure is only asked for its status
while there is none but zero. -/
def addStatus (status : Nat) (o : Outcome) : Nat :=
  if status == 0 && !o.success then o.exitStatus else status

/-- The status after all jobs ended: that of the first that failed. -/
def exitStatus (outcomes : List Outcome) : Nat :=
  outcomes.foldl addStatus 0

end Service

end Courier
