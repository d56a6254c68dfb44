import Courier.Transfer.Record

/-!
# Outcomes

How a dealing with a partner ended, alone or as one of many, and the exit status that a
process reports it with.

Main definitions:

- `Outcome` is the end of one dealing; `Outcome.exitStatus` is its exit status.
- `Tally` gathers the outcomes of a batch.

Main statements:

- The exit status of a success is zero (`exitStatus_of_success`).
- A batch counts each outcome once (`add_count`).
-/

namespace Courier

/-- The exit status for arguments that make no sense. -/
def exitBadArguments : Nat := 2

/-- The exit status for a failure outside of any transfer. -/
def exitUnexpected : Nat := 66

/-- How a dealing ended. -/
structure Outcome where
  success : Bool
  code : ResultCode
  /-- The cause, in words. -/
  cause : Option String
  /-- The record of the transfer, where there is one. -/
  record : Option Record
deriving DecidableEq, Repr, Inhabited

namespace Outcome

/-- A dealing that went well. -/
def succeeded (code : ResultCode) (record : Option Record) : Outcome :=
  ⟨true, code, none, record⟩

/-- A dealing that failed. -/
def failed (code : ResultCode) (cause : String) (record : Option Record) : Outcome :=
  ⟨false, code, some cause, record⟩

/-- The same outcome with a cause. -/
def withCause (o : Outcome) (cause : String) : Outcome :=
  { o with cause := some cause }

/-- The number of the transfer. -/
def specialId (o : Outcome) : Option Int :=
  o.record.map Record.specialId

/-- The exit status: zero for a success, the place of the code otherwise. -/
def exitStatus (o : Outcome) : Nat :=
  if o.success then 0 else o.code.ordinal

/-- The exit status for an outcome that may be absent. -/
def exitStatus? : Option Outcome → Nat
  | some o => o.exitStatus
  | none => ResultCode.unknown.ordinal

/-- The exit status of a success is zero. -/
theorem exitStatus_of_success {o : Outcome} (h : o.success = true) : o.exitStatus = 0 := by
  simp [exitStatus, h]

/-- The exit status of a failure is the place of its code. -/
theorem exitStatus_of_failure {o : Outcome} (h : o.success = false) :
    o.exitStatus = o.code.ordinal := by
  simp [exitStatus, h]

end Outcome

/-- The outcome of one file with one partner. -/
structure ItemOutcome where
  /-- The partner, as it was named. -/
  partner : String
  file : String
  outcome : Outcome
deriving DecidableEq, Repr, Inhabited

/-- The gathered outcomes of a batch. -/
structure Tally where
  successes : Nat := 0
  failures : Nat := 0
  /-- All outcomes, in order. -/
  results : List ItemOutcome := []
  /-- The last failure, which stands for the batch. -/
  lastFailure : Option Outcome := none
deriving DecidableEq, Repr, Inhabited

namespace Tally

/-- A batch that could not begin. -/
def aborted (o : Outcome) : Tally :=
  { failures := 1, lastFailure := some o }

/-- Add an outcome. -/
def add (t : Tally) (item : ItemOutcome) : Tally :=
  if item.outcome.success then
    { t with successes := t.successes + 1, results := t.results ++ [item] }
  else
    { t with
      failures := t.failures + 1
      results := t.results ++ [item]
      lastFailure := some item.outcome }

/-- Whether nothing failed. -/
def isSuccess (t : Tally) : Bool :=
  t.failures == 0

/-- The exit status: zero when nothing failed, that of the last failure otherwise. -/
def exitStatus (t : Tally) : Nat :=
  if t.isSuccess then 0 else Outcome.exitStatus? t.lastFailure

/-- A batch counts each outcome once. -/
theorem add_count (t : Tally) (item : ItemOutcome) :
    (t.add item).successes + (t.add item).failures = t.successes + t.failures + 1 := by
  simp only [add]
  split <;> simp only [] <;> omega

end Tally

end Courier
