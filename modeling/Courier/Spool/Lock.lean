import Courier.Session.Program
import Courier.Spool.Fault

/-!
# Locks

A spool marks its status file as taken by a file beside it, which it writes again and again.
A lock that is found may be left over from a spool that died.  So it is removed, and only if
it comes back within ten looks another spool is alive.

Main definitions:

- `Lock` is a lock with the file that stops the spool.
- `Lock.begin` claims a lock, `Lock.poll` goes on after a wait.
- `Lock.acquire` is the whole claim as a program.
- `Lock.refresh` and `Lock.release` write and remove the file.
-/

namespace Courier

open Calendar

/-- A lock on a status file. -/
structure Lock where
  /-- The file that marks the lock. -/
  file : Path
  /-- The file that stops the spool. -/
  stopFile : Path
deriving DecidableEq, Repr, Inhabited

namespace Lock

/-- How far the claim of a lock is. -/
inductive Claim where
  | held
  /-- A lock was removed, and so many looks are left. -/
  | waiting (looks : Nat)
  /-- The claim was given up, because the spool shall stop. -/
  | yielded
  | refused (fault : SpoolFault)
deriving DecidableEq, Repr

/-- How many looks a lock is waited for. -/
def looks : Nat := 10

variable {m : Type → Type} [Monad m] [Files m]

/-- Write the file of a lock. -/
def refresh (l : Lock) (now : Moment) : m (Except FileFault Unit) :=
  Files.save l.file (now.utc.text ++ "+00:00")

/-- Remove the file of a lock. -/
def release (l : Lock) : m Unit := do
  let _ ← Files.remove l.file

/-- Write the file of a lock that nobody else holds. -/
def take (l : Lock) (now : Moment) : m Claim := do
  match ← l.refresh now with
  | .error fault => return .refused (.io fault)
  | .ok () => return .held

/-- Claim a lock. -/
def begin (l : Lock) (now : Moment) : m Claim := do
  if ← Files.pathExists l.file then
    match ← Files.remove l.file with
    | .error fault => return .refused (.io fault)
    | .ok () => return .waiting looks
  else l.take now

/-- Look again after a wait, with so many looks left before this one. -/
def poll (l : Lock) (left : Nat) (now : Moment) : m Claim := do
  if ← Files.pathExists l.stopFile then return .yielded
  else if ← Files.pathExists l.file then return .refused (.alreadyRunning l.file)
  else if left ≤ 1 then l.take now
  else return .waiting (left - 1)

/-- Go on with a claim, with a wait before every look that is left.  The answer is whether the
lock is held. -/
def settle (l : Lock) (period : Span) : Nat → Claim → Program (Except SpoolFault Bool)
  | _, .held => return .ok true
  | _, .yielded => return .ok false
  | _, .refused fault => return .error fault
  | 0, .waiting _ => return .ok false
  | left + 1, .waiting looks => do
      Program.sleep period
      let now ← Program.now
      let c ← l.poll looks now
      l.settle period left c

/-- Claim a lock and wait until the claim is decided. -/
def acquire (l : Lock) (period : Span) : Program (Except SpoolFault Bool) := do
  let now ← Program.now
  let c ← l.begin now
  l.settle period looks c

end Lock

end Courier
