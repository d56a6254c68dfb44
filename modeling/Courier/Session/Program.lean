import Courier.Session.Fault
import Courier.Session.Policy
import Courier.Transfer.LedgerFile
import Courier.Transfer.Partner
import Courier.Transfer.Rule
import Courier.Wire.Packet

/-!
# Programs that deal with partners

Whatever the courier does for a transfer is a program: a tree of requests to its
surroundings, each with what to do for every answer.  A program asks for the time, for files,
for changes of the ledger, for sessions and for what is done over them.  It does not say how
these are provided, so that one program can be run over a network, over a script of answers,
or step by step beside other programs.

Main definitions:

- `Request` is a request, and `Request.Answer` the type of its answer.
- `Program` is a program; it is a monad, and every run of it ends.
- `Program.runM` runs a program, given a way to answer each request.

Main statements:

- Programs obey the laws of monads (`LawfulMonad Program`).
- A run of two programs one after the other is a run of the first and then of the second
  (`runM_bind`).
-/

namespace Courier

open Calendar

/-! ## Sessions -/

/-- An open session with a partner. -/
structure Session where
  id : Nat
deriving DecidableEq, Repr, Inhabited

/-- Whether a session carries a stream of the caller, and in which direction. -/
inductive Through where
  | none
  | send
  | receive
deriving DecidableEq, Repr, Inhabited

/-- What a session is opened for. -/
structure Connect where
  partner : Partner
  /-- The transfer to ask for; none for single requests. -/
  record : Option Record
  /-- The stream that the session carries. -/
  through : Through
deriving DecidableEq, Repr

/-- What becomes of an attempt to open a session. -/
inductive Connect.Result where
  | connected (s : Session)
  /-- The partner cannot be reached yet. -/
  | pending (reason : String)
  | overloaded
  | fatal (code : ResultCode) (message : String)
deriving DecidableEq, Repr

/-- How a transfer ended, as the transport reports it. -/
structure Completion where
  success : Bool
  code : ResultCode
  message : Option String
  /-- The last block that was acknowledged. -/
  rank : Option Nat
deriving DecidableEq, Repr, Inhabited

namespace Completion

/-- A transfer that went well up to a block. -/
def ok (rank : Nat) : Completion :=
  ⟨true, .completeOk, none, some rank⟩

/-- A transfer that failed. -/
def failed (code : ResultCode) (message : String) : Completion :=
  ⟨false, code, some message, none⟩

/-- Why a transfer failed: the remark, or what the code means. -/
def cause (c : Completion) : String :=
  c.message.getD c.code.message

end Completion

/-- The news of a batch of transfers. -/
inductive Progress where
  | started (partner file : String)
  | finished (partner file : String) (success : Bool) (code : ResultCode)
deriving DecidableEq, Repr

/-! ## Requests -/

/-- A request of a program to its surroundings. -/
inductive Request where
  | now
  /-- What is the fraction of the current second, in nanoseconds? -/
  | clockFraction
  | files (op : FileOp)
  /-- Perform an operation on the ledger. -/
  | ledger (op : Ledger.Op)
  /-- Tell whoever wants to know that a transfer failed. -/
  | reportFailure (r : Record)
  /-- Tell whoever wants to know how a batch goes on. -/
  | reportProgress (p : Progress)
  /-- Count a file that was sent to a host, or that failed. -/
  | tally (success : Bool)
  | sleep (s : Span)
  | connect (c : Connect)
  /-- Send a packet, at once when `flush` is set. -/
  | send (s : Session) (p : Packet) (flush : Bool)
  /-- Wait until more can be sent. -/
  | writable (s : Session)
  /-- Wait until the transport reports how the transfer ended. -/
  | complete (s : Session) (timeout : Option Span)
  /-- Send a packet and wait for its answer. -/
  | ask (s : Session) (p : Packet) (timeout : Span)
  | close (s : Session)

/-- The type of the answer to a request. -/
abbrev Request.Answer : Request → Type
  | .now => Moment
  | .clockFraction => Nat
  | .files op => op.Answer
  | .ledger op => op.Answer
  | .reportFailure _ => Unit
  | .reportProgress _ => Unit
  | .tally _ => Unit
  | .sleep _ => Unit
  | .connect _ => Connect.Result
  | .send _ _ _ => Except SessionFault Unit
  | .writable _ => Except SessionFault Unit
  | .complete _ _ => Except SessionFault Completion
  | .ask _ _ _ => Except SessionFault Courier.Answer
  | .close _ => Unit

/-! ## Programs -/

/-- A program: a value, or a request with what to do for every answer. -/
inductive Program (α : Type) where
  /-- The program that ends with a value. -/
  | done (a : α)
  /-- The program that makes a request and goes on with the answer. -/
  | step (r : Request) (next : r.Answer → Program α)

namespace Program

variable {α β : Type}

/-- Go on with another program. -/
def andThen : Program α → (α → Program β) → Program β
  | done a, f => f a
  | step r next, f => step r fun answer => (next answer).andThen f

instance : Monad Program where
  pure := done
  bind := andThen

@[simp]
theorem pure_eq (a : α) : (pure a : Program α) = done a := rfl

@[simp]
theorem done_bind (a : α) (f : α → Program β) : (done a >>= f) = f a := rfl

@[simp]
theorem step_bind (r : Request) (next : r.Answer → Program α) (f : α → Program β) :
    (step r next >>= f) = step r fun answer => next answer >>= f := rfl

/-- Ending with the value of a program is the program itself. -/
theorem bind_done (p : Program α) : p >>= done = p := by
  induction p with
  | done a => rfl
  | step r next ih => exact congrArg (step r) (funext ih)

/-- Three programs one after the other can be grouped either way. -/
theorem bind_assoc {γ : Type} (p : Program α) (f : α → Program β) (g : β → Program γ) :
    p >>= f >>= g = p >>= fun a => f a >>= g := by
  induction p with
  | done a => rfl
  | step r next ih => exact congrArg (step r) (funext ih)

instance : LawfulMonad Program :=
  LawfulMonad.mk' Program bind_done (fun _ _ => rfl) bind_assoc

/-- The program that makes one request. -/
def perform (r : Request) : Program r.Answer :=
  step r done

/-- Run a program, given a way to answer each request. -/
def runM {m : Type → Type} [Monad m] (answer : (r : Request) → m r.Answer) :
    Program α → m α
  | done a => pure a
  | step r next => answer r >>= fun a => (next a).runM answer

/-- A run of two programs one after the other is a run of the first and then of the
second. -/
theorem runM_bind {m : Type → Type} [Monad m] [LawfulMonad m]
    (answer : (r : Request) → m r.Answer) (p : Program α) (f : α → Program β) :
    (p >>= f).runM answer = p.runM answer >>= fun a => (f a).runM answer := by
  induction p with
  | done a => simp [runM]
  | step r next ih => simp [runM, ih]

/-! ## Requests as programs -/

instance : Files Program where
  perform op := perform (.files op)

/-- The current time. -/
def now : Program Moment :=
  perform .now

/-- An operation on the ledger. -/
def ledger (op : Ledger.Op) : Program op.Answer :=
  perform (.ledger op)

/-- Wait. -/
def sleep (s : Span) : Program Unit :=
  perform (.sleep s)

/-- Send a packet at once. -/
def send (s : Session) (p : Packet) : Program (Except SessionFault Unit) :=
  perform (.send s p true)

/-- Close a session. -/
def close (s : Session) : Program Unit :=
  perform (.close s)

end Program

/-! ## Surroundings -/

/-- What is fixed while programs run: the hosts, the rules and the bounds. -/
structure Context where
  hosts : Directory
  rules : RuleBook
  policy : Policy
deriving Inhabited

end Courier
