import Courier.Session.Program

/-!
# Scripts

What partners do in a simulation, written down beforehand: for every kind of call a queue of
cues.  A call takes the next cue of its queue; when the queue is empty, the partner does what
a partner without complaints would do.

Main definitions:

- `Cue` is what a partner does with one call.
- `Script` are the queues of one partner, and `Script.append` adds more cues to them.
- `Cast` are the scripts of all partners.
-/

namespace Courier.Simulation

/-- What a partner does with one call: it waits for some milliseconds and acts. -/
structure Cue (α : Type) where
  delay : Nat := 0
  act : α
deriving Repr

/-- Take the next cue of a queue, or the usual act when there is none. -/
def Cue.next {α : Type} (usual : α) : List (Cue α) → Cue α × List (Cue α)
  | [] => (⟨0, usual⟩, [])
  | cue :: rest => (cue, rest)

/-- What a partner does when somebody wants to open a session. -/
inductive Reception where
  | welcome
  | pending (reason : String)
  | overloaded
  | fatal (code : ResultCode) (message : String)
deriving DecidableEq, Repr

/-- What one partner does. -/
structure Script where
  /-- What it does when a session is opened. -/
  connect : List (Cue Reception) := []
  send : List (Cue (Except SessionFault Unit)) := []
  /-- What it does before it takes more. -/
  writable : List (Cue (Except SessionFault Unit)) := []
  complete : List (Cue (Except SessionFault Completion)) := []
  answer : List (Cue (Except SessionFault Answer)) := []
  /-- The blocks that it sends to a caller who receives, once they are given. -/
  inbound : Option (List ByteArray) := none

namespace Script

/-- Add cues to the queues.  The blocks are replaced, when new ones are given. -/
def append (s more : Script) : Script where
  connect := s.connect ++ more.connect
  send := s.send ++ more.send
  writable := s.writable ++ more.writable
  complete := s.complete ++ more.complete
  answer := s.answer ++ more.answer
  inbound := more.inbound.or s.inbound

instance : Append Script := ⟨append⟩

/-- Take the cue for the opening of a session. -/
def takeConnect (s : Script) : Cue Reception × Script :=
  let (cue, connect) := Cue.next .welcome s.connect
  (cue, { s with connect })

/-- Take the cue for a packet. -/
def takeSend (s : Script) : Cue (Except SessionFault Unit) × Script :=
  let (cue, send) := Cue.next (.ok ()) s.send
  (cue, { s with send })

/-- Take the cue for the wait until more is taken. -/
def takeWritable (s : Script) : Cue (Except SessionFault Unit) × Script :=
  let (cue, writable) := Cue.next (.ok ()) s.writable
  (cue, { s with writable })

/-- The rank that a transfer without complaints ends with. -/
def usualRank : Nat := 4

/-- Take the cue for the end of a transfer. -/
def takeComplete (s : Script) : Cue (Except SessionFault Completion) × Script :=
  let (cue, complete) := Cue.next (.ok (.ok usualRank)) s.complete
  (cue, { s with complete })

/-- Take the cue for an answer. -/
def takeAnswer (s : Script) : Cue (Except SessionFault Answer) × Script :=
  let (cue, answer) := Cue.next (.ok { code := .completeOk }) s.answer
  (cue, { s with answer })

end Script

/-- The scripts of partners, by their names. -/
abbrev Cast := List (String × Script)

namespace Cast

/-- The script of a partner. -/
def scriptOf (c : Cast) (host : String) : Script :=
  (c.lookup host).getD {}

/-- Give a partner another script. -/
def set (c : Cast) (host : String) (s : Script) : Cast :=
  (host, s) :: c.filter fun e => e.1 != host

/-- Add cues to the scripts of some partners. -/
def extend (c more : Cast) : Cast :=
  more.foldl (fun c e => c.set e.1 (c.scriptOf e.1 ++ e.2)) c

/-- The script of a partner is the one it was given. -/
@[simp]
theorem scriptOf_set_self (c : Cast) (host : String) (s : Script) :
    (c.set host s).scriptOf host = s := by
  simp [set, scriptOf]

/-- Giving a partner another script leaves the other partners alone. -/
theorem scriptOf_set_of_ne (c : Cast) {host other : String} (s : Script) (h : other ≠ host) :
    (c.set host s).scriptOf other = c.scriptOf other := by
  have hne : (other == host) = false := beq_eq_false_iff_ne.2 h
  simp only [set, scriptOf, List.lookup_cons, hne]
  congr 1
  induction c with
  | nil => rfl
  | cons e c ih =>
      obtain ⟨name, script⟩ := e
      by_cases hn : name = host
      · subst hn
        simpa [List.filter_cons, List.lookup_cons, hne] using ih
      · simp only [List.filter_cons, bne_iff_ne, ne_eq, hn, not_false_eq_true, if_true,
          List.lookup_cons, ih]

end Cast

end Courier.Simulation
