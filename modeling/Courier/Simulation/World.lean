import Courier.Delivery.Batch
import Courier.Files.Tree
import Courier.Simulation.Script

/-!
# Simulated surroundings

A world that answers every request of a program, without a network, a disk or a clock:
files are a tree in memory, partners act by their scripts, and time moves only when
everything waits for it.  Everything a program does with partners is noted.

Main definitions:

- `World` is the state of the surroundings and `Occurrence` what is noted.
- `World.serve` answers a request: a change at once, a wait, and a change after it.
- `World.run` runs a program alone; `Process` is a program that waits, and
  `World.advance` runs a program until it has to wait.

Main statements:

- A program after another one runs in the world that the first one leaves (`run_bind`).
-/

namespace Courier.Simulation

open Calendar

/-- What a program did with a partner. -/
inductive Occurrence where
  /-- It wanted to open a session. -/
  | connected (c : Connect)
  | sent (host : String) (packet : Packet) (flush : Bool)
  /-- It waited until the partner took more. -/
  | wrote (host : String)
  /-- It waited for the end of a transfer. -/
  | awaited (host : String) (timeout : Option Span)
  /-- It sent a packet and wanted an answer. -/
  | asked (host : String) (packet : Packet) (timeout : Span)
  | closed (host : String)
deriving DecidableEq

/-- Somebody who receives the blocks of a stream and may fail at one of them. -/
structure Listener where
  /-- The blocks so far, the latest first. -/
  blocks : List ByteArray := []
  /-- At which block to fail, and how. -/
  failure : Option (Nat × SessionFault) := none

/-- Give a block to a listener. -/
def Listener.hear (l : Listener) (block : ByteArray) : Except SessionFault Listener :=
  match l.failure with
  | some (index, fault) =>
      if l.blocks.length = index then .error fault
      else .ok { l with blocks := block :: l.blocks }
  | none => .ok { l with blocks := block :: l.blocks }

/-- An open session: the partner and the stream that the session carries. -/
structure Line where
  host : String
  through : Through
deriving DecidableEq, Repr, Inhabited

/-- Simulated surroundings. -/
structure World where
  files : FileTree
  store : Store := .memory {}
  /-- The partners; none when there is no network at all. -/
  cast : Option Cast := some []
  /-- The time since the start of the world, in milliseconds. -/
  time : Nat := 0
  /-- How often the clock was read. -/
  readings : Nat := 0
  /-- The sessions that were opened, the latest first. -/
  lines : List Line := []
  /-- What programs did and when, the latest first. -/
  log : List (Nat × Occurrence) := []
  /-- The transfers whose failure was reported, the latest first. -/
  failures : List Record := []
  channel : Channel := {}
  listener : Listener := {}
  sent : Nat := 0
  failed : Nat := 0

namespace World

/-! ## Time -/

/-- The moment when a world starts, in milliseconds from the start of 1970: half a second
past a full one. -/
def originMillis : Nat := 2000000000500

/-- Read the clock.  It shows another moment every time it is read. -/
def readClock (w : World) : Moment × World :=
  (Moment.ofEpochNanos (originMillis * 1000000 + w.readings + 1),
    { w with readings := w.readings + 1 })

/-- Let the time pass up to a point. -/
def waitUntil (w : World) (time : Nat) : World :=
  let time := max w.time time
  { w with time, files := { w.files with time := originMillis + time } }

/-! ## Partners -/

/-- Note what a program did. -/
def note (w : World) (o : Occurrence) : World :=
  { w with log := (w.time, o) :: w.log }

/-- The session with a number. -/
def line (w : World) (s : Session) : Line :=
  w.lines.reverse.getD s.id default

/-- The script of a partner. -/
def scriptOf (w : World) (host : String) : Script :=
  (w.cast.getD []).scriptOf host

/-- Give a partner another script. -/
def setScript (w : World) (host : String) (s : Script) : World :=
  { w with cast := w.cast.map fun c => c.set host s }

/-- Add cues to the scripts of partners. -/
def extendCast (w : World) (more : Cast) : World :=
  { w with cast := w.cast.map fun c => c.extend more }

/-- Open a session. -/
def openLine (w : World) (line : Line) : Session × World :=
  (⟨w.lines.length⟩, { w with lines := line :: w.lines })

/-- What a program is told of the reception by a partner. -/
def receive (w : World) (c : Connect) : Reception → Connect.Result × World
  | .welcome =>
      let (session, w) := w.openLine ⟨c.partner.hostId, c.through⟩
      (.connected session, w)
  | .pending reason => (.pending reason, w)
  | .overloaded => (.overloaded, w)
  | .fatal code message => (.fatal code message, w)

/-- Give blocks to the listener, up to the one that it fails at. -/
def hear (w : World) : List ByteArray → Except SessionFault Unit × World
  | [] => (.ok (), w)
  | block :: rest =>
      match w.listener.hear block with
      | .error fault => (.error fault, w)
      | .ok listener => { w with listener }.hear rest

/-- Give the blocks of a stream to the listener, if the session carries one. -/
def hearStream (w : World) (line : Line) : Except SessionFault Unit × World :=
  if line.through = .receive then w.hear ((w.scriptOf line.host).inbound.getD [])
  else (.ok (), w)

/-- Count a file. -/
def count (w : World) (success : Bool) : World :=
  if success then { w with sent := w.sent + 1 } else { w with failed := w.failed + 1 }

/-! ## Replies -/

/-- How a world answers a request. -/
structure Reply (α : Type) where
  /-- The world after the change at once. -/
  world : World
  /-- How long the answer takes, in milliseconds. -/
  delay : Nat
  /-- The answer and the change after the wait. -/
  finish : World → α × World

/-- Answer at once. -/
def Reply.atOnce {α : Type} (answer : α × World) : Reply α :=
  ⟨answer.2, 0, fun w => (answer.1, w)⟩

/-- Answer by a cue. -/
def Reply.onCue {α : Type} (w : World) (cue : Cue α) : Reply α :=
  ⟨w, cue.delay, fun w => (cue.act, w)⟩

/-- Perform an operation on the ledger. -/
def performLedger (w : World) (op : Ledger.Op) : op.Answer × World :=
  let ((answer, store), files) := (w.store.perform op : StateM FileTree _).run w.files
  (answer, { w with store, files })

/-- Open a session. -/
def serveConnect (w : World) (c : Connect) : Reply Connect.Result :=
  let host := c.partner.hostId
  match w.cast with
  | none =>
      .atOnce (.fatal .connectionImpossible ("no transport attached to reach " ++ host), w)
  | some _ =>
      let (cue, script) := (w.scriptOf host).takeConnect
      ⟨(w.setScript host script).note (.connected c), cue.delay, fun w => w.receive c cue.act⟩

/-- Take a packet. -/
def serveSend (w : World) (s : Session) (p : Packet) (flush : Bool) :
    Reply (Except SessionFault Unit) :=
  let host := (w.line s).host
  let (cue, script) := (w.scriptOf host).takeSend
  .onCue ((w.setScript host script).note (.sent host p flush)) cue

/-- Make a program wait until more is taken, and note that then. -/
def serveWritable (w : World) (s : Session) : Reply (Except SessionFault Unit) :=
  let host := (w.line s).host
  let (cue, script) := (w.scriptOf host).takeWritable
  ⟨w.setScript host script, cue.delay, fun w => (cue.act, w.note (.wrote host))⟩

/-- End a transfer, after its blocks were heard.  A listener that fails ends it too. -/
def serveComplete (w : World) (s : Session) (timeout : Option Span) :
    Reply (Except SessionFault Completion) :=
  let line := w.line s
  match (w.note (.awaited line.host timeout)).hearStream line with
  | (.error fault, w) => .atOnce (.ok (.failed .transferError fault.message), w)
  | (.ok (), w) =>
      let (cue, script) := (w.scriptOf line.host).takeComplete
      .onCue (w.setScript line.host script) cue

/-- Answer a packet. -/
def serveAsk (w : World) (s : Session) (p : Packet) (timeout : Span) :
    Reply (Except SessionFault Answer) :=
  let host := (w.line s).host
  let (cue, script) := (w.scriptOf host).takeAnswer
  .onCue ((w.setScript host script).note (.asked host p timeout)) cue

/-- Answer a request. -/
def serve (w : World) : (r : Request) → Reply r.Answer
  | .now => .atOnce w.readClock
  | .clockFraction => .atOnce (originMillis % 1000 * 1000000, w)
  | .files op => let (answer, files) := w.files.perform op; .atOnce (answer, { w with files })
  | .ledger op => .atOnce (w.performLedger op)
  | .reportFailure r => .atOnce ((), { w with failures := r :: w.failures })
  | .reportProgress p => .atOnce ((), { w with channel := w.channel.send p })
  | .tally success => .atOnce ((), w.count success)
  | .sleep s => ⟨w, s.ticks, fun w => ((), w)⟩
  | .connect c => w.serveConnect c
  | .send s p flush => w.serveSend s p flush
  | .writable s => w.serveWritable s
  | .complete s timeout => w.serveComplete s timeout
  | .ask s p timeout => w.serveAsk s p timeout
  | .close s => .atOnce ((), w.note (.closed (w.line s).host))

/-! ## Runs -/

/-- Answer a request and let the time pass that the answer takes. -/
def answer (w : World) (r : Request) : r.Answer × World :=
  let reply := w.serve r
  reply.finish (reply.world.waitUntil (reply.world.time + reply.delay))

/-- Run a program that nothing else happens beside. -/
def run {α : Type} (w : World) (p : Program α) : α × World :=
  p.runM (m := StateM World) (fun r w => w.answer r) w

/-- A program after another one runs in the world that the first one leaves. -/
theorem run_bind {α β : Type} (w : World) (p : Program α) (f : α → Program β) :
    w.run (p >>= f) = (w.run p).2.run (f (w.run p).1) :=
  congrFun (Program.runM_bind (m := StateM World) _ p f) w

end World

/-! ## Processes -/

/-- A program on its way. -/
inductive Process (α : Type) where
  | finished (a : α)
  | ready (p : Program α)
  /-- It waits up to a point of time for the answer to a request. -/
  | waiting (due : Nat) (r : Request) (finish : World → r.Answer × World)
      (next : r.Answer → Program α)

namespace Process

/-- The point of time from which a process can go on; one that has ended cannot. -/
def due? {α : Type} : Process α → Option Nat
  | finished _ => none
  | ready _ => some 0
  | waiting due _ _ _ => some due

/-- Run a program until it has to wait. -/
def start {α : Type} (w : World) : Program α → Process α × World
  | .done a => (finished a, w)
  | .step r next =>
      let reply := w.serve r
      if reply.delay = 0 then
        let (answer, w) := reply.finish reply.world
        start w (next answer)
      else (waiting (reply.world.time + reply.delay) r reply.finish next, reply.world)

/-- Let a process go on until it has to wait, if its time has come. -/
def resume {α : Type} (w : World) : Process α → Process α × World
  | finished a => (finished a, w)
  | ready p => start w p
  | waiting due r finish next =>
      if due ≤ w.time then
        let (answer, w) := finish w
        start w (next answer)
      else (waiting due r finish next, w)

end Process

end Courier.Simulation
