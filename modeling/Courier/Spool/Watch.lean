import Courier.Spool.Bulletin
import Courier.Spool.Dispatch
import Courier.Spool.Lock

/-!
# Watches

The life of a spool: claim the lock, look at the directories again and again, dispatch the
files that are ready, keep the observers informed, and come to an orderly end.

A watch does not run by itself.  It waits for events: a point of time, the end of a dispatch
or of a round of messages, or the wish to stop.  An event changes the watch and may start
tasks, which run beside it.

Main definitions:

- `Watch` is a watch and `Watch.Phase` what it is at.
- `Watch.Event` is what a watch waits for and `Watch.Task` what it starts.
- `Watch.start` begins a watch and `Watch.handle` handles an event.
- `Watch.due?` is the point of time that a watch waits for, and `Watch.tasks` are the tasks
  that it waits for.

Times are in milliseconds from the start of the surroundings.
-/

namespace Courier

open Calendar

/-- What a watch is at. -/
inductive Watch.Phase where
  /-- It waits for the lock, and looks again at a point of time. -/
  | claiming (looks : Nat) (next : Nat)
  | watching
  /-- It dispatches files one after the other and does nothing else. -/
  | dispatching
  /-- It informs observers by a task and does nothing else. -/
  | informing (task : Nat)
  /-- It waits for the dispatches that are under way. -/
  | draining
  /-- It informs observers by a task for the last time, up to a point of time. -/
  | parting (task : Nat) (deadline : Nat)
  | ended (outcome : Outcome)
deriving DecidableEq, Repr, Inhabited

/-- What a watch is at, as others see it. -/
inductive Watch.Stage where
  /-- It has not begun to watch. -/
  | initializing
  | watching
  /-- It dispatches files one after the other. -/
  | dispatching
  | stopped
deriving DecidableEq, Repr, Inhabited

/-- What a watch starts. -/
inductive Watch.Task where
  | dispatch (item : Item)
  | inform (bulletins : List Bulletin)
deriving DecidableEq, Repr

/-- What a watch waits for. -/
inductive Watch.Event where
  /-- The time of the next look at the lock has come. -/
  | claimTime
  /-- The time of the next look at the directories has come. -/
  | lookTime
  /-- The time of the next messages to observers has come. -/
  | informTime
  /-- The time for the last messages is up. -/
  | partTime
  /-- Somebody wants the watch to stop. -/
  | stop
  /-- A task has dispatched an item. -/
  | dispatched (task : Nat) (result : Dispatch.Result)
  | informed (task : Nat) (receipts : List Bulletin.Receipt)
deriving DecidableEq, Repr

/-- A watch. -/
structure Watch where
  job : Job
  monitor : Monitor
  phase : Watch.Phase
  /-- When the next look at the directories is due. -/
  nextLook : Nat := 0
  /-- When the next messages to observers are due. -/
  nextInform : Nat := 0
  /-- The items that wait for their dispatch. -/
  waiting : List Item := []
  dispatches : List (Nat × Item) := []
  /-- The task that sends messages beside the watch. -/
  informer : Option Nat := none
  /-- The number of the next task. -/
  nextTask : Nat := 0
  /-- Whether somebody wants the watch to stop. -/
  stopWanted : Bool := false
deriving Repr

namespace Watch

/-- A watch with the tasks that it starts. -/
abbrev Change := Watch × List (Nat × Task)

/-- The stage of a watch. -/
def stage (w : Watch) : Stage :=
  match w.phase with
  | .claiming _ _ => .initializing
  | .dispatching => .dispatching
  | .ended _ => .stopped
  | _ => .watching

/-- How a watch ended. -/
def outcome? (w : Watch) : Option Outcome :=
  match w.phase with
  | .ended outcome => some outcome
  | _ => none

/-- The lock of a job. -/
def lockOf (job : Job) : Lock :=
  ⟨job.lockFile, job.stopFile⟩

/-- The outcome of a watch that cannot run. -/
def failure (cause : String) : Outcome :=
  .failed .internal cause none

/-- The outcome of a watch that came to an orderly end. -/
def success : Outcome :=
  .succeeded .completeOk none

/-- The watch at another phase. -/
def turnTo (w : Watch) (phase : Phase) : Watch :=
  { w with phase }

/-! ## Times -/

/-- How late an event may be before the following ones are put off, in milliseconds. -/
def tolerance : Nat := 5

/-- When an event that happens again and again is due next. -/
def nextTime (due period now : Nat) : Nat :=
  if due + tolerance < now then now + period else due + period

/-- The point of time that a watch waits for, and the event then. -/
def due? (w : Watch) : Option (Nat × Event) :=
  match w.phase with
  | .claiming _ next => some (next, .claimTime)
  | .watching =>
      if w.job.observerHosts.isEmpty || w.nextLook ≤ w.nextInform then some (w.nextLook, .lookTime)
      else some (w.nextInform, .informTime)
  | .parting _ deadline => some (deadline, .partTime)
  | _ => none

/-- The tasks that a watch waits for.  A task that is none of them any more is of no use. -/
def tasks (w : Watch) : List Nat :=
  w.dispatches.map Prod.fst ++ w.informer.toList ++
    match w.phase with
    | .informing task => [task]
    | .parting task _ => [task]
    | _ => []

/-! ## The end -/

/-- Save what is known, give the lock back and end. -/
def finish (w : Watch) : Program Change := do
  let (_, monitor) ← w.monitor.saveStatus
  (lockOf w.job).release
  return ({ w with monitor, phase := .ended success }, [])

/-- Inform the observers for the last time. -/
def part (w : Watch) (now : Nat) : Program Change := do
  if w.job.observerHosts.isEmpty then w.finish
  else
    let moment ← Program.now
    let bulletins := Bulletin.prepare w.job.observerHosts w.monitor moment
    return ({ w with
        phase := .parting w.nextTask (now + w.job.elapseObserverMs)
        nextTask := w.nextTask + 1 }, [(w.nextTask, .inform bulletins)])

/-- Wait for the dispatches that are under way, or go on when there is none. -/
def drain (w : Watch) (now : Nat) : Program Change :=
  if w.waiting.isEmpty && w.dispatches.isEmpty then part { w with phase := .draining } now
  else return ({ w with phase := .draining }, [])

/-- Stop looking at the directories. -/
def leave (w : Watch) (now : Nat) : Program Change :=
  drain { w with informer := none } now

/-! ## Dispatches -/

/-- How many more items may be dispatched now. -/
def room (w : Watch) : Nat :=
  match w.job.limit? with
  | none => w.waiting.length
  | some limit => limit - w.dispatches.length

/-- Start the dispatches that there is room for. -/
def dispatchWaiting (w : Watch) : Change :=
  let begun := w.waiting.take w.room
  let numbered := (List.range' w.nextTask begun.length).zip begun
  ({ w with
      waiting := w.waiting.drop w.room
      dispatches := w.dispatches ++ numbered
      nextTask := w.nextTask + begun.length },
    numbered.map fun t => (t.1, .dispatch t.2))

/-- Note the result of a dispatch and start the next one. -/
def settle (w : Watch) (task : Nat) (result : Dispatch.Result) : Program Change := do
  let moment ← Program.now
  let monitor := w.monitor.finalize result.path result.success result.specialId moment
  return dispatchWaiting { w with
    monitor, dispatches := w.dispatches.filter fun t => t.1 != task }

/-- Save what is known and watch on. -/
def saveAndWatch (w : Watch) : Program Watch := do
  let (_, monitor) ← w.monitor.saveStatus
  return { w with monitor, phase := .watching }

/-- Watch on, unless somebody wants the watch to stop. -/
def resume (w : Watch) (now : Nat) : Program Change :=
  if w.stopWanted then w.leave now else return (w, [])

/-! ## Looks -/

/-- Dispatch the items that became ready: beside each other, or one after the other. -/
def dispatchReady (w : Watch) (ready : List Item) (now : Nat) : Program Change := do
  let w := { w with waiting := w.waiting ++ ready }
  if w.job.isParallel || ready.isEmpty then
    let w ← w.saveAndWatch
    let (w, started) := w.dispatchWaiting
    let (w, more) ← w.resume now
    return (w, started ++ more)
  else return dispatchWaiting { w with phase := .dispatching }

/-- Look at the directories, or leave when the stop file is there. -/
def look (w : Watch) (now : Nat) : Program Change := do
  let w := { w with nextLook := nextTime w.nextLook w.job.elapseMs now }
  if ← Files.pathExists w.job.stopFile then w.leave now
  else
    let moment ← Program.now
    let _ ← (lockOf w.job).refresh moment
    let (ready, monitor) ← w.monitor.scan
    dispatchReady { w with monitor } ready now

/-- Inform the observers, unless the last messages are still under way. -/
def inform (w : Watch) (now : Nat) : Program Change := do
  let w := { w with nextInform := nextTime w.nextInform w.job.elapseObserverMs now }
  if w.informer.isSome then return (w, [])
  else
    let moment ← Program.now
    let bulletins := Bulletin.prepare w.job.observerHosts w.monitor moment
    let task := w.nextTask
    let w := { w with nextTask := w.nextTask + 1 }
    let w := if w.job.isParallel then { w with informer := some task }
      else { w with phase := .informing task }
    return (w, [(task, .inform bulletins)])

/-! ## The beginning -/

/-- Go on after a look at the lock. -/
def claim (w : Watch) (c : Lock.Claim) (now : Nat) : Program Change :=
  match c with
  | .held => resume { w with phase := .watching, nextLook := now, nextInform := now } now
  | .waiting looks => return (w.turnTo (.claiming looks (now + w.job.elapseMs)), [])
  | .yielded => return (w.turnTo (.ended success), [])
  | .refused fault => return (w.turnTo (.ended (failure fault.message)), [])

/-- What is wrong with a job and its rule. -/
def check (ctx : Context) (job : Job) : Program (Except SpoolFault Unit) := do
  match ← job.check with
  | .error fault => return .error fault
  | .ok () =>
      match ctx.rules.resolve job.rule with
      | .error fault => return .error (.transfer fault)
      | .ok rule =>
          if rule.canSend then return .ok ()
          else return .error (.invalid ("rule " ++ rule.name ++ " cannot send"))

/-- The first path that is no directory. -/
def firstMissing : List Path → Program (Option Path)
  | [] => return none
  | p :: rest => do
      if ← Files.isDirectory p then firstMissing rest else return some p

/-- Load the monitor, whose days are those of a zone, and claim the lock. -/
def begin (zone : Zone) (job : Job) (now : Nat) : Program (Except Outcome Change) := do
  let moment ← Program.now
  match ← Monitor.load job (zone.date moment) zone with
  | .error fault => return .error (failure fault.message)
  | .ok monitor =>
      let moment ← Program.now
      let c ← (lockOf job).begin moment
      let change ← claim { job, monitor, phase := .claiming 0 now } c now
      return .ok change

/-- Begin a watch, unless there is nothing to do or something is wrong. -/
def start (ctx : Context) (job : Job) (now : Nat) : Program (Except Outcome Change) := do
  match ← check ctx job with
  | .error fault => return .error (failure fault.message)
  | .ok () =>
      if ← Files.pathExists job.stopFile then return .error success
      else
        match ← firstMissing job.directories with
        | some p => return .error (failure (p.text ++ " is not a directory"))
        | none => begin ctx.hosts.zone job now

/-! ## Events -/

/-- A dispatch has ended. -/
def onDispatched (w : Watch) (task : Nat) (result : Dispatch.Result) (now : Nat) :
    Program Change := do
  let (w, started) ← w.settle task result
  if w.dispatches.isEmpty && w.phase = .dispatching then
    let w ← w.saveAndWatch
    let (w, more) ← w.resume now
    return (w, started ++ more)
  else if w.dispatches.isEmpty && w.phase = .draining then
    let (w, more) ← w.part now
    return (w, started ++ more)
  else return (w, started)

/-- Messages were sent. -/
def onInformed (w : Watch) (task : Nat) (receipts : List Bulletin.Receipt) (now : Nat) :
    Program Change :=
  let noted := { w with monitor := Bulletin.apply w.monitor receipts }
  match w.phase with
  | .informing _ => resume { noted with phase := .watching } now
  | .parting _ _ => noted.finish
  | _ => return ({ noted with informer := w.informer.filter (· != task) }, [])

/-- Somebody wants the watch to stop. -/
def onStop (w : Watch) (now : Nat) : Program Change :=
  let w := { w with stopWanted := true }
  match w.phase with
  | .claiming _ _ => return (w.turnTo (.ended success), [])
  | .watching => w.leave now
  | .informing _ => w.leave now
  | _ => return (w, [])

/-- Handle an event.  An event that the watch does not wait for changes nothing. -/
def handle (w : Watch) (now : Nat) (e : Event) : Program Change :=
  match e with
  | .stop => w.onStop now
  | .dispatched task result =>
      if w.dispatches.any (·.1 == task) then w.onDispatched task result now else return (w, [])
  | .informed task receipts =>
      if w.tasks.contains task then w.onInformed task receipts now else return (w, [])
  | .claimTime =>
      match w.phase with
      | .claiming looks _ => do
          let moment ← Program.now
          let c ← (lockOf w.job).poll looks moment
          w.claim c now
      | _ => return (w, [])
  | .lookTime => if w.phase = .watching then w.look now else return (w, [])
  | .informTime =>
      if w.phase = .watching && !w.job.observerHosts.isEmpty then w.inform now
      else return (w, [])
  | .partTime =>
      match w.phase with
      | .parting _ _ => w.finish
      | _ => return (w, [])

end Watch

end Courier
