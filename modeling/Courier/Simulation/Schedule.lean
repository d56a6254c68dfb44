import Courier.Simulation.World
import Courier.Spool.Watch

/-!
# Simulated watches

Watches, their tasks and somebody outside, beside each other in one world.  At every point of
time the tasks go on first, in the order in which they began, then what they brought is
handled, and when nothing is left to do the time moves to the next point that anybody waits
for.

Main definitions:

- `Deed` is what somebody outside does, and `Plan` says when.
- `runBeside` runs a program beside a plan.
- `Station` is a watch with its tasks, `Scene` are all stations with their world and plan, and
  `Scene.run` runs them.
-/

namespace Courier.Simulation

open Calendar

/-! ## Plans -/

/-- What somebody outside does. -/
inductive Deed where
  | change (f : World → World)
  | stop
  | look

/-- Deeds with their points of time, in order. -/
abbrev Plan := List (Nat × Deed)

/-- Carry out the deeds up to a point of time.  None is left of a program that is told to
stop. -/
def Plan.perform (limit : Nat) (w : World) : Plan → Option Plan × World
  | [] => (some [], w)
  | (time, deed) :: rest =>
      if time ≤ limit then
        let w := w.waitUntil time
        match deed with
        | .change f => Plan.perform limit (f w) rest
        | .stop => (none, w)
        | .look => Plan.perform limit w rest
      else (some ((time, deed) :: rest), w)

/-- Run a program beside a plan.  It has no value when it is told to stop while it waits. -/
def runBeside {α : Type} : Program α → Plan → World → Option α × World
  | .done a, _, w => (some a, w)
  | .step r next, plan, w =>
      let reply := w.serve r
      if reply.delay = 0 then
        let (answer, w) := reply.finish reply.world
        runBeside (next answer) plan w
      else
        let due := reply.world.time + reply.delay
        match plan.perform due reply.world with
        | (none, w) => (none, w)
        | (some plan, w) =>
            let (answer, w) := reply.finish (w.waitUntil due)
            runBeside (next answer) plan w

/-! ## Stations -/

/-- A watch with the tasks that it started. -/
structure Station where
  context : Context
  /-- The watch; none when it ended before it began. -/
  watch : Option Watch
  /-- The tasks, in the order in which they began. -/
  tasks : List (Nat × Process Watch.Event) := []
  /-- How the watch ended, and when. -/
  ended : Option (Outcome × Nat) := none

namespace Station

/-- A task as a program that brings an event. -/
def program (ctx : Context) (job : Job) (id : Nat) : Watch.Task → Program Watch.Event
  | .dispatch item => return .dispatched id (← Dispatch.run ctx job item)
  | .inform bulletins => return .informed id (← Bulletin.sendAll ctx bulletins)

/-- Go on with a changed watch: drop the tasks that it has no use for any more, and begin
those that it starts. -/
def adopt (s : Station) (now : Nat) (change : Watch.Change) : Station :=
  let (watch, started) := change
  let begun := started.map fun t => (t.1, Process.ready (program s.context watch.job t.1 t.2))
  { s with
    watch := some watch
    tasks := (s.tasks ++ begun).filter fun t => watch.tasks.contains t.1
    ended := s.ended.or (watch.outcome?.map fun o => (o, now)) }

/-- Begin a watch. -/
def begin (ctx : Context) (job : Job) (w : World) : Station × World :=
  match w.run (Watch.start ctx job w.time) with
  | (.error outcome, w) => ({ context := ctx, watch := none, ended := some (outcome, w.time) }, w)
  | (.ok change, w) => ({ context := ctx, watch := none : Station }.adopt w.time change, w)

/-- Handle an event. -/
def handle (s : Station) (w : World) (e : Watch.Event) : Station × World :=
  match s.watch with
  | none => (s, w)
  | some watch =>
      let (change, w) := w.run (watch.handle w.time e)
      (s.adopt w.time change, w)

/-- Handle events one after the other. -/
def handleAll : List Watch.Event → Station → World → Station × World
  | [], s, w => (s, w)
  | e :: rest, s, w =>
      let (s, w) := s.handle w e
      handleAll rest s w

/-- Let tasks go on, one after the other. -/
def resumeAll : List (Nat × Process Watch.Event) → World →
    List (Nat × Process Watch.Event) × World
  | [], w => ([], w)
  | (id, process) :: rest, w =>
      let (process, w) := process.resume w
      let (others, w) := resumeAll rest w
      ((id, process) :: others, w)

/-- What a task brought that has ended. -/
def brought? : Nat × Process Watch.Event → Option Watch.Event
  | (_, .finished e) => some e
  | _ => none

/-- The event of a watch whose time has come. -/
def dueEvent? (s : Station) (now : Nat) : Option Watch.Event :=
  match s.watch.bind Watch.due? with
  | some (time, e) => if time ≤ now then some e else none
  | none => none

/-- The next point of time that a station waits for. -/
def next? (s : Station) : Option Nat :=
  (s.tasks.filterMap (·.2.due?) ++ (s.watch.bind Watch.due?).toList.map Prod.fst).min?

/-- Whether there is something to do for a station. -/
def isBusy (s : Station) (now : Nat) : Bool :=
  s.next?.any (· ≤ now)

/-- Let the tasks go on and handle what they bring; when they bring nothing, handle the event
of the watch whose time has come. -/
def goOn (s : Station) (w : World) : Station × World :=
  let (tasks, w) := resumeAll s.tasks w
  let events := tasks.filterMap brought?
  let s := { s with tasks := tasks.filter fun t => (brought? t).isNone }
  if events.isEmpty then
    match s.dueEvent? w.time with
    | some e => s.handle w e
    | none => (s, w)
  else handleAll events s w

/-- The stage of a watch. -/
def stage (s : Station) : Watch.Stage :=
  match s.watch with
  | some watch => watch.stage
  | none => .stopped

end Station

/-! ## Scenes -/

/-- What somebody saw who looked at a watch. -/
structure Sighting where
  time : Nat
  stage : Watch.Stage
  sent : Nat
  failed : Nat
deriving DecidableEq, Repr

/-- Stations in a world, with the plan of somebody outside. -/
structure Scene where
  world : World
  stations : List Station
  /-- What is still to be done from outside. -/
  plan : Plan := []
  /-- What was seen, the latest first. -/
  sightings : List Sighting := []

namespace Scene

/-- Change the stations one after the other. -/
def mapStations (f : Station → World → Station × World) :
    List Station → World → List Station × World
  | [], w => ([], w)
  | s :: rest, w =>
      let (s, w) := f s w
      let (others, w) := mapStations f rest w
      (s :: others, w)

/-- Change all stations of a scene. -/
def update (scene : Scene) (f : Station → World → Station × World) : Scene :=
  let (stations, world) := mapStations f scene.stations scene.world
  { scene with stations, world }

/-- Begin watches. -/
def begin (ctx : Context) (jobs : List Job) (plan : Plan) (w : World) : Scene :=
  jobs.foldl
    (fun scene job =>
      let (s, world) := Station.begin ctx job scene.world
      { scene with world, stations := scene.stations ++ [s] })
    { world := w, stations := [], plan }

/-- Carry out a deed. -/
def carryOut (scene : Scene) : Deed → Scene
  | .change f => { scene with world := f scene.world }
  | .stop => scene.update fun s w => s.handle w .stop
  | .look =>
      let seen := scene.stations.map fun s =>
        ⟨scene.world.time, s.stage, scene.world.sent, scene.world.failed⟩
      { scene with sightings := seen ++ scene.sightings }

/-- Carry out the next deed, if its time has come. -/
def followPlan (scene : Scene) : Scene :=
  match scene.plan with
  | (time, deed) :: rest =>
      if time ≤ scene.world.time then { scene with plan := rest }.carryOut deed else scene
  | [] => scene

/-- Whether there is something to do for a station. -/
def isBusy (scene : Scene) : Bool :=
  scene.stations.any fun s => s.isBusy scene.world.time

/-- The next point of time that anybody waits for. -/
def next? (scene : Scene) : Option Nat :=
  (scene.stations.filterMap Station.next? ++ (scene.plan.head?.map Prod.fst).toList).min?

/-- Run a scene up to a point of time, but not longer than `bound` rounds. -/
def run (limit : Nat) : Nat → Scene → Scene
  | 0, scene => scene
  | bound + 1, scene =>
      if scene.isBusy then run limit bound (scene.update Station.goOn)
      else
        match scene.next? with
        | none => scene
        | some time =>
            if limit < time then scene
            else run limit bound { scene with world := scene.world.waitUntil time }.followPlan

/-- How the watches of a scene ended, as far as they did. -/
def outcomes (scene : Scene) : List (Option Outcome) :=
  scene.stations.map fun s => s.ended.map Prod.fst

end Scene

end Courier.Simulation
