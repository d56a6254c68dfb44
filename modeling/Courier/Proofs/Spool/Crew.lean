import Courier.Proofs.Spool.Counting
import Courier.Proofs.Spool.Detection
import Courier.Proofs.Spool.Resting
import Mathlib.Data.Bool.Count

/-!
# The crew of a spool

Every file that a look returns gets a worker of its own.  A worker waits for its turn, dispatches
the file to all hosts and sends the result to the watch, which takes the results when it comes to
that.  Workers end in any order, and results are taken in any order and as late as one likes: while
the watch looks on, or only when it drains.  It makes no difference when anybody notices that a
worker has ended.

Main definitions:

- `Crew` is a spool with its workers and their results beside it, `Crew.Step` one step of all of
  them and `Crew.Life` a life up to any moment.
- `Crew.Balanced` says that nothing was lost or counted twice.

Main statements:

- At any moment of a life, a watch that does not care for results has nothing to dispatch
  (`Spool.Life.resting`).
- Every file that was returned has a worker, and every worker that has ended has its result noted
  or on its way (`Crew.Life.hired`, `Crew.Life.reported`).  So what the watch still waits for is
  with the workers or on its way (`Crew.Life.staffed`).
- However an event is handled, this is a step (`Crew.step_of_run_event`,
  `Crew.step_of_run_dispatched`, `Crew.step_of_run_informed`).
- When the watch has ended, nothing was lost or counted twice (`Crew.Life.balanced_of_ended`).
-/

namespace Courier

open Program Calendar

namespace Watch

/-! ## What deeds tell of items -/

/-- The items whose dispatch was begun by a deed. -/
def Deed.started : Deed → List Item
  | begun tasks => tasks.map Prod.snd
  | _ => []

/-- The item with its result that a deed noted. -/
def Deed.settled? : Deed → Option (Item × Dispatch.Result)
  | settled item result _ => some (item, result)
  | _ => none

section Deeds

variable {w w' : Watch} {d : Deed} {ds : List Deed}

/-- The dispatches that end are those that have a result. -/
theorem flatMap_ended (ds : List Deed) :
    ds.flatMap Deed.ended = (ds.filterMap Deed.settled?).map Prod.fst := by
  induction ds with
  | nil => rfl
  | cons d rest ih =>
      rw [List.flatMap_cons, ih]
      cases d <;> rfl

/-- The results that count as good are the successful ones. -/
theorem countP_counted (zone : Zone) (ds : List Deed) :
    (ds.filterMap (Deed.counted? zone)).countP (·.1) =
      (ds.filterMap Deed.settled?).countP (·.2.success) := by
  induction ds with
  | nil => rfl
  | cons d rest ih =>
      cases d with
      | settled item result now =>
          have hcons := congrArg (· + if result.success then 1 else 0) ih
          simpa [Deed.counted?, Deed.settled?, List.countP_cons] using hcons
      | _ => exact ih

/-- Every result counts. -/
theorem length_counted (zone : Zone) (ds : List Deed) :
    (ds.filterMap (Deed.counted? zone)).length = (ds.filterMap Deed.settled?).length := by
  induction ds with
  | nil => rfl
  | cons d rest ih =>
      cases d with
      | settled item result now => exact congrArg Nat.succ ih
      | _ => exact ih

/-- What waits and what is ready is what is started and what still waits. -/
theorem Does.waiting (h : Does w d w') :
    w.waiting ++ d.ready = d.started ++ w'.waiting := by
  cases h with
  | look row accepted idle => rfl
  | begin =>
      show w.waiting ++ [] = w.beginning.map Prod.snd ++ w.waiting.drop w.room
      rw [map_snd_beginning, List.take_append_drop, List.append_nil]
  | _ => exact List.append_nil _

/-- The dispatches are begun in the order in which the files became ready. -/
theorem Moves.waiting (h : Moves w ds w') :
    w.waiting ++ ds.flatMap Deed.ready = ds.flatMap Deed.started ++ w'.waiting := by
  induction h with
  | done => exact List.append_nil _
  | turn moves turns ih =>
      rw [turns.waiting]
      exact ih
  | move moves does ih =>
      rw [List.flatMap_append, List.flatMap_append, List.flatMap_singleton,
        List.flatMap_singleton, ← List.append_assoc, ih, List.append_assoc, List.append_assoc,
        does.waiting]

end Deeds

end Watch

/-! ## Spools and their workers -/

namespace Spool

/-- The files that the looks of a life returned. -/
def returned (log : List Happening) : List Item :=
  (deeds log).flatMap Watch.Deed.ready

/-- The files whose dispatch was begun. -/
def begun (log : List Happening) : List Item :=
  (deeds log).flatMap Watch.Deed.started

/-- The results that were noted, each with its file. -/
def settled (log : List Happening) : List (Item × Dispatch.Result) :=
  (deeds log).filterMap Watch.Deed.settled?

/-- The results that were counted, each with the date that the clocks of a zone showed. -/
def counted (zone : Zone) (log : List Happening) : List (Bool × Date) :=
  (deeds log).filterMap (Watch.Deed.counted? zone)

variable {ctx : Context} {first s s' : Spool} {log happened : List Happening}

@[simp] theorem returned_append (log others : List Happening) :
    returned (log ++ others) = returned log ++ returned others := by
  rw [returned, deeds_append, List.flatMap_append]
  rfl

@[simp] theorem settled_append (log others : List Happening) :
    settled (log ++ others) = settled log ++ settled others := by
  rw [settled, deeds_append, List.filterMap_append]
  rfl

/-- A watch that does not care for results has nothing to dispatch after a step either. -/
theorem Step.resting (h : Step ctx s happened s') (hs : s.watch.Resting) :
    s'.watch.Resting := by
  cases h with
  | event plain run handles => exact Watch.resting_of_run_handle hs run
  | dispatched mem dispatch run settles handles => exact Watch.resting_of_run_handle hs run
  | informed dealt run notes handles => exact Watch.resting_of_run_handle hs run
  | arrive left fresh => exact hs
  | answer left run heard => exact hs

/-- A spool whose watch rests at first only lives on with one that does. -/
theorem Life.resting (h : Life ctx first log s) (hfirst : first.watch.Resting) :
    s.watch.Resting := by
  induction h with
  | start => exact hfirst
  | step life step ih => exact step.resting ih

end Spool

/-- A spool with its workers beside it. -/
structure Crew where
  spool : Spool
  /-- The files whose workers have not ended. -/
  working : List Item
  /-- The results that the watch has not taken yet, each with its file. -/
  sent : List (Item × Dispatch.Result)

namespace Crew

/-- What a worker did. -/
structure Work where
  item : Item
  trace : Trace
  result : Dispatch.Result

namespace Work

/-- The file with the result that was sent to the watch. -/
def report (work : Work) : Item × Dispatch.Result :=
  (work.item, work.result)

/-- Whether the file went to every host. -/
def succeeded (work : Work) : Bool :=
  work.trace.tallies.all id

end Work

/-- What workers have counted: for each file and host, whether the file went there. -/
def tallies (works : List Work) : List Bool :=
  works.flatMap fun work => work.trace.tallies

/-- One step of a spool with its workers. -/
inductive Step (ctx : Context) : Crew → List Spool.Happening → List Work → Crew → Prop where
  /-- A worker ends, and sends its result. -/
  | work {c : Crew} {work : Work} {others : List Item}
      (working : c.working.Perm (work.item :: others))
      (run : Run (Dispatch.run ctx c.spool.watch.job work.item) work.trace work.result) :
      Step ctx c [] [work] { c with working := others, sent := c.sent ++ [work.report] }
  /-- The spool makes a step.  The results that are noted are taken from those that were sent,
  and every file that is returned gets a worker. -/
  | spool {c : Crew} {happened : List Spool.Happening} {s' : Spool}
      {left : List (Item × Dispatch.Result)} (step : Spool.Step ctx c.spool happened s')
      (taken : c.sent.Perm (Spool.settled happened ++ left)) :
      Step ctx c happened [] ⟨s', c.working ++ Spool.returned happened, left⟩

/-- A life up to some moment, with all that happened and all that workers did. -/
inductive Life (ctx : Context) (first : Spool) : List Spool.Happening → List Work → Crew → Prop
  where
  | start : Life ctx first [] [] ⟨first, [], []⟩
  | step {log happened : List Spool.Happening} {works others : List Work} {c c' : Crew}
      (life : Life ctx first log works c) (step : Step ctx c happened others c') :
      Life ctx first (log ++ happened) (works ++ others) c'

namespace Life

variable {ctx : Context} {first : Spool} {log : List Spool.Happening} {works : List Work}
  {c : Crew}

/-- It is a life of the spool. -/
theorem spool (h : Life ctx first log works c) : Spool.Life ctx first log c.spool := by
  induction h with
  | start => exact .start
  | step life step ih =>
      cases step with
      | work working run =>
          rw [List.append_nil]
          exact ih
      | spool step taken => exact ih.step step

/-- Every file that was returned has a worker, which works or has ended. -/
theorem hired (h : Life ctx first log works c) :
    (works.map Work.item ++ c.working).Perm (Spool.returned log) := by
  induction h with
  | start => exact .nil
  | @step log happened works others c c' life step ih =>
      cases step with
      | @work work left working run =>
          rw [List.append_nil, List.map_append, List.append_assoc]
          exact (working.symm.append_left _).trans ih
      | spool step taken =>
          rw [List.append_nil, ← List.append_assoc, Spool.returned_append]
          exact ih.append_right _

/-- Every worker that has ended has its result noted or on its way. -/
theorem reported (h : Life ctx first log works c) :
    (Spool.settled log ++ c.sent).Perm (works.map Work.report) := by
  induction h with
  | start => exact .nil
  | @step log happened works others c c' life step ih =>
      cases step with
      | work working run =>
          rw [List.append_nil, List.map_append, ← List.append_assoc]
          exact ih.append_right _
      | spool step taken =>
          rw [List.append_nil, Spool.settled_append, List.append_assoc]
          exact (taken.symm.append_left _).trans ih

/-- Every file that waits for its dispatch or is being dispatched has a worker that works, or a
result on its way. -/
theorem staffed {job : Job} {change : Watch.Change} (hbegins : Watch.Begins job change)
    (h : Life ctx ⟨change.1, none⟩ log works c) :
    (c.sent.map Prod.fst ++ c.working).Perm c.spool.watch.pending := by
  have hfirst : change.1.Idle := ⟨hbegins.waiting, hbegins.dispatches⟩
  have hpending := h.spool.moves.pending hbegins.steady.sound
  rw [hfirst.pending, List.nil_append, Watch.flatMap_ended] at hpending
  have hreported := h.reported.map Prod.fst
  rw [List.map_append, List.map_map] at hreported
  refine (List.perm_append_left_iff ((Spool.settled log).map Prod.fst)).1 ?_
  rw [← List.append_assoc]
  calc List.Perm _ (works.map Work.item ++ c.working) := hreported.append_right _
    List.Perm _ (Spool.returned log) := h.hired
    List.Perm _ _ := hpending

/-- Every worker has dispatched its file. -/
theorem runs (h : Life ctx first log works c) :
    ∀ work ∈ works, Run (Dispatch.run ctx first.watch.job work.item) work.trace work.result := by
  induction h with
  | start => exact fun _ hwork => nomatch hwork
  | @step log happened works others c c' life step ih =>
      intro work hwork
      rcases List.mem_append.1 hwork with hwork | hwork
      · exact ih work hwork
      · cases step with
        | work working run =>
            rw [List.mem_singleton.1 hwork, ← life.spool.moves.job]
            exact run
        | spool step taken => cases hwork

end Life

/-! ## Every run is a step -/

section Steps

variable (ctx : Context) {c : Crew} {now : Nat} {t : Trace} {change : Watch.Change}

/-- What a watch does by itself notes no result. -/
theorem settled_of_own {ds : List Watch.Deed} (hown : ∀ d ∈ ds, d.isOwn = true)
    (change : Watch.Change) (round : Option Round) :
    Spool.settled (ds.map .deed ++ Spool.abandonment round change) = [] := by
  rw [Spool.settled, Spool.deeds_append, Spool.deeds_map_deed, Spool.deeds_abandonment,
    List.append_nil]
  refine List.filterMap_eq_nil_iff.2 fun d hd => ?_
  have hdeed := hown d hd
  cases d with
  | settled item result now => cases hdeed
  | _ => rfl

/-- An event that brings no result is a step without one. -/
theorem step_of_run_event {e : Watch.Event} (hs : c.spool.watch.Steady)
    (hplain : e.isPlain = true) (h : Run (c.spool.watch.handle now e) t change) :
    ∃ happened, Spool.settled happened = [] ∧ Step ctx c happened []
      ⟨Spool.adopt c.spool.round change, c.working ++ Spool.returned happened, c.sent⟩ := by
  obtain ⟨ds, hhandles⟩ := Watch.handles_of_run_handle hs
    (fun task result heq => by rw [heq] at hplain; cases hplain)
    (fun task receipts heq => by rw [heq] at hplain; cases hplain) h
  have hnone := settled_of_own hhandles.own change c.spool.round
  refine ⟨_, hnone, .spool (.event hplain h hhandles) ?_⟩
  rw [hnone]
  exact .refl _

/-- A result is counted in the step that it comes with. -/
theorem step_of_run_dispatched {task : Nat} {item : Item} {result : Dispatch.Result}
    {left : List (Item × Dispatch.Result)} {u : Trace} (hs : c.spool.watch.Steady)
    (hmem : (task, item) ∈ c.spool.watch.dispatches)
    (hsent : c.sent.Perm ((item, result) :: left))
    (hdispatch : Run (Dispatch.run ctx c.spool.watch.job item) u result)
    (h : Run (c.spool.watch.handle now (.dispatched task result)) t change) :
    ∃ happened, Spool.settled happened = [(item, result)] ∧ Step ctx c happened []
      ⟨Spool.adopt c.spool.round change, c.working ++ Spool.returned happened, left⟩ := by
  obtain ⟨moment, w₁, ds, hsettles, hhandles⟩ := Watch.handles_of_run_dispatched hs hmem
    (Spool.path_of_run_dispatch hdispatch) h
  have hone : Spool.settled (.deed (.settled item result moment) :: ds.map .deed ++
      Spool.abandonment c.spool.round change) = [(item, result)] :=
    congrArg ((item, result) :: ·) (settled_of_own hhandles.own change c.spool.round)
  refine ⟨_, hone, .spool (.dispatched hmem hdispatch h hsettles hhandles) ?_⟩
  rw [hone]
  exact hsent

/-- The answers of observers are no results. -/
theorem step_of_run_informed {r : Round} (hs : c.spool.watch.Steady)
    (hround : c.spool.round = some r) (hover : r.left = [])
    (htask : r.task ∈ c.spool.watch.informers)
    (h : Run (c.spool.watch.handle now (.informed r.task r.receipts)) t change) :
    ∃ happened, Spool.settled happened = [] ∧ Step ctx c happened []
      ⟨Spool.adopt none change, c.working ++ Spool.returned happened, c.sent⟩ := by
  have htasks : r.task ∈ c.spool.watch.tasks := by
    rw [Watch.informers] at htask
    rw [Watch.tasks, List.append_assoc]
    exact List.mem_append_right _ htask
  obtain ⟨w₁, ds, hnotes, hhandles⟩ := Watch.handles_of_run_informed hs htasks h
  have hnone : Spool.settled (.deed (.noted r.receipts) :: ds.map .deed) = [] := by
    have hown := settled_of_own hhandles.own change none
    rwa [Spool.abandonment, Option.filter_none, Option.toList_none, List.map_nil,
      List.append_nil] at hown
  obtain ⟨⟨w, round⟩, working, sent⟩ := c
  cases hround
  refine ⟨_, hnone, .spool (.informed hover h hnotes hhandles) ?_⟩
  rw [hnone]
  exact .refl _

end Steps

/-! ## When the watch has ended -/

/-- Nothing was lost or counted twice: what was returned was dispatched and noted once, and
counted just so, on the dates that the clocks of a zone showed. -/
structure Balanced (ctx : Context) (job : Job) (zone : Zone) (loaded : Counters)
    (log : List Spool.Happening) (works : List Work) (counters : Counters) : Prop where
  /-- Every file that was returned was dispatched once for that. -/
  begun : Spool.begun log = Spool.returned log
  worked : (works.map Work.item).Perm (Spool.returned log)
  runs : ∀ work ∈ works, Run (Dispatch.run ctx job work.item) work.trace work.result
  /-- Its result was noted once. -/
  noted : (Spool.settled log).Perm (works.map Work.report)
  total : counters.globalOk + counters.globalError =
    loaded.globalOk + loaded.globalError + (Spool.returned log).length
  globalOk : counters.globalOk = loaded.globalOk + works.countP Work.succeeded
  /-- Every host was counted once for every file. -/
  hosts : (tallies works).count true + (tallies works).count false =
    (Spool.returned log).length * job.hosts.length
  /-- The day is that of the last results. -/
  today : ∃ before stretch,
    Counters.LastStretch loaded (Spool.counted zone log) before stretch counters

section Balanced

variable {ctx : Context} {job : Job} {log : List Spool.Happening} {works : List Work}
  {work : Work} {c : Crew}

/-- Work succeeds when its dispatch says so. -/
theorem Work.success_eq_succeeded
    (h : Run (Dispatch.run ctx job work.item) work.trace work.result) :
    work.result.success = work.succeeded := by
  rw [Bool.eq_iff_iff, (Dispatch.tallies_of_run_dispatch h).2, succeeded, List.all_eq_true]
  rfl

/-- Every worker has counted every host once. -/
theorem length_tallies
    (h : ∀ work ∈ works, Run (Dispatch.run ctx job work.item) work.trace work.result) :
    (tallies works).length = works.length * job.hosts.length := by
  induction works with
  | nil => simp [tallies]
  | cons work rest ih =>
      have hrest := ih fun other hother => h other (List.mem_cons_of_mem _ hother)
      have hwork := (Dispatch.tallies_of_run_dispatch (h work List.mem_cons_self)).1
      calc
        (tallies (work :: rest)).length = work.trace.tallies.length + (tallies rest).length := by
          rw [tallies, List.flatMap_cons, List.length_append, tallies]
        _ = (work :: rest).length * job.hosts.length := by
          rw [hwork, hrest, List.length_cons, Nat.succ_mul, Nat.add_comm]

/-- When nothing is pending, every file that was returned was dispatched, and no result is on its
way. -/
theorem Life.worked_of_idle {change : Watch.Change} (hbegins : Watch.Begins job change)
    (life : Life ctx ⟨change.1, none⟩ log works c) (hidle : c.spool.watch.pending = []) :
    c.sent = [] ∧ (works.map Work.item).Perm (Spool.returned log) := by
  have hstaffed := life.staffed hbegins
  rw [hidle] at hstaffed
  obtain ⟨hsent, hworking⟩ := List.append_eq_nil_iff.1 hstaffed.eq_nil
  have hhired := life.hired
  rw [hworking, List.append_nil] at hhired
  exact ⟨List.map_eq_nil_iff.1 hsent, hhired⟩

/-- When the watch has ended, nothing was lost or counted twice, unless a count has outgrown its 64
bits.  The days are those of the zone that the monitor was loaded with. -/
theorem Life.balanced_of_ended {change : Watch.Change} {outcome : Outcome}
    (hbegins : Watch.Begins job change) (life : Life ctx ⟨change.1, none⟩ log works c)
    (hended : c.spool.watch.phase = .ended outcome)
    (hroom : change.1.monitor.counters.HasRoom (Spool.returned log).length) :
    Balanced ctx job change.1.monitor.zone change.1.monitor.counters log works
      c.spool.watch.monitor.counters := by
  have hmoves := life.spool.moves
  have hlast : c.spool.watch.Idle := by
    refine life.spool.resting (fun _ => ⟨hbegins.waiting, hbegins.dispatches⟩) ?_
    rw [hended]
    rfl
  obtain ⟨hsent, hhired⟩ := life.worked_of_idle hbegins hlast.pending
  have hreported := life.reported
  rw [hsent, List.append_nil] at hreported
  have hlength : works.length = (Spool.returned log).length := by
    rw [← hhired.length_eq, List.length_map]
  have hruns : ∀ work ∈ works, Run (Dispatch.run ctx job work.item) work.trace work.result := by
    rw [← hbegins.job]
    exact life.runs
  have hcounters : c.spool.watch.monitor.counters =
      change.1.monitor.counters.countAll (Spool.counted change.1.monitor.zone log) :=
    hmoves.counters
  have hok : (Spool.counted change.1.monitor.zone log).countP (·.1) =
      works.countP Work.succeeded := by
    rw [Spool.counted, Watch.countP_counted]
    refine (hreported.countP_eq _).trans ?_
    rw [List.countP_map]
    exact List.countP_congr fun work hwork => by
      simp [Work.report, Work.success_eq_succeeded (hruns work hwork)]
  have hresults : (Spool.counted change.1.monitor.zone log).length =
      (Spool.returned log).length := by
    rw [Spool.counted, Watch.length_counted, ← hlength]
    exact hreported.length_eq.trans (List.length_map _)
  rw [← hresults] at hroom
  refine ⟨?_, hhired, hruns, hreported, ?_, ?_, ?_, ?_⟩
  · have hwaiting := hmoves.waiting
    rw [hbegins.waiting, hlast.1, List.nil_append, List.append_nil] at hwaiting
    exact hwaiting.symm
  · rw [hcounters, Counters.globalOk_countAll hroom, Counters.globalError_countAll hroom,
      ← hresults, List.length_eq_countP_add_countP (·.1)]
    simp only [Bool.not_eq_true, Bool.decide_eq_false]
    omega
  · rw [hcounters, Counters.globalOk_countAll hroom, hok]
  · rw [List.count_true_add_count_false, ← hlength]
    exact length_tallies hruns
  · rw [hcounters]
    exact Counters.lastStretch_countAll hroom

end Balanced

/-! ### A sample -/

theorem exists_run_finish {w : Watch} (h : w.monitor.dirty = true) :
    ∃ t, Run w.finish t ({ w with
      monitor := { w.monitor with dirty := false }, phase := .ended Watch.success }, []) := by
  have hrelease : ∃ t, Run ((Watch.lockOf w.job).release : Program Unit) t () :=
    ⟨[⟨.files (.remove w.job.lockFile), .ok ()⟩], .step (.done _)⟩
  have hsave := Monitor.exists_run_saveStatus h
  exact exists_run_bind _ hsave (exists_run_bind _ hrelease ⟨[], .done _⟩)

/-- A job that dispatches two files at a time, to a host that is not listed. -/
def sampleJob : Job :=
  { Watch.sampleJob with limitParallel := 2 }

/-- The paths of three files. -/
def samplePaths : List Path :=
  [⟨"in/a"⟩, ⟨"in/b"⟩, ⟨"in/c"⟩]

/-- A file whose digest is known. -/
def sampleItem (hash : String) (path : Path) : Item where
  path := path
  hash := some hash
  lastModified := 1
  size := 3

/-- A file as it is returned. -/
def sampleReady (hash : String) (path : Path) : Item :=
  { sampleItem hash path with used := true }

/-- A watch that knows the three files. -/
def sampleWatch (hash : String) : Watch :=
  { Watch.sampleWatch with
    job := sampleJob
    monitor := { Watch.sampleWatch.monitor with items := samplePaths.map (sampleItem hash) } }

/-- What a look finds when no file has changed. -/
def sampleSurvey : Survey where
  files := samplePaths.map fun path => ⟨path, 1, 3⟩

/-- The monitor when some files were returned. -/
def sampleNoted (hash : String) (paths : List Path) : Monitor :=
  (paths.map (sampleReady hash)).foldl Monitor.note (sampleWatch hash).monitor

/-- The watch when two dispatches are under way and one file waits. -/
def sampleBusy (hash : String) : Watch :=
  { sampleWatch hash with
    monitor := { sampleNoted hash samplePaths with dirty := false }
    nextLook := Watch.nextTime 0 sampleJob.elapseMs 0
    waiting := [sampleReady hash ⟨"in/c"⟩]
    dispatches := [(0, sampleReady hash ⟨"in/a"⟩), (1, sampleReady hash ⟨"in/b"⟩)]
    nextTask := 2 }

/-- The watch when somebody wants it to stop. -/
def sampleDraining (hash : String) : Watch :=
  { sampleBusy hash with phase := .draining, stopWanted := true }

/-- The result of a dispatch to a host that is not listed. -/
def sampleResult (path : Path) : Dispatch.Result :=
  ⟨path, false, none⟩

/-- The watch when the first result was noted: the file that waited is dispatched. -/
def sampleOnce (hash : String) : Watch :=
  { sampleDraining hash with
    monitor := (sampleDraining hash).monitor.finalize ⟨"in/a"⟩ false none default
    waiting := []
    dispatches := [(1, sampleReady hash ⟨"in/b"⟩), (2, sampleReady hash ⟨"in/c"⟩)]
    nextTask := 3 }

/-- The watch when the second result was noted. -/
def sampleTwice (hash : String) : Watch :=
  { sampleOnce hash with
    monitor := (sampleOnce hash).monitor.finalize ⟨"in/b"⟩ false none default
    dispatches := [(2, sampleReady hash ⟨"in/c"⟩)] }

/-- The watch when the last result was noted. -/
def sampleDrained (hash : String) : Watch :=
  { sampleTwice hash with
    monitor := (sampleTwice hash).monitor.finalize ⟨"in/c"⟩ false none default
    dispatches := [] }

/-- The watch at the end. -/
def sampleEnded (hash : String) : Watch :=
  { sampleDrained hash with
    monitor := { (sampleDrained hash).monitor with dirty := false }
    phase := .ended Watch.success }

/-- A context that lists no host. -/
def sampleContext : Context where
  hosts := { plainId := "here", secureId := "here", hosts := [] }
  rules := {}
  policy := .standard

section Sample

variable (hash : String)

/-- The watch is one that has just begun. -/
theorem begins_sample : Watch.Begins sampleJob (sampleWatch hash, []) := by
  have hrow : Items.IsRow (samplePaths.map (sampleItem hash)) :=
    List.pairwise_map.2 (by decide : samplePaths.Pairwise fun p q => p.precedes q = true)
  have hsound : (sampleWatch hash).Sound := ⟨rfl, hrow, List.nodup_nil, fun _ ht => nomatch ht⟩
  exact ⟨rfl, ⟨hsound, fun _ => rfl, fun _ _ => ⟨rfl, rfl⟩, fun hsome => nomatch hsome⟩,
    rfl, rfl, rfl, rfl, rfl, rfl⟩


/-- The monitor knows every file as it is. -/
theorem find?_sample :
    ∀ p ∈ samplePaths, (sampleWatch hash).monitor.items.find? p = some (sampleItem hash p) := by
  intro p hp
  have hfirst : ∀ p ∈ samplePaths, samplePaths.find? (fun q => q.same p) = some p := by decide
  calc
    (sampleWatch hash).monitor.items.find? p =
        (samplePaths.find? fun q => q.same p).map (sampleItem hash) := List.find?_map
    _ = some (sampleItem hash p) := by rw [hfirst p hp, Option.map_some]

/-- Files that have not changed are returned one after the other. -/
theorem absorbFiles_sample {d : Path → Option String} {paths : List Path} {m : Monitor}
    (hdigest : ∀ p ∈ paths, d p = some hash)
    (hfind : ∀ p ∈ paths, m.items.find? p = some (sampleItem hash p))
    (hdiffer : paths.Pairwise fun p q => p.same q = false) :
    Monitor.absorbFiles d (paths.map fun p => ⟨p, 1, 3⟩) m =
      (paths.map (sampleReady hash), (paths.map (sampleReady hash)).foldl Monitor.note m) := by
  induction paths generalizing m with
  | nil => rfl
  | cons p rest ih =>
      obtain ⟨hhead, hrest⟩ := List.pairwise_cons.1 hdiffer
      have hfile : m.absorbFile d ⟨p, 1, 3⟩ =
          (some (sampleReady hash p), m.note (sampleReady hash p)) := by
        simp [Monitor.absorbFile, hfind p List.mem_cons_self, hdigest p List.mem_cons_self,
          Monitor.isSteady, sampleReady, sampleItem]
      have hothers : ∀ q ∈ rest,
          (m.note (sampleReady hash p)).items.find? q = some (sampleItem hash q) := by
        intro q hq
        have hfresh : (sampleReady hash p).path.same q = false := hhead q hq
        rw [Monitor.note, Items.find?_put, hfresh]
        exact hfind q (List.mem_cons_of_mem _ hq)
      simp only [List.map_cons, Monitor.absorbFiles, hfile,
        ih (fun q hq => hdigest q (List.mem_cons_of_mem _ hq)) hothers hrest]
      rfl

/-- The look takes the three files in. -/
theorem absorb_sample {d : Path → Option String} (hdigest : ∀ p ∈ samplePaths, d p = some hash) :
    (sampleWatch hash).monitor.absorb sampleSurvey d =
      (samplePaths.map (sampleReady hash), sampleNoted hash samplePaths) := by
  have hall : ∀ p ∈ samplePaths, (sampleSurvey.has p || sampleSurvey.mayMiss p) = true := by
    decide
  have hitems : (samplePaths.map (sampleItem hash)).filter
      (fun i => sampleSurvey.has i.path || sampleSurvey.mayMiss i.path) =
        samplePaths.map (sampleItem hash) :=
    List.filter_eq_self.2 (List.forall_mem_map.2 hall)
  have hkeep : (sampleWatch hash).monitor.keep sampleSurvey = (sampleWatch hash).monitor := by
    simp [Monitor.keep, sampleWatch, hitems]
  rw [Monitor.absorb, hkeep]
  exact absorbFiles_sample hash hdigest (find?_sample hash)
    (by decide : samplePaths.Pairwise fun p q => p.same q = false)

/-- The digests of files that have one content. -/
theorem exists_run_digests_sample {content : ByteArray}
    (hhash : Digest.Sha256.hexDigest content = hash) (paths : List Path) :
    ∃ t, Run (Monitor.digestsOf (paths.map fun p => (⟨p, 1, 3⟩ : Survey.Found))) t
      (paths.map fun p => (p, some hash)) := by
  induction paths with
  | nil => exact ⟨[], .done _⟩
  | cons p rest ih =>
      have hdigest : ∃ t, Run (Digest.ofFile p : Program _) t (.ok hash) :=
        ⟨[⟨.files (.read p), .ok content⟩], hhash ▸ .step (.done _)⟩
      exact exists_run_bind _ hdigest (exists_run_bind _ ih ⟨[], .done _⟩)

/-- A look finds the files as they were, and returns them. -/
theorem exists_run_scan_sample {content : ByteArray}
    (hhash : Digest.Sha256.hexDigest content = hash) :
    ∃ t, Run (sampleWatch hash).monitor.scan t
      (samplePaths.map (sampleReady hash), sampleNoted hash samplePaths) := by
  have hsurvey : (sampleWatch hash).monitor.relevant sampleSurvey = sampleSurvey := rfl
  have hwants : sampleSurvey.files.filter (sampleWatch hash).monitor.wantsDigest =
      sampleSurvey.files := by
    refine List.filter_eq_self.2 (List.forall_mem_map.2 fun p hp => ?_)
    simp [Monitor.wantsDigest, find?_sample hash p hp, Monitor.isSteady, sampleItem]
  have hentries : ∃ t, Run (Survey.addDirectories (sampleWatch hash).monitor.recursive
      (sampleWatch hash).monitor.directories {} : Program Survey) t sampleSurvey :=
    ⟨[⟨.files (.entries ⟨"in"⟩), .ok (["a", "b", "c"].map fun name => ⟨name, .ok ⟨.file, 3, 1⟩⟩)⟩],
      .step (.done _)⟩
  have hdigests := exists_run_digests_sample hash hhash samplePaths
  have habsorb := absorb_sample hash
    (d := fun p => (List.lookup p (samplePaths.map fun p => (p, some hash))).join) (by
      intro p hp
      simp only [samplePaths, List.mem_cons, List.not_mem_nil, or_false] at hp
      rcases hp with rfl | rfl | rfl <;> rfl)
  refine exists_run_bind sampleSurvey hentries ?_
  simp only [hsurvey, hwants, ← habsorb]
  exact exists_run_bind _ hdigests ⟨[], .done _⟩

/-- The look begins two dispatches, and leaves the third file waiting. -/
theorem exists_run_look_sample {content : ByteArray}
    (hhash : Digest.Sha256.hexDigest content = hash) :
    ∃ t, Run ((sampleWatch hash).handle 0 .lookTime) t
      (sampleBusy hash, [(0, .dispatch (sampleReady hash ⟨"in/a"⟩)),
        (1, .dispatch (sampleReady hash ⟨"in/b"⟩))]) := by
  refine exists_run_bind false
    ⟨[⟨.files (.metadata ⟨"stop"⟩), .error .notFound⟩], .step (.done _)⟩ ?_
  refine exists_run_bind default ⟨[⟨.now, default⟩], .step (.done _)⟩ ?_
  refine exists_run_bind (Except.ok ()) (exists_run_save _ _) ?_
  refine exists_run_bind _ (exists_run_scan_sample hash hhash) ?_
  exact exists_run_bind _ (exists_run_bind _ (Monitor.exists_run_saveStatus rfl) ⟨[], .done _⟩)
    ⟨[], .done _⟩

/-- The host is not listed, so no transfer is filed. -/
theorem run_dispatch_sample {path : Path} (hpath : path.text ≠ "") :
    Run (Dispatch.run sampleContext sampleJob (sampleReady hash path)) [⟨.tally false, ()⟩]
      (sampleResult path) := by
  let form := Dispatch.form sampleJob "hosta" path.text none
  have htarget : form.hasTarget = true := by
    have hfile : (path.text != "") = true := bne_iff_ne.2 hpath
    exact hfile
  have hcomplete : form.complete sampleContext.hosts = .ok (form.order sampleContext.hosts) :=
    Order.Form.complete_eq_ok_iff.2 ⟨(by decide : Text.trim "hosta" ≠ ""), .inl htarget, rfl⟩
  have hsend : Dispatch.sendTo sampleContext sampleJob path.text none "hosta" =
      .done (.failed .connectionImpossible (TransferFault.unknownHost (Text.trim "hosta")).message
        none) := by
    have hfiles : sampleJob.submitOnly = true := rfl
    rw [Dispatch.sendTo, if_pos hfiles, Dispatch.submit, Dispatch.carryOut, hcomplete]
    rfl
  have hrun : Dispatch.run sampleContext sampleJob (sampleReady hash path) =
      Dispatch.sendToAll sampleContext sampleJob path.text none ["hosta"] ⟨path, true, none⟩ :=
    rfl
  rw [hrun, Dispatch.sendToAll, hsend]
  exact .step (.done _)

/-- The first result makes room for the file that waits. -/
theorem run_once_sample :
    Run ((sampleDraining hash).handle 0 (.dispatched 0 (sampleResult ⟨"in/a"⟩)))
      [⟨.now, default⟩] (sampleOnce hash, [(2, .dispatch (sampleReady hash ⟨"in/c"⟩))]) :=
  .step (.done _)

theorem run_twice_sample :
    Run ((sampleOnce hash).handle 0 (.dispatched 1 (sampleResult ⟨"in/b"⟩)))
      [⟨.now, default⟩] (sampleTwice hash, []) :=
  .step (.done _)

/-- With the last result the watch ends. -/
theorem exists_run_drained_sample :
    ∃ t, Run ((sampleTwice hash).handle 0 (.dispatched 2 (sampleResult ⟨"in/c"⟩))) t
      (sampleEnded hash, []) := by
  have hend : ∃ t, Run ((sampleDrained hash).part 0) t (sampleEnded hash, []) :=
    exists_run_finish rfl
  obtain ⟨t, hend⟩ := exists_run_bind _ hend ⟨[], .done _⟩
  exact ⟨⟨.now, default⟩ :: t, .step hend⟩

end Sample

/-- Three files are returned, of which one waits for its turn when somebody wants the watch to
stop.  All three are dispatched nonetheless, and the watch ends when it has noted the last
result. -/
theorem balanced_of_ended_sample : ∃ hash before log works stopped c,
    Life sampleContext ⟨sampleWatch hash, none⟩ before [] stopped ∧
      stopped.spool.watch.phase = .draining ∧
      stopped.spool.watch.waiting = [sampleReady hash ⟨"in/c"⟩] ∧
      Life sampleContext ⟨sampleWatch hash, none⟩ log works c ∧ before <+: log ∧
      c.spool.watch.phase = .ended Watch.success ∧
      works.map Work.item = samplePaths.map (sampleReady hash) ∧
      Balanced sampleContext sampleJob .utc (sampleWatch hash).monitor.counters log works
        c.spool.watch.monitor.counters := by
  obtain ⟨hash, hhash⟩ : ∃ hash, Digest.Sha256.hexDigest ⟨#[]⟩ = hash := ⟨_, rfl⟩
  have hbegins := begins_sample hash
  obtain ⟨t, hlook⟩ := exists_run_look_sample hash hhash
  obtain ⟨looked, -, hlooked⟩ := step_of_run_event sampleContext
    (c := ⟨⟨sampleWatch hash, none⟩, [], []⟩) hbegins.steady rfl hlook
  have life := Life.start.step hlooked
  have hstop : Run ((sampleBusy hash).handle 0 .stop) [] (sampleDraining hash, []) := .done _
  obtain ⟨stopped, -, hstopped⟩ := step_of_run_event sampleContext
    (life.spool.steady hbegins.steady) rfl hstop
  have hstopped := life.step hstopped
  have life := hstopped
  have hthree : ([sampleReady hash ⟨"in/c"⟩] ++
      [sampleReady hash ⟨"in/a"⟩, sampleReady hash ⟨"in/b"⟩]).Perm
        (samplePaths.map (sampleReady hash)) :=
    List.perm_append_comm
  have life := life.step (@Step.work _ _ ⟨sampleReady hash ⟨"in/a"⟩, _, _⟩ _
    ((life.staffed hbegins).trans hthree) (run_dispatch_sample hash (by decide)))
  obtain ⟨taken, -, htaken⟩ := step_of_run_dispatched sampleContext
    (life.spool.steady hbegins.steady) List.mem_cons_self (.refl _)
    (run_dispatch_sample hash (by decide)) (run_once_sample hash)
  have life := life.step htaken
  have life := life.step (@Step.work _ _ ⟨sampleReady hash ⟨"in/b"⟩, _, _⟩ _
    (life.staffed hbegins) (run_dispatch_sample hash (by decide)))
  obtain ⟨taken, -, htaken⟩ := step_of_run_dispatched sampleContext
    (life.spool.steady hbegins.steady) List.mem_cons_self (.refl _)
    (run_dispatch_sample hash (by decide)) (run_twice_sample hash)
  have life := life.step htaken
  have life := life.step (@Step.work _ _ ⟨sampleReady hash ⟨"in/c"⟩, _, _⟩ _
    (life.staffed hbegins) (run_dispatch_sample hash (by decide)))
  obtain ⟨u, hended⟩ := exists_run_drained_sample hash
  obtain ⟨taken, -, htaken⟩ := step_of_run_dispatched sampleContext
    (life.spool.steady hbegins.steady) List.mem_cons_self (.refl _)
    (run_dispatch_sample hash (by decide)) hended
  have life := life.step htaken
  have hlength : 3 = (Spool.returned _).length := (life.worked_of_idle hbegins rfl).2.length_eq
  have hroom : Counters.HasRoom { today := default } 3 :=
    ⟨by decide, by decide, by decide, by decide⟩
  rw [hlength] at hroom
  refine ⟨hash, _, _, _, _, _, hstopped, rfl, rfl, life, ?_, rfl, rfl,
    life.balanced_of_ended hbegins rfl hroom⟩
  simp only [List.append_assoc, List.prefix_append_right_inj, List.prefix_append]

end Crew

end Courier
