import Mathlib.Tactic.IntervalCases
import Courier.Session.Program
import Courier.Simulation.Schedule
import Courier.Spool.Lock

/-!
# Claims that others interfere with

A spool that finds a lock removes it and waits.  Meanwhile others write the lock and remove it,
somebody makes the file that stops the spool, or the claim is told to stop, all of this at any
time.  The claim looks ten times, one period after the other, and what it comes to is decided by
the first look that is not clear: it gives way when it was told to stop by then or when the stop
file is there, even beside the lock, and it fails when there is just the lock.  Only when all looks
are clear the lock is written.

Main definitions:

- `Incident` is something that others do, and a `Timeline` has incidents with their times.
- `Contest` is a claim of a lock in a world where things happen by a timeline, `Contest.claim` what
  comes of it.
- `Contest.Canceled`, `Contest.stopped` and `Contest.locked` tell what a look finds.
- `Contest.Decides` tells all ways in which a claim ends.

Main statements:

- A claim is decided by the first look that is not clear (`Contest.decides_claim`).
- The value of a claim, and the files that it leaves, follow the timeline
  (`Contest.follows_timeline`).
-/

namespace Courier.Simulation

open Calendar

/-! ## Timelines -/

/-- Something that others do while a lock is claimed. -/
inductive Incident where
  /-- They change files. -/
  | files (change : FileTree → FileTree)
  /-- They tell the claim to stop. -/
  | cancel

/-- An incident as a deed. -/
def Incident.deed : Incident → Deed
  | files change => .change fun w => { w with files := change w.files }
  | cancel => .stop

/-- Incidents in the order in which they happen, each with its time since the claim began.  What
happens in the millisecond of a look happens before it. -/
structure Timeline where
  incidents : List (Nat × Incident)
  ordered : incidents.Pairwise fun i j => i.1 ≤ j.1

/-- The plan of incidents, for a claim that begins at some time. -/
def planOf (start : Nat) (incidents : List (Nat × Incident)) : Plan :=
  incidents.map fun i => (start + i.1, i.2.deed)

/-- Files whose changes are stamped with a point of time. -/
def stamped (t : FileTree) (time : Nat) : FileTree :=
  { t with time := World.originMillis + time }

/-- The files after an incident. -/
def befall (start : Nat) (t : FileTree) : Nat × Incident → FileTree
  | (time, .files change) => change (stamped t (start + time))
  | (_, .cancel) => t

/-- The files after several incidents. -/
def befallAll (start : Nat) (t : FileTree) (incidents : List (Nat × Incident)) : FileTree :=
  incidents.foldl (befall start) t

/-- The incidents up to a time. -/
def upTo (incidents : List (Nat × Incident)) (time : Nat) : List (Nat × Incident) :=
  incidents.filter fun i => i.1 ≤ time

/-- Whether a path leads to anything. -/
def shows (t : FileTree) (p : Path) : Bool :=
  (t.metadata p).isOk

section Befall

variable {start : Nat} {t u : FileTree} {is js : List (Nat × Incident)} {time : Nat}

/-- What a path leads to does not depend on the stamp. -/
theorem walk_stamped (t : FileTree) (time : Nat) (follow : Bool) (budget links : Nat)
    (place : Place) (parts : List String) (needsDirectory : Bool) :
    (stamped t time).walk follow budget links place parts needsDirectory =
      t.walk follow budget links place parts needsDirectory := by
  have hget : ∀ q, (stamped t time).get? q = t.get? q := fun _ => rfl
  induction budget generalizing links place parts needsDirectory with
  | zero => rfl
  | succ budget ih =>
      cases parts with
      | nil => rfl
      | cons part rest => simp only [FileTree.walk, hget, ih]

@[simp] theorem shows_stamped (t : FileTree) (time : Nat) (p : Path) :
    shows (stamped t time) p = shows t p := by
  have hnodes : (stamped t time).nodes = t.nodes := rfl
  have hcurrent : (stamped t time).current = t.current := rfl
  simp only [shows, FileTree.metadata, FileTree.resolve, walk_stamped, hnodes, hcurrent]

/-- Incidents happen one after the other. -/
theorem befallAll_append (start : Nat) (t : FileTree) (is js : List (Nat × Incident)) :
    befallAll start t (is ++ js) = befallAll start (befallAll start t is) js :=
  List.foldl_append

/-- An earlier stamp makes no difference to what happens to files. -/
theorem stamped_befallAll_congr (h : ∀ time, stamped t time = stamped u time) (time : Nat) :
    stamped (befallAll start t is) time = stamped (befallAll start u is) time := by
  induction is generalizing t u with
  | nil => exact h time
  | cons i rest ih =>
      obtain ⟨moment, incident⟩ := i
      cases incident with
      | files change =>
          have hsame : befall start t (moment, .files change) =
              befall start u (moment, .files change) :=
            congrArg change (h _)
          rw [befallAll, befallAll, List.foldl_cons, List.foldl_cons, hsame]
      | cancel => exact ih h

/-- Before the first incident there are none. -/
theorem upTo_eq_nil (h : ∀ i ∈ is, time < i.1) : upTo is time = [] := by
  refine List.filter_eq_nil_iff.2 fun i hi => ?_
  simpa using h i hi

/-- The incidents up to a time come before the others. -/
theorem upTo_append_later (h : is.Pairwise fun i j => i.1 ≤ j.1) (time : Nat) :
    upTo is time ++ is.filter (fun i => time < i.1) = is := by
  induction is with
  | nil => rfl
  | cons i rest ih =>
      obtain ⟨hfirst, hrest⟩ := List.pairwise_cons.1 h
      by_cases hdue : i.1 ≤ time
      · rw [upTo, List.filter_cons_of_pos (by simpa using hdue),
          List.filter_cons_of_neg (by simpa using hdue), List.cons_append, ← upTo, ih hrest]
      · have hlate : ∀ j ∈ i :: rest, time < j.1 := by
          intro j hj
          rcases List.mem_cons.1 hj with rfl | hj
          · exact Nat.lt_of_not_le hdue
          · exact Nat.lt_of_lt_of_le (Nat.lt_of_not_le hdue) (hfirst j hj)
        rw [upTo_eq_nil hlate, List.nil_append]
        exact List.filter_eq_self.2 fun j hj => decide_eq_true (hlate j hj)

/-- After the last incident there are all of them. -/
theorem upTo_eq_self (h : ∀ i ∈ is, i.1 ≤ time) : upTo is time = is :=
  List.filter_eq_self.2 fun i hi => by simpa using h i hi

end Befall

/-! ## Plans -/

section Perform

variable {start : Nat} {is : List (Nat × Incident)} {w : World} {moment time : Nat}

/-- A plan that goes on with others changing files. -/
theorem perform_files (change : FileTree → FileTree) (is : List (Nat × Incident))
    (hnow : w.time ≤ start + moment) (hdue : moment ≤ time) :
    ∃ w₁, Plan.perform (start + time) w (planOf start ((moment, .files change) :: is)) =
        Plan.perform (start + time) w₁ (planOf start is) ∧
      w₁.files = befall start w.files (moment, .files change) ∧ w₁.time = start + moment := by
  have hlimit : start + moment ≤ start + time := Nat.add_le_add_left hdue start
  have hmax : max w.time (start + moment) = start + moment := Nat.max_eq_right hnow
  refine ⟨{ w.waitUntil (start + moment) with
    files := change (w.waitUntil (start + moment)).files }, ?_, ?_, hmax⟩
  · simp only [planOf, List.map_cons, Plan.perform, hlimit, if_true, Incident.deed]
  · simp only [World.waitUntil, hmax]
    rfl

/-- A plan that goes on with the claim being told to stop. -/
theorem perform_cancel (is : List (Nat × Incident)) (hnow : w.time ≤ start + moment)
    (hdue : moment ≤ time) :
    ∃ w', Plan.perform (start + time) w (planOf start ((moment, .cancel) :: is)) = (none, w') ∧
      w'.files = stamped w.files (start + moment) := by
  have hlimit : start + moment ≤ start + time := Nat.add_le_add_left hdue start
  have hmax : max w.time (start + moment) = start + moment := Nat.max_eq_right hnow
  refine ⟨w.waitUntil (start + moment), ?_, ?_⟩
  · simp only [planOf, List.map_cons, Plan.perform, hlimit, if_true, Incident.deed]
  · simp only [World.waitUntil, hmax]
    rfl

/-- A plan of which nothing is due yet. -/
theorem perform_of_later (h : ∀ i ∈ is, time < i.1) (w : World) :
    Plan.perform (start + time) w (planOf start is) = (some (planOf start is), w) := by
  cases is with
  | nil => rfl
  | cons i rest =>
      have hlimit : ¬start + i.1 ≤ start + time := by
        have hlate := h i List.mem_cons_self
        omega
      simp only [planOf, List.map_cons, Plan.perform, hlimit, if_false]

/-- What a plan comes to up to a time: the claim is told to stop, after some of the incidents, or
the files are as the incidents leave them and the later ones are left. -/
theorem perform_planOf (hordered : is.Pairwise fun i j => i.1 ≤ j.1)
    (hnow : ∀ i ∈ is, w.time ≤ start + i.1) (htime : w.time ≤ start + time) :
    (∃ past moment w', past ++ [(moment, .cancel)] <+: is ∧ moment ≤ time ∧
      Plan.perform (start + time) w (planOf start is) = (none, w') ∧
      w'.files = stamped (befallAll start w.files past) (start + moment)) ∨
    (∃ w', (∀ i ∈ is, i.1 ≤ time → i.2 ≠ .cancel) ∧
      Plan.perform (start + time) w (planOf start is) =
        (some (planOf start (is.filter fun i => time < i.1)), w') ∧
      w'.files = befallAll start w.files (upTo is time) ∧ w'.time ≤ start + time) := by
  induction is generalizing w with
  | nil =>
      refine .inr ⟨w, ?_, rfl, rfl, htime⟩
      intro i hi
      cases hi
  | cons i rest ih =>
      obtain ⟨moment, incident⟩ := i
      obtain ⟨hfirst, hrest⟩ := List.pairwise_cons.1 hordered
      by_cases hdue : moment ≤ time
      · have hsoon := hnow (moment, incident) List.mem_cons_self
        cases incident with
        | cancel =>
            obtain ⟨w', hrun, hleft⟩ := perform_cancel rest hsoon hdue
            exact .inl ⟨[], moment, w', ⟨rest, rfl⟩, hdue, hrun, hleft⟩
        | files change =>
            obtain ⟨w₁, hrun₁, hfiles₁, htime₁⟩ := perform_files change rest hsoon hdue
            have hnow₁ : ∀ i ∈ rest, w₁.time ≤ start + i.1 := by
              intro i hi
              rw [htime₁]
              exact Nat.add_le_add_left (hfirst i hi) start
            have hle₁ : w₁.time ≤ start + time := by
              rw [htime₁]
              exact Nat.add_le_add_left hdue start
            rw [hrun₁]
            rcases ih hrest hnow₁ hle₁ with
              ⟨past, last, w', hpast, hle, hrun, hleft⟩ | ⟨w', hnone, hrun, hleft, hearly⟩
            · refine .inl ⟨(moment, .files change) :: past, last, w', ?_, hle, hrun, ?_⟩
              · exact List.cons_prefix_cons.2 ⟨rfl, hpast⟩
              · rw [hleft, hfiles₁]
                rfl
            · refine .inr ⟨w', ?_, ?_, ?_, hearly⟩
              · intro i hi hle
                rcases List.mem_cons.1 hi with rfl | hi
                · exact Incident.noConfusion
                · exact hnone i hi hle
              · rw [hrun, List.filter_cons_of_neg (by simpa using hdue)]
              · rw [hleft, hfiles₁, upTo, upTo, List.filter_cons_of_pos (by simpa using hdue)]
                rfl
      · have hlate : ∀ i ∈ (moment, incident) :: rest, time < i.1 := by
          intro i hi
          rcases List.mem_cons.1 hi with rfl | hi
          · exact Nat.lt_of_not_le hdue
          · exact Nat.lt_of_lt_of_le (Nat.lt_of_not_le hdue) (hfirst i hi)
        refine .inr ⟨w, ?_, ?_, ?_, htime⟩
        · intro i hi hle
          exact absurd hle (Nat.not_le_of_lt (hlate i hi))
        · rw [perform_of_later hlate,
            List.filter_eq_self.2 fun i hi => decide_eq_true (hlate i hi)]
        · rw [upTo_eq_nil hlate]
          rfl

end Perform

/-! ## Requests that are answered at once -/

section AtOnce

variable {α : Type} {plan : Plan} {w : World}

/-- A request that is answered at once. -/
theorem runBeside_ask {r : Request} {f : r.Answer → Program α} (h : (w.serve r).delay = 0) :
    runBeside (Program.perform r >>= f) plan w =
      runBeside (f ((w.serve r).finish (w.serve r).world).1) plan
        ((w.serve r).finish (w.serve r).world).2 := by
  have hstep : Program.perform r >>= f = .step r f := rfl
  rw [hstep, runBeside]
  simp only [h, if_true]

theorem runBeside_files {op : FileOp} {f : op.Answer → Program α} :
    runBeside (Program.perform (.files op) >>= f) plan w =
      runBeside (f (w.files.perform op).1) plan { w with files := (w.files.perform op).2 } :=
  runBeside_ask rfl

theorem runBeside_now {f : Moment → Program α} :
    runBeside (Program.now >>= f) plan w = runBeside (f w.readClock.1) plan w.readClock.2 :=
  runBeside_ask rfl

/-- Whether there is a file is answered at once. -/
theorem runBeside_exists {p : Path} {f : Bool → Program α} :
    runBeside (Files.pathExists p >>= f) plan w = runBeside (f (shows w.files p)) plan w :=
  runBeside_files

theorem runBeside_remove {p : Path} {f : Except FileFault Unit → Program α} :
    runBeside (Files.remove p >>= f) plan w =
      runBeside (f (w.files.perform (.remove p)).1) plan
        { w with files := (w.files.perform (.remove p)).2 } :=
  runBeside_files

/-- A file is saved at once. -/
theorem runBeside_save {p : Path} {text : String} {f : Except FileFault Unit → Program α} :
    runBeside (Files.save p text >>= f) plan w =
      runBeside (f ((Files.save p text : StateM FileTree _).run w.files).1) plan
        { w with files := ((Files.save p text : StateM FileTree _).run w.files).2 } := by
  cases hparent : p.parent? with
  | none =>
      simp only [Files.save, Files.makeParent, hparent]
      exact runBeside_files
  | some parent =>
      simp only [Files.save, Files.makeParent, hparent]
      rw [Program.bind_assoc]
      refine runBeside_files.trans ?_
      have hmade : (Files.perform (.makeDirectories parent) : StateM FileTree _).run w.files =
          w.files.perform (.makeDirectories parent) := rfl
      rw [StateT.run_bind, hmade]
      rcases w.files.perform (.makeDirectories parent) with ⟨made, t⟩
      cases made with
      | error fault => rfl
      | ok _ => exact runBeside_files

/-- A lock is written at once. -/
theorem runBeside_take {l : Lock} {now : Moment} {f : Lock.Claim → Program α}
    (h : ((l.refresh now : StateM FileTree _).run w.files).1 = .ok ()) :
    runBeside (l.take now >>= f) plan w =
      runBeside (f .held) plan
        { w with files := ((l.refresh now : StateM FileTree _).run w.files).2 } := by
  unfold Lock.take
  rw [Program.bind_assoc]
  refine runBeside_save.trans ?_
  have hrefresh : (Files.save l.file (now.utc.text ++ "+00:00") : StateM FileTree _).run w.files =
      (l.refresh now : StateM FileTree _).run w.files := rfl
  rw [hrefresh, h]
  rfl

/-- A lock that is found is removed. -/
theorem runBeside_begin_of_found {l : Lock} {now : Moment} {f : Lock.Claim → Program α}
    (hfound : shows w.files l.file = true)
    (hremove : (w.files.perform (.remove l.file)).1 = .ok ()) :
    runBeside (l.begin now >>= f) plan w =
      runBeside (f (.waiting Lock.looks)) plan
        { w with files := (w.files.perform (.remove l.file)).2 } := by
  unfold Lock.begin
  rw [Program.bind_assoc, runBeside_exists, if_pos hfound, Program.bind_assoc, runBeside_remove,
    hremove]
  rfl

/-- A claim that finds no lock takes it. -/
theorem runBeside_begin_of_absent {l : Lock} {now : Moment} {f : Lock.Claim → Program α}
    (habsent : shows w.files l.file = false) :
    runBeside (l.begin now >>= f) plan w = runBeside (l.take now >>= f) plan w := by
  unfold Lock.begin
  rw [Program.bind_assoc, runBeside_exists, habsent]
  rfl

/-- A look at the files. -/
theorem runBeside_poll {l : Lock} {left : Nat} {now : Moment} {f : Lock.Claim → Program α} :
    runBeside (l.poll left now >>= f) plan w =
      if shows w.files l.stopFile then runBeside (f .yielded) plan w
      else if shows w.files l.file then
        runBeside (f (.refused (.alreadyRunning l.file))) plan w
      else if left ≤ 1 then runBeside (l.take now >>= f) plan w
      else runBeside (f (.waiting (left - 1))) plan w := by
  unfold Lock.poll
  rw [Program.bind_assoc, runBeside_exists]
  split
  · rfl
  · rw [Program.bind_assoc, runBeside_exists]
    split
    · rfl
    · split
      · rfl
      · rfl

/-- A wait in which the program is told to stop. -/
theorem runBeside_sleep_none {s : Span} {f : Unit → Program α} {w' : World} (hs : 0 < s.ticks)
    (h : plan.perform (w.time + s.ticks) w = (none, w')) :
    runBeside (Program.sleep s >>= f) plan w = (none, w') := by
  have hstep : Program.sleep s >>= f = .step (.sleep s) f := rfl
  have hdelay : (w.serve (.sleep s)).delay = s.ticks := rfl
  have hworld : (w.serve (.sleep s)).world = w := rfl
  rw [hstep, runBeside]
  simp only [hdelay, hworld, h, Nat.ne_of_gt hs, if_false]

/-- A wait beside which others carry out their deeds. -/
theorem runBeside_sleep_some {s : Span} {f : Unit → Program α} {w' : World} {rest : Plan}
    (hs : 0 < s.ticks) (h : plan.perform (w.time + s.ticks) w = (some rest, w')) :
    runBeside (Program.sleep s >>= f) plan w =
      runBeside (f ()) rest (w'.waitUntil (w.time + s.ticks)) := by
  have hstep : Program.sleep s >>= f = .step (.sleep s) f := rfl
  have hdelay : (w.serve (.sleep s)).delay = s.ticks := rfl
  have hworld : (w.serve (.sleep s)).world = w := rfl
  rw [hstep, runBeside]
  simp only [hdelay, hworld, h, Nat.ne_of_gt hs, if_false]
  rfl

end AtOnce

/-! ## Contests -/

/-- A claim of a lock in a world where others do things.  It waits between its looks, as the claim
of a job does that was checked. -/
structure Contest where
  lock : Lock
  period : Span
  waits : 0 < period.ticks
  timeline : Timeline
  world : World

namespace Contest

variable (c : Contest)

/-- What comes of a claim, and the world that it leaves.  A claim that is told to stop while it
waits gives way. -/
def claim : Except SpoolFault Bool × World :=
  let ended := runBeside (c.lock.acquire c.period) (planOf c.world.time c.timeline.incidents)
    c.world
  (ended.1.getD (.ok false), ended.2)

/-- Whether there is a lock when the claim begins. -/
def found : Bool :=
  shows c.world.files c.lock.file

/-- The files after the lock was removed that was found. -/
def cleared : FileTree :=
  (c.world.files.perform (.remove c.lock.file)).2

/-- The time of a look since the claim began.  Looks are counted from zero. -/
def lookTime (k : Nat) : Nat :=
  (k + 1) * c.period.ticks

/-- The files at the time of a look, as others leave them. -/
def filesAt (k : Nat) : FileTree :=
  stamped (befallAll c.world.time c.cleared (upTo c.timeline.incidents (c.lookTime k)))
    (c.world.time + c.lookTime k)

/-- Whether the claim was told to stop before a look. -/
def Canceled (k : Nat) : Prop :=
  ∃ time, time ≤ c.lookTime k ∧ (time, .cancel) ∈ c.timeline.incidents

/-- Whether the stop file is there at the time of a look. -/
def stopped (k : Nat) : Bool :=
  shows (c.filesAt k) c.lock.stopFile

/-- Whether the lock is there at the time of a look. -/
def locked (k : Nat) : Bool :=
  shows (c.filesAt k) c.lock.file

/-- Whether a look is made and finds neither a lock nor a reason to give way. -/
structure Clear (k : Nat) : Prop where
  going : ¬c.Canceled k
  stopped : c.stopped k = false
  locked : c.locked k = false

/-- The files when nothing stands in the way of the claim any more. -/
def last : FileTree :=
  if c.found then c.filesAt (Lock.looks - 1) else c.world.files

/-- Whether the operations of the claim on files succeed: a lock that is found can be removed, and
a lock can be written when nothing stands in the way. -/
structure Succeeds : Prop where
  removes : c.found = true → (c.world.files.perform (.remove c.lock.file)).1 = .ok ()
  writes : (c.found = true → ∀ k < Lock.looks, c.Clear k) → ∀ now,
    ((c.lock.refresh now : StateM FileTree _).run c.last).1 = .ok ()

/-- Whether files are those that the claim leaves when it writes the lock. -/
def Writes (files : FileTree) : Prop :=
  ∃ now, (c.lock.refresh now : StateM FileTree _).run c.last = (.ok (), files)

/-- All ways in which a claim ends, with its value and the files that it leaves. -/
inductive Decides : Except SpoolFault Bool → FileTree → Prop where
  | free {files : FileTree} (absent : c.found = false) (writes : c.Writes files) :
      Decides (.ok true) files
  | clear {files : FileTree} (found : c.found = true) (clear : ∀ k < Lock.looks, c.Clear k)
      (writes : c.Writes files) : Decides (.ok true) files
  | canceled {k : Nat} {past : List (Nat × Incident)} {moment : Nat} (found : c.found = true)
      (look : k < Lock.looks) (before : ∀ j < k, c.Clear j) (canceled : c.Canceled k)
      (happened : past ++ [(moment, .cancel)] <+: c.timeline.incidents) :
      Decides (.ok false)
        (stamped (befallAll c.world.time c.cleared past) (c.world.time + moment))
  | stopped {k : Nat} (found : c.found = true) (look : k < Lock.looks)
      (before : ∀ j < k, c.Clear j) (going : ¬c.Canceled k) (stopped : c.stopped k = true) :
      Decides (.ok false) (c.filesAt k)
  | refused {k : Nat} (found : c.found = true) (look : k < Lock.looks)
      (before : ∀ j < k, c.Clear j) (going : ¬c.Canceled k) (running : c.stopped k = false)
      (locked : c.locked k = true) :
      Decides (.error (.alreadyRunning c.lock.file)) (c.filesAt k)

variable {c} {k left : Nat} {past rest : List (Nat × Incident)} {w : World}

/-- A lock that is written after the last look is written on what others have left then. -/
theorem writes_refresh {now : Moment}
    (h : ((c.lock.refresh now : StateM FileTree _).run c.last).1 = .ok ()) :
    c.Writes ((c.lock.refresh now : StateM FileTree _).run c.last).2 :=
  ⟨now, Prod.ext h rfl⟩

theorem lookTime_eq (c : Contest) (k : Nat) :
    c.lookTime k = k * c.period.ticks + c.period.ticks :=
  Nat.succ_mul k c.period.ticks

/-- A claim before a look: all looks before were clear, and the files are as others have left them
since the lock was removed. -/
structure Waits (c : Contest) (k : Nat) (past rest : List (Nat × Incident)) (w : World) : Prop where
  clear : ∀ j < k, c.Clear j
  split : c.timeline.incidents = past ++ rest
  early : ∀ i ∈ past, i.1 ≤ k * c.period.ticks
  going : ∀ i ∈ past, i.2 ≠ .cancel
  late : ∀ i ∈ rest, k * c.period.ticks ≤ i.1
  time : w.time = c.world.time + k * c.period.ticks
  files : ∀ time, stamped w.files time = stamped (befallAll c.world.time c.cleared past) time

namespace Waits

/-- What has happened before a claim waits has happened before its next look. -/
theorem early_look (h : c.Waits k past rest w) : ∀ i ∈ past, i.1 ≤ c.lookTime k := by
  intro i hi
  rw [lookTime_eq]
  exact Nat.le_add_right_of_le (h.early i hi)

/-- The incidents up to the next look. -/
theorem upTo_eq (h : c.Waits k past rest w) :
    upTo c.timeline.incidents (c.lookTime k) = past ++ upTo rest (c.lookTime k) := by
  rw [h.split, upTo, List.filter_append, ← upTo, ← upTo, upTo_eq_self h.early_look]

/-- What others leave of the files in which the claim waits. -/
theorem stamped_files (h : c.Waits k past rest w) (is : List (Nat × Incident)) (time : Nat) :
    stamped (befallAll c.world.time w.files is) time =
      stamped (befallAll c.world.time c.cleared (past ++ is)) time := by
  rw [befallAll_append]
  exact stamped_befallAll_congr h.files time

/-- The incidents that come after the next look. -/
theorem next {v : World} (h : c.Waits k past rest w)
    (hgoing : ∀ i ∈ rest, i.1 ≤ c.lookTime k → i.2 ≠ .cancel) (hclear : c.Clear k)
    (hfiles : v.files = c.filesAt k) (htime : v.time = c.world.time + c.lookTime k) :
    c.Waits (k + 1) (past ++ upTo rest (c.lookTime k))
      (rest.filter fun i => c.lookTime k < i.1) v where
  clear j hj := by
    rcases Nat.lt_succ_iff_lt_or_eq.1 hj with hj | rfl
    · exact h.clear j hj
    · exact hclear
  split := by
    have hordered := c.timeline.ordered
    rw [h.split, List.pairwise_append] at hordered
    rw [h.split, List.append_assoc, upTo_append_later hordered.2.1]
  early i hi := by
    rcases List.mem_append.1 hi with hi | hi
    · exact h.early_look i hi
    · exact of_decide_eq_true (List.mem_filter.1 hi).2
  going i hi := by
    rcases List.mem_append.1 hi with hi | hi
    · exact h.going i hi
    · obtain ⟨hmem, hle⟩ := List.mem_filter.1 hi
      exact hgoing i hmem (of_decide_eq_true hle)
  late i hi := Nat.le_of_lt (of_decide_eq_true (List.mem_filter.1 hi).2)
  time := htime
  files time := by
    rw [hfiles, filesAt, h.upTo_eq]
    rfl

end Waits

/-- What comes of a wait: the claim is told to stop, or the look finds the files as others leave
them and nobody has told it to stop. -/
theorem Waits.runBeside_sleep (h : c.Waits k past rest w)
    {f : Unit → Program (Except SpoolFault Bool)} :
    (∃ before moment w', c.Canceled k ∧
      before ++ [(moment, .cancel)] <+: c.timeline.incidents ∧
      runBeside (Program.sleep c.period >>= f) (planOf c.world.time rest) w = (none, w') ∧
      w'.files = stamped (befallAll c.world.time c.cleared before) (c.world.time + moment)) ∨
    (∃ w', ¬c.Canceled k ∧ (∀ i ∈ rest, i.1 ≤ c.lookTime k → i.2 ≠ .cancel) ∧
      runBeside (Program.sleep c.period >>= f) (planOf c.world.time rest) w =
        runBeside (f ()) (planOf c.world.time (rest.filter fun i => c.lookTime k < i.1)) w' ∧
      w'.files = c.filesAt k ∧ w'.time = c.world.time + c.lookTime k) := by
  have hordered := c.timeline.ordered
  rw [h.split, List.pairwise_append] at hordered
  have hnow : ∀ i ∈ rest, w.time ≤ c.world.time + i.1 := by
    intro i hi
    rw [h.time]
    exact Nat.add_le_add_left (h.late i hi) _
  have hdue : c.world.time + c.lookTime k = w.time + c.period.ticks := by
    rw [h.time, lookTime_eq, Nat.add_assoc]
  have hsoon : w.time ≤ c.world.time + c.lookTime k := by
    rw [hdue]
    exact Nat.le_add_right _ _
  rcases perform_planOf hordered.2.1 hnow hsoon with
    ⟨before, moment, w', hbefore, hle, hrun, hleft⟩ | ⟨w', hnone, hrun, hleft, hearly⟩
  · have hprefix : (past ++ before) ++ [(moment, .cancel)] <+: c.timeline.incidents := by
      rw [h.split, List.append_assoc]
      exact (List.prefix_append_right_inj past).2 hbefore
    rw [hdue] at hrun
    refine .inl ⟨past ++ before, moment, w', ⟨moment, hle, ?_⟩, hprefix,
      runBeside_sleep_none c.waits hrun, ?_⟩
    · exact hprefix.subset (List.mem_append_right _ List.mem_cons_self)
    · rw [hleft, h.stamped_files]
  · rw [hdue] at hrun hearly
    refine .inr ⟨w'.waitUntil (w.time + c.period.ticks), ?_, hnone,
      runBeside_sleep_some c.waits hrun, ?_, ?_⟩
    · rintro ⟨time, hle, hmem⟩
      rw [h.split] at hmem
      rcases List.mem_append.1 hmem with hmem | hmem
      · exact h.going _ hmem rfl
      · exact hnone _ hmem hle rfl
    · have hmax : max w'.time (w.time + c.period.ticks) = w.time + c.period.ticks :=
        Nat.max_eq_right hearly
      have hstamp : (w'.waitUntil (w.time + c.period.ticks)).files =
          stamped w'.files (w.time + c.period.ticks) := by
        simp only [World.waitUntil, hmax]
        rfl
      rw [hstamp, hleft, h.stamped_files, filesAt, h.upTo_eq, hdue]
    · rw [hdue]
      exact Nat.max_eq_right hearly

/-- Whether what a claim came to is one of the ways in which it ends. -/
def Ends (c : Contest) (ended : Option (Except SpoolFault Bool) × World) : Prop :=
  c.Decides (ended.1.getD (.ok false)) ended.2.files

/-- A claim that waits is decided by its next look, or goes on as after a clear one. -/
theorem Waits.ends_of_look (h : c.Waits k past rest w) (hfound : c.found = true)
    (hlook : k < Lock.looks) {looks : Nat}
    (hclear : ∀ now v, c.Clear k → v.files = c.filesAt k →
      v.time = c.world.time + c.lookTime k →
      (∀ i ∈ rest, i.1 ≤ c.lookTime k → i.2 ≠ .cancel) →
      c.Ends (if looks ≤ 1 then
          runBeside (c.lock.take now >>= c.lock.settle c.period left)
            (planOf c.world.time (rest.filter fun i => c.lookTime k < i.1)) v
        else
          runBeside (c.lock.settle c.period left (.waiting (looks - 1)))
            (planOf c.world.time (rest.filter fun i => c.lookTime k < i.1)) v)) :
    c.Ends (runBeside (c.lock.settle c.period (left + 1) (.waiting looks))
      (planOf c.world.time rest) w) := by
  have hsettle : c.lock.settle c.period (left + 1) (.waiting looks) =
      Program.sleep c.period >>= fun _ => Program.now >>= fun now =>
        c.lock.poll looks now >>= c.lock.settle c.period left := rfl
  rw [hsettle]
  rcases h.runBeside_sleep (f := fun _ => Program.now >>= fun now =>
      c.lock.poll looks now >>= c.lock.settle c.period left) with
    ⟨before, moment, w', hcanceled, hhappened, hrun, hleft⟩ |
    ⟨w', hgoing, hnone, hrun, hfiles, htime⟩
  · rw [hrun, Ends, hleft]
    exact .canceled hfound hlook h.clear hcanceled hhappened
  · have hread : w'.readClock.2.files = c.filesAt k := hfiles
    rw [hrun, runBeside_now, runBeside_poll, hread]
    by_cases hstopped : shows (c.filesAt k) c.lock.stopFile = true
    · rw [if_pos hstopped, Lock.settle, Program.pure_eq, runBeside, Ends, hread]
      exact .stopped hfound hlook h.clear hgoing hstopped
    · rw [if_neg hstopped]
      have hrunning : c.stopped k = false := Bool.eq_false_iff.2 hstopped
      by_cases hlocked : shows (c.filesAt k) c.lock.file = true
      · rw [if_pos hlocked, Lock.settle, Program.pure_eq, runBeside, Ends, hread]
        exact .refused hfound hlook h.clear hgoing hrunning hlocked
      · rw [if_neg hlocked]
        exact hclear _ _ ⟨hgoing, hrunning, Bool.eq_false_iff.2 hlocked⟩ hread htime hnone

/-- A claim that waits is decided by the next look that is not clear. -/
theorem Waits.ends (hs : c.Succeeds) (hfound : c.found = true) (h : c.Waits k past rest w)
    (hk : k + left + 1 = Lock.looks) :
    c.Ends (runBeside (c.lock.settle c.period (left + 1) (.waiting (left + 1)))
      (planOf c.world.time rest) w) := by
  induction left generalizing k past rest w with
  | zero =>
      have hlook : k < Lock.looks := by omega
      refine h.ends_of_look hfound hlook fun now v hclear hfiles htime hnone => ?_
      have hlast : v.files = c.last := by
        have hfinal : k = Lock.looks - 1 := by omega
        rw [hfiles, last, if_pos hfound, hfinal]
      have hall : ∀ j < Lock.looks, c.Clear j := by
        intro j hj
        rcases Nat.lt_or_eq_of_le (show j ≤ k by omega) with hj | rfl
        · exact h.clear j hj
        · exact hclear
      have hwrites := hs.writes (fun _ => hall) now
      have hready : ((c.lock.refresh now : StateM FileTree _).run v.files).1 = .ok () := by
        rw [hlast]
        exact hwrites
      rw [if_pos (Nat.le_refl 1), runBeside_take hready, Lock.settle, Program.pure_eq, runBeside,
        Ends, hlast]
      exact .clear hfound hall (writes_refresh hwrites)
  | succ left ih =>
      have hlook : k < Lock.looks := by omega
      refine h.ends_of_look hfound hlook fun now v hclear hfiles htime hnone => ?_
      rw [if_neg (by omega)]
      exact ih (h.next hnone hclear hfiles htime) (by omega)

/-- A claim is decided by the first look that is not clear. -/
theorem decides_claim (c : Contest) (hs : c.Succeeds) :
    c.Decides c.claim.1 c.claim.2.files := by
  have hends : c.Ends (runBeside (c.lock.acquire c.period)
      (planOf c.world.time c.timeline.incidents) c.world) := by
    have hacquire : c.lock.acquire c.period = Program.now >>= fun now =>
        c.lock.begin now >>= c.lock.settle c.period Lock.looks := rfl
    rw [hacquire, runBeside_now]
    generalize c.world.readClock.1 = now
    have hread : shows c.world.readClock.2.files c.lock.file = c.found := rfl
    cases hfound : c.found with
    | true =>
        have hwaits : c.Waits 0 [] c.timeline.incidents
            { c.world.readClock.2 with files := c.cleared } := by
          refine ⟨?_, rfl, ?_, ?_, ?_, ?_, fun _ => rfl⟩
          · intro j hj
            exact absurd hj (Nat.not_lt_zero j)
          · simp
          · simp
          · simp
          · simp [World.readClock]
        rw [runBeside_begin_of_found (hread.trans hfound) (hs.removes hfound)]
        exact hwaits.ends hs hfound rfl
    | false =>
        have hlast : c.world.readClock.2.files = c.last := by
          rw [last, hfound]
          rfl
        have hnone : c.found = true → ∀ k < Lock.looks, c.Clear k := fun hthere =>
          absurd (hfound.symm.trans hthere) Bool.false_ne_true
        have hwrites := hs.writes hnone now
        have hready : ((c.lock.refresh now : StateM FileTree _).run
            c.world.readClock.2.files).1 = .ok () := by
          rw [hlast]
          exact hwrites
        rw [runBeside_begin_of_absent (hread.trans hfound), runBeside_take hready, Lock.settle,
          Program.pure_eq, runBeside, Ends, hlast]
        exact .free hfound (writes_refresh hwrites)
  exact hends

/-! ## What a claim comes to -/

/-- Whether there is a lock at the time of a look, and no stop file. -/
def OnlyLocked (c : Contest) (k : Nat) : Prop :=
  c.locked k = true ∧ c.stopped k = false

/-- Whether others write the lock again after it was removed, and nobody removes it before a
look. -/
inductive Recreated (c : Contest) (k : Nat) : Prop where
  | intro {past later : List (Nat × Incident)} {time : Nat} {change : FileTree → FileTree}
      (split : c.timeline.incidents = past ++ (time, .files change) :: later)
      (due : time ≤ c.lookTime k)
      (there : shows (befallAll c.world.time c.cleared (past ++ [(time, .files change)]))
        c.lock.file = true)
      (kept : ∀ i ∈ later, i.1 ≤ c.lookTime k → ∀ t, shows t c.lock.file = true →
        shows (befall c.world.time t i) c.lock.file = true)

/-- How the end of a claim follows the timeline. -/
structure Follows (c : Contest) : Prop where
  /-- The lock is held when there was none, or when every look found that nobody had told the
  claim to stop, no stop file and no lock. -/
  held : c.claim.1 = .ok true ↔ c.found = false ∨
    ∀ k < Lock.looks, ¬c.Canceled k ∧ c.stopped k = false ∧ c.locked k = false
  /-- The claim gives way when it was told to stop, or the stop file was found, before a look found
  just the lock. -/
  yielded : c.claim.1 = .ok false ↔ c.found = true ∧
    ∃ k < Lock.looks, (c.Canceled k ∨ c.stopped k = true) ∧ ∀ j < k, ¬c.OnlyLocked j
  /-- Another spool is alive when a look that finds just the lock comes first. -/
  refused : c.claim.1 = .error (.alreadyRunning c.lock.file) ↔ c.found = true ∧
    ∃ k < Lock.looks, c.OnlyLocked k ∧ ∀ j ≤ k, ¬c.Canceled j ∧ c.stopped j = false
  /-- A claim that holds the lock has written it, last of all. -/
  own : c.claim.1 = .ok true → c.Writes c.claim.2.files
  /-- Any other one has only removed the lock that it had found: the files are as others have left
  them since. -/
  others : c.claim.1 ≠ .ok true → ∃ past time, past <+: c.timeline.incidents ∧
    c.claim.2.files = stamped (befallAll c.world.time c.cleared past) time
  /-- A lock that was found and comes back in time for a look is not taken. -/
  recreated : c.found = true → ∀ k < Lock.looks, c.Recreated k → c.claim.1 ≠ .ok true

/-- A look that is clear has found no lock. -/
theorem Clear.not_onlyLocked (h : c.Clear k) : ¬c.OnlyLocked k := by
  intro honly
  exact Bool.false_ne_true (h.locked.symm.trans honly.1)

/-- A claim whose look is clear was not canceled before it, and has found no stop file. -/
theorem Clear.not_yielding (h : c.Clear k) : ¬(c.Canceled k ∨ c.stopped k = true) := by
  rintro (hcanceled | hstopped)
  · exact h.going hcanceled
  · exact Bool.false_ne_true (h.stopped.symm.trans hstopped)

/-- A lock that was found is not held when a look is not clear. -/
theorem not_held (hfound : c.found = true) (hlook : k < Lock.looks) (hk : ¬c.Clear k) :
    ¬(c.found = false ∨
      ∀ k < Lock.looks, ¬c.Canceled k ∧ c.stopped k = false ∧ c.locked k = false) := by
  rintro (habsent | hall)
  · exact Bool.false_ne_true (habsent.symm.trans hfound)
  · obtain ⟨hgoing, hstopped, hlocked⟩ := hall k hlook
    exact hk ⟨hgoing, hstopped, hlocked⟩

/-- What the incidents do that are left, when they keep the lock. -/
theorem shows_befallAll {start : Nat} {p : Path} {is : List (Nat × Incident)}
    (hkept : ∀ i ∈ is, ∀ t, shows t p = true → shows (befall start t i) p = true) {t : FileTree}
    (ht : shows t p = true) : shows (befallAll start t is) p = true := by
  induction is generalizing t with
  | nil => exact ht
  | cons i rest ih =>
      obtain ⟨hfirst, hrest⟩ := List.forall_mem_cons.1 hkept
      exact ih hrest (hfirst t ht)

/-- A lock that comes back in time for a look is there at the time of the look. -/
theorem Recreated.locked (h : c.Recreated k) : c.locked k = true := by
  obtain @⟨past, later, time, change, split, due, there, kept⟩ := h
  have hordered := c.timeline.ordered
  rw [split, List.pairwise_append] at hordered
  have hpast : ∀ i ∈ past, i.1 ≤ c.lookTime k := fun i hi =>
    Nat.le_trans (hordered.2.2 i hi _ List.mem_cons_self) due
  have hupTo : upTo c.timeline.incidents (c.lookTime k) =
      (past ++ [(time, .files change)]) ++ upTo later (c.lookTime k) := by
    rw [split, upTo, List.filter_append, ← upTo, upTo_eq_self hpast,
      List.filter_cons_of_pos (by simpa using due), List.append_assoc]
    rfl
  rw [Contest.locked, filesAt, shows_stamped, hupTo, befallAll_append]
  refine shows_befallAll (fun i hi => ?_) there
  obtain ⟨hmem, hle⟩ := List.mem_filter.1 hi
  exact kept i hmem (of_decide_eq_true hle)

theorem upTo_prefix (c : Contest) (time : Nat) :
    upTo c.timeline.incidents time <+: c.timeline.incidents :=
  ⟨_, upTo_append_later c.timeline.ordered time⟩

namespace Decides

variable {result : Except SpoolFault Bool} {files : FileTree}

/-- The lock is held when there was none, or when every look was clear. -/
theorem held_iff (h : c.Decides result files) : result = .ok true ↔ c.found = false ∨
    ∀ k < Lock.looks, ¬c.Canceled k ∧ c.stopped k = false ∧ c.locked k = false := by
  cases h with
  | free absent => exact iff_of_true rfl (.inl absent)
  | clear found clear =>
      refine iff_of_true rfl (.inr fun k hk => ?_)
      exact ⟨(clear k hk).going, (clear k hk).stopped, (clear k hk).locked⟩
  | canceled found look before canceled =>
      exact iff_of_false (by simp) (not_held found look fun h => h.going canceled)
  | stopped found look before going stopped =>
      exact iff_of_false (by simp) (not_held found look fun h => h.not_yielding (.inr stopped))
  | refused found look before going running locked =>
      exact iff_of_false (by simp)
        (not_held found look fun h => h.not_onlyLocked ⟨locked, running⟩)

/-- A claim gives way when it is canceled or finds the stop file, and no look before found just the
lock. -/
theorem yielded_iff (h : c.Decides result files) : result = .ok false ↔ c.found = true ∧
    ∃ k < Lock.looks, (c.Canceled k ∨ c.stopped k = true) ∧ ∀ j < k, ¬c.OnlyLocked j := by
  cases h with
  | free absent =>
      refine iff_of_false (by simp) fun h => ?_
      exact Bool.false_ne_true (absent.symm.trans h.1)
  | clear found clear =>
      refine iff_of_false (by simp) ?_
      rintro ⟨-, k, hk, hyielding, -⟩
      exact (clear k hk).not_yielding hyielding
  | canceled found look before canceled =>
      exact iff_of_true rfl
        ⟨found, _, look, .inl canceled, fun j hj => (before j hj).not_onlyLocked⟩
  | stopped found look before going stopped =>
      exact iff_of_true rfl
        ⟨found, _, look, .inr stopped, fun j hj => (before j hj).not_onlyLocked⟩
  | @refused k found look before going running locked =>
      refine iff_of_false (by simp) ?_
      rintro ⟨-, j, -, hyielding, hbefore⟩
      rcases Nat.lt_trichotomy j k with hj | rfl | hj
      · exact (before j hj).not_yielding hyielding
      · rcases hyielding with hcanceled | hstopped
        · exact going hcanceled
        · exact Bool.false_ne_true (running.symm.trans hstopped)
      · exact hbefore k hj ⟨locked, running⟩

/-- It is refused when a look finds just the lock, and nothing has made it give way until then. -/
theorem refused_iff (h : c.Decides result files) :
    result = .error (.alreadyRunning c.lock.file) ↔ c.found = true ∧
      ∃ k < Lock.looks, c.OnlyLocked k ∧ ∀ j ≤ k, ¬c.Canceled j ∧ c.stopped j = false := by
  have hgave : ∀ {k : Nat}, (∀ j < k, c.Clear j) → (c.Canceled k ∨ c.stopped k = true) →
      ¬∃ j < Lock.looks, c.OnlyLocked j ∧ ∀ i ≤ j, ¬c.Canceled i ∧ c.stopped i = false := by
    rintro k before hyielding ⟨j, -, honly, hnone⟩
    rcases Nat.lt_or_ge j k with hj | hj
    · exact (before j hj).not_onlyLocked honly
    · obtain ⟨hgoing, hrunning⟩ := hnone k hj
      rcases hyielding with hcanceled | hstopped
      · exact hgoing hcanceled
      · exact Bool.false_ne_true (hrunning.symm.trans hstopped)
  cases h with
  | free absent =>
      refine iff_of_false (by simp) fun h => ?_
      exact Bool.false_ne_true (absent.symm.trans h.1)
  | clear found clear =>
      refine iff_of_false (by simp) ?_
      rintro ⟨-, k, hk, honly, -⟩
      exact (clear k hk).not_onlyLocked honly
  | canceled found look before canceled =>
      exact iff_of_false (by simp) fun h => hgave before (.inl canceled) h.2
  | stopped found look before going stopped =>
      exact iff_of_false (by simp) fun h => hgave before (.inr stopped) h.2
  | @refused k found look before going running locked =>
      refine iff_of_true rfl ⟨found, k, look, ⟨locked, running⟩, fun j hj => ?_⟩
      rcases Nat.lt_or_eq_of_le hj with hj | rfl
      · exact ⟨(before j hj).going, (before j hj).stopped⟩
      · exact ⟨going, running⟩

/-- Whoever holds the lock has written it. -/
theorem own (h : c.Decides result files) (hheld : result = .ok true) : c.Writes files := by
  cases h with
  | free absent writes => exact writes
  | clear found clear writes => exact writes
  | _ => simp at hheld

/-- Who does not hold it leaves what the others have left. -/
theorem others (h : c.Decides result files) (hheld : result ≠ .ok true) :
    ∃ past time, past <+: c.timeline.incidents ∧
      files = stamped (befallAll c.world.time c.cleared past) time := by
  cases h with
  | free absent => exact absurd rfl hheld
  | clear found clear => exact absurd rfl hheld
  | canceled found look before canceled happened =>
      exact ⟨_, _, (List.prefix_append _ _).trans happened, rfl⟩
  | stopped => exact ⟨_, _, c.upTo_prefix _, rfl⟩
  | refused => exact ⟨_, _, c.upTo_prefix _, rfl⟩

end Decides

/-- The end of a claim follows the timeline, whatever the world and the timeline. -/
theorem follows_timeline (c : Contest) (hs : c.Succeeds) : c.Follows where
  held := (c.decides_claim hs).held_iff
  yielded := (c.decides_claim hs).yielded_iff
  refused := (c.decides_claim hs).refused_iff
  own := (c.decides_claim hs).own
  others := (c.decides_claim hs).others
  recreated hfound k hk hrecreated hheld := by
    refine not_held hfound hk (fun hclear => ?_) ((c.decides_claim hs).held_iff.1 hheld)
    exact Bool.false_ne_true (hclear.locked.symm.trans hrecreated.locked)

/-! ### A sample -/

/-- Files with a lock. -/
def sampleFiles : FileTree where
  nodes := [(["lock"], .file .empty 0)]
  current := []
  time := 0

/-- A claim of the lock in a world where another spool writes it again. -/
def sample : Contest where
  lock := ⟨⟨"lock"⟩, ⟨"stop"⟩⟩
  period := .ofMillis 100
  waits := by decide
  timeline :=
    { incidents := [(250, .files fun t => (t.perform (.write ⟨"lock"⟩ .empty)).2)]
      ordered := List.pairwise_singleton _ _ }
  world := { files := sampleFiles }

theorem succeeds_sample : sample.Succeeds where
  removes _ := by rfl
  writes _ now := by rfl

/-- The third look finds the lock and no stop file, so another spool is alive. -/
theorem follows_timeline_sample : sample.Succeeds ∧ sample.Follows ∧
    sample.claim.1 = .error (.alreadyRunning ⟨"lock"⟩) := by
  have hfollows := follows_timeline sample succeeds_sample
  refine ⟨succeeds_sample, hfollows, hfollows.refused.2 ⟨by rfl, 2, by decide, ?_, ?_⟩⟩
  · exact ⟨by rfl, by rfl⟩
  · intro j hj
    constructor
    · rintro ⟨time, -, hmem⟩
      simp [sample] at hmem
    · interval_cases j
      · rfl
      · rfl
      · rfl

end Contest

end Courier.Simulation
