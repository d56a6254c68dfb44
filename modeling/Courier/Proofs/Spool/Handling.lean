import Courier.Proofs.Spool.Deeds
import Courier.Proofs.Spool.Departure

/-!
# How a watch handles events

Every event is handled by deeds.  What a watch writes to its status file meanwhile is just what
its deeds say, and a round of messages that it begins tells what is known then.

Main definitions:

- `Watch.Steady` says what is true of a watch between two events.
- `Watch.Handles` relates a watch to what came of an event.

Main statements:

- A watch begins steady and knows nothing of observers (`begins_of_run_start`).
- Every event is handled by deeds and leaves the watch steady (`handles_of_run_handle`,
  `handles_of_run_dispatched`, `handles_of_run_informed`).
-/

namespace Courier

open Program Calendar

namespace Watch

/-! ## Between two events -/

/-- What is true of a watch between two events. -/
structure Steady (w : Watch) : Prop where
  sound : w.Sound
  /-- No file waits while no dispatch is under way. -/
  busy : w.dispatches = [] → w.waiting = []
  /-- One file after the other, files are only dispatched while nothing else is done. -/
  idle : w.job.isParallel = false → w.phase ≠ .dispatching → w.Idle
  /-- Messages are only sent beside the watch while it watches and dispatches files beside. -/
  beside : w.informer.isSome = true → w.phase = .watching ∧ w.job.isParallel = true

/-- The rounds of messages among some tasks. -/
def rounds (tasks : List (Nat × Task)) : List (Nat × List Bulletin) :=
  tasks.filterMap fun t =>
    match t.2 with
    | .inform bulletins => some (t.1, bulletins)
    | .dispatch _ => none

@[simp] theorem rounds_append (tasks others : List (Nat × Task)) :
    rounds (tasks ++ others) = rounds tasks ++ rounds others :=
  List.filterMap_append

/-- The round of messages that a change begins, if it begins one, is made from what is known
then, and no other one is under way beside it. -/
def Posts (w : Watch) (change : Change) : Prop :=
  (rounds change.2 = [] ∧ ∀ task ∈ change.1.informers, task ∈ w.informers) ∨
    ∃ task now, w.nextTask ≤ task ∧ task < change.1.nextTask ∧ change.1.informers = [task] ∧
      rounds change.2 =
        [(task, Bulletin.prepare change.1.job.observerHosts change.1.monitor now)]

/-- Whether a watch does something by itself. -/
def Deed.isOwn : Deed → Bool
  | looked _ _ => true
  | begun _ => true
  | saved _ _ => true
  | settled _ _ _ => false
  | noted _ => false

/-- What comes of an event for a watch: what it did, what it has written meanwhile, and what
it begins. -/
structure Handles (w : Watch) (t : Trace) (ds : List Deed) (change : Change) : Prop where
  moves : Moves w ds change.1
  own : ∀ d ∈ ds, d.isOwn = true
  writes : t.writes w.job.statusFile = ds.filterMap Deed.content?
  steady : change.1.Steady
  posts : Posts w change

/-- No deed changes the job. -/
theorem Moves.job {w w' : Watch} {ds : List Deed} (h : Moves w ds w') : w'.job = w.job := by
  induction h with
  | done => rfl
  | turn _ turns ih => exact turns.job.trans ih
  | move _ does ih =>
      refine Eq.trans ?_ ih
      cases does <;> rfl

/-- Task numbers only grow. -/
theorem Moves.nextTask {w w' : Watch} {ds : List Deed} (h : Moves w ds w') :
    w.nextTask ≤ w'.nextTask := by
  induction h with
  | done => exact Nat.le_refl _
  | turn _ turns ih => exact Nat.le_trans ih turns.nextTask
  | move _ does ih =>
      refine Nat.le_trans ih ?_
      cases does with
      | begin => exact Nat.le_add_right _ _
      | _ => exact Nat.le_refl _

section Handles

variable {w w₁ w' : Watch} {t u : Trace} {ds ds' : List Deed} {change : Change}
  {started : List (Nat × Task)}

/-- What came of an event after some deeds. -/
theorem Handles.after (hmoves : Moves w ds w₁) (hown : ∀ d ∈ ds, d.isOwn = true)
    (hwrites : t.writes w.job.statusFile = ds.filterMap Deed.content?)
    (hinformers : ∀ task ∈ w₁.informers, task ∈ w.informers) (h : Handles w₁ u ds' change) :
    Handles w (t ++ u) (ds ++ ds') change := by
  obtain ⟨moves, own, writes, steady, posts⟩ := h
  refine ⟨hmoves.append moves, ?_, ?_, steady, ?_⟩
  · intro d hd
    exact (List.mem_append.1 hd).elim (hown d) (own d)
  · rw [Trace.writes_append, hwrites, List.filterMap_append, ← writes, hmoves.job]
  · rcases posts with ⟨hnone, hsub⟩ | ⟨task, now, hnew, hbelow, honly, hround⟩
    · exact Or.inl ⟨hnone, fun task htask => hinformers task (hsub task htask)⟩
    · exact Or.inr ⟨task, now, Nat.le_trans hmoves.nextTask hnew, hbelow, honly, hround⟩

/-- What came of an event after a turn during which nothing was written. -/
theorem Handles.afterTurn (hturns : Turns w w₁) (hwrites : t.writes w.job.statusFile = [])
    (hinformers : ∀ task ∈ w₁.informers, task ∈ w.informers) (h : Handles w₁ u ds' change) :
    Handles w (t ++ u) ds' change := by
  have hafter := h.after (Moves.of_turns hturns) (fun _ hd => nomatch hd) hwrites hinformers
  exact hafter

/-- Dispatches that are begun beside change nothing for the messages. -/
theorem Handles.starting (hstarted : rounds started = []) (h : Handles w t ds change) :
    Handles w t ds (change.1, started ++ change.2) := by
  obtain ⟨moves, own, writes, steady, posts⟩ := h
  have hrounds : rounds (started ++ change.2) = rounds change.2 := by
    rw [rounds_append, hstarted, List.nil_append]
  refine ⟨moves, own, writes, steady, ?_⟩
  simp only [Posts, hrounds]
  exact posts

/-- A turn to a steady watch that writes nothing and begins nothing. -/
theorem Handles.turned (hturns : Turns w w') (hwrites : t.writes w.job.statusFile = [])
    (hsteady : w'.Steady) (hinformers : ∀ task ∈ w'.informers, task ∈ w.informers) :
    Handles w t [] (w', []) :=
  ⟨.of_turns hturns, (fun _ hd => nomatch hd), hwrites, hsteady, Or.inl ⟨rfl, hinformers⟩⟩

end Handles

/-- The lock lies beside the status file. -/
theorem lockFile_ne_statusFile (job : Job) : job.lockFile ≠ job.statusFile := by
  intro h
  have htext : job.statusFile.text ++ ".chk" = job.statusFile.text := congrArg Path.text h
  have hlength := congrArg String.length htext
  simp at hlength

/-! ## The end -/

/-- What is true of a watch that comes to an end: what it would be to be steady. -/
structure Leaving (w : Watch) : Prop where
  sound : w.Sound
  busy : w.dispatches = [] → w.waiting = []
  idle : w.job.isParallel = false → w.Idle
  alone : w.informer = none

/-- A watch that comes to an end is steady at every phase. -/
theorem Leaving.steady {w w' : Watch} (h : w.Leaving) (hturns : Turns w w')
    (hinformer : w'.informer = none) : w'.Steady := by
  refine ⟨h.sound.turns hturns, ?_, ?_, ?_⟩
  · rw [hturns.dispatches, hturns.waiting]
    exact h.busy
  · intro hparallel _
    rw [hturns.job] at hparallel
    obtain ⟨hwaiting, hdispatches⟩ := h.idle hparallel
    exact ⟨hturns.waiting.trans hwaiting, hturns.dispatches.trans hdispatches⟩
  · rw [hinformer]
    exact fun hsome => nomatch hsome

section Programs

variable {w w' : Watch} {t : Trace} {change : Change} {now : Nat}

/-- Saving the status of a watch is a deed that wrote the status file, or none. -/
theorem moves_of_run_saveStatus {result : Except FileFault Unit × Monitor} (hw : w.Sound)
    (hidle : w.job.isParallel = false → w.Idle) (h : Run w.monitor.saveStatus t result) :
    ∃ ds, Moves w ds { w with monitor := result.2 } ∧ (∀ d ∈ ds, d.isOwn = true) ∧
      t.writes w.job.statusFile = ds.filterMap Deed.content? := by
  rw [← hw.statusFile]
  rcases Monitor.saveStatus_cases h with ⟨hsaved, hwrites⟩ | ⟨hkept, hwrites⟩
  · rw [hsaved]
    refine ⟨_, .of_does (.save hidle), ?_, hwrites⟩
    intro d hd
    rw [List.mem_singleton.1 hd]
    rfl
  · rw [hkept]
    exact ⟨[], .done w, (fun _ hd => nomatch hd), hwrites⟩

/-- The end of a watch is made up of deeds. -/
theorem handles_of_run_finish (hw : w.Leaving) (h : Run w.finish t change) :
    ∃ ds, Handles w t ds change := by
  obtain ⟨u, result, v, rfl, hsave, hrest⟩ := Run.bind_iff.1 h
  obtain ⟨v, released, x, rfl, hrelease, hend⟩ := Run.bind_iff.1 hrest
  obtain ⟨rfl, rfl⟩ := Run.done_iff.1 hend
  obtain ⟨ds, hmoves, hown, hwrites⟩ := moves_of_run_saveStatus hw.sound hw.idle hsave
  have hleaving : Leaving { w with monitor := result.2 } :=
    ⟨hw.sound.moves hmoves, hw.busy, hw.idle, hw.alone⟩
  have hturns : Turns { w with monitor := result.2 }
      { w with monitor := result.2, phase := .ended success } :=
    ⟨rfl, rfl, rfl, rfl, Nat.le_refl _⟩
  have hnobody : informers { w with monitor := result.2, phase := .ended success } = [] := by
    simp [informers, hw.alone]
  have hspared := hrelease.writes_of_spares (Lock.spares_release w.job.statusFile _)
  have hended : Handles { w with monitor := result.2 } (v ++ []) []
      ({ w with monitor := result.2, phase := .ended success }, []) := by
    refine .turned hturns ?_ (hleaving.steady hturns hw.alone) ?_
    · rw [List.append_nil]
      exact hspared
    · simp [hnobody]
  exact ⟨ds ++ [], hended.after hmoves hown hwrites fun _ htask => htask⟩

/-- So is its parting. -/
theorem handles_of_run_part (hw : w.Leaving) (h : Run (w.part now) t change) :
    ∃ ds, Handles w t ds change := by
  simp only [part] at h
  split at h
  · exact handles_of_run_finish hw h
  · obtain ⟨moment, u, rfl, hend⟩ := Run.ask_iff.1 h
    obtain ⟨rfl, rfl⟩ := Run.done_iff.1 hend
    have hturns : Turns w { w with
        phase := .parting w.nextTask (now + w.job.elapseObserverMs)
        nextTask := w.nextTask + 1 } := ⟨rfl, rfl, rfl, rfl, Nat.le_succ _⟩
    refine ⟨[], .of_turns hturns, (by simp), rfl, hw.steady hturns hw.alone,
      Or.inr ⟨w.nextTask, moment, Nat.le_refl _, Nat.lt_succ_self _, ?_, rfl⟩⟩
    simp [informers, hw.alone]

/-- So is the draining of what waits. -/
theorem handles_of_run_drain (hw : w.Leaving) (h : Run (w.drain now) t change) :
    ∃ ds, Handles w t ds change := by
  have hturns : Turns w { w with phase := .draining } := ⟨rfl, rfl, rfl, rfl, Nat.le_refl _⟩
  have hnobody : ∀ task ∈ informers { w with phase := .draining }, task ∈ w.informers := by
    simp [informers, hw.alone]
  simp only [drain] at h
  split at h
  · have hleaving : Leaving { w with phase := .draining } :=
      ⟨hw.sound.turns hturns, hw.busy, hw.idle, hw.alone⟩
    obtain ⟨ds, hpart⟩ := handles_of_run_part hleaving h
    exact ⟨ds, hpart.afterTurn hturns (t := []) rfl hnobody⟩
  · obtain ⟨rfl, rfl⟩ := Run.done_iff.1 h
    exact ⟨[], .turned hturns rfl (hw.steady hturns hw.alone) hnobody⟩

/-- No messages are sent beside a watch that does not watch. -/
theorem Steady.alone (hw : w.Steady) (hphase : w.phase ≠ .watching) : w.informer = none := by
  cases hinformer : w.informer with
  | none => rfl
  | some task => exact absurd (hw.beside (by simp [hinformer])).1 hphase

/-- A steady watch that does not dispatch one file after the other may leave. -/
theorem Steady.leaving (hw : w.Steady) (hphase : w.phase ≠ .dispatching) (hturns : Turns w w')
    (hinformer : w'.informer = none) : w'.Leaving := by
  refine ⟨hw.sound.turns hturns, ?_, ?_, hinformer⟩
  · rw [hturns.dispatches, hturns.waiting]
    exact hw.busy
  · intro hparallel
    rw [hturns.job] at hparallel
    obtain ⟨hwaiting, hdispatches⟩ := hw.idle hparallel hphase
    exact ⟨hturns.waiting.trans hwaiting, hturns.dispatches.trans hdispatches⟩

/-- So is its leaving. -/
theorem handles_of_run_leave (hw : w.Steady) (hphase : w.phase ≠ .dispatching)
    (h : Run (w.leave now) t change) : ∃ ds, Handles w t ds change := by
  have hturns : Turns w { w with informer := none } := ⟨rfl, rfl, rfl, rfl, Nat.le_refl _⟩
  obtain ⟨ds, hdrain⟩ := handles_of_run_drain (hw.leaving hphase hturns rfl) h
  refine ⟨ds, hdrain.afterTurn hturns (t := []) rfl ?_⟩
  intro task htask
  exact List.mem_append_right _ htask

/-- A watch that resumes has left, or has nothing to do. -/
theorem handles_of_run_resume (hw : w.Steady) (hphase : w.phase ≠ .dispatching)
    (h : Run (w.resume now) t change) : ∃ ds, Handles w t ds change := by
  simp only [resume] at h
  split at h
  · exact handles_of_run_leave hw hphase h
  · obtain ⟨rfl, rfl⟩ := Run.done_iff.1 h
    exact ⟨[], .turned (.refl w) rfl hw fun _ htask => htask⟩

/-! ## Dispatches -/

/-- While nothing is under way there is room for a dispatch. -/
theorem room_pos_of_dispatches_eq_nil (h : w.dispatches = []) (hwaiting : w.waiting ≠ []) :
    0 < w.room := by
  simp only [room, h, List.length_nil, Nat.sub_zero, Job.limit?]
  split
  · exact List.length_pos_iff.2 hwaiting
  · next limit hlimit =>
      split at hlimit
      · cases hlimit
        exact Nat.one_pos
      · split at hlimit
        · next hmany =>
            cases hlimit
            exact Nat.lt_trans Nat.one_pos hmany
        · exact nomatch hlimit

/-- No file waits on while no dispatch is under way. -/
theorem busy_dispatchWaiting (w : Watch) (h : w.dispatchWaiting.1.dispatches = []) :
    w.dispatchWaiting.1.waiting = [] := by
  rw [dispatches_dispatchWaiting] at h
  obtain ⟨hdispatches, hbeginning⟩ := List.append_eq_nil_iff.1 h
  have htake : w.waiting.take w.room = [] := by
    rw [← map_snd_beginning, hbeginning]
    rfl
  by_cases hwaiting : w.waiting = []
  · show w.waiting.drop w.room = []
    rw [hwaiting, List.drop_nil]
  · have hroom := room_pos_of_dispatches_eq_nil hdispatches hwaiting
    rcases List.take_eq_nil_iff.1 htake with hzero | hnil
    · omega
    · exact absurd hnil hwaiting

/-- Where nothing waits, nothing is dispatched. -/
theorem idle_dispatchWaiting (h : w.Idle) : w.dispatchWaiting.1.Idle := by
  obtain ⟨hwaiting, hdispatches⟩ := h
  have hbeginning : w.beginning = [] := by
    simp [beginning, hwaiting]
  refine ⟨?_, ?_⟩
  · show w.waiting.drop w.room = []
    rw [hwaiting, List.drop_nil]
  · rw [dispatches_dispatchWaiting, hdispatches, hbeginning]
    rfl

/-- Dispatches are no messages. -/
theorem rounds_dispatchWaiting (w : Watch) : rounds w.dispatchWaiting.2 = [] := by
  have hdispatches : ∀ tasks : List (Nat × Item),
      rounds (tasks.map fun t => (t.1, Task.dispatch t.2)) = [] := by
    intro tasks
    simp [rounds]
  exact hdispatches w.beginning

theorem own_begun {tasks : List (Nat × Item)} : ∀ d ∈ [Deed.begun tasks], d.isOwn = true := by
  intro d hd
  rw [List.mem_singleton.1 hd]
  rfl

/-- To save the status is a deed of the watch itself, if there is anything to save. -/
theorem moves_of_run_saveAndWatch (hw : w.Sound) (hidle : w.job.isParallel = false → w.Idle)
    (h : Run w.saveAndWatch t w') :
    ∃ ds monitor, w' = { w with monitor, phase := .watching } ∧ Moves w ds w' ∧
      (∀ d ∈ ds, d.isOwn = true) ∧ t.writes w.job.statusFile = ds.filterMap Deed.content? := by
  obtain ⟨u, result, v, rfl, hsave, hend⟩ := Run.bind_iff.1 h
  obtain ⟨rfl, rfl⟩ := Run.done_iff.1 hend
  obtain ⟨ds, hmoves, hown, hwrites⟩ := moves_of_run_saveStatus hw hidle hsave
  have hturns : Turns { w with monitor := result.2 }
      { w with monitor := result.2, phase := .watching } :=
    ⟨rfl, rfl, rfl, rfl, Nat.le_refl _⟩
  refine ⟨ds, result.2, rfl, ?_, hown, ?_⟩
  · have happend := hmoves.append (.of_turns hturns)
    rw [List.append_nil] at happend
    exact happend
  · rw [List.append_nil]
    exact hwrites

/-- Saving the status, and then watching on or leaving. -/
theorem handles_of_run_saveAndResume {started : List (Nat × Task)} (hw : w.Sound)
    (hbusy : w.dispatches = [] → w.waiting = []) (hidle : w.job.isParallel = false → w.Idle)
    (hinformer : w.informer = none)
    (h : Run (w.saveAndWatch >>= fun w => w.resume now >>= fun r =>
      .done (r.1, started ++ r.2)) t change) (hstarted : rounds started = []) :
    ∃ ds, Handles w t ds change := by
  obtain ⟨u, w₁, v, rfl, hsave, hrest⟩ := Run.bind_iff.1 h
  obtain ⟨v, r, x, rfl, hresume, hend⟩ := Run.bind_iff.1 hrest
  obtain ⟨rfl, rfl⟩ := Run.done_iff.1 hend
  obtain ⟨ds, monitor, rfl, hmoves, hown, hwrites⟩ := moves_of_run_saveAndWatch hw hidle hsave
  have hsteady : Steady { w with monitor, phase := .watching } := by
    refine ⟨hw.moves hmoves, hbusy, fun hparallel _ => hidle hparallel, ?_⟩
    simp [hinformer]
  obtain ⟨ds', hresumed⟩ := handles_of_run_resume hsteady (fun heq => nomatch heq) hresume
  have hinformers : ∀ task ∈ informers { w with monitor, phase := .watching },
      task ∈ w.informers := by
    simp [informers, hinformer]
  rw [List.append_nil]
  exact ⟨ds ++ ds', (hresumed.after hmoves hown hwrites hinformers).starting hstarted⟩

/-- Items that became ready are dispatched: beside each other, or one after the other. -/
theorem handles_of_run_dispatchReady {ready : List Item}
    (hw : Sound { w with waiting := w.waiting ++ ready })
    (hidle : w.job.isParallel = false → w.Idle)
    (hbeside : w.informer.isSome = true → w.job.isParallel = true)
    (h : Run (w.dispatchReady ready now) t change) :
    ∃ ds, Handles { w with waiting := w.waiting ++ ready } t ds change := by
  simp only [dispatchReady] at h
  split at h
  · next hcond =>
      obtain ⟨u, w₁, v, rfl, hsave, hrest⟩ := Run.bind_iff.1 h
      have hidle₀ : w.job.isParallel = false → Idle { w with waiting := w.waiting ++ ready } := by
        intro hparallel
        have hready : ready = [] := by simpa [hparallel] using hcond
        obtain ⟨hwaiting, hdispatches⟩ := hidle hparallel
        exact ⟨by simp [hwaiting, hready], hdispatches⟩
      obtain ⟨ds, monitor, rfl, hmoves, hown, hwrites⟩ :=
        moves_of_run_saveAndWatch hw hidle₀ hsave
      obtain ⟨v, r, x, rfl, hresume, hend⟩ := Run.bind_iff.1 hrest
      obtain ⟨rfl, rfl⟩ := Run.done_iff.1 hend
      have hw₁ := hw.moves hmoves
      have hsteady : Steady (dispatchWaiting
          { w with waiting := w.waiting ++ ready, monitor, phase := .watching }).1 :=
        ⟨hw₁.dispatchWaiting, busy_dispatchWaiting _,
          fun hparallel _ => idle_dispatchWaiting (hidle₀ hparallel),
          fun hsome => ⟨rfl, hbeside hsome⟩⟩
      obtain ⟨ds', hresumed⟩ := handles_of_run_resume hsteady (by rintro ⟨⟩) hresume
      have hbegun := hmoves.append (.of_does .begin)
      rw [List.append_nil]
      refine ⟨_, (hresumed.after hbegun ?_ ?_ ?_).starting (rounds_dispatchWaiting _)⟩
      · intro d hd
        exact (List.mem_append.1 hd).elim (hown d) (own_begun d)
      · rw [hwrites, List.filterMap_append]
        exact (List.append_nil _).symm
      · intro task htask
        have hbeside : task ∈ w.informer.toList ++ [] := htask
        rw [List.append_nil] at hbeside
        exact List.mem_append_left _ hbeside
  · next hcond =>
      obtain ⟨rfl, rfl⟩ := Run.done_iff.1 h
      have hturns : Turns { w with waiting := w.waiting ++ ready }
          { w with waiting := w.waiting ++ ready, phase := .dispatching } :=
        ⟨rfl, rfl, rfl, rfl, Nat.le_refl _⟩
      have hsequential : w.job.isParallel = false := by
        cases hparallel : w.job.isParallel with
        | true => simp [hparallel] at hcond
        | false => rfl
      have hnobody : w.informer = none := by
        cases hinformer : w.informer with
        | none => rfl
        | some task => simp [hinformer, hsequential] at hbeside
      refine ⟨_, ⟨(Moves.of_turns hturns).append (.of_does .begin), own_begun, rfl,
        ⟨(hw.turns hturns).dispatchWaiting, busy_dispatchWaiting _,
          fun _ hne => absurd rfl hne, ?_⟩, Or.inl ⟨rounds_dispatchWaiting _, ?_⟩⟩⟩
      · intro hsome
        have hsome' : w.informer.isSome = true := hsome
        simp [hnobody] at hsome'
      · intro task htask
        have hnone : task ∈ w.informer.toList ++ [] := htask
        simp [hnobody] at hnone

/-! ## Looks and messages -/

/-- The directories are looked at, and what became ready is dispatched. -/
theorem handles_of_run_scan (hw : w.Steady) (hphase : w.phase ≠ .dispatching)
    (h : Run (w.monitor.scan >>= fun found =>
      dispatchReady { w with monitor := found.2 } found.1 now) t change) :
    ∃ ds, Handles w t ds change := by
  obtain ⟨u, found, v, rfl, hscan, hready⟩ := Run.bind_iff.1 h
  obtain ⟨s, digest, hrow, haccepted, rfl⟩ := Monitor.absorb_of_run_scan hscan
  have hlooked : Does w (.looked s (w.monitor.absorb s digest).1) _ :=
    .look hrow haccepted fun hparallel => hw.idle hparallel hphase
  obtain ⟨ds, hhandles⟩ := handles_of_run_dispatchReady
    (w := { w with monitor := (w.monitor.absorb s digest).2 }) (hw.sound.does hlooked)
    (fun hparallel => hw.idle hparallel hphase) (fun hsome => (hw.beside hsome).2) hready
  refine ⟨_, hhandles.after (.of_does hlooked) ?_ ?_ fun _ htask => htask⟩
  · intro deed hdeed
    rw [List.mem_singleton.1 hdeed]
    rfl
  · exact hscan.writes_of_spares (Monitor.spares_scan w.job.statusFile _)

/-- A look is made up of deeds. -/
theorem handles_of_run_look (hw : w.Steady) (hphase : w.phase ≠ .dispatching)
    (h : Run (w.look now) t change) : ∃ ds, Handles w t ds change := by
  have hturns : Turns w { w with nextLook := nextTime w.nextLook w.job.elapseMs now } :=
    ⟨rfl, rfl, rfl, rfl, Nat.le_refl _⟩
  have hsteady : Steady { w with nextLook := nextTime w.nextLook w.job.elapseMs now } :=
    ⟨hw.sound.turns hturns, hw.busy, hw.idle, hw.beside⟩
  obtain ⟨u, stopped, v, rfl, hstopped, hrest⟩ := Run.bind_iff.1 h
  have hu := hstopped.writes_of_spares (spares_pathExists w.job.statusFile _)
  cases stopped with
  | true =>
      obtain ⟨ds, hleave⟩ := handles_of_run_leave hsteady hphase hrest
      exact ⟨ds, hleave.afterTurn hturns hu fun _ htask => htask⟩
  | false =>
      obtain ⟨moment, v, rfl, hclocked⟩ := Run.ask_iff.1 hrest
      obtain ⟨r, refreshed, v, rfl, hrefresh, hscan⟩ := Run.bind_iff.1 hclocked
      have hr := hrefresh.writes_of_spares
        (Lock.spares_refresh (lockFile_ne_statusFile w.job) moment)
      obtain ⟨ds, hhandles⟩ := handles_of_run_scan hsteady hphase hscan
      have hwrites : Trace.writes w.job.statusFile (u ++ ⟨.now, moment⟩ :: r) = [] := by
        rw [Trace.writes_append, hu]
        exact hr
      have hafter := hhandles.afterTurn hturns hwrites fun _ htask => htask
      rw [List.append_assoc, List.cons_append] at hafter
      exact ⟨ds, hafter⟩

/-- A round of messages is begun by a deed. -/
theorem handles_of_run_inform (hw : w.Steady) (hphase : w.phase = .watching)
    (h : Run (w.inform now) t change) : ∃ ds, Handles w t ds change := by
  simp only [inform] at h
  split at h
  · obtain ⟨rfl, rfl⟩ := Run.done_iff.1 h
    have hturns : Turns w { w with
        nextInform := nextTime w.nextInform w.job.elapseObserverMs now } :=
      ⟨rfl, rfl, rfl, rfl, Nat.le_refl _⟩
    exact ⟨[], .turned hturns rfl ⟨hw.sound.turns hturns, hw.busy, hw.idle, hw.beside⟩
      fun _ htask => htask⟩
  · next hnobody =>
      have hinformer : w.informer = none := by
        cases hinformer : w.informer with
        | none => rfl
        | some task => exact absurd (by simp [hinformer]) hnobody
      have hidle : w.job.isParallel = false → w.Idle := by
        intro hparallel
        refine hw.idle hparallel ?_
        simp [hphase]
      obtain ⟨moment, u, rfl, hend⟩ := Run.ask_iff.1 h
      split at hend
      · next hparallel =>
          obtain ⟨rfl, rfl⟩ := Run.done_iff.1 hend
          have hturns : Turns w { w with
              nextInform := nextTime w.nextInform w.job.elapseObserverMs now
              nextTask := w.nextTask + 1
              informer := some w.nextTask } := ⟨rfl, rfl, rfl, rfl, Nat.le_succ _⟩
          refine ⟨[], .of_turns hturns, (by simp), rfl,
            ⟨hw.sound.turns hturns, hw.busy, fun hsequential _ => hidle hsequential,
              fun _ => ⟨hphase, hparallel⟩⟩,
            Or.inr ⟨w.nextTask, moment, Nat.le_refl _, Nat.lt_succ_self _, ?_, rfl⟩⟩
          simp [informers, hphase]
      · obtain ⟨rfl, rfl⟩ := Run.done_iff.1 hend
        have hturns : Turns w { w with
            nextInform := nextTime w.nextInform w.job.elapseObserverMs now
            nextTask := w.nextTask + 1
            phase := .informing w.nextTask } := ⟨rfl, rfl, rfl, rfl, Nat.le_succ _⟩
        refine ⟨[], .of_turns hturns, (by simp), rfl,
          ⟨hw.sound.turns hturns, hw.busy, fun hsequential _ => hidle hsequential,
            fun hsome => absurd hsome hnobody⟩,
          Or.inr ⟨w.nextTask, moment, Nat.le_refl _, Nat.lt_succ_self _, ?_, rfl⟩⟩
        simp [informers, hinformer]

/-! ## Events -/

/-- A turn to a phase in which nothing is dispatched and no messages are sent beside. -/
theorem handles_turnTo {w' : Watch} (hw : w.Steady) (hphase : w.phase ≠ .dispatching)
    (hinformer : w.informer = none) (hturns : Turns w w') (hinformer' : w'.informer = none)
    (hinformers : w'.informers = []) (hwrites : t.writes w.job.statusFile = []) :
    Handles w t [] (w', []) := by
  refine .turned hturns hwrites
    ((hw.leaving hphase (.refl w) hinformer).steady hturns hinformer') ?_
  rw [hinformers]
  exact fun _ htask => nomatch htask

/-- What a claim comes to is made up of deeds. -/
theorem handles_of_run_claim {c : Lock.Claim} (hw : w.Steady) (hphase : w.phase ≠ .dispatching)
    (hinformer : w.informer = none) (h : Run (w.claim c now) t change) :
    ∃ ds, Handles w t ds change := by
  have hclaimed : ∀ phase : Phase, informers { w with phase } = [] →
      Run (.done (w.turnTo phase, [])) t change → ∃ ds, Handles w t ds change := by
    intro phase hinformers hdone
    obtain ⟨rfl, rfl⟩ := Run.done_iff.1 hdone
    exact ⟨[], handles_turnTo hw hphase hinformer ⟨rfl, rfl, rfl, rfl, Nat.le_refl _⟩ hinformer
      hinformers rfl⟩
  cases c with
  | held =>
      have hturns : Turns w { w with phase := .watching, nextLook := now, nextInform := now } :=
        ⟨rfl, rfl, rfl, rfl, Nat.le_refl _⟩
      have hsteady := (hw.leaving hphase (.refl w) hinformer).steady hturns hinformer
      obtain ⟨ds, hresume⟩ := handles_of_run_resume hsteady (fun heq => nomatch heq) h
      refine ⟨ds, hresume.afterTurn hturns (t := []) rfl ?_⟩
      simp [informers, hinformer]
  | waiting looks => exact hclaimed _ (by simp [informers, hinformer]) h
  | yielded => exact hclaimed _ (by simp [informers, hinformer]) h
  | refused fault => exact hclaimed _ (by simp [informers, hinformer]) h

/-- A stop is made up of the deeds of leaving, where there is something to leave. -/
theorem handles_of_run_onStop (hw : w.Steady) (h : Run (w.onStop now) t change) :
    ∃ ds, Handles w t ds change := by
  have hturns : Turns w { w with stopWanted := true } := ⟨rfl, rfl, rfl, rfl, Nat.le_refl _⟩
  have hsteady : Steady { w with stopWanted := true } :=
    ⟨hw.sound.turns hturns, hw.busy, hw.idle, hw.beside⟩
  have hleft : w.phase ≠ .dispatching →
      Run (leave { w with stopWanted := true } now) t change → ∃ ds, Handles w t ds change := by
    intro hne hleave
    obtain ⟨ds, hhandles⟩ := handles_of_run_leave hsteady hne hleave
    exact ⟨ds, hhandles.afterTurn hturns (t := []) rfl fun _ htask => htask⟩
  simp only [onStop] at h
  split at h
  · next hphase =>
      obtain ⟨rfl, rfl⟩ := Run.done_iff.1 h
      have hinformer := hw.alone (by simp [hphase])
      refine ⟨[], handles_turnTo hw (by simp [hphase]) hinformer
        ⟨rfl, rfl, rfl, rfl, Nat.le_refl _⟩ hinformer ?_ rfl⟩
      simp [informers, turnTo, hinformer]
  · next hphase => exact hleft (by simp [hphase]) h
  · next hphase => exact hleft (by simp [hphase]) h
  · obtain ⟨rfl, rfl⟩ := Run.done_iff.1 h
    exact ⟨[], .turned hturns rfl hsteady fun _ htask => htask⟩

/-- What follows a dispatch is made up of deeds. -/
theorem handles_of_run_goOn (hw : w.Sound)
    (hidle : w.job.isParallel = false → w.phase = .dispatching)
    (hbeside : w.informer.isSome = true → w.phase = .watching ∧ w.job.isParallel = true)
    (h : Run (w.goOn now) t change) : ∃ ds, Handles w t ds change := by
  have hbusy := busy_dispatchWaiting w
  have halone : w.phase ≠ .watching → w.informer = none := by
    intro hne
    cases hinformer : w.informer with
    | none => rfl
    | some task => exact absurd (hbeside (by simp [hinformer])).1 hne
  have hafter : ∀ {ds : List Deed}, Handles w.dispatchWaiting.1 t ds change →
      ∃ ds, Handles w t ds change := fun hrest =>
    ⟨_, hrest.after (t := []) (.of_does .begin) own_begun rfl fun _ htask => htask⟩
  simp only [goOn] at h
  split at h
  · next hlast =>
      obtain ⟨hempty, hphase⟩ := Bool.and_eq_true_iff.1 hlast
      have hnil := List.isEmpty_iff.1 hempty
      have hdispatching : w.phase = .dispatching := of_decide_eq_true hphase
      have hnobody := halone (by simp [hdispatching])
      obtain ⟨ds, hhandles⟩ := handles_of_run_saveAndResume hw.dispatchWaiting hbusy
        (fun _ => ⟨hbusy hnil, hnil⟩) hnobody h (rounds_dispatchWaiting w)
      exact hafter hhandles
  · split at h
    · next hlast =>
        obtain ⟨hempty, hphase⟩ := Bool.and_eq_true_iff.1 hlast
        have hnil := List.isEmpty_iff.1 hempty
        have hdraining : w.phase = .draining := of_decide_eq_true hphase
        have hnobody := halone (by simp [hdraining])
        obtain ⟨u, r, v, rfl, hpart, hend⟩ := Run.bind_iff.1 h
        obtain ⟨rfl, rfl⟩ := Run.done_iff.1 hend
        obtain ⟨ds, hhandles⟩ := handles_of_run_part
          ⟨hw.dispatchWaiting, hbusy, fun _ => ⟨hbusy hnil, hnil⟩, hnobody⟩ hpart
        rw [List.append_nil] at hafter ⊢
        exact hafter (hhandles.starting (rounds_dispatchWaiting w))
    · obtain ⟨rfl, rfl⟩ := Run.done_iff.1 h
      refine ⟨_, .of_does .begin, own_begun, rfl, ⟨hw.dispatchWaiting, hbusy, ?_, hbeside⟩,
        Or.inl ⟨rounds_dispatchWaiting w, fun _ htask => htask⟩⟩
      exact fun hparallel hne => absurd (hidle hparallel) hne

/-- The end of a dispatch: its result is noted, and the watch goes on. -/
theorem handles_of_run_dispatched {task : Nat} {item : Item} {result : Dispatch.Result}
    (hw : w.Steady) (hmem : (task, item) ∈ w.dispatches) (hpath : result.path = item.path)
    (h : Run (w.handle now (.dispatched task result)) t change) :
    ∃ moment w₁ ds, Does w (.settled item result moment) w₁ ∧ Handles w₁ t ds change := by
  have hany : w.dispatches.any (·.1 == task) = true :=
    List.any_eq_true.2 ⟨(task, item), hmem, beq_self_eq_true task⟩
  simp only [handle, hany, if_true, onDispatched_eq] at h
  obtain ⟨moment, v, rfl, hrest⟩ := Run.ask_iff.1 h
  have hsettled : Does w (.settled item result moment) _ := .settle hmem hpath
  have hidle : w.job.isParallel = false → w.phase = .dispatching := by
    intro hparallel
    by_cases hphase : w.phase = .dispatching
    · exact hphase
    · rw [(hw.idle hparallel hphase).2] at hmem
      cases hmem
  obtain ⟨ds, hhandles⟩ := handles_of_run_goOn (hw.sound.does hsettled) hidle hw.beside hrest
  have hafter := hhandles.afterTurn (t := [⟨.now, moment⟩]) (.refl _) rfl fun _ htask => htask
  exact ⟨moment, _, ds, hsettled, hafter⟩

/-- The end of a round of messages: what became of them is noted, and the watch goes on. -/
theorem handles_of_run_informed {task : Nat} {receipts : List Bulletin.Receipt}
    (hw : w.Steady) (htask : task ∈ w.tasks)
    (h : Run (w.handle now (.informed task receipts)) t change) :
    ∃ w₁ ds, Does w (.noted receipts) w₁ ∧ Handles w₁ t ds change := by
  have hcontains : w.tasks.contains task = true := List.contains_iff_mem.2 htask
  simp only [handle, hcontains, if_true, onInformed] at h
  have hnoted : Does w (.noted receipts) _ := .note
  have hsteady : Steady { w with monitor := Bulletin.apply w.monitor receipts } :=
    ⟨hw.sound.does hnoted, hw.busy, hw.idle, hw.beside⟩
  suffices hhandles : ∃ ds,
      Handles { w with monitor := Bulletin.apply w.monitor receipts } t ds change by
    obtain ⟨ds, hds⟩ := hhandles
    exact ⟨_, ds, hnoted, hds⟩
  split at h
  · next task' hphase =>
      have hturns : Turns { w with monitor := Bulletin.apply w.monitor receipts }
          { w with monitor := Bulletin.apply w.monitor receipts, phase := .watching } :=
        ⟨rfl, rfl, rfl, rfl, Nat.le_refl _⟩
      have hne : w.phase ≠ .dispatching := by simp [hphase]
      have hnobody := hw.alone (by simp [hphase])
      have hwatching := (hsteady.leaving hne (.refl _) hnobody).steady hturns hnobody
      obtain ⟨ds, hresume⟩ := handles_of_run_resume hwatching (by simp) h
      refine ⟨ds, hresume.afterTurn hturns (t := []) rfl ?_⟩
      simp [informers, hnobody]
  · next task' deadline hphase =>
      have hne : w.phase ≠ .dispatching := by simp [hphase]
      have hnobody := hw.alone (by simp [hphase])
      exact handles_of_run_finish (hsteady.leaving hne (.refl _) hnobody) h
  · obtain ⟨rfl, rfl⟩ := Run.done_iff.1 h
    have hturns : Turns { w with monitor := Bulletin.apply w.monitor receipts }
        { w with
          monitor := Bulletin.apply w.monitor receipts
          informer := w.informer.filter (· != task) } := ⟨rfl, rfl, rfl, rfl, Nat.le_refl _⟩
    refine ⟨[], .turned hturns rfl ⟨hsteady.sound.turns hturns, hw.busy, hw.idle, ?_⟩ ?_⟩
    · intro hsome
      refine hw.beside ?_
      cases hinformer : w.informer with
      | none => simp [hinformer] at hsome
      | some task => rfl
    · intro other hother
      simp only [informers, List.mem_append, Option.mem_toList,
        Option.filter_eq_some_iff] at hother ⊢
      exact hother.imp And.left id

/-- Any other event. -/
theorem handles_of_run_handle {e : Event} (hw : w.Steady)
    (hdispatched : ∀ task result, e ≠ .dispatched task result)
    (hinformed : ∀ task receipts, e ≠ .informed task receipts)
    (h : Run (w.handle now e) t change) : ∃ ds, Handles w t ds change := by
  have hnothing : Run (.done (w, [])) t change → ∃ ds, Handles w t ds change := by
    intro hdone
    obtain ⟨rfl, rfl⟩ := Run.done_iff.1 hdone
    exact ⟨[], .turned (.refl w) rfl hw fun _ htask => htask⟩
  cases e with
  | stop => exact handles_of_run_onStop hw h
  | dispatched task result => exact absurd rfl (hdispatched task result)
  | informed task receipts => exact absurd rfl (hinformed task receipts)
  | claimTime =>
      simp only [handle] at h
      split at h
      · next looks next hphase =>
          obtain ⟨moment, u, rfl, hpoll⟩ := Run.ask_iff.1 h
          obtain ⟨a, c, v, rfl, ha, hclaim⟩ := Run.bind_iff.1 hpoll
          have hne : w.phase ≠ .dispatching := by simp [hphase]
          have hnobody := hw.alone (by simp [hphase])
          obtain ⟨ds, hhandles⟩ := handles_of_run_claim hw hne hnobody hclaim
          have hwrites : Trace.writes w.job.statusFile (⟨.now, moment⟩ :: a) = [] :=
            ha.writes_of_spares (Lock.spares_poll (lockFile_ne_statusFile w.job) _ _)
          exact ⟨ds, hhandles.afterTurn (.refl w) hwrites fun _ htask => htask⟩
      · exact hnothing h
  | lookTime =>
      simp only [handle] at h
      split at h
      · next hphase => exact handles_of_run_look hw (by simp [hphase]) h
      · exact hnothing h
  | informTime =>
      simp only [handle] at h
      split at h
      · next hcond =>
          have hphase : w.phase = .watching := of_decide_eq_true (Bool.and_eq_true_iff.1 hcond).1
          exact handles_of_run_inform hw hphase h
      · exact hnothing h
  | partTime =>
      simp only [handle] at h
      split at h
      · next task deadline hphase =>
          have hne : w.phase ≠ .dispatching := by simp [hphase]
          have hnobody := hw.alone (by simp [hphase])
          exact handles_of_run_finish (hw.leaving hne (.refl w) hnobody) h
      · exact hnothing h

/-! ## The beginning -/

/-- What is true of a watch that begins: it has nothing to do yet, and no observer has been
told anything. -/
structure Begins (job : Job) (change : Change) : Prop where
  job : change.1.job = job
  steady : change.1.Steady
  waiting : change.1.waiting = []
  dispatches : change.1.dispatches = []
  informers : change.1.informers = []
  delivered : change.1.monitor.delivered = []
  forcedFull : change.1.monitor.forcedFull = []
  started : change.2 = []

/-- What a monitor knows at first is in order, and it has told nobody. -/
theorem loaded_of_run_load {job : Job} {today : Date} {zone : Zone} {m : Monitor}
    (h : Run (Monitor.load job today zone) t (.ok m)) :
    m.statusFile = job.statusFile ∧ m.items.IsRow ∧ m.delivered = [] ∧ m.forcedFull = [] := by
  simp only [Monitor.load] at h
  split at h
  · exact nomatch (Run.done_iff.1 h).2
  · obtain ⟨u, state, v, -, -, hend⟩ := Run.bind_iff.1 h
    cases state with
    | none =>
        cases (Run.done_iff.1 hend).2
        exact ⟨rfl, Items.isRow_nil, rfl, rfl⟩
    | some state =>
        cases (Run.done_iff.1 hend).2
        exact ⟨rfl, Items.isRow_ofList state.items, rfl, rfl⟩

/-- A watch that begins has nothing to do yet. -/
theorem begins_of_run_begin {zone : Zone} {job : Job}
    (h : Run (begin zone job now) t (.ok change)) : Begins job change := by
  obtain ⟨moment, u, -, hloading⟩ := Run.ask_iff.1 h
  obtain ⟨u, loaded, v, -, hload, hrest⟩ := Run.bind_iff.1 hloading
  cases loaded with
  | error fault => exact nomatch (Run.done_iff.1 hrest).2
  | ok m =>
      obtain ⟨hfile, hrow, hdelivered, hforced⟩ := loaded_of_run_load hload
      obtain ⟨moment, v, -, hlocking⟩ := Run.ask_iff.1 hrest
      obtain ⟨u, c, v, -, -, hclaiming⟩ := Run.bind_iff.1 hlocking
      obtain ⟨u, claimed, v, -, hclaim, hend⟩ := Run.bind_iff.1 hclaiming
      cases (Run.done_iff.1 hend).2
      have hbegins : ∀ w : Watch, w.job = job → w.monitor = m → w.waiting = [] →
          w.dispatches = [] → w.informer = none → w.informers = [] → Begins job (w, []) := by
        intro w hjob hmonitor hwaiting hdispatches hinformer hinformers
        have hidle : w.Idle := ⟨hwaiting, hdispatches⟩
        refine ⟨hjob, ⟨⟨?_, ?_, ?_, ?_⟩, fun _ => hwaiting, fun _ _ => hidle, ?_⟩, hwaiting,
          hdispatches, hinformers, ?_, ?_, rfl⟩
        · rw [hmonitor, hjob, hfile]
        · rw [hmonitor]
          exact hrow
        · simp [hdispatches]
        · simp [hdispatches]
        · simp [hinformer]
        · rw [hmonitor, hdelivered]
        · rw [hmonitor, hforced]
      cases c <;>
        (cases (Run.done_iff.1 hclaim).2; exact hbegins _ rfl rfl rfl rfl rfl rfl)

/-- A watch begins steady and has told no observer anything. -/
theorem begins_of_run_start {ctx : Context} {job : Job}
    (h : Run (start ctx job now) t (.ok change)) : Begins job change := by
  obtain ⟨u, checked, v, -, -, hrest⟩ := Run.bind_iff.1 h
  cases checked with
  | error fault => exact nomatch (Run.done_iff.1 hrest).2
  | ok _ =>
      obtain ⟨u, stopped, v, -, -, hlooking⟩ := Run.bind_iff.1 hrest
      cases stopped with
      | true => exact nomatch (Run.done_iff.1 hlooking).2
      | false =>
          obtain ⟨u, missing, v, -, -, hbegin⟩ := Run.bind_iff.1 hlooking
          cases missing with
          | some p => exact nomatch (Run.done_iff.1 hbegin).2
          | none => exact begins_of_run_begin hbegin

end Programs

end Watch

end Courier
