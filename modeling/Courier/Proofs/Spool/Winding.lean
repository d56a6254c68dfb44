import Courier.Proofs.Spool.Opening
import Courier.Proofs.Spool.Resting

/-!
# How a watch winds up

A watch that has its lock goes on until somebody wants it to stop or the stop file is there.  Then
it halts: it dispatches what is under way, informs its observers, removes the lock and ends.  What
is left to do before the end becomes less with every event that it awaits, and whatever the results
of the dispatches are, it ends well.

Main definitions:

- `Watch.Halting` says that a watch halts, and `Watch.Event.Halts` that an event makes it halt.
- `Watch.toDo` is how many events a watch that halts waits for at most, and `Watch.Awaits` says
  that an event is one of them.
- `Watch.Underway` is what is true of a watch that has its lock between two events, and
  `Watch.Proceeds` relates it to what comes of an event.

Main statements:

- However an event is handled, the watch goes on, or ends well and removes the lock last; and it
  halts just when it did so before or the event makes it halt (`Watch.proceeds_of_run_handle`).
- Every event that a watch awaits leaves less to do (`Watch.leavesLess_of_run_handle`).
- So it ends after finitely many of them, and awaits one until then (`Watch.Closing.ends`).
-/

namespace Courier

open Program

/-- Whether the last request of a trace is to remove a file. -/
def Trace.ClosesBy (file : Path) (t : Trace) : Prop :=
  ∃ u answer, t = u ++ [⟨.files (.remove file), answer⟩]

/-- What comes before does not matter to how a trace closes. -/
theorem Trace.ClosesBy.after {file : Path} {u : Trace} (h : u.ClosesBy file) (t : Trace) :
    (t ++ u).ClosesBy file := by
  obtain ⟨v, answer, rfl⟩ := h
  exact ⟨t ++ v, answer, (List.append_assoc t v _).symm⟩

namespace Watch

/-! ## Watches that halt -/

/-- Whether an event makes a watch halt. -/
def Event.Halts (stopFile : Path) (t : Trace) : Event → Prop
  | stop => True
  | claimTime => t.FindsFirst stopFile
  | lookTime => t.FindsFirst stopFile
  | _ => False

/-- Whether a watch has left, or will leave as soon as its files are dispatched. -/
def Halting (w : Watch) : Prop :=
  w.phase.hasLeft = true ∨ (w.phase = .dispatching ∧ w.stopWanted = true)

/-- Whether a watch that halts waits for an event. -/
def Awaits (w : Watch) : Event → Prop
  | .dispatched task _ => ∃ item, (task, item) ∈ w.dispatches
  | .informed task _ => ∃ deadline, w.phase = .parting task deadline
  | .partTime => ∃ task deadline, w.phase = .parting task deadline
  | _ => False

/-- How many events a watch waits for at most when it halts: the results of its dispatches, and the
end of the last messages. -/
def toDo (w : Watch) : Nat :=
  match w.phase with
  | .dispatching => w.pending.length + 1
  | .draining => w.pending.length + 1
  | .parting _ _ => 1
  | _ => 0

/-- Whether no file waits, and the watch waits for no file, while none is dispatched. -/
def Occupied (w : Watch) : Prop :=
  w.dispatches = [] → w.waiting = [] ∧ w.phase ≠ .dispatching ∧ w.phase ≠ .draining

/-- Whether a watch is in its loop still, or has come to an orderly end and has removed its lock
last. -/
def Lasts (lock : Path) (t : Trace) (w : Watch) : Prop :=
  w.isInside = true ∨ (w.phase = .ended success ∧ t.ClosesBy lock)

/-- What comes of an event for a watch that has its lock. -/
structure Proceeds (w : Watch) (halts : Prop) (t : Trace) (w' : Watch) : Prop where
  job : w'.job = w.job
  lasts : w'.Lasts w.job.lockFile t
  occupied : w'.Occupied
  heeds : w'.stopWanted = true → w'.Halting
  halting : w'.Halting ↔ halts
  toDo : halts → w'.toDo ≤ w.pending.length + 1

/-- What is true of a watch that has its lock, between two events. -/
structure Underway (w : Watch) : Prop where
  inside : w.isInside = true
  occupied : w.Occupied
  /-- Nobody wants the watch to stop, unless it halts. -/
  heeds : w.stopWanted = true → w.Halting
  resting : w.Resting

variable {w w₁ : Watch} {t u : Trace} {change : Change} {now : Nat} {halts : Prop}

/-- What is left to do is at most what is pending and the end of one round of messages. -/
theorem toDo_le (w : Watch) : w.toDo ≤ w.pending.length + 1 := by
  unfold toDo
  split <;> omega

theorem Lasts.after {lock : Path} (h : w.Lasts lock u) (t : Trace) : w.Lasts lock (t ++ u) :=
  h.imp_right fun ⟨hphase, hcloses⟩ => ⟨hphase, hcloses.after t⟩

/-- What comes before does not matter to how a watch proceeds. -/
theorem Proceeds.after (h : w.Proceeds halts u w₁) (t : Trace) : w.Proceeds halts (t ++ u) w₁ :=
  { h with lasts := h.lasts.after t }

theorem Proceeds.congr {halts' : Prop} (h : w.Proceeds halts t w₁) (hiff : halts ↔ halts') :
    w.Proceeds halts' t w₁ :=
  { h with
    halting := h.halting.trans hiff
    toDo := fun hhalts => h.toDo (hiff.2 hhalts) }

/-- What comes of a watch comes of another one that has as much to do when it halts. -/
theorem Proceeds.of_le {w' : Watch} (h : w.Proceeds halts t w₁) (hjob : w.job = w'.job)
    (hpending : halts → w.pending.length ≤ w'.pending.length) : w'.Proceeds halts t w₁ where
  job := h.job.trans hjob
  lasts := hjob ▸ h.lasts
  occupied := h.occupied
  heeds := h.heeds
  halting := h.halting
  toDo := by
    intro hhalts
    have htoDo := h.toDo hhalts
    have hless := hpending hhalts
    omega

/-- A watch whose phase and files stay goes on as it did. -/
theorem Underway.stays {w' : Watch} (h : w.Underway) (t : Trace) (hjob : w'.job = w.job)
    (hphase : w'.phase = w.phase) (hwaiting : w'.waiting = w.waiting)
    (hdispatches : w'.dispatches = w.dispatches) (hwanted : w'.stopWanted = w.stopWanted) :
    w.Proceeds w.Halting t w' := by
  have hhalting : w'.Halting ↔ w.Halting := by
    rw [Halting, Halting, hphase, hwanted]
  refine ⟨hjob, Or.inl ?_, ?_, ?_, hhalting, fun _ => ?_⟩
  · rw [isInside, hphase]
    exact h.inside
  · rw [Occupied, hdispatches, hwaiting, hphase]
    exact h.occupied
  · rw [hwanted, hhalting]
    exact h.heeds
  · have hpending : w'.pending = w.pending := by
      rw [pending, pending, hwaiting, hdispatches]
    rw [← hpending]
    exact w'.toDo_le

/-- A watch that looks at its directories is not halting. -/
theorem not_halting_of_watching (h : w.phase = .watching) : ¬ w.Halting := by
  simp [Halting, h, Phase.hasLeft]

/-! ## The end -/

/-- A watch that finishes closes by removing the lock, and has nothing left to do. -/
theorem proceeds_of_run_finish (hbusy : w.dispatches = [] → w.waiting = [])
    (h : Run w.finish t change) : w.Proceeds True t change.1 ∧ change.1.toDo = 0 := by
  obtain ⟨u, saved, v, rfl, -, hrest⟩ := Run.bind_iff.1 h
  obtain ⟨v, released, x, rfl, hrelease, hend⟩ := Run.bind_iff.1 hrest
  obtain ⟨rfl, rfl⟩ := Run.done_iff.1 hend
  obtain ⟨answer, v, rfl, hdone⟩ := Run.ask_iff.1 hrelease
  obtain ⟨rfl, -⟩ := Run.done_iff.1 hdone
  refine ⟨⟨rfl, Or.inr ⟨rfl, u, answer, rfl⟩, ?_, ?_, ?_, fun _ => Nat.zero_le _⟩, rfl⟩
  · intro hnone
    refine ⟨hbusy hnone, ?_, ?_⟩ <;> rintro ⟨⟩
  · exact fun _ => Or.inl rfl
  · exact ⟨fun _ => trivial, fun _ => Or.inl rfl⟩

/-- A watch that parts halts. -/
theorem proceeds_of_run_part (hbusy : w.dispatches = [] → w.waiting = [])
    (h : Run (w.part now) t change) : w.Proceeds True t change.1 := by
  simp only [part] at h
  split at h
  · exact (proceeds_of_run_finish hbusy h).1
  · obtain ⟨moment, u, rfl, hend⟩ := Run.ask_iff.1 h
    obtain ⟨-, rfl⟩ := Run.done_iff.1 hend
    refine ⟨rfl, Or.inl rfl, ?_, ?_, ?_, fun _ => Nat.le_add_left 1 _⟩
    · intro hnone
      refine ⟨hbusy hnone, ?_, ?_⟩ <;> rintro ⟨⟩
    · exact fun _ => Or.inl rfl
    · exact ⟨fun _ => trivial, fun _ => Or.inl rfl⟩

/-- So does one that leaves. -/
theorem proceeds_of_run_leave (hbusy : w.dispatches = [] → w.waiting = [])
    (h : Run (w.leave now) t change) : w.Proceeds True t change.1 := by
  simp only [leave, drain] at h
  split at h
  · have hpart := proceeds_of_run_part (w := { w with informer := none, phase := .draining })
      hbusy h
    exact hpart.of_le rfl fun _ => Nat.le_refl _
  · next hempty =>
      obtain ⟨-, rfl⟩ := Run.done_iff.1 h
      refine ⟨rfl, Or.inl rfl, ?_, ?_, ?_, fun _ => Nat.le_refl _⟩
      · intro hnone
        have hnone : w.dispatches = [] := hnone
        simp [hbusy hnone, hnone] at hempty
      · exact fun _ => Or.inl rfl
      · exact ⟨fun _ => trivial, fun _ => Or.inl rfl⟩

/-- A watch leaves when somebody wants it to stop. -/
theorem proceeds_of_run_resume (hphase : w.phase = .watching)
    (hbusy : w.dispatches = [] → w.waiting = []) (h : Run (w.resume now) t change) :
    w.Proceeds (w.stopWanted = true) t change.1 := by
  simp only [resume] at h
  split at h
  · next hwanted =>
      exact (proceeds_of_run_leave hbusy h).congr (iff_of_true trivial hwanted)
  · next hwanted =>
      obtain ⟨-, rfl⟩ := Run.done_iff.1 h
      refine ⟨rfl, ?_, ?_, ?_, ?_, fun _ => w.toDo_le⟩
      · simp [Lasts, isInside, hphase]
      · intro hnone
        simp [hbusy hnone, hphase]
      · exact fun hwanted' => absurd hwanted' hwanted
      · exact iff_of_false (not_halting_of_watching hphase) hwanted

/-! ## Looks, messages and dispatches -/

/-- A file that is dispatched was waiting before, so as many are pending. -/
theorem length_pending_dispatchWaiting (w : Watch) :
    w.dispatchWaiting.1.pending.length = w.pending.length := by
  have htaken : w.beginning.length = (w.waiting.take w.room).length := by
    rw [← map_snd_beginning, List.length_map]
  have hleft : w.dispatchWaiting.1.waiting = w.waiting.drop w.room := rfl
  simp only [pending, dispatches_dispatchWaiting, hleft, List.length_append, List.length_map,
    htaken, List.length_take, List.length_drop]
  omega

/-- After it has begun dispatches, a watch waits for files only if some are dispatched. -/
theorem occupied_dispatchWaiting
    (h : w.pending ≠ [] ∨ (w.phase ≠ .dispatching ∧ w.phase ≠ .draining)) :
    w.dispatchWaiting.1.Occupied := by
  intro hnone
  have hwaiting := busy_dispatchWaiting w hnone
  refine ⟨hwaiting, ?_⟩
  rcases h with hpending | hphase
  · refine absurd ?_ hpending
    have hlength := length_pending_dispatchWaiting w
    rw [pending, hwaiting, hnone] at hlength
    exact List.length_eq_zero_iff.1 hlength.symm
  · exact hphase

/-- The watch without a dispatch. -/
def without (w : Watch) (task : Nat) : Watch :=
  { w with dispatches := w.dispatches.filter fun t => t.1 != task }

/-- A dispatch that is over leaves no more than there was. -/
theorem length_pending_without_le (w : Watch) (task : Nat) :
    (w.without task).pending.length ≤ w.pending.length := by
  have hfewer := List.length_filter_le (fun t => t.1 != task) w.dispatches
  simp only [pending, without, List.length_append, List.length_map]
  omega

/-- It leaves less when it was under way. -/
theorem length_pending_without_lt {task : Nat} {item : Item} (h : (task, item) ∈ w.dispatches) :
    (w.without task).pending.length < w.pending.length := by
  have hfewer : (w.dispatches.filter fun t => t.1 != task).length < w.dispatches.length := by
    refine List.length_filter_lt_length_iff_exists.2 ⟨(task, item), h, ?_⟩
    simp
  simp only [pending, without, List.length_append, List.length_map]
  omega

/-- A watch that saves what is known goes on, or leaves when somebody wants it to stop. -/
theorem proceeds_of_run_saveAndResume {started : List (Nat × Task)}
    (hbusy : w.dispatches = [] → w.waiting = [])
    (h : Run (w.saveAndWatch >>= fun w => w.resume now >>= fun r =>
      .done (r.1, started ++ r.2)) t change) : w.Proceeds (w.stopWanted = true) t change.1 := by
  obtain ⟨u, w₁, v, rfl, hsave, hrest⟩ := Run.bind_iff.1 h
  obtain ⟨monitor, rfl⟩ := eq_of_run_saveAndWatch hsave
  obtain ⟨v, r, x, rfl, hresume, hend⟩ := Run.bind_iff.1 hrest
  obtain ⟨rfl, rfl⟩ := Run.done_iff.1 hend
  rw [List.append_nil]
  have hproceeds := proceeds_of_run_resume (w := { w with monitor, phase := .watching }) rfl hbusy
    hresume
  exact (hproceeds.after u).of_le rfl fun _ => Nat.le_refl _

/-- Nobody wants the watch to stop, so it goes on. -/
theorem proceeds_of_run_dispatchReady {ready : List Item} (hwanted : ¬ w.stopWanted = true)
    (h : Run (w.dispatchReady ready now) t change) : w.Proceeds False t change.1 := by
  simp only [dispatchReady] at h
  split at h
  · obtain ⟨u, w₁, v, rfl, hsave, hrest⟩ := Run.bind_iff.1 h
    obtain ⟨monitor, rfl⟩ := eq_of_run_saveAndWatch hsave
    obtain ⟨v, r, x, rfl, hresume, hend⟩ := Run.bind_iff.1 hrest
    obtain ⟨rfl, rfl⟩ := Run.done_iff.1 hend
    rw [List.append_nil]
    have hproceeds := proceeds_of_run_resume (w := (dispatchWaiting
      { w with waiting := w.waiting ++ ready, monitor, phase := .watching }).1) rfl
      (busy_dispatchWaiting _) hresume
    have hgoes := (hproceeds.after u).congr (iff_of_false hwanted not_false)
    exact hgoes.of_le rfl False.elim
  · next hcond =>
      obtain ⟨rfl, rfl⟩ := Run.done_iff.1 h
      refine ⟨rfl, Or.inl rfl, ?_, ?_, ?_, False.elim⟩
      · refine occupied_dispatchWaiting (Or.inl ?_)
        intro hnone
        have hready : ready = [] :=
          (List.append_eq_nil_iff.1 (List.append_eq_nil_iff.1 hnone).1).2
        simp [hready] at hcond
      · exact fun hwanted' => absurd hwanted' hwanted
      · refine iff_of_false ?_ not_false
        rintro (hleft | ⟨-, hwanted'⟩)
        · cases hleft
        · exact hwanted hwanted'

/-- A look at the directories makes a watch halt when it finds the stop file. -/
theorem proceeds_of_run_look (hphase : w.phase = .watching) (hw : w.Underway)
    (h : Run (w.look now) t change) : w.Proceeds (t.FindsFirst w.job.stopFile) t change.1 := by
  have hbusy := fun hnone => (hw.occupied hnone).1
  obtain ⟨u, stopped, v, rfl, hstop, hrest⟩ := Run.bind_iff.1 h
  obtain ⟨answer, x, rfl, hdone⟩ := Run.ask_iff.1 hstop
  obtain ⟨rfl, rfl⟩ := Run.done_iff.1 hdone
  cases answer with
  | ok found =>
      have hleave := proceeds_of_run_leave (w := { w with
        nextLook := nextTime w.nextLook w.job.elapseMs now }) hbusy hrest
      have hafter := hleave.after [⟨.files (.metadata w.job.stopFile), .ok found⟩]
      exact (hafter.congr (iff_of_true trivial ⟨rfl, rfl⟩)).of_le rfl fun _ => Nat.le_refl _
  | error missing =>
      obtain ⟨moment, v, rfl, hclocked⟩ := Run.ask_iff.1 hrest
      obtain ⟨r, refreshed, v, rfl, -, hscan⟩ := Run.bind_iff.1 hclocked
      obtain ⟨s, found, v, rfl, -, hready⟩ := Run.bind_iff.1 hscan
      have hwanted : ¬ w.stopWanted = true :=
        fun hwanted => not_halting_of_watching hphase (hw.heeds hwanted)
      have hgoes := proceeds_of_run_dispatchReady (w := { w with
        nextLook := nextTime w.nextLook w.job.elapseMs now, monitor := found.2 }) hwanted hready
      have hafter := hgoes.after
        (⟨.files (.metadata w.job.stopFile), .error missing⟩ :: ⟨.now, moment⟩ :: (r ++ s))
      have hmissing : ¬ Trace.FindsFirst w.job.stopFile
          (⟨.files (.metadata w.job.stopFile), .error missing⟩ ::
            ⟨.now, moment⟩ :: (r ++ (s ++ v))) := by
        rintro ⟨-, ⟨⟩⟩
      rw [List.cons_append, List.cons_append, List.append_assoc] at hafter
      exact (hafter.congr (iff_of_false not_false hmissing)).of_le rfl fun _ => Nat.le_refl _

/-- A round of messages that begins does not make a watch halt. -/
theorem proceeds_of_run_inform (hphase : w.phase = .watching) (hw : w.Underway)
    (h : Run (w.inform now) t change) : w.Proceeds w.Halting t change.1 := by
  simp only [inform] at h
  split at h
  · obtain ⟨-, rfl⟩ := Run.done_iff.1 h
    exact hw.stays t rfl rfl rfl rfl rfl
  · obtain ⟨moment, u, rfl, hend⟩ := Run.ask_iff.1 h
    split at hend
    · obtain ⟨-, rfl⟩ := Run.done_iff.1 hend
      exact hw.stays _ rfl rfl rfl rfl rfl
    · obtain ⟨-, rfl⟩ := Run.done_iff.1 hend
      have hnot := not_halting_of_watching hphase
      refine ⟨rfl, Or.inl rfl, ?_, ?_, ?_, fun hhalts => absurd hhalts hnot⟩
      · intro hnone
        refine ⟨(hw.occupied hnone).1, ?_, ?_⟩ <;> rintro ⟨⟩
      · exact fun hwanted => absurd (hw.heeds hwanted) hnot
      · refine iff_of_false ?_ hnot
        rintro (hleft | ⟨hdispatching, -⟩)
        · cases hleft
        · cases hdispatching

/-- After the result of a dispatch a watch leaves if it was halting and nothing is left. -/
theorem proceeds_of_run_goOn (hinside : w.isInside = true)
    (hheeds : w.stopWanted = true → w.Halting) (h : Run (w.goOn now) t change) :
    w.Proceeds w.Halting t change.1 := by
  have hbusy := busy_dispatchWaiting w
  have hpending := length_pending_dispatchWaiting w
  simp only [goOn] at h
  split at h
  · next hlast =>
      have hphase : w.phase = .dispatching := of_decide_eq_true (Bool.and_eq_true_iff.1 hlast).2
      have hhalting : w.stopWanted = true ↔ w.Halting :=
        ⟨hheeds, fun hhalting => by simpa [Halting, hphase, Phase.hasLeft] using hhalting⟩
      have hproceeds := proceeds_of_run_saveAndResume hbusy h
      exact (hproceeds.congr hhalting).of_le rfl fun _ => Nat.le_of_eq hpending
  · next hmore =>
      split at h
      · next hlast =>
          have hphase : w.phase = .draining := of_decide_eq_true (Bool.and_eq_true_iff.1 hlast).2
          have hhalting : w.Halting := Or.inl (congrArg Phase.hasLeft hphase)
          obtain ⟨u, r, v, rfl, hpart, hend⟩ := Run.bind_iff.1 h
          obtain ⟨rfl, rfl⟩ := Run.done_iff.1 hend
          have hproceeds := proceeds_of_run_part hbusy hpart
          rw [List.append_nil]
          have hleft := hproceeds.congr (iff_of_true trivial hhalting)
          exact hleft.of_le rfl fun _ => Nat.le_of_eq hpending
      · next hmore' =>
          obtain ⟨-, rfl⟩ := Run.done_iff.1 h
          refine ⟨rfl, Or.inl hinside, ?_, hheeds, Iff.rfl, fun _ => ?_⟩
          · intro hnone
            have hnone : w.dispatchWaiting.1.dispatches = [] := hnone
            simp only [hnone, List.isEmpty_nil, Bool.true_and, decide_eq_true_eq] at hmore hmore'
            exact ⟨hbusy hnone, hmore, hmore'⟩
          · rw [← hpending]
            exact toDo_le _

/-- The result of a dispatch is noted first, and then there is less to do. -/
theorem proceeds_without_of_run_onDispatched {task : Nat} {result : Dispatch.Result}
    (hw : w.Underway) (h : Run (w.onDispatched task result now) t change) :
    (w.without task).Proceeds w.Halting t change.1 := by
  rw [onDispatched_eq] at h
  obtain ⟨moment, u, rfl, hsettled⟩ := Run.ask_iff.1 h
  have hproceeds := proceeds_of_run_goOn (w := { w.without task with
    monitor := w.monitor.finalize result.path result.success result.specialId moment })
    hw.inside hw.heeds hsettled
  exact (hproceeds.after [⟨.now, moment⟩]).of_le rfl fun _ => Nat.le_refl _

/-- What observers have answered neither makes a watch halt nor makes it go on. -/
theorem proceeds_of_run_onInformed {task : Nat} {receipts : List Bulletin.Receipt}
    (hw : w.Underway) (h : Run (w.onInformed task receipts now) t change) :
    w.Proceeds w.Halting t change.1 := by
  have hbusy := fun hnone => (hw.occupied hnone).1
  simp only [onInformed] at h
  split at h
  · next task' hphase =>
      have hnot : ¬ w.Halting := by
        simp [Halting, hphase, Phase.hasLeft]
      have hproceeds := proceeds_of_run_resume (w := { w with
        monitor := Bulletin.apply w.monitor receipts, phase := .watching }) rfl hbusy h
      have hgoes := hproceeds.congr ⟨hw.heeds, fun hhalting => absurd hhalting hnot⟩
      exact hgoes.of_le rfl fun _ => Nat.le_refl _
  · next task' deadline hphase =>
      have hhalting : w.Halting := Or.inl (congrArg Phase.hasLeft hphase)
      have hproceeds := (proceeds_of_run_finish (w := { w with
        monitor := Bulletin.apply w.monitor receipts }) hbusy h).1
      exact (hproceeds.congr (iff_of_true trivial hhalting)).of_le rfl fun _ => Nat.le_refl _
  · obtain ⟨-, rfl⟩ := Run.done_iff.1 h
    exact hw.stays t rfl rfl rfl rfl rfl

/-- A watch halts when somebody wants it to stop. -/
theorem proceeds_of_run_onStop (hw : w.Underway) (h : Run (w.onStop now) t change) :
    w.Proceeds True t change.1 := by
  have hbusy := fun hnone => (hw.occupied hnone).1
  have hleaves : Run (leave { w with stopWanted := true } now) t change →
      w.Proceeds True t change.1 := by
    intro hleave
    have hproceeds := proceeds_of_run_leave (w := { w with stopWanted := true }) hbusy hleave
    exact hproceeds.of_le rfl fun _ => Nat.le_refl _
  have hinside := hw.inside
  simp only [onStop] at h
  split at h
  · next hphase =>
      rw [isInside, hphase] at hinside
      cases hinside
  · exact hleaves h
  · exact hleaves h
  · next hclaiming hwatching hinforming =>
      obtain ⟨-, rfl⟩ := Run.done_iff.1 h
      have hhalting : Halting { w with stopWanted := true } := by
        cases hphase : w.phase with
        | claiming looks next => exact absurd hphase (hclaiming looks next)
        | watching => exact absurd hphase hwatching
        | informing task => exact absurd hphase (hinforming task)
        | dispatching => exact Or.inr ⟨rfl, rfl⟩
        | _ => exact Or.inl rfl
      refine ⟨rfl, Or.inl hinside, hw.occupied, fun _ => hhalting, ?_, fun _ => ?_⟩
      · exact iff_of_true hhalting trivial
      · exact toDo_le { w with stopWanted := true }

/-! ## Events -/

/-- However an event is handled, a watch that has its lock goes on, or ends well and removes the
lock last. -/
theorem proceeds_of_run_handle {e : Event} (hw : w.Underway)
    (h : Run (w.handle now e) t change) :
    w.Proceeds (w.Halting ∨ e.Halts w.job.stopFile t) t change.1 := by
  have hunhalted : ∀ {t}, ¬ e.Halts w.job.stopFile t → w.Proceeds w.Halting t change.1 →
      w.Proceeds (w.Halting ∨ e.Halts w.job.stopFile t) t change.1 :=
    fun hnot hproceeds => hproceeds.congr (or_iff_left hnot).symm
  have hnothing : Run (.done (w, [])) t change → ¬ e.Halts w.job.stopFile [] →
      w.Proceeds (w.Halting ∨ e.Halts w.job.stopFile t) t change.1 := by
    intro hdone hnot
    obtain ⟨rfl, rfl⟩ := Run.done_iff.1 hdone
    exact hunhalted hnot (hw.stays [] rfl rfl rfl rfl rfl)
  cases e with
  | stop => exact (proceeds_of_run_onStop hw h).congr (iff_of_true trivial (Or.inr trivial))
  | dispatched task result =>
      simp only [handle] at h
      split at h
      · have hproceeds := proceeds_without_of_run_onDispatched hw h
        exact hunhalted not_false (hproceeds.of_le rfl fun _ => length_pending_without_le w task)
      · exact hnothing h not_false
  | informed task receipts =>
      simp only [handle] at h
      split at h
      · exact hunhalted not_false (proceeds_of_run_onInformed hw h)
      · exact hnothing h not_false
  | claimTime =>
      have hinside := hw.inside
      simp only [handle] at h
      split at h
      · next hphase =>
          rw [isInside, hphase] at hinside
          cases hinside
      · exact hnothing h not_false
  | lookTime =>
      simp only [handle] at h
      split at h
      · next hphase =>
          have hnot := not_halting_of_watching hphase
          exact (proceeds_of_run_look hphase hw h).congr (or_iff_right hnot).symm
      · exact hnothing h not_false
  | informTime =>
      simp only [handle] at h
      split at h
      · next hcond =>
          have hphase : w.phase = .watching := of_decide_eq_true (Bool.and_eq_true_iff.1 hcond).1
          exact hunhalted not_false (proceeds_of_run_inform hphase hw h)
      · exact hnothing h not_false
  | partTime =>
      simp only [handle] at h
      split at h
      · next task deadline hphase =>
          have hhalting : w.Halting := Or.inl (congrArg Phase.hasLeft hphase)
          have hfinish := (proceeds_of_run_finish (fun hnone => (hw.occupied hnone).1) h).1
          exact hfinish.congr (iff_of_true trivial (Or.inl hhalting))
      · exact hnothing h not_false

/-- A watch that has its lock does so after an event too, or has ended well. -/
theorem Underway.after {e : Event} (hw : w.Underway) (h : Run (w.handle now e) t change) :
    change.1.Underway ∨ (change.1.phase = .ended success ∧ t.ClosesBy w.job.lockFile) := by
  have hproceeds := proceeds_of_run_handle hw h
  refine hproceeds.lasts.imp_left fun hinside => ?_
  exact ⟨hinside, hproceeds.occupied, hproceeds.heeds, resting_of_run_handle hw.resting h⟩

/-! ## Progress -/

/-- A watch that halts while files are dispatched waits for them, and for the last messages. -/
theorem toDo_of_halting (hw : w.Underway) (hhalting : w.Halting) (hsome : w.dispatches ≠ []) :
    w.toDo = w.pending.length + 1 := by
  have hresting : w.phase.isResting = false := by
    cases hphase : w.phase.isResting with
    | false => rfl
    | true => exact absurd (hw.resting hphase).2 hsome
  unfold toDo
  rcases hhalting with hleft | ⟨hdispatching, -⟩
  · cases hphase : w.phase with
    | draining => rfl
    | dispatching => rfl
    | parting task deadline =>
        rw [hphase] at hresting
        cases hresting
    | ended outcome =>
        rw [hphase] at hresting
        cases hresting
    | _ =>
        rw [hphase] at hleft
        cases hleft
  · rw [hdispatching]

/-- Whether an event leaves a watch no more to do, and less if it was awaited. -/
def LeavesLess (w : Watch) (e : Event) (w' : Watch) : Prop :=
  w'.toDo ≤ w.toDo ∧ (w.Awaits e → w'.toDo < w.toDo)

/-- An event that is not awaited may leave as much to do as there was. -/
theorem leavesLess_of_eq {e : Event} {w' : Watch} (heq : w'.toDo = w.toDo) (hnot : ¬ w.Awaits e) :
    w.LeavesLess e w' :=
  ⟨Nat.le_of_eq heq, fun hawaits => absurd hawaits hnot⟩

/-- The last messages are the last thing to do. -/
theorem leavesLess_of_parting {e : Event} {w' : Watch} {task deadline : Nat}
    (hphase : w.phase = .parting task deadline) (hzero : w'.toDo = 0) : w.LeavesLess e w' := by
  have hone : w.toDo = 1 := by
    rw [toDo, hphase]
  rw [LeavesLess]
  omega

/-- A watch that halts is not set back by another stop. -/
theorem leavesLess_of_run_onStop (hhalting : w.Halting) (h : Run (w.onStop now) t change) :
    w.LeavesLess .stop change.1 := by
  simp only [onStop] at h
  split at h
  · next hphase => simp [Halting, hphase, Phase.hasLeft] at hhalting
  · next hphase => exact absurd hhalting (not_halting_of_watching hphase)
  · next hphase => simp [Halting, hphase, Phase.hasLeft] at hhalting
  · obtain ⟨-, rfl⟩ := Run.done_iff.1 h
    exact leavesLess_of_eq rfl not_false

/-- The result of a dispatch leaves one file less. -/
theorem leavesLess_of_run_onDispatched {task : Nat} {item : Item} {result : Dispatch.Result}
    (hw : w.Underway) (hhalting : w.Halting) (hmem : (task, item) ∈ w.dispatches)
    (h : Run (w.onDispatched task result now) t change) :
    w.LeavesLess (.dispatched task result) change.1 := by
  have hless := (proceeds_without_of_run_onDispatched hw h).toDo hhalting
  have hfewer := length_pending_without_lt hmem
  have htoDo := toDo_of_halting hw hhalting (List.ne_nil_of_mem hmem)
  rw [LeavesLess]
  omega

/-- A watch that halts has less to do when its last message has gone out. -/
theorem leavesLess_of_run_onInformed {task : Nat} {receipts : List Bulletin.Receipt}
    (hw : w.Underway) (hhalting : w.Halting) (h : Run (w.onInformed task receipts now) t change) :
    w.LeavesLess (.informed task receipts) change.1 := by
  simp only [onInformed] at h
  split at h
  · next hphase => simp [Halting, hphase, Phase.hasLeft] at hhalting
  · next hphase =>
      have hfinish := proceeds_of_run_finish (w := { w with
        monitor := Bulletin.apply w.monitor receipts }) (fun hnone => (hw.occupied hnone).1) h
      exact leavesLess_of_parting hphase hfinish.2
  · next hother =>
      obtain ⟨-, rfl⟩ := Run.done_iff.1 h
      refine leavesLess_of_eq rfl ?_
      rintro ⟨deadline, hphase⟩
      exact hother task deadline hphase

/-- Every event leaves a watch that halts no more to do, and one that it awaits leaves less. -/
theorem leavesLess_of_run_handle {e : Event} (hw : w.Underway) (hhalting : w.Halting)
    (h : Run (w.handle now e) t change) : w.LeavesLess e change.1 := by
  have hnothing : Run (.done (w, [])) t change → ¬ w.Awaits e → w.LeavesLess e change.1 := by
    intro hdone hnot
    obtain ⟨-, rfl⟩ := Run.done_iff.1 hdone
    exact leavesLess_of_eq rfl hnot
  have hunwatched : w.phase ≠ .watching := fun hphase => not_halting_of_watching hphase hhalting
  cases e with
  | stop => exact leavesLess_of_run_onStop hhalting h
  | dispatched task result =>
      simp only [handle] at h
      split at h
      · next hany =>
          obtain ⟨⟨other, item⟩, hmem, heq⟩ := List.any_eq_true.1 hany
          obtain rfl : other = task := eq_of_beq heq
          exact leavesLess_of_run_onDispatched hw hhalting hmem h
      · next hnone =>
          refine hnothing h ?_
          rintro ⟨item, hmem⟩
          exact hnone (List.any_eq_true.2 ⟨(task, item), hmem, beq_self_eq_true task⟩)
  | informed task receipts =>
      simp only [handle] at h
      split at h
      · exact leavesLess_of_run_onInformed hw hhalting h
      · next hunknown =>
          refine hnothing h ?_
          rintro ⟨deadline, hphase⟩
          exact hunknown (by simp [tasks, hphase])
  | claimTime =>
      simp only [handle] at h
      split at h
      · next hphase => simp [Halting, hphase, Phase.hasLeft] at hhalting
      · exact hnothing h not_false
  | lookTime =>
      simp only [handle] at h
      split at h
      · next hphase => exact absurd hphase hunwatched
      · exact hnothing h not_false
  | informTime =>
      simp only [handle] at h
      split at h
      · next hcond =>
          exact absurd (of_decide_eq_true (Bool.and_eq_true_iff.1 hcond).1) hunwatched
      · exact hnothing h not_false
  | partTime =>
      simp only [handle] at h
      split at h
      · next hphase =>
          have hfinish := proceeds_of_run_finish (fun hnone => (hw.occupied hnone).1) h
          exact leavesLess_of_parting hphase hfinish.2
      · next hother =>
          refine hnothing h ?_
          rintro ⟨task, deadline, hphase⟩
          exact hother task deadline hphase

/-- A watch that halts awaits something. -/
theorem exists_awaits (hw : w.Underway) (hhalting : w.Halting) : ∃ e, w.Awaits e := by
  cases hdispatches : w.dispatches with
  | cons first rest =>
      refine ⟨.dispatched first.1 default, first.2, ?_⟩
      rw [hdispatches]
      exact List.mem_cons_self
  | nil =>
      obtain ⟨-, hdispatching, hdraining⟩ := hw.occupied hdispatches
      have hinside := hw.inside
      rcases hhalting with hleft | ⟨hphase, -⟩
      · cases hphase : w.phase with
        | parting task deadline => exact ⟨.partTime, task, deadline, hphase⟩
        | draining => exact absurd hphase hdraining
        | ended outcome =>
            rw [isInside, hphase] at hinside
            cases hinside
        | _ =>
            rw [hphase] at hleft
            cases hleft
      · exact absurd hphase hdispatching

/-- Whether a watch halts, or has ended well. -/
def Closing (w : Watch) : Prop :=
  (w.Underway ∧ w.Halting) ∨ w.phase = .ended success

/-- A watch that closes goes on closing, and each event that it awaits leaves less to do. -/
theorem closing_of_run_handle {e : Event} (hw : w.Closing) (hgoing : w.outcome? = none)
    (h : Run (w.handle now e) t change) :
    change.1.Closing ∧ w.LeavesLess e change.1 := by
  rcases hw with ⟨hunderway, hhalting⟩ | hended
  · refine ⟨?_, leavesLess_of_run_handle hunderway hhalting h⟩
    have hhalts := (proceeds_of_run_handle hunderway h).halting.2 (Or.inl hhalting)
    exact (hunderway.after h).imp (fun hafter => ⟨hafter, hhalts⟩) And.left
  · rw [outcome?, hended] at hgoing
    cases hgoing

/-- Whether a watch comes to another one, by events of which so many were awaited. -/
inductive Winds (w : Watch) : Nat → Watch → Prop where
  | start : Winds w 0 w
  | other {n : Nat} {w' : Watch} {now : Nat} {e : Event} {t : Trace} {change : Change}
      (before : Winds w n w') (going : w'.outcome? = none) (run : Run (w'.handle now e) t change) :
      Winds w n change.1
  | awaited {n : Nat} {w' : Watch} {now : Nat} {e : Event} {t : Trace} {change : Change}
      (before : Winds w n w') (going : w'.outcome? = none) (awaits : w'.Awaits e)
      (run : Run (w'.handle now e) t change) : Winds w (n + 1) change.1

/-- Every event that was awaited left less to do. -/
theorem Winds.closing {n : Nat} {w' : Watch} (h : w.Winds n w') (hw : w.Closing) :
    w'.Closing ∧ n + w'.toDo ≤ w.toDo := by
  induction h with
  | start => exact ⟨hw, by omega⟩
  | other before going run ih =>
      obtain ⟨hclosing, hle, -⟩ := closing_of_run_handle ih.1 going run
      exact ⟨hclosing, by omega⟩
  | awaited before going awaits run ih =>
      obtain ⟨hclosing, -, hlt⟩ := closing_of_run_handle ih.1 going run
      have hless := hlt awaits
      exact ⟨hclosing, by omega⟩

/-- A watch that halts ends well after finitely many of the events that it awaits, and awaits one
until then. -/
theorem Closing.ends (hw : w.Closing) : ∃ bound, ∀ n w', w.Winds n w' →
    n ≤ bound ∧ (w'.phase = .ended success ∨ ∃ e, w'.Awaits e) := by
  refine ⟨w.toDo, fun n w' hwinds => ?_⟩
  obtain ⟨hclosing, hle⟩ := hwinds.closing hw
  refine ⟨by omega, ?_⟩
  rcases hclosing with ⟨hunderway, hhalting⟩ | hended
  · exact Or.inr (exists_awaits hunderway hhalting)
  · exact Or.inl hended

end Watch

end Courier
