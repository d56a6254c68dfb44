import Courier.Proofs.Delivery.FailureCodes
import Courier.Proofs.Spool.Departure

/-!
# How a watch ends

A watch that has the lock only ends well.  A failure is the end of a watch that could not begin,
or that claimed the lock in vain.

Main definitions:

- `Watch.EndsBy` says what the outcome of a watch is, if it has ended.
- `Watch.Reaches` are the watches that a job comes to, and `Watch.Concludes` the outcomes that it
  may end with.

Main statements:

- However an event is handled, a watch that does not claim the lock only ends well
  (`Watch.endsBy_of_run_handle`).
- The outcome of a job is that of an orderly end, or a failure of this side
  (`Watch.Concludes.isVerdict`).
-/

namespace Courier

open Program

namespace Watch

/-- Whether the outcome of a watch is of some kind, if it has ended. -/
def EndsBy (V : Outcome → Prop) (w : Watch) : Prop :=
  ∀ o, w.outcome? = some o → V o

variable {A : Exchange → Prop} {V : Outcome → Prop} {w : Watch} {now : Nat}

/-- How a watch ends can be told from its phase. -/
theorem endsBy_of_phase {w' : Watch} (hphase : w'.phase = w.phase) (h : w.EndsBy V) :
    w'.EndsBy V := by
  intro o ho
  rw [outcome?, hphase] at ho
  exact h o ho

/-- A watch that has not ended. -/
theorem endsBy_of_going (h : w.outcome? = none) : w.EndsBy V := by
  intro o ho
  cases h.symm.trans ho

/-- A watch that has ended has its outcome. -/
theorem endsBy_ended {outcome : Outcome} (hphase : w.phase = .ended outcome) (h : V outcome) :
    w.EndsBy V := by
  intro o ho
  rw [outcome?, hphase] at ho
  cases ho
  exact h

/-! ## The end -/

section

variable (hV : V success)
include hV

/-- A watch that finishes ends well. -/
theorem yields_finish : Yields A (fun change => change.1.EndsBy V) w.finish :=
  yields_andThen fun _ => yields_andThen fun _ => yields_done (endsBy_ended rfl hV)

/-- To part leads to a good end, then or later. -/
theorem yields_part : Yields A (fun change => change.1.EndsBy V) (w.part now) := by
  unfold part
  split
  · exact yields_finish hV
  · exact yields_andThen fun _ => yields_done (endsBy_of_going rfl)

/-- So does draining. -/
theorem yields_drain : Yields A (fun change => change.1.EndsBy V) (w.drain now) := by
  unfold drain
  split
  · exact yields_part hV
  · exact yields_done (endsBy_of_going rfl)

theorem yields_leave : Yields A (fun change => change.1.EndsBy V) (w.leave now) :=
  yields_drain hV

/-- A watch that resumes goes on, or leaves for a good end. -/
theorem yields_resume (hw : w.EndsBy V) :
    Yields A (fun change => change.1.EndsBy V) (w.resume now) := by
  unfold resume
  split
  · exact yields_leave hV
  · exact yields_done hw

/-! ## Looks, messages and dispatches -/

/-- Whatever is dispatched, a watch that saves its status and resumes ends well if it ends. -/
theorem yields_saveAndResume {started : Watch → List (Nat × Task)}
    {f : Watch → Watch} (hf : ∀ w, (f w).phase = w.phase) :
    Yields A (fun change : Change => change.1.EndsBy V) (w.saveAndWatch >>= fun w =>
      (f w).resume now >>= fun r => .done (r.1, started w ++ r.2)) := by
  have hsaved : Yields A (fun w : Watch => w.phase = .watching) w.saveAndWatch :=
    yields_andThen fun _ => yields_done rfl
  refine yields_bind hsaved fun w₁ hphase => ?_
  have hgoing : (f w₁).EndsBy V := endsBy_of_going (by rw [outcome?, hf, hphase])
  exact yields_bind (yields_resume hV hgoing) fun _ hr => yields_done hr

/-- A look that finds the stop file leads to a good end, and any other to none. -/
theorem yields_look : Yields A (fun change => change.1.EndsBy V) (w.look now) := by
  refine yields_andThen fun stopped => ?_
  cases stopped with
  | true => exact yields_leave hV
  | false =>
      refine yields_andThen fun _ => yields_andThen fun _ => yields_andThen fun found => ?_
      unfold dispatchReady
      dsimp only
      split
      · exact yields_saveAndResume hV fun _ => rfl
      · exact yields_done (endsBy_of_going rfl)

omit hV in
theorem yields_inform (hw : w.EndsBy V) :
    Yields A (fun change => change.1.EndsBy V) (w.inform now) := by
  unfold inform
  dsimp only
  split
  · exact yields_done (endsBy_of_phase rfl hw)
  · refine yields_andThen fun _ => yields_done ?_
    split
    · exact endsBy_of_phase rfl hw
    · exact endsBy_of_going rfl

theorem yields_onDispatched (hw : w.EndsBy V) (task : Nat) (result : Dispatch.Result) :
    Yields A (fun change => change.1.EndsBy V) (w.onDispatched task result now) := by
  rw [onDispatched_eq]
  refine yields_andThen fun moment => ?_
  unfold goOn
  dsimp only
  split
  · exact yields_saveAndResume hV fun _ => rfl
  · split
    · exact yields_bind (yields_part hV) fun _ hr => yields_done hr
    · exact yields_done (endsBy_of_phase rfl hw)

theorem yields_onInformed (hw : w.EndsBy V) (task : Nat) (receipts : List Bulletin.Receipt) :
    Yields A (fun change => change.1.EndsBy V) (w.onInformed task receipts now) := by
  unfold onInformed
  dsimp only
  split
  · exact yields_resume hV (endsBy_of_going rfl)
  · exact yields_finish hV
  · exact yields_done (endsBy_of_phase rfl hw)

/-- A stop ends a claim well, and makes any other watch leave. -/
theorem yields_onStop (hw : w.EndsBy V) :
    Yields A (fun change => change.1.EndsBy V) (w.onStop now) := by
  unfold onStop
  dsimp only
  split
  · exact yields_done (endsBy_ended rfl hV)
  · exact yields_leave hV
  · exact yields_leave hV
  · exact yields_done (endsBy_of_phase rfl hw)

/-! ## Events -/

/-- After a look at the lock, a watch that is refused it ends by a failure. -/
theorem yields_claim (hfailure : ∀ cause, V (failure cause)) (c : Lock.Claim) :
    Yields A (fun change => change.1.EndsBy V) (w.claim c now) := by
  cases c with
  | held => exact yields_resume hV (endsBy_of_going rfl)
  | waiting looks => exact yields_done (endsBy_of_going rfl)
  | yielded => exact yields_done (endsBy_ended rfl hV)
  | refused fault => exact yields_done (endsBy_ended rfl (hfailure _))

/-- However an event is handled, a watch ends well, or fails to claim the lock. -/
theorem yields_handle (now : Nat) (e : Event) (hw : w.EndsBy V)
    (hfailure : ∀ looks next, w.phase = .claiming looks next → ∀ cause, V (failure cause)) :
    Yields A (fun change => change.1.EndsBy V) (w.handle now e) := by
  cases e with
  | stop => exact yields_onStop hV hw
  | dispatched task result =>
      unfold handle
      dsimp only
      split
      · exact yields_onDispatched hV hw _ _
      · exact yields_done hw
  | informed task receipts =>
      unfold handle
      dsimp only
      split
      · exact yields_onInformed hV hw _ _
      · exact yields_done hw
  | claimTime =>
      unfold handle
      dsimp only
      split
      · next looks next hphase =>
          exact yields_andThen fun _ => yields_andThen fun c =>
            yields_claim hV (hfailure looks next hphase) c
      · exact yields_done hw
  | lookTime =>
      unfold handle
      dsimp only
      split
      · exact yields_look hV
      · exact yields_done hw
  | informTime =>
      unfold handle
      dsimp only
      split
      · exact yields_inform hw
      · exact yields_done hw
  | partTime =>
      unfold handle
      dsimp only
      split
      · exact yields_finish hV
      · exact yields_done hw

end

/-- However an event is handled, a watch that does not claim the lock only ends well. -/
theorem endsBy_of_run_handle {e : Event} {t : Trace} {change : Change}
    (hclaimed : ∀ looks next, w.phase ≠ .claiming looks next)
    (hw : w.EndsBy (· = success)) (h : Run (w.handle now e) t change) :
    change.1.EndsBy (· = success) := by
  have hyields := yields_handle (A := fun _ => True) (V := (· = success)) rfl now e hw
    fun looks next hphase => absurd hphase (hclaimed looks next)
  exact hyields.value_of_run h

/-! ## Jobs -/

/-- The watches that a job comes to, whatever happens. -/
inductive Reaches (ctx : Context) (job : Job) : Watch → Prop where
  | begun {now : Nat} {t : Trace} {change : Change} (h : Run (start ctx job now) t (.ok change)) :
      Reaches ctx job change.1
  | handled {w : Watch} {now : Nat} {e : Event} {t : Trace} {change : Change}
      (before : Reaches ctx job w) (h : Run (w.handle now e) t change) : Reaches ctx job change.1

/-- The outcomes that a job may end with. -/
inductive Concludes (ctx : Context) (job : Job) : Outcome → Prop where
  | refused {now : Nat} {t : Trace} {o : Outcome} (h : Run (start ctx job now) t (.error o)) :
      Concludes ctx job o
  | ended {w : Watch} {o : Outcome} (reached : Reaches ctx job w) (h : w.outcome? = some o) :
      Concludes ctx job o

/-- Whether an outcome is that of an orderly end, or a failure of this side. -/
def IsVerdict (o : Outcome) : Prop :=
  o = success ∨ ∃ cause, o = failure cause

/-- A watch that begins may have ended already, or may have been refused. -/
def Opens (V : Outcome → Prop) : Except Outcome Change → Prop
  | .error o => V o
  | .ok change => change.1.EndsBy V

/-- A watch that begins has not ended, has ended well, or has failed with a cause. -/
theorem yields_begin (hV : V success) (hfailure : ∀ cause, V (failure cause))
    (zone : Calendar.Zone) (job : Job) : Yields A (Opens V) (begin zone job now) := by
  refine yields_andThen fun moment => yields_andThen fun loaded => ?_
  cases loaded with
  | error fault => exact yields_done (hfailure _)
  | ok monitor =>
      refine yields_andThen fun moment => yields_andThen fun c => ?_
      exact yields_bind (yields_claim hV hfailure c) fun _ hchange => yields_done hchange

theorem yields_start (hV : V success) (hfailure : ∀ cause, V (failure cause)) (ctx : Context)
    (job : Job) (now : Nat) : Yields A (Opens V) (start ctx job now) := by
  refine yields_andThen fun checked => ?_
  cases checked with
  | error fault => exact yields_done (hfailure _)
  | ok =>
      refine yields_andThen fun stopped => ?_
      cases stopped with
      | true => exact yields_done hV
      | false =>
          refine yields_andThen fun missing => ?_
          cases missing with
          | some p => exact yields_done (hfailure _)
          | none => exact yields_begin hV hfailure _ job

/-- A job that is started fails, or its watch ends with a verdict if it ends. -/
theorem opens_of_run_start {ctx : Context} {job : Job} {t : Trace}
    {result : Except Outcome Change} (h : Run (start ctx job now) t result) :
    Opens IsVerdict result := by
  have hyields := yields_start (A := fun _ => True) (V := IsVerdict) (Or.inl rfl)
    (fun cause => Or.inr ⟨cause, rfl⟩) ctx job now
  exact hyields.value_of_run h

/-- Wherever a job has come to, it ends with a verdict if it ends. -/
theorem Reaches.endsBy {ctx : Context} {job : Job} (h : Reaches ctx job w) :
    w.EndsBy IsVerdict := by
  induction h with
  | begun h => exact opens_of_run_start h
  | @handled w now e t change _ h ih =>
      have hyields := yields_handle (A := fun _ => True) (V := IsVerdict) (Or.inl rfl) now e ih
        fun _ _ _ cause => Or.inr ⟨cause, rfl⟩
      exact hyields.value_of_run h

/-- The outcome of a job is that of an orderly end, or a failure of this side. -/
theorem Concludes.isVerdict {ctx : Context} {job : Job} {o : Outcome}
    (h : Concludes ctx job o) : IsVerdict o := by
  cases h with
  | refused h => exact opens_of_run_start h
  | ended reached h => exact reached.endsBy o h

end Watch

end Courier
