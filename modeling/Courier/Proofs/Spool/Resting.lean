import Courier.Proofs.Spool.Handling

/-!
# Watches that have nothing to dispatch

A watch cares for the results of dispatches while it watches, dispatches and drains.  Before that
and after it, there are none to come.

Main definitions:

- `Watch.Resting` says that a watch has nothing to dispatch while it does not care for results.

Main statements:

- However an event is handled, this stays true (`Watch.resting_of_run_handle`).
-/

namespace Courier

open Program

namespace Watch

/-- Whether a watch at this phase does not care for the results of dispatches. -/
def Phase.isResting : Phase → Bool
  | claiming _ _ => true
  | parting _ _ => true
  | ended _ => true
  | _ => false

/-- Whether a watch has nothing to dispatch, unless it cares for results. -/
def Resting (w : Watch) : Prop :=
  w.phase.isResting = true → w.Idle

variable {w : Watch} {t : Trace} {change : Change} {now : Nat}

theorem resting_of_phase (h : w.phase.isResting = false) : w.Resting :=
  fun hresting => nomatch h.symm.trans hresting

/-! ## The end -/

theorem resting_of_run_finish (hw : w.Idle) (h : Run w.finish t change) : change.1.Resting := by
  obtain ⟨u, saved, v, rfl, -, hrest⟩ := Run.bind_iff.1 h
  obtain ⟨u, released, x, rfl, -, hend⟩ := Run.bind_iff.1 hrest
  obtain ⟨-, rfl⟩ := Run.done_iff.1 hend
  exact fun _ => hw

theorem resting_of_run_part (hw : w.Idle) (h : Run (w.part now) t change) :
    change.1.Resting := by
  simp only [part] at h
  split at h
  · exact resting_of_run_finish hw h
  · obtain ⟨moment, u, rfl, hend⟩ := Run.ask_iff.1 h
    obtain ⟨-, rfl⟩ := Run.done_iff.1 hend
    exact fun _ => hw

theorem resting_of_run_leave (h : Run (w.leave now) t change) : change.1.Resting := by
  simp only [leave, drain] at h
  split at h
  · next hempty =>
      obtain ⟨hwaiting, hdispatches⟩ := Bool.and_eq_true_iff.1 hempty
      have hidle : w.Idle := ⟨List.isEmpty_iff.1 hwaiting, List.isEmpty_iff.1 hdispatches⟩
      refine resting_of_run_part ?_ h
      exact hidle
  · obtain ⟨-, rfl⟩ := Run.done_iff.1 h
    exact resting_of_phase rfl

theorem resting_of_run_resume (hw : w.Resting) (h : Run (w.resume now) t change) :
    change.1.Resting := by
  simp only [resume] at h
  split at h
  · exact resting_of_run_leave h
  · obtain ⟨-, rfl⟩ := Run.done_iff.1 h
    exact hw

/-! ## Looks, messages and dispatches -/

theorem resting_of_run_saveAndResume {started : List (Nat × Task)}
    (h : Run (w.saveAndWatch >>= fun w => w.resume now >>= fun r =>
      .done (r.1, started ++ r.2)) t change) : change.1.Resting := by
  obtain ⟨u, w₁, v, rfl, hsave, hrest⟩ := Run.bind_iff.1 h
  obtain ⟨monitor, rfl⟩ := eq_of_run_saveAndWatch hsave
  obtain ⟨v, r, x, rfl, hresume, hend⟩ := Run.bind_iff.1 hrest
  obtain ⟨-, rfl⟩ := Run.done_iff.1 hend
  have hresumed := resting_of_run_resume (resting_of_phase rfl) hresume
  exact hresumed

theorem resting_of_run_look (h : Run (w.look now) t change) : change.1.Resting := by
  obtain ⟨u, stopped, v, rfl, -, hrest⟩ := Run.bind_iff.1 h
  cases stopped with
  | true => exact resting_of_run_leave hrest
  | false =>
      obtain ⟨moment, v, rfl, hclocked⟩ := Run.ask_iff.1 hrest
      obtain ⟨u, refreshed, v, rfl, -, hscan⟩ := Run.bind_iff.1 hclocked
      obtain ⟨u, found, v, rfl, -, hready⟩ := Run.bind_iff.1 hscan
      simp only [dispatchReady] at hready
      split at hready
      · obtain ⟨u, w₁, v, rfl, hsave, hresumes⟩ := Run.bind_iff.1 hready
        obtain ⟨monitor, rfl⟩ := eq_of_run_saveAndWatch hsave
        obtain ⟨u, resumed, v, rfl, hresume, hend⟩ := Run.bind_iff.1 hresumes
        obtain ⟨-, rfl⟩ := Run.done_iff.1 hend
        have hresumed := resting_of_run_resume (resting_of_phase rfl) hresume
        exact hresumed
      · obtain ⟨-, rfl⟩ := Run.done_iff.1 hready
        exact resting_of_phase rfl

theorem resting_of_run_inform (hphase : w.phase = .watching) (h : Run (w.inform now) t change) :
    change.1.Resting := by
  simp only [inform] at h
  split at h
  · obtain ⟨-, rfl⟩ := Run.done_iff.1 h
    refine resting_of_phase ?_
    simp [hphase, Phase.isResting]
  · obtain ⟨moment, u, rfl, hend⟩ := Run.ask_iff.1 h
    split at hend
    · obtain ⟨-, rfl⟩ := Run.done_iff.1 hend
      refine resting_of_phase ?_
      simp [hphase, Phase.isResting]
    · obtain ⟨-, rfl⟩ := Run.done_iff.1 hend
      exact resting_of_phase rfl

/-! ## Events -/

theorem resting_of_run_claim {c : Lock.Claim} (hw : w.Idle) (h : Run (w.claim c now) t change) :
    change.1.Resting := by
  have hclaimed : ∀ phase : Phase, Run (.done (w.turnTo phase, [])) t change →
      change.1.Resting := by
    intro phase hdone
    obtain ⟨-, rfl⟩ := Run.done_iff.1 hdone
    exact fun _ => hw
  cases c with
  | held => exact resting_of_run_resume (resting_of_phase rfl) h
  | waiting looks => exact hclaimed _ h
  | yielded => exact hclaimed _ h
  | refused fault => exact hclaimed _ h

theorem resting_of_run_goOn (hphase : w.phase.isResting = false) (h : Run (w.goOn now) t change) :
    change.1.Resting := by
  simp only [goOn] at h
  split at h
  · exact resting_of_run_saveAndResume h
  · split at h
    · next hlast =>
        have hnil := List.isEmpty_iff.1 (Bool.and_eq_true_iff.1 hlast).1
        obtain ⟨u, r, v, rfl, hpart, hend⟩ := Run.bind_iff.1 h
        obtain ⟨-, rfl⟩ := Run.done_iff.1 hend
        have hresting := resting_of_run_part ⟨busy_dispatchWaiting w hnil, hnil⟩ hpart
        exact hresting
    · obtain ⟨-, rfl⟩ := Run.done_iff.1 h
      exact resting_of_phase hphase

theorem resting_of_run_onDispatched {task : Nat} {result : Dispatch.Result} (hw : w.Resting)
    (hmem : w.dispatches.any (·.1 == task) = true)
    (h : Run (w.onDispatched task result now) t change) : change.1.Resting := by
  have hphase : w.phase.isResting = false := by
    cases hresting : w.phase.isResting with
    | false => rfl
    | true =>
        rw [(hw hresting).2] at hmem
        cases hmem
  rw [onDispatched_eq] at h
  obtain ⟨moment, u, rfl, hsettled⟩ := Run.ask_iff.1 h
  refine resting_of_run_goOn ?_ hsettled
  exact hphase

theorem resting_of_run_onInformed {task : Nat} {receipts : List Bulletin.Receipt}
    (hw : w.Resting) (h : Run (w.onInformed task receipts now) t change) :
    change.1.Resting := by
  simp only [onInformed] at h
  split at h
  · exact resting_of_run_resume (resting_of_phase rfl) h
  · next hphase =>
      have hidle : w.Idle := hw (by rw [hphase]; rfl)
      refine resting_of_run_finish ?_ h
      exact hidle
  · obtain ⟨-, rfl⟩ := Run.done_iff.1 h
    exact hw

theorem resting_of_run_onStop (hw : w.Resting) (h : Run (w.onStop now) t change) :
    change.1.Resting := by
  simp only [onStop] at h
  split at h
  · next hphase =>
      obtain ⟨-, rfl⟩ := Run.done_iff.1 h
      exact fun _ => hw (by rw [hphase]; rfl)
  · exact resting_of_run_leave h
  · exact resting_of_run_leave h
  · obtain ⟨-, rfl⟩ := Run.done_iff.1 h
    exact hw

/-- However an event is handled, a watch that does not care for results has nothing to
dispatch. -/
theorem resting_of_run_handle {e : Event} (hw : w.Resting)
    (h : Run (w.handle now e) t change) : change.1.Resting := by
  have hnothing : Run (.done (w, [])) t change → change.1.Resting := by
    intro hdone
    obtain ⟨-, rfl⟩ := Run.done_iff.1 hdone
    exact hw
  cases e with
  | stop => exact resting_of_run_onStop hw h
  | dispatched task result =>
      simp only [handle] at h
      split at h
      · next hmem => exact resting_of_run_onDispatched hw hmem h
      · exact hnothing h
  | informed task receipts =>
      simp only [handle] at h
      split at h
      · exact resting_of_run_onInformed hw h
      · exact hnothing h
  | claimTime =>
      simp only [handle] at h
      split at h
      · next looks next hphase =>
          obtain ⟨moment, u, rfl, hpoll⟩ := Run.ask_iff.1 h
          obtain ⟨u, c, v, rfl, -, hclaim⟩ := Run.bind_iff.1 hpoll
          exact resting_of_run_claim (hw (by rw [hphase]; rfl)) hclaim
      · exact hnothing h
  | lookTime =>
      simp only [handle] at h
      split at h
      · exact resting_of_run_look h
      · exact hnothing h
  | informTime =>
      simp only [handle] at h
      split at h
      · next hcond =>
          exact resting_of_run_inform (of_decide_eq_true (Bool.and_eq_true_iff.1 hcond).1) h
      · exact hnothing h
  | partTime =>
      simp only [handle] at h
      split at h
      · next hphase => exact resting_of_run_finish (hw (by rw [hphase]; rfl)) h
      · exact hnothing h

end Watch

end Courier
