import Courier.Proofs.Session.Runs
import Courier.Spool.Watch

/-!
# How a watch leaves

A watch goes on with the messages that are under way until it leaves: it stops to look at the
directories, waits for its dispatches, informs the observers for the last time, and ends.  Once
it has left it does not come back.

Main definitions:

- `Watch.Phase.hasLeft` says that a watch at this phase has left.
- `Watch.GoesOn` relates a watch to one that has left, or that has use for the same rounds of
  messages still.

Main statements:

- Whatever the event, but for the end of a round of messages, a watch goes on
  (`goesOn_of_run_handle`).
- Such a round does not bring a watch back that has left (`hasLeft_of_run_informed`).
-/

namespace Courier

open Program

namespace Watch

/-- Whether a watch at this phase has left. -/
def Phase.hasLeft : Phase → Bool
  | draining => true
  | parting _ _ => true
  | ended _ => true
  | _ => false

/-- The tasks that inform observers. -/
def informers (w : Watch) : List Nat :=
  w.informer.toList ++
    match w.phase with
    | .informing task => [task]
    | .parting task _ => [task]
    | _ => []

/-- Whether a watch has left, or had not left before and has use for the same rounds of messages
still. -/
def GoesOn (w w' : Watch) : Prop :=
  w'.phase.hasLeft = true ∨
    (w.phase.hasLeft = false ∧ ∀ task ∈ w.informers, task ∈ w'.informers)

variable {w w₁ w' : Watch} {t : Trace} {change : Change} {now : Nat}

theorem GoesOn.trans (h : GoesOn w w₁) (k : GoesOn w₁ w') : GoesOn w w' := by
  rcases k with hleft | ⟨hstays, hkept⟩
  · exact Or.inl hleft
  · rcases h with hleft | ⟨hstays', hkept'⟩
    · exact nomatch hleft.symm.trans hstays
    · exact Or.inr ⟨hstays', fun task htask => hkept task (hkept' task htask)⟩

/-- A watch at the same phase with the same messages beside it goes on. -/
theorem goesOn_of_eq (hphase : w'.phase = w.phase) (hinformer : w'.informer = w.informer) :
    GoesOn w w' := by
  cases hleft : w.phase.hasLeft with
  | true =>
      rw [← hphase] at hleft
      exact Or.inl hleft
  | false =>
      refine Or.inr ⟨hleft, fun task htask => ?_⟩
      rw [informers, hphase, hinformer]
      exact htask

/-- A watch that turns to another phase goes on, unless it waits for messages or has left. -/
theorem goesOn_of_turn (hleft : w.phase.hasLeft = false)
    (hwaits : ∀ task, w.phase ≠ .informing task) (hinformer : w'.informer = w.informer) : GoesOn w w' := by
  refine Or.inr ⟨hleft, fun task htask => ?_⟩
  have hbeside : w.informers = w.informer.toList := by
    rw [informers]
    split
    · next task' hphase => exact absurd hphase (hwaits task')
    · next task' deadline hphase =>
        rw [hphase] at hleft
        exact nomatch hleft
    · exact List.append_nil _
  rw [hbeside, ← hinformer] at htask
  exact List.mem_append_left _ htask

/-! ## The end -/

theorem hasLeft_of_run_finish (h : Run w.finish t change) : change.1.phase.hasLeft = true := by
  obtain ⟨u, saved, v, rfl, -, hrest⟩ := Run.bind_iff.1 h
  obtain ⟨u, released, x, rfl, -, hend⟩ := Run.bind_iff.1 hrest
  obtain ⟨-, rfl⟩ := Run.done_iff.1 hend
  rfl

theorem hasLeft_of_run_part (h : Run (w.part now) t change) :
    change.1.phase.hasLeft = true := by
  simp only [part] at h
  split at h
  · exact hasLeft_of_run_finish h
  · obtain ⟨moment, u, rfl, hend⟩ := Run.ask_iff.1 h
    obtain ⟨-, rfl⟩ := Run.done_iff.1 hend
    rfl

/-- A watch that leaves has left. -/
theorem hasLeft_of_run_leave (h : Run (w.leave now) t change) :
    change.1.phase.hasLeft = true := by
  simp only [leave, drain] at h
  split at h
  · exact hasLeft_of_run_part h
  · obtain ⟨-, rfl⟩ := Run.done_iff.1 h
    rfl

theorem goesOn_of_run_resume (h : Run (w.resume now) t change) : GoesOn w change.1 := by
  simp only [resume] at h
  split at h
  · exact Or.inl (hasLeft_of_run_leave h)
  · obtain ⟨-, rfl⟩ := Run.done_iff.1 h
    exact goesOn_of_eq rfl rfl

/-! ## Events -/

theorem eq_of_run_saveAndWatch (h : Run w.saveAndWatch t w') :
    ∃ monitor, w' = { w with monitor, phase := .watching } := by
  obtain ⟨u, saved, v, rfl, -, hend⟩ := Run.bind_iff.1 h
  exact ⟨saved.2, (Run.done_iff.1 hend).2⟩

theorem goesOn_of_run_look (hphase : w.phase = .watching) (h : Run (w.look now) t change) :
    GoesOn w change.1 := by
  have hturn : ∀ w' : Watch, w'.informer = w.informer → GoesOn w w' := by
    intro w'
    refine goesOn_of_turn ?_ ?_ <;> simp [hphase, Phase.hasLeft]
  obtain ⟨u, stopped, v, rfl, -, hrest⟩ := Run.bind_iff.1 h
  cases stopped with
  | true => exact Or.inl (hasLeft_of_run_leave hrest)
  | false =>
      obtain ⟨moment, v, rfl, hclocked⟩ := Run.ask_iff.1 hrest
      obtain ⟨u, refreshed, v, rfl, -, hscan⟩ := Run.bind_iff.1 hclocked
      obtain ⟨u, found, v, rfl, -, hready⟩ := Run.bind_iff.1 hscan
      simp only [dispatchReady] at hready
      split at hready
      · obtain ⟨u, w₁, v, rfl, hsave, hresumes⟩ := Run.bind_iff.1 hready
        obtain ⟨monitor, rfl⟩ := eq_of_run_saveAndWatch hsave
        obtain ⟨u, resumed, v, rfl, hresume, hend⟩ := Run.bind_iff.1 hresumes
        obtain ⟨-, rfl⟩ := Run.done_iff.1 hend
        have hresumed := goesOn_of_run_resume hresume
        refine (hturn _ ?_).trans hresumed
        rfl
      · obtain ⟨-, rfl⟩ := Run.done_iff.1 hready
        exact hturn _ rfl

theorem goesOn_of_run_inform (hphase : w.phase = .watching) (h : Run (w.inform now) t change) :
    GoesOn w change.1 := by
  simp only [inform] at h
  split at h
  · obtain ⟨-, rfl⟩ := Run.done_iff.1 h
    exact goesOn_of_eq rfl rfl
  · next hnobody =>
      have hinformers : w.informers = [] := by
        cases hinformer : w.informer with
        | none => simp [informers, hinformer, hphase]
        | some task => exact absurd (by simp [hinformer]) hnobody
      have hgoes : ∀ w' : Watch, GoesOn w w' := by
        intro w'
        refine Or.inr ⟨by simp [hphase, Phase.hasLeft], ?_⟩
        rw [hinformers]
        exact fun _ htask => nomatch htask
      exact hgoes _

theorem goesOn_of_run_claim {c : Lock.Claim} (hleft : w.phase.hasLeft = false)
    (hwaits : ∀ task, w.phase ≠ .informing task) (h : Run (w.claim c now) t change) :
    GoesOn w change.1 := by
  have hturn : ∀ w' : Watch, w'.informer = w.informer → GoesOn w w' :=
    fun _ => goesOn_of_turn hleft hwaits
  have hclaimed : ∀ phase : Phase, Run (.done (w.turnTo phase, [])) t change →
      GoesOn w change.1 := by
    intro phase hdone
    obtain ⟨-, rfl⟩ := Run.done_iff.1 hdone
    exact hturn _ rfl
  cases c with
  | held =>
      have hresumed := goesOn_of_run_resume h
      refine (hturn _ ?_).trans hresumed
      rfl
  | waiting looks => exact hclaimed _ h
  | yielded => exact hclaimed _ h
  | refused fault => exact hclaimed _ h

theorem goesOn_of_run_onStop (h : Run (w.onStop now) t change) : GoesOn w change.1 := by
  simp only [onStop] at h
  split at h
  · obtain ⟨-, rfl⟩ := Run.done_iff.1 h
    exact Or.inl rfl
  · exact Or.inl (hasLeft_of_run_leave h)
  · exact Or.inl (hasLeft_of_run_leave h)
  · obtain ⟨-, rfl⟩ := Run.done_iff.1 h
    exact goesOn_of_eq rfl rfl

/-- What a watch does after it noted the result of a dispatch. -/
def goOn (w : Watch) (now : Nat) : Program Change := do
  let (w, started) := w.dispatchWaiting
  if w.dispatches.isEmpty && w.phase = .dispatching then
    let w ← w.saveAndWatch
    let (w, more) ← w.resume now
    return (w, started ++ more)
  else if w.dispatches.isEmpty && w.phase = .draining then
    let (w, more) ← w.part now
    return (w, started ++ more)
  else return (w, started)

/-- The result of a dispatch is noted first. -/
theorem onDispatched_eq (w : Watch) (task : Nat) (result : Dispatch.Result) (now : Nat) :
    w.onDispatched task result now = (Program.now >>= fun moment =>
      goOn { w with
        monitor := w.monitor.finalize result.path result.success result.specialId moment
        dispatches := w.dispatches.filter fun t => t.1 != task } now) :=
  rfl

theorem goesOn_of_run_goOn (h : Run (w.goOn now) t change) : GoesOn w change.1 := by
  have hbegun : GoesOn w w.dispatchWaiting.1 := goesOn_of_eq rfl rfl
  simp only [goOn] at h
  split at h
  · next hlast =>
      have hphase : w.phase = .dispatching := of_decide_eq_true (Bool.and_eq_true_iff.1 hlast).2
      obtain ⟨u, w₁, v, rfl, hsave, hresumes⟩ := Run.bind_iff.1 h
      obtain ⟨monitor, rfl⟩ := eq_of_run_saveAndWatch hsave
      obtain ⟨u, resumed, v, rfl, hresume, hend⟩ := Run.bind_iff.1 hresumes
      obtain ⟨-, rfl⟩ := Run.done_iff.1 hend
      have hresumed := goesOn_of_run_resume hresume
      refine (goesOn_of_turn ?_ ?_ ?_).trans hresumed
      · simp [hphase, Phase.hasLeft]
      · simp [hphase]
      · rfl
  · split at h
    · obtain ⟨u, r, v, rfl, hpart, hend⟩ := Run.bind_iff.1 h
      obtain ⟨-, rfl⟩ := Run.done_iff.1 hend
      have hleft := hasLeft_of_run_part hpart
      exact Or.inl hleft
    · obtain ⟨-, rfl⟩ := Run.done_iff.1 h
      exact hbegun

theorem goesOn_of_run_onDispatched {task : Nat} {result : Dispatch.Result}
    (h : Run (w.onDispatched task result now) t change) : GoesOn w change.1 := by
  rw [onDispatched_eq] at h
  obtain ⟨moment, u, rfl, hsettled⟩ := Run.ask_iff.1 h
  have hgoes := goesOn_of_run_goOn hsettled
  refine (goesOn_of_eq ?_ ?_).trans hgoes <;> rfl

/-- Whatever the event, but for the end of a round of messages, a watch goes on. -/
theorem goesOn_of_run_handle {e : Event} (hinformed : ∀ task receipts, e ≠ .informed task receipts)
    (h : Run (w.handle now e) t change) : GoesOn w change.1 := by
  have hnothing : Run (.done (w, [])) t change → GoesOn w change.1 := by
    intro hdone
    obtain ⟨-, rfl⟩ := Run.done_iff.1 hdone
    exact goesOn_of_eq rfl rfl
  cases e with
  | stop => exact goesOn_of_run_onStop h
  | informed task receipts => exact absurd rfl (hinformed task receipts)
  | dispatched task result =>
      simp only [handle] at h
      split at h
      · exact goesOn_of_run_onDispatched h
      · exact hnothing h
  | claimTime =>
      simp only [handle] at h
      split at h
      · next looks next hphase =>
          obtain ⟨moment, u, rfl, hpoll⟩ := Run.ask_iff.1 h
          obtain ⟨u, c, v, rfl, -, hclaim⟩ := Run.bind_iff.1 hpoll
          refine goesOn_of_run_claim ?_ ?_ hclaim <;> simp [hphase, Phase.hasLeft]
      · exact hnothing h
  | lookTime =>
      simp only [handle] at h
      split at h
      · next hphase => exact goesOn_of_run_look hphase h
      · exact hnothing h
  | informTime =>
      simp only [handle] at h
      split at h
      · next hcond =>
          have hphase : w.phase = .watching := of_decide_eq_true (Bool.and_eq_true_iff.1 hcond).1
          exact goesOn_of_run_inform hphase h
      · exact hnothing h
  | partTime =>
      simp only [handle] at h
      split at h
      · exact Or.inl (hasLeft_of_run_finish h)
      · exact hnothing h

/-- The end of a round of messages does not bring a watch back that has left. -/
theorem hasLeft_of_run_informed {task : Nat} {receipts : List Bulletin.Receipt}
    (h : Run (w.handle now (.informed task receipts)) t change)
    (hleft : w.phase.hasLeft = true) : change.1.phase.hasLeft = true := by
  simp only [handle] at h
  split at h
  · simp only [onInformed] at h
    split at h
    · next hphase =>
        rw [hphase] at hleft
        exact nomatch hleft
    · exact hasLeft_of_run_finish h
    · obtain ⟨-, rfl⟩ := Run.done_iff.1 h
      exact hleft
  · obtain ⟨-, rfl⟩ := Run.done_iff.1 h
    exact hleft

end Watch

end Courier
