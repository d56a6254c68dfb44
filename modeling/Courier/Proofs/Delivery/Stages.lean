import Courier.Proofs.Delivery.Attempt
import Courier.Proofs.Delivery.Filing

/-!
# Stages of a transfer

What each stage of a transfer does to its record and to the ledger, on a ledger that nobody
else changes.  The invariant that carries a transfer from stage to stage is that the ledger
holds its record, which is not done.

Main definitions:

- `Delivery.Continues` relates a transfer to itself at a later stage.
- `Delivery.EndsWell` and `Delivery.EndsInError` say how a transfer leaves its record, the
  ledger and the trace, and `Delivery.Finishes` that it is left in one of the two ways.

Main statements:

- A transfer that is ended well or in error is so (`endsWell_conclude`,
  `endsInError_terminate`).
- The attempts to open its session leave it ready and running, or end it in error
  (`reaches_tryConnect`).
- Whatever the partner answers, a ready transfer calls it and ends in one of the two ways
  (`finishes_of_ready`).
-/

namespace Courier

open Program

namespace Delivery

/-- A transfer at a later stage, which may only have changed what its record says about that. -/
structure Continues (p p' : Prepared) : Prop where
  key : p'.record.key = p.record.key
  rank : p'.record.rank = p.record.rank
  mode : p'.record.mode = p.record.mode
  noLog : p'.noLog = p.noLog

theorem Continues.refl (p : Prepared) : Continues p p :=
  ⟨rfl, rfl, rfl, rfl⟩

theorem Continues.trans {p q s : Prepared} (h : Continues p q) (h' : Continues q s) :
    Continues p s :=
  ⟨h'.key.trans h.key, h'.rank.trans h.rank, h'.mode.trans h.mode, h'.noLog.trans h.noLog⟩

variable {l l' : Ledger} {p : Prepared} {t : Trace}

/-! ## Ends in error -/

/-- How a transfer that fails leaves its record, the ledger and the trace. -/
structure EndsInError (l : Ledger) (p : Prepared) (r : Record) (t : Trace) (outcome : Outcome)
    (l' : Ledger) : Prop where
  success : outcome.success = false
  record : outcome.record = some r
  key : r.key = p.record.key
  status : r.status = .inError
  code : r.errorCode = outcome.code
  message : r.errorMessage = outcome.cause
  failures : t.failures = [r]
  stored : l'.find? r.key = if p.noLog || r.ignoreSave then none else some r
  others : AgreeExcept r.key l l'

/-- A record is marked in error, filed and reported. -/
theorem runOn_finalizeInError {code : ResultCode} {cause : String} {r : Record}
    (h : RunOn l (finalizeInError p.record code cause) t r l') (hready : Ready l p.record) :
    (∃ now, r = p.record.setInError code (some cause) now) ∧ l' = l.put r ∧
      t.failures = [r] := by
  have hopen : p.record.isAllDone = false := by
    have hne := hready.notDone
    simpa [Record.isAllDone] using hne
  simp only [finalizeInError, hopen, Bool.false_eq_true, if_false] at h
  obtain ⟨now, u, rfl, hnow⟩ := h.of_ask fun _ _ hm => hm
  obtain ⟨v, _, w, m, rfl, hsave, hrest⟩ := hnow.of_bind
  obtain ⟨_, x, rfl, hdone⟩ := hrest.of_ask fun _ _ hm => hm
  obtain ⟨rfl, rfl, rfl⟩ := hdone.of_done
  obtain ⟨rfl, hplain⟩ := runOn_save hsave hready rfl (Or.inl rfl)
  refine ⟨⟨now, rfl⟩, rfl, ?_⟩
  show Trace.failures (v ++ _) = _
  rw [Trace.failures_append, hplain.failures]
  rfl

/-- A transfer that is ended in error is so. -/
theorem endsInError_terminate {code : ResultCode} {cause : String} {outcome : Outcome}
    (h : RunOn l (terminate p code cause) t outcome l') (hready : Ready l p.record) :
    ∃ r, EndsInError l p r t outcome l' := by
  obtain ⟨u, r, v, m, rfl, hfinal, hrest⟩ := h.of_bind
  obtain ⟨⟨now, hr⟩, rfl, hfailures⟩ := runOn_finalizeInError hfinal hready
  have hkey : r.key = p.record.key := by rw [hr, Record.setInError_key]
  have hends : ∀ w l', Trace.Plain w → AgreeExcept r.key l l' →
      l'.find? r.key = (if p.noLog || r.ignoreSave then none else some r) →
        ∃ s, EndsInError l p s (u ++ w) (.failed code cause (some r)) l' := by
    intro w l' hw hagree hstored
    refine ⟨r, rfl, rfl, hkey, ?_, ?_, ?_, ?_, hstored, hagree⟩
    · rw [hr]; rfl
    · rw [hr]; rfl
    · rw [hr]; rfl
    · rw [Trace.failures_append, hfailures, hw.failures, List.append_nil]
  have hput : AgreeExcept r.key l (l.put r) := AgreeExcept.put l r
  split at hrest
  · next hdrop =>
      obtain ⟨w, _, x, n, rfl, hdiscard, hdone⟩ := hrest.of_bind
      obtain ⟨rfl, rfl, rfl⟩ := hdone.of_done
      obtain ⟨rfl, hplain⟩ := runOn_discard hdiscard
      rw [List.append_nil]
      refine hends w _ hplain (hput.trans (AgreeExcept.erase _ _)) ?_
      rw [if_pos hdrop, Ledger.find?_erase_self]
  · next hkeep =>
      obtain ⟨rfl, rfl, rfl⟩ := hrest.of_done
      refine hends [] _ Trace.Plain.nil hput ?_
      rw [if_neg hkeep, Ledger.find?_put_self]

/-! ## Ends that went well -/

/-- How a transfer that went well leaves its record and the ledger, when the transport has
reported a block or none. -/
structure EndsWell (l : Ledger) (p : Prepared) (rank : Option Nat) (r : Record)
    (outcome : Outcome) (l' : Ledger) : Prop where
  outcome : outcome = .succeeded .completeOk (some r)
  key : r.key = p.record.key
  status : r.status = .done
  code : r.errorCode = .completeOk
  message : r.errorMessage = none
  rank : r.rank = max p.record.rank (rank.getD 0)
  mode : r.mode = p.record.mode
  stored : l'.find? r.key = if p.noLog then none else some r
  others : AgreeExcept r.key l l'

theorem rank_lt_of_advanceRank {r : Record} {rank : Nat} {now : Calendar.Moment}
    {fault : TransferFault} (h : r.advanceRank rank now = .error fault) : rank < r.rank := by
  unfold Record.advanceRank at h
  split at h
  · next hback => exact hback.2
  · simp at h

theorem runOn_acknowledge {r s : Record} {rank : Option Nat}
    (h : RunOn l (acknowledge r rank) t s l') (hrunning : r.status = .running) :
    l' = l ∧ t.Plain ∧ s.key = r.key ∧ s.status = r.status ∧ s.mode = r.mode ∧
      s.rank = max r.rank (rank.getD 0) := by
  cases rank with
  | none =>
      obtain ⟨rfl, rfl, rfl⟩ := h.of_done
      exact ⟨rfl, Trace.Plain.nil, rfl, rfl, rfl, (Nat.max_zero _).symm⟩
  | some rank =>
      obtain ⟨now, u, rfl, hnow⟩ := h.of_ask fun _ _ hm => hm
      cases hadvance : r.advanceRank rank now with
      | ok advanced =>
          rw [hadvance] at hnow
          obtain ⟨rfl, rfl, rfl⟩ := hnow.of_done
          have hle := Record.rank_le_of_advanceRank hrunning hadvance
          have heq := Record.eq_of_advanceRank hadvance
          rw [heq] at hle ⊢
          exact ⟨rfl, ⟨rfl, rfl, rfl⟩, rfl, rfl, rfl, (Nat.max_eq_right hle).symm⟩
      | error fault =>
          rw [hadvance] at hnow
          have hlt : rank < r.rank := rank_lt_of_advanceRank hadvance
          obtain ⟨rfl, rfl, rfl⟩ := hnow.of_done
          exact ⟨rfl, ⟨rfl, rfl, rfl⟩, rfl, rfl, rfl, (Nat.max_eq_left (Nat.le_of_lt hlt)).symm⟩

/-- A transfer that is ended well is so. -/
theorem endsWell_conclude {rank : Option Nat} {outcome : Outcome}
    (h : RunOn l (conclude p rank) t outcome l') (hready : Ready l p.record)
    (hrunning : p.record.status = .running) :
    (∃ r, EndsWell l p rank r outcome l') ∧ t.Plain := by
  obtain ⟨u, acknowledged, v, m, rfl, hacknowledge, hrest⟩ := h.of_bind
  obtain ⟨rfl, hplain, hkey, -, hmode, hrank⟩ := runOn_acknowledge hacknowledge hrunning
  obtain ⟨now, w, rfl, hnow⟩ := hrest.of_ask fun _ _ hm => hm
  obtain ⟨x, _, y, n, rfl, hsave, hdrop⟩ := hnow.of_bind
  obtain ⟨rfl, hplain'⟩ := runOn_save hsave hready hkey (Or.inr (by simp [Record.setDone]))
  have hhead : ∀ y, Trace.Plain y → Trace.Plain (u ++ ⟨.now, now⟩ :: (x ++ y)) := fun y hy =>
    hplain.append (Trace.Plain.cons ⟨rfl, rfl, rfl⟩ (hplain'.append hy))
  have hput : AgreeExcept acknowledged.key m (m.put (acknowledged.setDone now)) :=
    AgreeExcept.put m (acknowledged.setDone now)
  split at hdrop
  · next hnoLog =>
      obtain ⟨z, _, v, k, rfl, hdiscard, hend⟩ := hdrop.of_bind
      obtain ⟨rfl, rfl, rfl⟩ := hend.of_done
      obtain ⟨rfl, hplain''⟩ := runOn_discard hdiscard
      rw [List.append_nil]
      refine ⟨⟨_, rfl, hkey, rfl, rfl, rfl, hrank, hmode, ?_, hput.trans (AgreeExcept.erase _ _)⟩,
        hhead z hplain''⟩
      rw [if_pos hnoLog]
      exact Ledger.find?_erase_self _ _
  · next hlog =>
      obtain ⟨rfl, rfl, rfl⟩ := hdrop.of_done
      refine ⟨⟨_, rfl, hkey, rfl, rfl, rfl, hrank, hmode, ?_, hput⟩, hhead [] Trace.Plain.nil⟩
      rw [if_neg hlog]
      exact Ledger.find?_put_self _ _

/-! ## Sessions -/

/-- A transfer whose session was opened is ready and running. -/
theorem runOn_started {p' : Prepared} (h : RunOn l (started p) t p' l') (hready : Ready l p.record) :
    (Ready l' p'.record ∧ p'.record.status = .running) ∧ Continues p p' ∧
      AgreeExcept p.record.key l l' ∧ t.Plain := by
  obtain ⟨now, u, rfl, hnow⟩ := h.of_ask fun _ _ hm => hm
  obtain ⟨v, _, w, m, rfl, hsave, hdone⟩ := hnow.of_bind
  obtain ⟨rfl, rfl, rfl⟩ := hdone.of_done
  obtain ⟨rfl, hplain⟩ := runOn_save hsave hready rfl (Or.inl rfl)
  rw [List.append_nil]
  refine ⟨⟨⟨Ledger.find?_put_self _ _, ?_⟩, rfl⟩, ⟨rfl, rfl, rfl, rfl⟩,
      AgreeExcept.put l (p.record.setRunning now), ?_⟩
  · simp [Record.setRunning]
  · exact Trace.Plain.cons ⟨rfl, rfl, rfl⟩ hplain

/-- A transfer whose partner is too busy stays ready. -/
theorem runOn_noteOverload {p' : Prepared} (h : RunOn l (noteOverload p) t p' l')
    (hready : Ready l p.record) :
    Ready l' p'.record ∧ Continues p p' ∧ AgreeExcept p.record.key l l' ∧ t.Plain := by
  unfold noteOverload at h
  split at h
  · obtain ⟨rfl, rfl, rfl⟩ := h.of_done
    exact ⟨hready, Continues.refl _, AgreeExcept.refl _ _, Trace.Plain.nil⟩
  · obtain ⟨now, u, rfl, hnow⟩ := h.of_ask fun _ _ hm => hm
    obtain ⟨v, _, w, m, rfl, hsave, hdone⟩ := hnow.of_bind
    obtain ⟨rfl, rfl, rfl⟩ := hdone.of_done
    obtain ⟨rfl, hplain⟩ := runOn_save hsave hready rfl (Or.inl rfl)
    rw [List.append_nil]
    refine ⟨⟨Ledger.find?_put_self _ _, ?_⟩, ⟨rfl, rfl, rfl, rfl⟩,
      AgreeExcept.put l (p.record.setInError _ _ now), ?_⟩
    · simp [Record.setInError]
    · exact Trace.Plain.cons ⟨rfl, rfl, rfl⟩ hplain

/-- What has come of the attempts to open the session of a transfer. -/
inductive Reaches (l : Ledger) (p : Prepared) (t : Trace) :
    Except Outcome (Session × Prepared) → Ledger → Prop where
  | opened {session : Session} {p' : Prepared} {l' : Ledger} (ready : Ready l' p'.record)
      (running : p'.record.status = .running) (continues : Continues p p')
      (others : AgreeExcept p.record.key l l') (failures : t.failures = [])
      (completions : t.completions = []) :
      Reaches l p t (.ok (session, p')) l'
  | failed {outcome : Outcome} {r : Record} {l' : Ledger}
      (h : EndsInError l p r t outcome l') : Reaches l p t (.error outcome) l'

/-- What comes of a later stage comes of the transfer. -/
theorem EndsInError.of_continues {p' : Prepared} {m : Ledger} {r : Record} {u : Trace}
    {outcome : Outcome} (h : EndsInError m p' r u outcome l') (hcontinues : Continues p p')
    (hothers : AgreeExcept p.record.key l m) (ht : t.failures = []) :
    EndsInError l p r (t ++ u) outcome l' := by
  have hkey : r.key = p.record.key := h.key.trans hcontinues.key
  refine ⟨h.success, h.record, hkey, h.status, h.code, h.message, ?_, ?_, ?_⟩
  · rw [Trace.failures_append, ht, h.failures, List.nil_append]
  · rw [h.stored, hcontinues.noLog]
  · exact (hkey ▸ hothers).trans h.others

theorem Reaches.of_continues {p' : Prepared} {m : Ledger} {u : Trace}
    {result : Except Outcome (Session × Prepared)} (h : Reaches m p' u result l')
    (hcontinues : Continues p p') (hothers : AgreeExcept p.record.key l m)
    (hfailures : t.failures = []) (hcompletions : t.completions = []) :
    Reaches l p (t ++ u) result l' := by
  cases h with
  | opened ready running continues others failures completions =>
      refine Reaches.opened ready running (hcontinues.trans continues) ?_ ?_ ?_
      · exact hothers.trans (hcontinues.key ▸ others)
      · rw [Trace.failures_append, hfailures, failures, List.nil_append]
      · rw [Trace.completions_append, hcompletions, completions, List.nil_append]
  | failed h => exact Reaches.failed (h.of_continues hcontinues hothers hfailures)

theorem Reaches.cons {x : Exchange} {result : Except Outcome (Session × Prepared)}
    (h : Reaches l p t result l') (hfailures : Trace.failures [x] = [])
    (hcompletions : Trace.completions [x] = []) : Reaches l p (x :: t) result l' :=
  Reaches.of_continues (t := [x]) h (Continues.refl p) (AgreeExcept.refl _ l) hfailures
    hcompletions

variable {policy : Policy} {through : Through} {reason : String} {attempts overloads : Nat}
  {result : Except Outcome (Session × Prepared)}

theorem reaches_terminate {code : ResultCode} {cause : String} {outcome : Outcome}
    (h : RunOn l (terminate p code cause) t outcome l') (hready : Ready l p.record) :
    Reaches l p t (.error outcome) l' := by
  obtain ⟨r, hends⟩ := endsInError_terminate h hready
  exact Reaches.failed hends

/-- The attempts leave a ready transfer ready and running, or end it in error. -/
theorem reaches_tryConnect
    (h : RunOn l (tryConnect policy through p reason attempts overloads) t result l')
    (hready : Ready l p.record) : Reaches l p t result l' := by
  induction p, reason, attempts, overloads using tryConnect_induction generalizing t l with
  | spent p reason overloads =>
      obtain ⟨outcome, hterminate, rfl⟩ := run_tryConnect_zero h.1
      exact reaches_terminate ⟨hterminate, h.2⟩ hready
  | attempt p reason left overloads again patient =>
      obtain ⟨hrun, hkept⟩ := h
      cases attempt_of_run hrun with
      | connected hstarted =>
          obtain ⟨m, rfl, hkept'⟩ := hkept
          obtain ⟨⟨hready', hrunning⟩, hcontinues, hothers, hplain⟩ :=
            runOn_started ⟨hstarted, hkept'⟩ hready
          exact Reaches.opened hready' hrunning hcontinues hothers hplain.failures
            hplain.completions
      | exhausted hzero hterminate =>
          obtain ⟨m, rfl, hkept'⟩ := hkept
          exact (reaches_terminate ⟨hterminate, hkept'⟩ hready).cons rfl rfl
      | pending hne hagain =>
          obtain ⟨m, rfl, m, rfl, m, rfl, hkept'⟩ := hkept
          have hreaches := again _ ⟨hagain, hkept'⟩ hready
          exact ((hreaches.cons rfl rfl).cons rfl rfl).cons rfl rfl
      | givenUp hzero hnoted hterminate =>
          obtain ⟨m, rfl, hkept'⟩ := hkept
          obtain ⟨n, hfirst, hlast⟩ := kept_append.1 hkept'
          obtain ⟨hready', hcontinues, hothers, hplain⟩ :=
            runOn_noteOverload ⟨hnoted, hfirst⟩ hready
          have hreaches := reaches_terminate ⟨hterminate, hlast⟩ hready'
          have hnext := hreaches.of_continues hcontinues hothers hplain.failures hplain.completions
          exact hnext.cons rfl rfl
      | overloaded hsucc hnoted hagain =>
          obtain ⟨m, rfl, hkept'⟩ := hkept
          obtain ⟨n, hfirst, m, rfl, hlast⟩ := kept_append.1 hkept'
          obtain ⟨hready', hcontinues, hothers, hplain⟩ :=
            runOn_noteOverload ⟨hnoted, hfirst⟩ hready
          have hreaches := patient _ _ _ hsucc ⟨hagain, hlast⟩ hready'
          have hcons := hreaches.cons (x := ⟨.sleep policy.overloadBackoff, ()⟩) rfl rfl
          have hnext := hcons.of_continues hcontinues hothers hplain.failures hplain.completions
          exact hnext.cons rfl rfl
      | fatal hterminate =>
          obtain ⟨m, rfl, hkept'⟩ := hkept
          exact (reaches_terminate ⟨hterminate, hkept'⟩ hready).cons rfl rfl

theorem connects_tryConnect_ne_nil
    (h : Run (tryConnect policy through p reason (attempts + 1) overloads) t result) :
    t.connects ≠ [] := by
  cases attempt_of_run h <;> exact List.cons_ne_nil _ _

/-! ## Ends -/

/-- How a ready transfer ends. -/
inductive Finishes (l : Ledger) (p : Prepared) (t : Trace) (outcome : Outcome) (l' : Ledger) :
    Prop where
  | well {completion : Completion} {r : Record} (success : completion.success = true)
      (completions : t.completions = [.ok completion]) (failures : t.failures = [])
      (h : EndsWell l p completion.rank r outcome l') : Finishes l p t outcome l'
  | inError {r : Record} (h : EndsInError l p r t outcome l') : Finishes l p t outcome l'

theorem Finishes.of_continues {p' : Prepared} {m : Ledger} {u : Trace} {outcome : Outcome}
    (h : Finishes m p' u outcome l') (hcontinues : Continues p p')
    (hothers : AgreeExcept p.record.key l m) (hfailures : t.failures = [])
    (hcompletions : t.completions = []) : Finishes l p (t ++ u) outcome l' := by
  cases h with
  | well success completions failures h =>
      have hkey := h.key.trans hcontinues.key
      refine Finishes.well success ?_ ?_
        ⟨h.outcome, hkey, h.status, h.code, h.message, ?_, h.mode.trans hcontinues.mode, ?_, ?_⟩
      · rw [Trace.completions_append, hcompletions, completions, List.nil_append]
      · rw [Trace.failures_append, hfailures, failures, List.nil_append]
      · rw [h.rank, hcontinues.rank]
      · rw [h.stored, hcontinues.noLog]
      · exact (hkey ▸ hothers).trans h.others
  | inError h => exact Finishes.inError (h.of_continues hcontinues hothers hfailures)

/-- Either way the outcome is about the transfer, and nothing else has changed in the ledger. -/
theorem Finishes.record {outcome : Outcome} (h : Finishes l p t outcome l') :
    (∃ r, outcome.record = some r ∧ r.key = p.record.key) ∧ AgreeExcept p.record.key l l' := by
  cases h with
  | well success completions failures h =>
      obtain rfl := h.outcome
      exact ⟨⟨_, rfl, h.key⟩, h.key ▸ h.others⟩
  | inError h => exact ⟨⟨_, h.record, h.key⟩, h.key ▸ h.others⟩

/-- A running transfer ends as the transport reports. -/
theorem finishes_finish {session : Session} {outcome : Outcome}
    (h : RunOn l (finish policy session p) t outcome l') (hready : Ready l p.record)
    (hrunning : p.record.status = .running) : Finishes l p t outcome l' := by
  obtain ⟨answer, u, rfl, hanswer⟩ := h.of_ask fun _ _ hm => hm
  obtain ⟨_, v, rfl, hclosed⟩ := hanswer.of_ask fun _ _ hm => hm
  have hinError : ∀ {code cause}, RunOn l (terminate p code cause) v outcome l' →
      Finishes l p (⟨.complete session policy.completionTimeout, answer⟩ ::
        ⟨.close session, ()⟩ :: v) outcome l' := by
    intro code cause hterminate
    obtain ⟨r, hends⟩ := endsInError_terminate hterminate hready
    exact Finishes.inError (EndsInError.of_continues (t := [_, _]) hends (Continues.refl p)
      (AgreeExcept.refl _ l) rfl)
  cases answer with
  | error fault => exact hinError hclosed
  | ok completion =>
      by_cases hsuccess : completion.success = true
      · simp only [hsuccess, if_true] at hclosed
        obtain ⟨⟨r, hends⟩, hplain⟩ := endsWell_conclude hclosed hready hrunning
        refine Finishes.well hsuccess ?_ hplain.failures hends
        exact congrArg (List.cons _) hplain.completions
      · simp only [hsuccess] at hclosed
        exact hinError hclosed

/-- A ready transfer calls its partner, and ends well or in error. -/
theorem finishes_of_ready {outcome : Outcome}
    (h : RunOn l (do
      match ← connect policy through p with
      | .error outcome => return outcome
      | .ok (session, p) => finish policy session p) t outcome l') (hready : Ready l p.record) :
    Finishes l p t outcome l' ∧ t.connects ≠ [] := by
  obtain ⟨u, result, v, m, rfl, hconnect, hrest⟩ := h.of_bind
  obtain ⟨left, hleft⟩ := Nat.exists_eq_succ_of_ne_zero (Nat.pos_iff_ne_zero.1 policy.attempts_pos)
  have hconnects : Trace.connects (u ++ v) ≠ [] := by
    have hrun := hconnect.1
    rw [connect, hleft] at hrun
    rw [Trace.connects_append]
    exact List.append_ne_nil_of_left_ne_nil (connects_tryConnect_ne_nil hrun) _
  refine ⟨?_, hconnects⟩
  cases reaches_tryConnect hconnect hready with
  | opened ready running continues others failures completions =>
      exact (finishes_finish hrest ready running).of_continues continues others failures
        completions
  | failed h =>
      obtain ⟨rfl, rfl, rfl⟩ := hrest.of_done
      rw [List.append_nil]
      exact Finishes.inError h

end Delivery

end Courier
