import Mathlib.Data.List.Forall2
import Mathlib.Data.List.Induction
import Courier.Proofs.Delivery.Roles
import Courier.Proofs.Spool.Ending
import Courier.Spool.Service

/-!
# Exit statuses

A process that ends with status zero tells that all went well.  For a single dealing this is so
unless the transport reports a failure with the code of registration, whose place is zero: the
status of that failure is zero as well.  The tally of a batch and the service tell of many outcomes
what each of them tells.

Main definitions:

- `Outcome.IsFaithful` says that the exit status of an outcome tells whether it is a success.

Main statements:

- Outcomes of dealings are faithful when no failure is reported with the code of registration, a
  tally of faithful outcomes tells of the last failure, and a service of the first
  (`exitStatus_faithful`).
-/

namespace Courier

open Program

/-! ## Single outcomes -/

namespace Outcome

/-- Whether the exit status of an outcome is zero just when it is a success. -/
def IsFaithful (o : Outcome) : Prop :=
  o.exitStatus = 0 ↔ o.success = true

variable {o : Outcome}

theorem IsFaithful.ne_zero (h : o.IsFaithful) (hfailed : o.success = false) :
    o.exitStatus ≠ 0 := by
  intro hzero
  cases hfailed.symm.trans (h.1 hzero)

/-- An outcome is faithful unless it is a failure with the code of registration. -/
theorem isFaithful_iff_avoids : o.IsFaithful ↔ o.Avoids .initOk := by
  cases hsuccess : o.success with
  | true =>
      have hzero := exitStatus_of_success hsuccess
      exact ⟨fun _ => avoids_of_success hsuccess, fun _ => ⟨fun _ => hsuccess, fun _ => hzero⟩⟩
  | false =>
      rw [IsFaithful, exitStatus_of_failure hsuccess, ResultCode.ordinal_eq_zero_iff, hsuccess]
      constructor
      · intro h _ hcode
        cases h.1 hcode
      · exact fun h => ⟨fun hcode => absurd hcode (h hsuccess), fun hfalse => nomatch hfalse⟩

end Outcome

/-! ## Many outcomes -/

namespace Tally

/-- A failure stands for all outcomes before it, and a success changes nothing. -/
theorem exitStatus_add (t : Tally) (item : ItemOutcome) :
    (t.add item).exitStatus =
      if item.outcome.success then t.exitStatus else item.outcome.exitStatus := by
  unfold add
  split
  · rfl
  · rfl

variable {items before after : List ItemOutcome} {item : ItemOutcome}

/-- Successes change nothing. -/
theorem exitStatus_foldl_of_success (t : Tally) (h : ∀ i ∈ items, i.outcome.success = true) :
    (items.foldl add t).exitStatus = t.exitStatus := by
  induction items generalizing t with
  | nil => rfl
  | cons i items ih =>
      rw [List.forall_mem_cons] at h
      rw [List.foldl_cons, ih _ h.2, exitStatus_add, if_pos h.1]

/-- The last failure stands for the batch. -/
theorem exitStatus_of_last (hfailed : item.outcome.success = false)
    (hafter : ∀ i ∈ after, i.outcome.success = true) :
    ((before ++ item :: after).foldl add {}).exitStatus = item.outcome.exitStatus := by
  rw [List.foldl_append, List.foldl_cons, exitStatus_foldl_of_success _ hafter, exitStatus_add,
    if_neg (by simp [hfailed])]

theorem exitStatus_eq_zero_iff (hitems : ∀ i ∈ items, i.outcome.IsFaithful) :
    (items.foldl add {}).exitStatus = 0 ↔ ∀ i ∈ items, i.outcome.success = true := by
  induction items using List.reverseRecOn with
  | nil => exact ⟨fun _ => List.forall_mem_nil _, fun _ => rfl⟩
  | append_singleton items item ih =>
      rw [List.forall_mem_append] at hitems ⊢
      rw [List.foldl_append, List.foldl_cons, List.foldl_nil, exitStatus_add]
      have hitem := hitems.2 item List.mem_cons_self
      by_cases hsuccess : item.outcome.success = true
      · rw [if_pos hsuccess, ih hitems.1]
        simp [hsuccess]
      · have hne := hitem.ne_zero (by simpa using hsuccess)
        rw [if_neg hsuccess]
        simp [hne, hsuccess]

end Tally

namespace Service

variable {outcomes before after : List Outcome} {o : Outcome}

theorem addStatus_of_success (status : Nat) (h : o.success = true) :
    addStatus status o = status := by
  simp [addStatus, h]

theorem addStatus_of_failure (h : o.success = false) : addStatus 0 o = o.exitStatus := by
  simp [addStatus, h]

theorem addStatus_of_ne_zero {status : Nat} (h : status ≠ 0) (o : Outcome) :
    addStatus status o = status := by
  simp [addStatus, h]

/-- Once the status is not zero it stays. -/
theorem foldl_addStatus_of_ne_zero {status : Nat} (h : status ≠ 0) (outcomes : List Outcome) :
    outcomes.foldl addStatus status = status := by
  induction outcomes with
  | nil => rfl
  | cons o outcomes ih => rw [List.foldl_cons, addStatus_of_ne_zero h, ih]

theorem foldl_addStatus_of_success (status : Nat) (h : ∀ o ∈ outcomes, o.success = true) :
    outcomes.foldl addStatus status = status := by
  induction outcomes with
  | nil => rfl
  | cons o outcomes ih =>
      rw [List.forall_mem_cons] at h
      rw [List.foldl_cons, addStatus_of_success _ h.1, ih h.2]

/-- The first failure stands for the service. -/
theorem exitStatus_of_first (hbefore : ∀ o ∈ before, o.success = true)
    (hfailed : o.success = false) (ho : o.IsFaithful) :
    exitStatus (before ++ o :: after) = o.exitStatus := by
  rw [exitStatus, List.foldl_append, foldl_addStatus_of_success _ hbefore, List.foldl_cons,
    addStatus_of_failure hfailed, foldl_addStatus_of_ne_zero (ho.ne_zero hfailed)]

theorem exitStatus_eq_zero_iff (houtcomes : ∀ o ∈ outcomes, o.IsFaithful) :
    exitStatus outcomes = 0 ↔ ∀ o ∈ outcomes, o.success = true := by
  constructor
  · intro hzero
    by_contra hfailure
    have hfind : ((outcomes.find? fun o => !o.success).isSome) = true := by
      simpa [List.find?_isSome] using hfailure
    obtain ⟨o, ho⟩ := Option.isSome_iff_exists.1 hfind
    obtain ⟨hfailed, before, after, rfl, hbefore⟩ := List.find?_eq_some_iff_append.1 ho
    have hfailed' : o.success = false := by simpa using hfailed
    have hfaithful := houtcomes o (by simp)
    rw [exitStatus_of_first (by simpa using hbefore) hfailed' hfaithful] at hzero
    exact hfaithful.ne_zero hfailed' hzero
  · exact foldl_addStatus_of_success 0

end Service

/-! ## Where outcomes come from -/

/-- A dealing is faithful when the transport reports no failure with the code of registration. -/
theorem Dealing.isFaithful {ctx : Context} {d : Dealing} {t : Trace} {o : Outcome}
    (h : Run (d.program ctx) t (some o)) (ht : ∀ x ∈ t, x.Spares .initOk) : o.IsFaithful := by
  rw [Outcome.isFaithful_iff_avoids]
  exact (yields_program (by decide) ctx d).value h ht o rfl

/-- The outcome of a job is faithful, whatever its transfers come to. -/
theorem Watch.Concludes.isFaithful {ctx : Context} {job : Job} {o : Outcome}
    (h : Watch.Concludes ctx job o) : o.IsFaithful := by
  rw [Outcome.isFaithful_iff_avoids]
  rcases h.isVerdict with rfl | ⟨cause, rfl⟩
  · exact Outcome.avoids_of_success rfl
  · exact Outcome.avoids_failed (by decide)

/-- Status zero means success: for every dealing in which the transport reports no failure with the
code of registration, for every tally of faithful outcomes, where the last failure stands for all,
and for the jobs of a service, where the first one does. -/
theorem exitStatus_faithful (ctx : Context) :
    (∀ (d : Dealing) (t : Trace) (o : Outcome),
      Run (d.program ctx) t (some o) → (∀ x ∈ t, x.failureCode? ≠ some .initOk) →
        (o.exitStatus = 0 ↔ o.success = true)) ∧
    (∀ items : List ItemOutcome, (∀ i ∈ items, i.outcome.IsFaithful) →
      ((items.foldl Tally.add {}).exitStatus = 0 ↔ ∀ i ∈ items, i.outcome.success = true) ∧
      ∀ before item after, items = before ++ item :: after → item.outcome.success = false →
        (∀ i ∈ after, i.outcome.success = true) →
        (items.foldl Tally.add {}).exitStatus = item.outcome.exitStatus ∧
          item.outcome.exitStatus ≠ 0) ∧
    (∀ (jobs : List Job) (outcomes : List Outcome),
      List.Forall₂ (Watch.Concludes ctx) jobs outcomes →
      (Service.exitStatus outcomes = 0 ↔ ∀ o ∈ outcomes, o.success = true) ∧
      ∀ before o after, outcomes = before ++ o :: after → o.success = false →
        (∀ o ∈ before, o.success = true) →
        Service.exitStatus outcomes = o.exitStatus ∧ o.exitStatus ≠ 0) := by
  refine ⟨fun d t o h ht => Dealing.isFaithful h ht, ?_, ?_⟩
  · intro items hitems
    refine ⟨Tally.exitStatus_eq_zero_iff hitems, ?_⟩
    rintro before item after rfl hfailed hafter
    have hitem := hitems item (by simp)
    exact ⟨Tally.exitStatus_of_last hfailed hafter, hitem.ne_zero hfailed⟩
  · intro jobs outcomes hjobs
    have houtcomes : ∀ o ∈ outcomes, o.IsFaithful := by
      intro o ho
      obtain ⟨i, hi, rfl⟩ := List.getElem_of_mem ho
      exact (hjobs.get (hjobs.length_eq ▸ hi) hi).isFaithful
    refine ⟨Service.exitStatus_eq_zero_iff houtcomes, ?_⟩
    rintro before o after rfl hfailed hbefore
    have ho := houtcomes o (by simp)
    exact ⟨Service.exitStatus_of_first hbefore hfailed ho, ho.ne_zero hfailed⟩

/-! ## A partner that refuses -/

/-- What happens when a filed transfer is carried out and the partner refuses it with a code. -/
def sampleRefusal (code : ResultCode) : Trace :=
  [⟨.ledger (.load Intervention.sampleKey), some Operation.sampleRecord⟩,
    ⟨.ledger (.update Operation.sampleRecord), .ok ()⟩,
    ⟨.connect ⟨Intervention.samplePeer, some Operation.sampleRecord, .none⟩, .fatal code "refused"⟩,
    ⟨.now, Intervention.sampleNow⟩,
    ⟨.ledger (.update (Operation.sampleRecord.setInError code (some "refused")
      Intervention.sampleNow)), .ok ()⟩,
    ⟨.reportFailure (Operation.sampleRecord.setInError code (some "refused")
      Intervention.sampleNow), ()⟩]

/-- The outcome then. -/
def sampleRefused (code : ResultCode) : Outcome :=
  .failed code "refused" (some (Operation.sampleRecord.setInError code (some "refused")
    Intervention.sampleNow))

theorem run_sampleRefusal (code : ResultCode) :
    Run ((Dealing.run Operation.sampleOrder).program Intervention.sampleContext)
      (sampleRefusal code) (some (sampleRefused code)) := by
  have hprepare : Run (Preparation.prepare Intervention.sampleContext Operation.sampleOrder .direct)
      ((sampleRefusal code).take 2)
      (.ok ⟨Intervention.samplePeer, Operation.sampleRecord, false⟩) :=
    Run.step (Run.step (Run.done _))
  have hconnect : Run (Delivery.connect Intervention.sampleContext.policy .none
      ⟨Intervention.samplePeer, Operation.sampleRecord, false⟩) ((sampleRefusal code).drop 2)
      (.error (sampleRefused code)) := by
    rw [Delivery.connect, show Intervention.sampleContext.policy.attempts = 2 + 1 from rfl,
      Delivery.tryConnect]
    exact Run.step (Run.step (Run.step (Run.step (Run.done _))))
  have hrun : Run (Delivery.run Intervention.sampleContext Operation.sampleOrder)
      (sampleRefusal code) (sampleRefused code) :=
    Run.bind_iff.2 ⟨_, _, _, rfl, hprepare,
      Run.bind_iff.2 ⟨_, _, [], (List.append_nil _).symm, hconnect, Run.done _⟩⟩
  exact Run.map_iff.2 ⟨_, rfl, hrun⟩

/-- A batch of which only the second transfer goes well. -/
def sampleItems : List ItemOutcome :=
  [⟨"there", "a", sampleRefused .badAuthent⟩, ⟨"there", "b", .succeeded .completeOk none⟩]

theorem isFaithful_sampleItems : ∀ i ∈ sampleItems, i.outcome.IsFaithful := by
  unfold Outcome.IsFaithful
  decide

/-- A job that no directory was named for. -/
def sampleBareJob : Job :=
  { (default : Job) with name := "bare", directories := [] }

theorem concludes_sampleBareJob :
    Watch.Concludes Intervention.sampleContext sampleBareJob
      (Watch.failure (sampleBareJob.invalid "no directory to watch").message) := by
  have hstart : Run (Watch.start Intervention.sampleContext sampleBareJob 0) []
      (.error (Watch.failure (sampleBareJob.invalid "no directory to watch").message)) :=
    Run.done _
  exact .refused hstart

theorem exitStatus_faithful_sample :
    Run ((Dealing.run Operation.sampleOrder).program Intervention.sampleContext)
      (sampleRefusal .badAuthent) (some (sampleRefused .badAuthent)) ∧
    ((sampleRefused .badAuthent).exitStatus = 0 ↔ (sampleRefused .badAuthent).success = true) ∧
    (sampleItems.foldl Tally.add {}).exitStatus = (sampleRefused .badAuthent).exitStatus ∧
    Service.exitStatus [Watch.failure (sampleBareJob.invalid "no directory to watch").message] ≠
      0 := by
  refine ⟨run_sampleRefusal _, ?_, ?_, ?_⟩
  · refine (exitStatus_faithful _).1 _ _ _ (run_sampleRefusal .badAuthent) ?_
    decide
  · have hlast := ((exitStatus_faithful Intervention.sampleContext).2.1 _
      isFaithful_sampleItems).2 [] _ [_] rfl rfl
      (List.forall_mem_singleton.2 rfl)
    exact hlast.1
  · have hfirst := ((exitStatus_faithful _).2.2 _ _ (.cons concludes_sampleBareJob .nil)).2 [] _ []
      rfl rfl (List.forall_mem_nil _)
    rw [hfirst.1]
    exact hfirst.2

end Courier
