import Courier.Proofs.Delivery.Discipline
import Courier.Proofs.Delivery.Preparation
import Courier.Proofs.Delivery.Requests
import Courier.Proofs.Delivery.Stages

/-!
# Transience of streams

The record of a stream is marked as one that does not outlive its transfer.  However a stream
fails once its partner was called, at the attempts to reach the partner, at a block, at its end
or because the caller gave it up, its record is taken out of the ledger.  The invariant that
carries a stream from call to call is that the ledger holds its record, marked and running.

Main definitions:

- `Stream.Streams` says how the ledger holds the record of a stream.
- `Stream.Dropped` and `Stream.Filed` say how a stream that failed, and one that went well,
  leaves its record, the ledger and the trace; `Stream.Settles` that it is left in one of the
  two ways.
- `Stream.Sender.Rests` is what the state of a sender says about the ledger between calls, and
  `Stream.Sender.Treats` what one call does to the ledger.
- `Stream.Sender.Leaves` collects what a call on a sender leaves in the ledger.

Main statements:

- Every call keeps the invariant (`Sender.treats_of_runOn`, `Sender.Treats.rests`).
- No record of a stream that failed is left, whatever the calls and whatever the transport
  answers (`streams_transient`).
-/

namespace Courier

open Program

/-! ## Marked records -/

namespace Delivery

/-- Whether the record of an outcome is marked as one that does not outlive its transfer. -/
def Marked (outcome : Outcome) : Prop :=
  ∀ r, outcome.record = some r → r.ignoreSave = true

variable {p : Prepared}

/-- A transfer that fails gives back a record that is marked as before. -/
theorem marked_terminate (hp : p.record.ignoreSave = true) (code : ResultCode) (cause : String) :
    Ensures (fun _ => True) Marked (terminate p code cause) := by
  have hfinal : Ensures (fun _ => True) (fun r => r.ignoreSave = true)
      (finalizeInError p.record code cause) := by
    unfold finalizeInError
    split
    · exact ensures_done hp
    · refine ensures_ask trivial fun now => ?_
      refine ensures_bind (Q := fun _ => True) (ensures_ask trivial fun _ => trivial) fun _ _ => ?_
      exact ensures_ask trivial fun _ => ensures_done hp
  refine ensures_bind hfinal fun r hr => ?_
  have hmarked : Marked (.failed code cause (some r)) := by
    intro s hs
    obtain rfl := Option.some.inj hs
    exact hr
  split
  · exact ensures_bind (Q := fun _ => True) (ensures_ask trivial fun _ => trivial)
      fun _ _ => ensures_done hmarked
  · exact ensures_done hmarked

/-- What the attempts to reach a partner give back is marked as before. -/
def MarkedResult : Except Outcome (Session × Prepared) → Prop
  | .ok (_, p) => p.record.ignoreSave = true
  | .error outcome => Marked outcome

/-- The attempts to open a session keep the mark of a record. -/
theorem marked_tryConnect (hp : p.record.ignoreSave = true) (policy : Policy) (through : Through)
    (reason : String) (attempts overloads : Nat) :
    Ensures (fun _ => True) MarkedResult
      (tryConnect policy through p reason attempts overloads) := by
  have hends : ∀ {p : Prepared} {code cause}, p.record.ignoreSave = true →
      Ensures (fun _ => True) MarkedResult
        (terminate p code cause >>= fun outcome => .done (.error outcome)) := fun hp =>
    ensures_bind (marked_terminate hp _ _) fun _ houtcome => ensures_done houtcome
  induction p, reason, attempts, overloads using tryConnect_induction with
  | spent p reason overloads =>
      rw [tryConnect]
      exact hends hp
  | attempt p reason left overloads again patient =>
      rw [tryConnect]
      refine ensures_ask trivial fun result => ?_
      cases result with
      | connected session =>
          refine ensures_bind (Q := fun p' : Prepared => p'.record.ignoreSave = true) ?_
            fun p' hp' => ensures_done hp'
          exact ensures_ask trivial fun _ => ensures_bind (Q := fun _ => True)
            (ensures_ask trivial fun _ => trivial) fun _ _ => ensures_done hp
      | fatal code message => exact hends hp
      | pending reason =>
          dsimp only
          split
          · refine ensures_bind (Q := fun _ => True) (ensures_ask trivial fun _ => trivial)
              fun delay _ => ?_
            exact ensures_ask trivial fun _ => again reason hp
          · exact again reason hp
      | overloaded =>
          have hnoted : Ensures (fun _ => True) (fun p' => p'.record.ignoreSave = true)
              (noteOverload p) := by
            unfold noteOverload
            split
            · exact ensures_done hp
            · exact ensures_ask trivial fun _ => ensures_bind (Q := fun _ => True)
                (ensures_ask trivial fun _ => trivial) fun _ _ => ensures_done hp
          refine ensures_bind hnoted fun noted hp' => ?_
          cases overloads with
          | zero => exact hends hp'
          | succ fewer => exact ensures_ask trivial fun _ => patient noted reason fewer rfl hp'

end Delivery

/-! ## Streams and their ends -/

namespace Stream

open Delivery Preparation

/-- How the ledger holds the record of the stream that an order means: it can still be changed,
and it is marked as one that does not outlive the transfer. -/
structure Streams (ctx : Context) (order : Order) (l : Ledger) (p : Prepared) (m : Ledger) :
    Prop where
  key : orderedKey? ctx order l = some p.record.key
  ready : Ready m p.record
  transient : p.record.ignoreSave = true
  noLog : p.noLog = order.noLog
  others : AgreeExcept p.record.key l m

/-- A stream fails: its failure was reported once, and the ledger holds nothing under its key. -/
structure Dropped (ctx : Context) (order : Order) (l : Ledger) (r : Record) (t : Trace)
    (outcome : Outcome) (l' : Ledger) : Prop where
  failure : outcome.success = false
  record : outcome.record = some r
  key : orderedKey? ctx order l = some r.key
  failures : t.failures = [r]
  dropped : l'.find? r.key = none
  others : AgreeExcept r.key l l'

/-- A stream goes well: no failure was reported, and the ledger holds its record, which is done,
unless the order asks for no log. -/
structure Filed (ctx : Context) (order : Order) (l : Ledger) (r : Record) (t : Trace)
    (outcome : Outcome) (l' : Ledger) : Prop where
  success : outcome.success = true
  record : outcome.record = some r
  key : orderedKey? ctx order l = some r.key
  status : r.status = .done
  failures : t.failures = []
  stored : l'.find? r.key = if order.noLog then none else some r
  others : AgreeExcept r.key l l'

/-- The ways in which a stream ends whose partner was called. -/
inductive Settles (ctx : Context) (order : Order) (l : Ledger) (t : Trace) (outcome : Outcome)
    (l' : Ledger) : Prop where
  | dropped {r : Record} (h : Dropped ctx order l r t outcome l')
  | filed {r : Record} (h : Filed ctx order l r t outcome l')

variable {ctx : Context} {order : Order} {l m l' : Ledger} {p : Prepared} {r : Record}
  {before t : Trace} {outcome : Outcome}

/-- What was asked before counts as well, as long as it was no report of a failure. -/
theorem Dropped.prepend {u : Trace} (h : Dropped ctx order l r t outcome l')
    (hu : u.failures = []) :
    Dropped ctx order l r (u ++ t) outcome l' := by
  refine { h with failures := ?_ }
  rw [Trace.failures_append, hu, h.failures, List.nil_append]

/-- A trace without failures may stand in front. -/
theorem Filed.prepend {u : Trace} (h : Filed ctx order l r t outcome l') (hu : u.failures = []) :
    Filed ctx order l r (u ++ t) outcome l' := by
  refine { h with failures := ?_ }
  rw [Trace.failures_append, hu, h.failures, List.nil_append]

theorem Settles.prepend {u : Trace} (h : Settles ctx order l t outcome l') (hu : u.failures = []) :
    Settles ctx order l (u ++ t) outcome l' := by
  cases h with
  | dropped h => exact .dropped (h.prepend hu)
  | filed h => exact .filed (h.prepend hu)

/-- A stream that is settled has told the hook once at most. -/
theorem Settles.failures_le (h : Settles ctx order l t outcome l') : t.failures.length ≤ 1 := by
  cases h with
  | dropped h => simp [h.failures]
  | filed h => simp [h.failures]

namespace Streams

/-- An end in error takes the marked record out of the ledger. -/
theorem dropped_of_endsInError (h : Streams ctx order l p m)
    (hends : EndsInError m p r t outcome l') (hmarked : Marked outcome) :
    Dropped ctx order l r t outcome l' := by
  have hkey : r.key = p.record.key := hends.key
  refine ⟨hends.success, hends.record, ?_, hends.failures, ?_, ?_⟩
  · rw [h.key, hkey]
  · rw [hends.stored, hmarked r hends.record, Bool.or_true, if_pos rfl]
  · have hbefore : AgreeExcept r.key l m := hkey ▸ h.others
    exact hbefore.trans hends.others

/-- A marked record that fails is taken out. -/
theorem dropped_terminate (h : Streams ctx order l p m) {code : ResultCode} {cause : String}
    (hrun : RunOn m (terminate p code cause) t outcome l') :
    ∃ r, Dropped ctx order l r t outcome l' := by
  obtain ⟨r, hends⟩ := endsInError_terminate hrun h.ready
  have hmarked := (marked_terminate h.transient code cause).value hrun.1
  exact ⟨r, h.dropped_of_endsInError hends hmarked⟩

/-- An end that went well files the record unless no log is asked for. -/
theorem filed_conclude (h : Streams ctx order l p m) (hrunning : p.record.status = .running)
    {rank : Option Nat} (hrun : RunOn m (conclude p rank) t outcome l') :
    ∃ r, Filed ctx order l r t outcome l' := by
  obtain ⟨⟨r, hends⟩, hplain⟩ := endsWell_conclude hrun h.ready hrunning
  have hkey : r.key = p.record.key := hends.key
  have houtcome := hends.outcome
  refine ⟨r, ?_, ?_, ?_, hends.status, hplain.failures, ?_, ?_⟩
  · rw [houtcome]
    rfl
  · rw [houtcome]
    rfl
  · rw [h.key, hkey]
  · rw [hends.stored, h.noLog]
  · have hbefore : AgreeExcept r.key l m := hkey ▸ h.others
    exact hbefore.trans hends.others

end Streams

/-! ## Beginning a stream -/

/-- What has come of preparing a stream and of the attempts to open its session. -/
inductive Begins (ctx : Context) (order : Order) (l : Ledger) (t : Trace) :
    Except Outcome (Session × Prepared) → Ledger → Prop where
  | opened {session : Session} {p : Prepared} {l' : Ledger} (streams : Streams ctx order l p l')
      (running : p.record.status = .running) (failures : t.failures = []) :
      Begins ctx order l t (.ok (session, p)) l'
  | dropped {r : Record} {outcome : Outcome} {l' : Ledger}
      (h : Dropped ctx order l r t outcome l') : Begins ctx order l t (.error outcome) l'

/-- A stream that was prepared has a marked record. -/
theorem streams_of_holds {kind : Kind} (h : Holds ctx order kind l p.record m)
    (hnoLog : p.noLog = order.noLog) (htransient : p.record.ignoreSave = true) :
    Streams ctx order l p m :=
  ⟨h.key, h.ready, htransient, hnoLog, h.others⟩

/-- The partner of a prepared stream is called, and the stream runs then or is dropped. -/
theorem begins_connect {through : Through} {result : Except Outcome (Session × Prepared)}
    (h : Streams ctx order l p m) (hrun : RunOn m (connect ctx.policy through p) t result l') :
    Begins ctx order l t result l' ∧ t.connects ≠ [] := by
  have hmarked := (marked_tryConnect h.transient ctx.policy through _ _ _).value hrun.1
  constructor
  · cases reaches_tryConnect hrun h.ready with
    | opened ready running continues others failures completions =>
        refine .opened ⟨?_, ready, hmarked, continues.noLog.trans h.noLog, ?_⟩ running failures
        · rw [h.key, continues.key]
        · rw [continues.key]
          exact h.others.trans others
    | failed hends => exact .dropped (h.dropped_of_endsInError hends hmarked)
  · obtain ⟨left, hleft⟩ :=
      Nat.exists_eq_succ_of_ne_zero (Nat.pos_iff_ne_zero.1 ctx.policy.attempts_pos)
    have hconnect := hrun.1
    rw [connect, hleft] at hconnect
    exact connects_tryConnect_ne_nil hconnect

/-! ## Receivers -/

/-- A running stream that is received settles as the transport reports. -/
theorem settles_finish {session : Session} (h : Streams ctx order l p m)
    (hrunning : p.record.status = .running)
    (hrun : RunOn m (finish ctx.policy session p) t outcome l') :
    Settles ctx order l t outcome l' := by
  obtain ⟨answer, u, rfl, hanswer⟩ := hrun.of_ask fun _ _ hm => hm
  obtain ⟨_, v, rfl, hclosed⟩ := hanswer.of_ask fun _ _ hm => hm
  refine Settles.prepend (u := [_, _]) ?_ rfl
  cases answer with
  | error fault =>
      obtain ⟨r, hdropped⟩ := h.dropped_terminate hclosed
      exact .dropped hdropped
  | ok completion =>
      by_cases hsuccess : completion.success = true
      · simp only [hsuccess, if_true] at hclosed
        obtain ⟨r, hfiled⟩ := h.filed_conclude hrunning hclosed
        exact .filed hfiled
      · simp only [hsuccess] at hclosed
        obtain ⟨r, hdropped⟩ := h.dropped_terminate hclosed
        exact .dropped hdropped

/-- How an order whose blocks go to the caller ends: it is refused before anybody was called and
nothing has changed, or it settles. -/
inductive Receives (ctx : Context) (order : Order) (l : Ledger) (t : Trace) (outcome : Outcome)
    (l' : Ledger) : Prop where
  | refused (failure : outcome.success = false) (connects : t.connects = [])
      (failures : t.failures = []) (unchanged : l' = l)
  | settled (connects : t.connects ≠ []) (h : Settles ctx order l t outcome l')

/-- A refusal is a failure. -/
theorem failure_of_refusal {kind : Kind} (h : Refusal ctx order kind l outcome) :
    outcome.success = false := by
  cases h <;> rfl

/-- A stream is received under a record that is marked from the beginning. -/
theorem receives_of_runOn (hrun : RunOn l (receive ctx order) t outcome l') :
    Receives ctx order l t outcome l' := by
  obtain ⟨u, result, v, m, rfl, hprepare, hrest⟩ := hrun.of_bind
  obtain ⟨hprepares, hplain⟩ := prepares_prepare hprepare
  cases hprepares with
  | refused hrefusal =>
      obtain ⟨rfl, rfl, rfl⟩ := hrest.of_done
      rw [List.append_nil]
      exact .refused (failure_of_refusal hrefusal) hplain.connects hplain.failures rfl
  | ready hholds hnoLog htransient =>
      have hstreams := streams_of_holds hholds hnoLog (htransient rfl)
      obtain ⟨w, opened, x, n, rfl, hconnect, hend⟩ := hrest.of_bind
      obtain ⟨hbegins, hconnects⟩ := begins_connect hstreams hconnect
      refine .settled ?_ ?_
      · rw [Trace.connects_append, Trace.connects_append]
        exact List.append_ne_nil_of_right_ne_nil _
          (List.append_ne_nil_of_left_ne_nil hconnects _)
      · refine Settles.prepend ?_ hplain.failures
        cases hbegins with
        | opened streams running failures =>
            exact (settles_finish streams running hend).prepend failures
        | dropped hdropped =>
            obtain ⟨rfl, rfl, rfl⟩ := hend.of_done
            rw [List.append_nil]
            exact .dropped hdropped

/-! ## Calls on a sender -/

namespace Sender

/-- What the state of a sender says between calls about the ledger and about what was asked. -/
inductive Rests (ctx : Context) (l : Ledger) (s : Sender) (before : Trace) (m : Ledger) : Prop where
  /-- Nothing was done yet. -/
  | fresh (inactive : s.active = none) (unfinished : s.finished = false) (same : m = l)
      (failures : before.failures = [])
  | running {a : Active} (active : s.active = some a)
      (streams : Streams ctx s.order l a.prepared m)
      (running : a.prepared.record.status = .running) (failures : before.failures = [])
  | past (inactive : s.active = none) (finished : s.finished = true)
      (once : before.failures.length ≤ 1)

/-- What one call does to the ledger. -/
inductive Treats (ctx : Context) (l m : Ledger) (s : Sender) : Turn → Sender → Ledger → Prop where
  /-- Neither a stream is begun nor an open one ended. -/
  | idle {turn : Turn} {s' : Sender} (plain : turn.trace.Plain)
      (order : s'.order = s.order) (finished : s'.finished = s.finished)
      (prepared : s'.active.map Active.prepared = s.active.map Active.prepared)
      (unended : s.active ≠ none → turn.call.ends = false) : Treats ctx l m s turn s' m
  | begun {a : Active} {t : Trace} {l' : Ledger} (inactive : s.active = none)
      (unfinished : s.finished = false) (connects : t.connects ≠ [])
      (streams : Streams ctx s.order l a.prepared l')
      (running : a.prepared.record.status = .running) (failures : t.failures = []) :
      Treats ctx l m s ⟨.initiate, .initiated (.ok ()), t⟩ { s with active := some a } l'
  | unopened {r : Record} {t : Trace} {outcome : Outcome} {l' : Ledger}
      (inactive : s.active = none) (unfinished : s.finished = false) (connects : t.connects ≠ [])
      (h : Dropped ctx s.order l r t outcome l') :
      Treats ctx l m s ⟨.initiate, .initiated (.error outcome), t⟩ { s with finished := true } l'
  | ended {a : Active} {call : Call} {t : Trace} {outcome : Outcome} {l' : Ledger}
      (active : s.active = some a) (ends : call.ends = true)
      (h : Settles ctx s.order l t outcome l') :
      Treats ctx l m s ⟨call, .ended outcome, t⟩ { s with active := none, finished := true } l'

variable {s s' : Sender} {a : Active} {turn : Turn}

/-! ### Ending a stream -/

/-- A stream that is broken off is settled. -/
theorem settles_abort (h : Streams ctx order l a.prepared m) {code : ResultCode} {cause : String}
    (hrun : RunOn m (abort a code cause) t outcome l') : Settles ctx order l t outcome l' := by
  obtain ⟨result, u, rfl, hclose⟩ := hrun.of_ask fun _ _ hm => hm
  obtain ⟨_, v, rfl, hterminate⟩ := hclose.of_ask fun _ _ hm => hm
  obtain ⟨r, hdropped⟩ := h.dropped_terminate hterminate
  exact Settles.prepend (u := [_, _]) (.dropped hdropped) rfl

/-- A stream whose completion is acknowledged is settled, well or not. -/
theorem settles_acknowledge (h : Streams ctx order l a.prepared m)
    (hrunning : a.prepared.record.status = .running) {lastRank : Nat} {completion : Completion}
    (hrun : RunOn m (acknowledge a lastRank completion) t outcome l') :
    Settles ctx order l t outcome l' := by
  obtain ⟨result, u, rfl, hrest⟩ := hrun.of_ask fun _ _ hm => hm
  refine Settles.prepend (u := [_]) ?_ rfl
  cases result with
  | error fault => exact settles_abort h hrest
  | ok _ =>
      obtain ⟨_, v, rfl, hconclude⟩ := hrest.of_ask fun _ _ hm => hm
      obtain ⟨r, hfiled⟩ := h.filed_conclude hrunning hconclude
      exact Settles.prepend (u := [_]) (.filed hfiled) rfl

/-- So is one that is concluded. -/
theorem settles_conclude (h : Streams ctx order l a.prepared m)
    (hrunning : a.prepared.record.status = .running)
    (hrun : RunOn m (conclude ctx a) t outcome l') : Settles ctx order l t outcome l' := by
  obtain ⟨result, u, rfl, hrest⟩ := hrun.of_ask fun _ _ hm => hm
  refine Settles.prepend (u := [_]) ?_ rfl
  cases result with
  | error fault => exact settles_abort h hrest
  | ok _ =>
      obtain ⟨report, v, rfl, hreported⟩ := hrest.of_ask fun _ _ hm => hm
      refine Settles.prepend (u := [_]) ?_ rfl
      cases report with
      | error fault => exact settles_abort h hreported
      | ok completion =>
          by_cases hsuccess : completion.success = true
          · simp only [hsuccess, if_true] at hreported
            exact settles_acknowledge h hrunning hreported
          · simp only [hsuccess] at hreported
            exact settles_abort h hreported

/-- Sending a block leaves the ledger alone. -/
theorem runOn_sendBlock {session : Session} {b : Block} {result : Except SessionFault Unit}
    (hrun : RunOn m (sendBlock session b) t result l') : l' = m ∧ t.Plain := by
  obtain ⟨taken, u, rfl, hrest⟩ := hrun.of_ask fun _ _ hm => hm
  cases taken with
  | error fault =>
      obtain ⟨rfl, -, rfl⟩ := hrest.of_done
      exact ⟨rfl, rfl, rfl, rfl⟩
  | ok _ =>
      have hsend : RunOn m (perform (.send session (.data b) true) >>= .done) u result l' := hrest
      obtain ⟨answer, v, rfl, hdone⟩ := hsend.of_ask fun _ _ hm => hm
      obtain ⟨rfl, -, rfl⟩ := hdone.of_done
      exact ⟨rfl, rfl, rfl, rfl⟩

/-- The last block of a stream is sent without the ledger. -/
theorem runOn_ensureEnd {result : Except SessionFault Active}
    (hrun : RunOn m (ensureEnd a) t result l') :
    l' = m ∧ t.Plain ∧ ∀ a', result = .ok a' → a'.prepared = a.prepared := by
  unfold ensureEnd at hrun
  split at hrun
  · obtain ⟨rfl, rfl, rfl⟩ := hrun.of_done
    refine ⟨rfl, Trace.Plain.nil, fun a' ha' => ?_⟩
    obtain rfl := Except.ok.inj ha'
    rfl
  · obtain ⟨u, sent, v, n, rfl, hsend, hdone⟩ := hrun.of_bind
    obtain ⟨rfl, hplain⟩ := runOn_sendBlock hsend
    cases sent with
    | error fault =>
        obtain ⟨rfl, rfl, rfl⟩ := hdone.of_done
        rw [List.append_nil]
        refine ⟨rfl, hplain, fun a' ha' => ?_⟩
        cases ha'
    | ok _ =>
        obtain ⟨rfl, rfl, rfl⟩ := hdone.of_done
        rw [List.append_nil]
        refine ⟨rfl, hplain, fun a' ha' => ?_⟩
        obtain rfl := Except.ok.inj ha'
        rfl

/-- Ending an open stream settles it. -/
theorem settles_finalize (hactive : s.active = some a) (h : Streams ctx order l a.prepared m)
    (hrunning : a.prepared.record.status = .running)
    (hrun : RunOn m (s.finalize ctx) t (outcome, s') l') :
    Settles ctx order l t outcome l' ∧ s' = { s with active := none, finished := true } := by
  simp only [finalize, hactive] at hrun
  obtain ⟨u, result, v, n, rfl, hensure, hrest⟩ := hrun.of_bind
  obtain ⟨rfl, hplain, hprepared⟩ := runOn_ensureEnd hensure
  cases result with
  | error fault =>
      obtain ⟨outcome, heq, habort⟩ := hrest.of_map
      obtain ⟨rfl, rfl⟩ := Prod.mk.inj heq
      exact ⟨(settles_abort h habort).prepend hplain.failures, rfl⟩
  | ok a' =>
      have hsame := hprepared a' rfl
      obtain ⟨outcome, heq, hconclude⟩ := hrest.of_map
      obtain ⟨rfl, rfl⟩ := Prod.mk.inj heq
      refine ⟨?_, rfl⟩
      rw [← hsame] at h hrunning
      exact (settles_conclude h hrunning hconclude).prepend hplain.failures

/-- A stream that is given up is settled, and its sender has finished. -/
theorem settles_giveUp (hactive : s.active = some a) (h : Streams ctx order l a.prepared m)
    {cause : String} (hrun : RunOn m (s.giveUp cause) t (outcome, s') l') :
    Settles ctx order l t outcome l' ∧ s' = { s with active := none, finished := true } := by
  simp only [giveUp, hactive] at hrun
  obtain ⟨outcome, heq, habort⟩ := hrun.of_map
  obtain ⟨rfl, rfl⟩ := Prod.mk.inj heq
  exact ⟨settles_abort h habort, rfl⟩

/-! ### Beginning a stream -/

/-- A call that begins a stream begins it under one marked record, or leaves none. -/
theorem treats_initiate {result : Except Outcome Unit} (hrests : Rests ctx l s before m)
    (hrun : RunOn m (s.initiate ctx) t (result, s') l') :
    Treats ctx l m s ⟨.initiate, .initiated result, t⟩ s' l' := by
  unfold initiate at hrun
  split at hrun
  · obtain ⟨rfl, heq, rfl⟩ := hrun.of_done
    obtain ⟨rfl, rfl⟩ := Prod.mk.inj heq
    exact .idle Trace.Plain.nil rfl rfl rfl fun _ => rfl
  · next hfree =>
    rw [Bool.or_eq_true, not_or] at hfree
    obtain ⟨hinactive, hunfinished⟩ := hfree
    cases hrests with
    | running active => exact absurd (by rw [active]; rfl) hinactive
    | past _ finished => exact absurd finished hunfinished
    | fresh inactive unfinished same _ =>
      subst same
      obtain ⟨u, prepared, v, n, rfl, hprepare, hrest⟩ := hrun.of_bind
      obtain ⟨hprepares, hplain⟩ := prepares_prepare hprepare
      cases hprepares with
      | refused hrefusal =>
          obtain ⟨rfl, heq, rfl⟩ := hrest.of_done
          obtain ⟨rfl, rfl⟩ := Prod.mk.inj heq
          rw [List.append_nil]
          exact .idle hplain rfl rfl rfl fun _ => rfl
      | ready hholds hnoLog htransient =>
          have hstreams := streams_of_holds hholds hnoLog (htransient rfl)
          obtain ⟨w, opened, x, k, rfl, hconnect, hend⟩ := hrest.of_bind
          obtain ⟨hbegins, hcalled⟩ := begins_connect hstreams hconnect
          have hconnects : Trace.connects (u ++ (w ++ x)) ≠ [] := by
            rw [Trace.connects_append, Trace.connects_append]
            exact List.append_ne_nil_of_right_ne_nil _
              (List.append_ne_nil_of_left_ne_nil hcalled _)
          cases hbegins with
          | opened streams running failures =>
              obtain ⟨rfl, heq, rfl⟩ := hend.of_done
              obtain ⟨rfl, rfl⟩ := Prod.mk.inj heq
              refine .begun inactive unfinished hconnects streams running ?_
              rw [List.append_nil, Trace.failures_append, hplain.failures, failures]
              rfl
          | dropped hdropped =>
              obtain ⟨rfl, heq, rfl⟩ := hend.of_done
              obtain ⟨rfl, rfl⟩ := Prod.mk.inj heq
              rw [List.append_nil] at hconnects ⊢
              exact .unopened inactive unfinished hconnects (hdropped.prepend hplain.failures)

/-! ### One call -/

/-- A call that does not change anything. -/
theorem Treats.nothing {call : Call} {reply : Reply} (h : s.active ≠ none → call.ends = false) :
    Treats ctx l m s ⟨call, reply, []⟩ s m :=
  .idle Trace.Plain.nil rfl rfl rfl h

/-- A block changes nothing in the ledger. -/
theorem treats_write {b : Block} {result : Except SessionFault Unit}
    (hrun : RunOn m (s.write b) t (result, s') l') :
    Treats ctx l m s ⟨.write b, .written result, t⟩ s' l' := by
  cases hactive : s.active with
  | none =>
      simp only [write, hactive] at hrun
      obtain ⟨rfl, heq, rfl⟩ := hrun.of_done
      obtain ⟨rfl, rfl⟩ := Prod.mk.inj heq
      exact .nothing fun _ => rfl
  | some a =>
      simp only [write, hactive] at hrun
      obtain ⟨u, sent, v, n, rfl, hsend, hend⟩ := hrun.of_bind
      obtain ⟨rfl, hplain⟩ := runOn_sendBlock hsend
      cases sent with
      | error fault =>
          obtain ⟨rfl, heq, rfl⟩ := hend.of_done
          obtain ⟨rfl, rfl⟩ := Prod.mk.inj heq
          rw [List.append_nil]
          exact .idle hplain rfl rfl rfl fun _ => rfl
      | ok _ =>
          obtain ⟨rfl, heq, rfl⟩ := hend.of_done
          obtain ⟨rfl, rfl⟩ := Prod.mk.inj heq
          rw [List.append_nil]
          exact .idle hplain rfl rfl (by rw [hactive]; rfl) fun _ => rfl

/-- An open stream is ended, and nothing is done when there is none. -/
theorem treats_finalize (hrests : Rests ctx l s before m)
    (hrun : RunOn m (s.finalize ctx) t (outcome, s') l') :
    Treats ctx l m s ⟨.finalize, .ended outcome, t⟩ s' l' := by
  cases hrests with
  | running active streams running _ =>
      obtain ⟨hsettles, hs'⟩ := settles_finalize active streams running hrun
      rw [hs']
      exact .ended active rfl hsettles
  | fresh inactive | past inactive =>
      simp only [finalize, inactive] at hrun
      obtain ⟨rfl, heq, rfl⟩ := hrun.of_done
      obtain ⟨rfl, rfl⟩ := Prod.mk.inj heq
      exact .nothing fun hne => absurd inactive hne

/-- A sender that gives up settles what it has begun. -/
theorem treats_giveUp (hrests : Rests ctx l s before m) {cause : String}
    (hrun : RunOn m (s.giveUp cause) t (outcome, s') l') :
    Treats ctx l m s ⟨.giveUp cause, .ended outcome, t⟩ s' l' := by
  cases hrests with
  | running active streams _ _ =>
      obtain ⟨hsettles, hs'⟩ := settles_giveUp active streams hrun
      rw [hs']
      exact .ended active rfl hsettles
  | fresh inactive | past inactive =>
      simp only [giveUp, inactive] at hrun
      obtain ⟨rfl, heq, rfl⟩ := hrun.of_done
      obtain ⟨rfl, rfl⟩ := Prod.mk.inj heq
      exact .nothing fun hne => absurd inactive hne

/-- Every call treats the ledger so, in whatever state the sender rests. -/
theorem treats_of_runOn {call : Call} {reply : Reply} (hrests : Rests ctx l s before m)
    (hrun : RunOn m (s.answer ctx call) t (reply, s') l') :
    Treats ctx l m s ⟨call, reply, t⟩ s' l' := by
  cases call with
  | run =>
      obtain ⟨rfl, heq, rfl⟩ := hrun.of_done
      obtain ⟨rfl, rfl⟩ := Prod.mk.inj heq
      exact .nothing fun _ => rfl
  | initiate =>
      obtain ⟨⟨result, s'⟩, heq, hinitiate⟩ := hrun.of_map
      obtain ⟨rfl, rfl⟩ := Prod.mk.inj heq
      exact treats_initiate hrests hinitiate
  | block data =>
      obtain ⟨rfl, heq, rfl⟩ := hrun.of_done
      obtain ⟨rfl, rfl⟩ := Prod.mk.inj heq
      cases hactive : s.active with
      | none =>
          simp only [block, hactive]
          exact .nothing fun _ => rfl
      | some a =>
          simp only [block, hactive]
          exact .idle Trace.Plain.nil rfl rfl (by rw [hactive]; rfl) fun _ => rfl
  | write b =>
      obtain ⟨⟨result, s'⟩, heq, hwrite⟩ := hrun.of_map
      obtain ⟨rfl, rfl⟩ := Prod.mk.inj heq
      exact treats_write hwrite
  | finalize =>
      obtain ⟨⟨outcome, s'⟩, heq, hfinalize⟩ := hrun.of_map
      obtain ⟨rfl, rfl⟩ := Prod.mk.inj heq
      exact treats_finalize hrests hfinalize
  | giveUp cause =>
      obtain ⟨⟨outcome, s'⟩, heq, hgiveUp⟩ := hrun.of_map
      obtain ⟨rfl, rfl⟩ := Prod.mk.inj heq
      exact treats_giveUp hrests hgiveUp

/-! ### All calls -/

/-- The order of a sender stays the same. -/
theorem Treats.order_eq (h : Treats ctx l m s turn s' l') : s'.order = s.order := by
  cases h with
  | idle _ order => exact order
  | begun => rfl
  | unopened => rfl
  | ended => rfl

/-- What the state of a sender says about the ledger stays true from call to call. -/
theorem Treats.rests (h : Treats ctx l m s turn s' l') (hrests : Rests ctx l s before m) :
    Rests ctx l s' (before ++ turn.trace) l' := by
  cases h with
  | idle plain order finished prepared _ =>
      have hfailures : Trace.failures (before ++ turn.trace) = before.failures := by
        rw [Trace.failures_append, plain.failures, List.append_nil]
      cases hrests with
      | fresh inactive unfinished same failures =>
          rw [inactive, Option.map_none, Option.map_eq_none_iff] at prepared
          exact .fresh prepared (finished.trans unfinished) same (hfailures.trans failures)
      | running active streams running failures =>
          rw [active, Option.map_some, Option.map_eq_some_iff] at prepared
          obtain ⟨a', hactive, hprepared⟩ := prepared
          rw [← hprepared] at streams running
          rw [← order] at streams
          exact .running hactive streams running (hfailures.trans failures)
      | past inactive hfinished once =>
          rw [inactive, Option.map_none, Option.map_eq_none_iff] at prepared
          refine .past prepared (finished.trans hfinished) ?_
          rwa [hfailures]
  | begun inactive unfinished _ streams running failures =>
      cases hrests with
      | fresh _ _ _ before =>
          refine .running rfl streams running ?_
          rw [Trace.failures_append, before, failures]
          rfl
      | running active => simp [inactive] at active
      | past _ finished => simp [unfinished] at finished
  | unopened inactive unfinished _ dropped =>
      cases hrests with
      | fresh _ _ _ before =>
          refine .past inactive rfl ?_
          rw [(dropped.prepend before).failures]
          exact Nat.le_refl 1
      | running active => simp [inactive] at active
      | past _ finished => simp [unfinished] at finished
  | ended active _ settles =>
      cases hrests with
      | running _ _ _ before => exact .past rfl rfl (settles.prepend before).failures_le
      | fresh inactive | past inactive => simp [inactive] at active

/-- What one of the calls on a sender leaves in the ledger, when `before` was asked before it and
the session `o` is open. -/
structure Leaves (ctx : Context) (order : Order) (l : Ledger) (before : Trace)
    (o : Option Session) (turn : Turn) : Prop where
  /-- A stream that could not be begun after its partner was called is dropped. -/
  unopened : ∀ outcome, turn.reply = .initiated (.error outcome) → turn.trace.connects ≠ [] →
    ∃ r, Dropped ctx order l r (before ++ turn.trace) outcome
      (Trace.ledgerAfter l (before ++ turn.trace))
  /-- A stream that is ended is dropped or filed. -/
  ended : o ≠ none → turn.call.ends = true → ∃ outcome, turn.reply = .ended outcome ∧
    Settles ctx order l (before ++ turn.trace) outcome
      (Trace.ledgerAfter l (before ++ turn.trace))
  /-- A call that neither calls the partner nor ends an open stream changes nothing. -/
  unchanged : turn.trace.connects = [] → turn.call.ends = false ∨ o = none →
    Trace.ledgerAfter l (before ++ turn.trace) = before.ledgerAfter l ∧ turn.trace.failures = []
  /-- No failure is reported after another one. -/
  once : (Trace.failures (before ++ turn.trace)).length ≤ 1

/-- Over all its calls, a sender tells the hook once at most. -/
theorem Rests.failures_le (h : Rests ctx l s before m) : before.failures.length ≤ 1 := by
  cases h with
  | fresh _ _ _ failures => simp [failures]
  | running _ _ _ failures => simp [failures]
  | past _ _ once => exact once

theorem Treats.leaves (h : Treats ctx l m s turn s' l') (hrests : Rests ctx l s before m)
    (hm : before.ledgerAfter l = m) (hl' : Trace.ledgerAfter l (before ++ turn.trace) = l') :
    Leaves ctx s.order l before s.session? turn := by
  refine ⟨?_, ?_, ?_, (h.rests hrests).failures_le⟩
  all_goals simp only [hm, hl']
  · intro outcome hreply hconnects
    cases h with
    | idle plain => exact absurd plain.connects hconnects
    | begun => cases hreply
    | unopened inactive unfinished _ dropped =>
        cases hreply
        cases hrests with
        | fresh _ _ _ failures => exact ⟨_, dropped.prepend failures⟩
        | running active => simp [inactive] at active
        | past _ finished => simp [unfinished] at finished
    | ended => cases hreply
  · intro hopen hends
    have hactive : s.active ≠ none := by
      intro hnone
      apply hopen
      rw [session?, hnone]
      rfl
    cases h with
    | idle _ _ _ _ unended => simp [unended hactive] at hends
    | begun => cases hends
    | unopened => cases hends
    | ended active _ settles =>
        refine ⟨_, rfl, ?_⟩
        cases hrests with
        | running _ _ _ failures => exact settles.prepend failures
        | fresh inactive | past inactive => simp [inactive] at active
  · intro hconnects hends
    cases h with
    | idle plain => exact ⟨rfl, plain.failures⟩
    | begun _ _ connects => exact absurd hconnects connects
    | unopened _ _ connects => exact absurd hconnects connects
    | ended active ends =>
        rcases hends with hends | hnone
        · cases ends.symm.trans hends
        · simp [session?, active] at hnone

/-- Every call on a sender leaves the ledger so. -/
theorem leaves_play {answer : Trace → (r : Request) → r.Answer} {calls : List Call}
    {pre post : List Turn} (hrests : Rests ctx l s before (before.ledgerAfter l))
    (hsplit : play ctx (onLedger l answer) s before calls = pre ++ turn :: post) :
    Leaves ctx s.order l (before ++ transcript pre) (pre.foldl Turn.after s.session?) turn := by
  induction calls generalizing s before pre with
  | nil => simp [play] at hsplit
  | cons call calls ih =>
      have hrun := runOn_play (before.ledgerAfter l) (fun t => answer (before ++ t))
        (s.answer ctx call)
      rw [← onLedger_append, ← Trace.ledgerAfter_append] at hrun
      have htreats := treats_of_runOn hrests hrun
      rw [play] at hsplit
      cases pre with
      | nil =>
          obtain ⟨rfl, -⟩ := List.cons.inj hsplit
          rw [transcript, List.flatMap_nil, List.append_nil]
          exact htreats.leaves hrests rfl rfl
      | cons first pre =>
          obtain ⟨rfl, hrest⟩ := List.cons.inj hsplit
          have hafter := (acts_of_run hrun.1).after
          have hleaves := ih (htreats.rests hrests) hrest
          rw [transcript, List.flatMap_cons, List.foldl_cons, hafter, ← List.append_assoc]
          rw [htreats.order_eq] at hleaves
          exact hleaves

end Sender

/-! ## All streams -/

/-- Whatever the order, the ledger, the calls on its sender and the answers of the transport: at
every call, the stream is dropped when it could not be begun after its partner was called, it is
dropped or filed when it is ended, and else nothing changes.  A stream that is received is
dropped when it fails after its partner was called, filed when it goes well, and nothing changes
when nobody was called. -/
theorem streams_transient (ctx : Context) (order : Order) (l : Ledger)
    (answer : Trace → (r : Request) → r.Answer) :
    (∀ calls pre turn post,
      Sender.play ctx (onLedger l answer) { order } [] calls = pre ++ turn :: post →
        Sender.Leaves ctx order l (Sender.transcript pre) (Sender.sessionAfter pre) turn) ∧
    let run := Program.play (onLedger l answer) (receive ctx order)
    Receives ctx order l run.2 run.1 (run.2.ledgerAfter l) := by
  constructor
  · intro calls pre turn post hsplit
    have hstart : Sender.Rests ctx l { order } [] (Trace.ledgerAfter l []) :=
      .fresh rfl rfl rfl rfl
    exact Sender.leaves_play hstart hsplit
  · exact receives_of_runOn (runOn_play l answer (receive ctx order))

end Stream

end Courier
