import Courier.Proofs.Delivery.Endings
import Courier.Proofs.Delivery.Retiming

/-!
# Filing an order first makes no difference

An order may be carried out at once, or be filed and then be carried out by somebody who knows
nothing but the partner and the number of the transfer.  What is seen is the same, times aside:
the sessions that are asked for, the failures that are reported, the outcome and the stored
records.

Main definitions:

- `Program.traceIn` is the trace of a run in its surroundings.
- `Delivery.Showing` is what is seen of a run.
- `Order.Form.byNumber` asks for a filed transfer by its number alone.

Main statements:

- An order that cannot be filed cannot be carried out, for the same reason
  (`Delivery.run_of_submit_failed`).
- A filed transfer that is asked for by its number is prepared just like the order that it comes
  from (`Delivery.runIn_prepare_byNumber`).
- Filing an order and carrying it out by number shows the same as carrying it out at once
  (`Delivery.showing_deferred`).
-/

namespace Courier

open Program

/-! ## Requests for sessions -/

/-- What a session was asked for. -/
def Exchange.connectRequest? : Exchange → Option Connect
  | ⟨.connect c, _⟩ => some c
  | _ => none

/-- What sessions were asked for, in order. -/
def Trace.connectRequests (t : Trace) : List Connect :=
  t.filterMap Exchange.connectRequest?

namespace Trace

@[simp] theorem connectRequests_append (t u : Trace) :
    connectRequests (t ++ u) = t.connectRequests ++ u.connectRequests :=
  List.filterMap_append

/-- Without attempts to open a session none was asked for. -/
theorem connectRequests_of_connects {t : Trace} (h : t.connects = []) :
    t.connectRequests = [] := by
  refine List.filterMap_eq_nil_iff.2 fun x hx => ?_
  have hnone := List.filterMap_eq_nil_iff.1 h x hx
  rcases x with ⟨r, answer⟩
  cases r with
  | connect c => cases hnone
  | _ => rfl

end Trace

/-- Whether a request, should it ask for a session, asks a host for it. -/
def Request.Reaches (host : String) : Request → Prop
  | .connect c => c.partner.hostId = host
  | _ => True

/-! ## Traces in surroundings -/

namespace Program

variable {α β : Type}

/-- The trace of a run of a program in its surroundings. -/
def traceIn (e : Surroundings) : Program α → Scene → Trace
  | .done _, _ => []
  | .step r next, s =>
      ⟨r, (e.answer r s).1⟩ :: traceIn e (next (e.answer r s).1) (e.answer r s).2

/-- A run goes on with what the ledger answers. -/
theorem runIn_ledger_bind {op : Ledger.Op} {answer : op.Answer} {l : Ledger} (e : Surroundings)
    (f : op.Answer → Program β) {s : Scene} (h : s.ledger.perform op = (answer, l)) :
    runIn e (ledger op >>= f) s = runIn e (f answer) { s with ledger := l } := by
  have hledger : runIn e (ledger op) s = (answer, { s with ledger := l }) := by
    show ((s.ledger.perform op).1, { s with ledger := (s.ledger.perform op).2 }) = _
    rw [h]
  rw [runIn_bind, hledger]

/-- The trace of two programs is that of the first, and then that of the second where the first one
ends. -/
theorem traceIn_bind (e : Surroundings) (p : Program α) (f : α → Program β) (s : Scene) :
    traceIn e (p >>= f) s = traceIn e p s ++ traceIn e (f (runIn e p s).1) (runIn e p s).2 := by
  induction p generalizing s with
  | done a => rfl
  | step r next ih => exact congrArg (List.cons _) (ih (e.answer r s).1 (e.answer r s).2)

/-- What happens in some surroundings is a run on the ledger of the scene. -/
theorem runOn_traceIn (e : Surroundings) (p : Program α) (s : Scene) :
    RunOn s.ledger p (traceIn e p s) (runIn e p s).1 (runIn e p s).2.ledger := by
  induction p generalizing s with
  | done a => exact ⟨.done a, rfl⟩
  | step r next ih =>
      obtain ⟨hrun, hkept⟩ := ih (e.answer r s).1 (e.answer r s).2
      exact ⟨.step hrun, _, e.keeps_answer r s, hkept⟩

/-- A host knows which sessions it was asked for, times aside. -/
theorem connectRequests_answer {host : String} (e : Surroundings) {r : Request} (s : Scene)
    (hr : r.Reaches host) :
    Trace.connectRequests ((e.answer r s).2.calls host) =
      Trace.connectRequests (s.calls host) ++
        (Trace.connectRequests [⟨r, (e.answer r s).1⟩]).map Connect.timeless := by
  have hcall : ∀ (session : Session) (r : Request),
      (∀ answer, Exchange.connectRequest? ⟨r, answer⟩ = none) →
      Trace.connectRequests ((e.call session r s).2.calls host) =
        Trace.connectRequests (s.calls host) ++ [] := by
    intro session r hnone
    show Trace.connectRequests ((s.asked (s.partnerOf session) _).calls host) = _
    rw [List.append_nil]
    by_cases hhost : host = s.partnerOf session
    · simp [Scene.asked, hhost, Trace.connectRequests, hnone]
    · rw [Scene.calls_asked_of_ne s _ hhost]
  cases r with
  | connect c =>
      obtain rfl : c.partner.hostId = host := hr
      show Trace.connectRequests ((s.tried c _).calls c.partner.hostId) = _
      simp [Scene.tried, Scene.asked, Trace.connectRequests, Exchange.connectRequest?]
  | send session packet flush => exact hcall session _ fun _ => rfl
  | writable session => exact hcall session _ fun _ => rfl
  | complete session timeout => exact hcall session _ fun _ => rfl
  | ask session packet timeout => exact hcall session _ fun _ => rfl
  | close session => exact hcall session _ fun _ => rfl
  | _ => exact (List.append_nil _).symm

/-- So it does after a run that asks nobody else. -/
theorem connectRequests_runIn {host : String} (e : Surroundings) {p : Program α} (s : Scene)
    (hp : Asks (Request.Reaches host) p) :
    Trace.connectRequests ((runIn e p s).2.calls host) =
      Trace.connectRequests (s.calls host) ++
        (traceIn e p s).connectRequests.map Connect.timeless := by
  induction p generalizing s with
  | done a => exact (List.append_nil _).symm
  | step r next ih =>
      have hnext := ih (e.answer r s).1 (e.answer r s).2 (hp.2 _)
      rw [connectRequests_answer e s hp.1, List.append_assoc, ← List.map_append,
        ← Trace.connectRequests_append] at hnext
      exact hnext

end Program

/-! ## Orders that are refused -/

variable {ctx : Context} {order : Order}

namespace Preparation

/-- A record that is only filed is created as one that is sent at once. -/
theorem createRecord_submit (ctx : Context) (order : Order) (partner : Partner)
    (requester : String) :
    createRecord ctx order partner requester .submit =
      createRecord ctx order partner requester .direct := by
  unfold createRecord
  cases ctx.rules.resolve (order.rule.getD "") with
  | error fault => rfl
  | ok rule =>
      have hmode : modeFor rule order .submit = modeFor rule order .direct := rfl
      have hdraft : draft rule order partner requester .submit =
          draft rule order partner requester .direct := rfl
      simp only [refusal, hmode]
      rw [hdraft]
      split
      all_goals
        refine bind_congr fun size => bind_congr fun now => bind_congr fun answer => ?_
        cases answer <;> rfl

/-- A new transfer is prepared alike whether it is carried out or only filed. -/
theorem prepare_submit (ctx : Context) {order : Order} (hnew : order.fixedId = none) :
    prepare ctx order .submit = prepare ctx order .direct := by
  have hmark (r : Record) : markTransient .submit r = markTransient .direct r := rfl
  simp only [prepare, findRecord, hnew, createRecord_submit, hmark]

end Preparation

namespace Delivery

/-- An order that cannot be filed cannot be carried out, whatever is answered. -/
theorem run_of_submit_failed {t : Trace} {outcome : Outcome} (hnew : order.fixedId = none)
    (h : Run (submit ctx order) t outcome) (hfailed : outcome.success = false) :
    Run (run ctx order) t outcome := by
  obtain ⟨u, result, v, rfl, hprepare, hrest⟩ := Run.bind_iff.1 h
  rw [Preparation.prepare_submit ctx hnew] at hprepare
  cases result with
  | error refused => exact Run.bind_iff.2 ⟨u, _, v, rfl, hprepare, hrest⟩
  | ok p =>
      obtain ⟨-, rfl⟩ := Run.done_iff.1 hrest
      cases hfailed

end Delivery

/-! ## Orders by number -/

/-- An order by number that says nothing else about the transfer of another order. -/
structure Order.Recalls (later order : Order) (id : Int) : Prop where
  partner : later.partner = order.partner
  noLog : later.noLog = order.noLog
  fixedId : later.fixedId = some id
  fileInfo : later.hasFileInfo = false
  startTime : later.startTime = none

namespace Order.Form

/-- The form that asks for a filed transfer by its number: of the form that it was filed with, only
the partner is left, and whether to drop the record. -/
def byNumber (f : Form) (id : Int) : Form where
  partner := f.partner
  fixedId := some id
  noLog := f.noLog

/-- An order that is complete still is when it names its record. -/
theorem complete_byNumber {f : Form} {hosts : Directory} {order : Order}
    (h : f.complete hosts = .ok order) (id : Int) :
    (f.byNumber id).complete hosts = .ok ((f.byNumber id).order hosts) := by
  obtain ⟨hpartner, -, -⟩ := complete_eq_ok_iff.1 h
  exact complete_eq_ok_iff.2 ⟨hpartner, .inr rfl, rfl⟩

/-- An order by number recalls the one that was filed. -/
theorem recalls_byNumber {f : Form} {hosts : Directory} {order : Order}
    (h : f.complete hosts = .ok order) (id : Int) :
    ((f.byNumber id).order hosts).Recalls order id := by
  obtain ⟨-, -, rfl⟩ := complete_eq_ok_iff.1 h
  exact ⟨rfl, rfl, rfl, by simp [hasFileInfo, Form.order, byNumber], rfl⟩

end Order.Form

namespace Delivery

/-- What is left when a new transfer was prepared. -/
structure Filed (ctx : Context) (order : Order) (p : Prepared) (l : Ledger) : Prop where
  known : ctx.hosts.lookup order.partner = .ok p.partner
  key : p.record.key =
    ⟨p.record.specialId, ctx.hosts.localId p.partner.useTls, p.partner.hostId⟩
  noLog : p.noLog = order.noLog
  ready : Ready l p.record

/-- A filed transfer that is asked for by its number is prepared as it was before, and its record
is filed again. -/
theorem runIn_prepare_byNumber {later : Order} {p : Prepared} (e : Surroundings) {s : Scene}
    (h : Filed ctx order p s.ledger) (hlater : later.Recalls order p.record.specialId) :
    runIn e (Preparation.prepare ctx later .direct) s =
      (.ok p, { s with ledger := s.ledger.put p.record }) := by
  have hlookup : ctx.hosts.lookup later.partner = .ok p.partner := by
    rw [hlater.partner, h.known]
  have hopen : p.record.isAllDone = false := by
    simpa [Record.isAllDone] using h.ready.notDone
  have hamend : Preparation.amend p.record later = p.record := by
    simp [Preparation.amend, hlater.fileInfo, hlater.startTime]
  have hload : s.ledger.perform (.load p.record.key) = (some p.record, s.ledger) := by
    rw [Ledger.perform, h.ready.stored]
  have hupdate := h.ready.perform_update rfl (.inl rfl)
  have hrecover : runIn e (Preparation.recoverRecord later p.record.key .direct) s =
      (.ok p.record, { s with ledger := s.ledger.put p.record }) := by
    unfold Preparation.recoverRecord
    rw [runIn_ledger_bind e _ hload]
    simp only [hopen, hamend]
    exact runIn_ledger_bind e _ hupdate
  unfold Preparation.prepare
  simp only [hlookup, Preparation.findRecord, hlater.fixedId, ← h.key]
  rw [runIn_bind, hrecover]
  show (Except.ok (Prepared.mk p.partner p.record later.noLog), _) = _
  rw [hlater.noLog, ← h.noLog]

/-- A record that a preparation holds is filed, for the partner of its order. -/
theorem filed_of_holds {kind : Preparation.Kind} {p : Prepared} {l l' : Ledger}
    (hknown : ctx.hosts.lookup order.partner = .ok p.partner)
    (h : Preparation.Holds ctx order kind l p.record l') (hnoLog : p.noLog = order.noLog) :
    Filed ctx order p l' := by
  have hkey := h.key
  rw [Preparation.orderedKey?_eq hknown] at hkey
  have hwhole := (Option.some.inj hkey).symm
  have hid : p.record.specialId = order.fixedId.getD l.freshId :=
    congrArg Record.Key.specialId hwhole
  exact ⟨hknown, by rw [hid]; exact hwhole, hnoLog, h.ready⟩

/-! ## What is seen of a run -/

/-- What is seen of a run, times aside. -/
@[ext]
structure Showing where
  /-- What sessions were asked for, in order. -/
  requests : List Connect
  /-- The records whose failure was reported, in order. -/
  failures : List Record
  outcome : Outcome
  /-- The record that is stored under a key. -/
  stored : Record.Key → Option Record

/-- What is seen of a program that is run in its surroundings, after what has been seen of a trace
before. -/
def showing (before : Trace) (e : Surroundings) (p : Program Outcome) (s : Scene) : Showing where
  requests := (Trace.connectRequests (before ++ traceIn e p s)).map Connect.timeless
  failures := (Trace.failures (before ++ traceIn e p s)).map Record.timeless
  outcome := (runIn e p s).1.timeless
  stored key := ((runIn e p s).2.ledger.find? key).map Record.timeless

/-- The records whose failure has been reported when a transfer ends with an outcome. -/
def reported (outcome : Outcome) : List Record :=
  if outcome.success then [] else outcome.record.toList

/-- What a hook is told does not depend on times. -/
theorem reported_timeless (outcome : Outcome) :
    reported outcome.timeless = (reported outcome).map Record.timeless := by
  cases hsuccess : outcome.success <;> cases hrecord : outcome.record <;>
    simp [reported, Outcome.timeless, hsuccess, hrecord]

/-- A transfer that is over has told the hook just what it has to. -/
theorem failures_of_finishes {l l' : Ledger} {p : Prepared} {t : Trace} {outcome : Outcome}
    (h : Finishes l p t outcome l') : t.failures = reported outcome := by
  cases h with
  | well success completions failures h =>
      obtain rfl := h.outcome
      exact failures
  | inError h =>
      rw [h.failures, reported, h.success, h.record]
      rfl

end Delivery

namespace Comparison

variable {c : Comparison} {p p' : Prepared} {s s' : Scene}

/-- A transfer that was prepared asks its partner only for sessions. -/
theorem asks_goOn (policy : Policy) (through : Through) (p : Prepared) :
    Asks (Request.Reaches p.partner.hostId) (goOn policy through p) :=
  (Delivery.ensures_connect_finish ⟨trivial, fun _ _ => trivial, trivial, fun _ => trivial⟩
    ⟨fun _ _ _ => rfl, trivial, fun _ => trivial, fun _ _ => trivial, fun _ => trivial⟩ policy).asks

/-- A record that is stored may be filed again. -/
theorem similar_put {r : Record} (h : s.ledger.find? r.key = some r) :
    c.Similar none s { s with ledger := s.ledger.put r } := by
  refine ⟨rfl, fun key _ => ?_, fun _ _ => rfl, by simp⟩
  by_cases hkey : key = r.key
  · rw [hkey, h, Ledger.find?_put_self]
  · rw [Ledger.find?_put_of_ne _ hkey]

/-- So has one that is gone on with in surroundings. -/
theorem failures_goOn {e : Surroundings} (hready : Delivery.Ready s.ledger p.record)
    (policy : Policy) (through : Through) :
    (traceIn e (goOn policy through p) s).failures =
      Delivery.reported (runIn e (goOn policy through p) s).1 :=
  Delivery.failures_of_finishes
    (Delivery.finishes_of_ready (runOn_traceIn e (goOn policy through p) s) hready).1

/-- Transfers that differ only in times show the same when they go on in similar scenes. -/
theorem shown_goOn (h : p.Paired c.ctx p') (hhost : p.partner.hostId ≠ c.odd)
    (hsimilar : c.Similar none s s') (hready : Delivery.Ready s.ledger p.record)
    (hready' : Delivery.Ready s'.ledger p'.record) (policy : Policy) (through : Through) :
    let left := runIn c.left (goOn policy through p) s
    let right := runIn c.right (goOn policy through p') s'
    let t := traceIn c.left (goOn policy through p) s
    let t' := traceIn c.right (goOn policy through p') s'
    t.connectRequests.map Connect.timeless = t'.connectRequests.map Connect.timeless ∧
      t.failures.map Record.timeless = t'.failures.map Record.timeless ∧
      left.1.timeless = right.1.timeless ∧ c.Similar none left.2 right.2 := by
  intro left right t t'
  obtain ⟨houtcome, hafter⟩ := inStep_goOn h hhost policy through s s' hsimilar
  refine ⟨?_, ?_, houtcome, hafter⟩
  · have hleft := connectRequests_runIn c.left s (asks_goOn policy through p)
    have hright := connectRequests_runIn c.right s' (asks_goOn policy through p')
    rw [← h.partner, ← hafter.calls _ hhost, ← hsimilar.calls _ hhost, hleft] at hright
    exact List.append_cancel_left hright
  · rw [failures_goOn hready, failures_goOn hready', ← Delivery.reported_timeless,
      ← Delivery.reported_timeless, houtcome]

end Comparison

namespace Delivery

/-! ## Runs that were prepared -/

section Prepared

variable {e : Surroundings} {s m : Scene} {o : Outcome} {p : Prepared}

/-- An order that is refused is over. -/
theorem runIn_run_of_refused
    (h : runIn e (Preparation.prepare ctx order .direct) s = (.error o, m)) :
    runIn e (run ctx order) s = (o, m) := by
  unfold run carryOut
  rw [runIn_bind, h]
  rfl

/-- An order that is prepared goes on with its attempts. -/
theorem runIn_run_of_prepared
    (h : runIn e (Preparation.prepare ctx order .direct) s = (.ok p, m)) :
    runIn e (run ctx order) s = runIn e (Comparison.goOn ctx.policy .none p) m := by
  unfold run carryOut
  rw [runIn_bind, h]
  rfl

theorem traceIn_run_of_prepared
    (h : runIn e (Preparation.prepare ctx order .direct) s = (.ok p, m)) :
    traceIn e (run ctx order) s = traceIn e (Preparation.prepare ctx order .direct) s ++
      traceIn e (Comparison.goOn ctx.policy .none p) m := by
  unfold run carryOut
  rw [traceIn_bind, h]
  rfl

theorem runIn_submit_of_refused
    (h : runIn e (Preparation.prepare ctx order .submit) s = (.error o, m)) :
    runIn e (submit ctx order) s = (o, m) := by
  unfold submit
  rw [runIn_bind, h]
  rfl

/-- An order that is only filed is over when it is prepared. -/
theorem runIn_submit_of_prepared
    (h : runIn e (Preparation.prepare ctx order .submit) s = (.ok p, m)) :
    runIn e (submit ctx order) s = (.succeeded .initOk (some p.record), m) := by
  unfold submit
  rw [runIn_bind, h]
  rfl

theorem traceIn_submit_of_prepared
    (h : runIn e (Preparation.prepare ctx order .submit) s = (.ok p, m)) :
    traceIn e (submit ctx order) s = traceIn e (Preparation.prepare ctx order .submit) s := by
  unfold submit
  rw [traceIn_bind, h]
  exact List.append_nil _

end Prepared

/-! ## Filing first -/

/-- Nothing is seen of a trace in which nobody but the ledger, the clock and the files was asked. -/
theorem showing_of_plain {before : Trace} (h : before.Plain) (e : Surroundings)
    (p : Program Outcome) (s : Scene) : showing before e p s = showing [] e p s := by
  simp only [showing, Trace.connectRequests_append, Trace.failures_append,
    Trace.connectRequests_of_connects h.connects, h.failures, List.nil_append]

/-- A preparation tells the hook nothing. -/
theorem plain_traceIn_prepare (ctx : Context) (order : Order) (kind : Preparation.Kind)
    (e : Surroundings) (s : Scene) :
    Trace.Plain (traceIn e (Preparation.prepare ctx order kind) s) :=
  (Preparation.prepares_prepare (runOn_traceIn e _ s)).2

/-- What is seen of a run whose order was prepared is what is seen of how it goes on. -/
theorem showing_run_of_prepared {e : Surroundings} {s m : Scene} {p : Prepared}
    (h : runIn e (Preparation.prepare ctx order .direct) s = (.ok p, m)) :
    showing [] e (run ctx order) s = showing [] e (Comparison.goOn ctx.policy .none p) m := by
  have hquiet := plain_traceIn_prepare ctx order .direct e s
  rw [← showing_of_plain hquiet e (Comparison.goOn ctx.policy .none p) m]
  simp only [showing, List.nil_append, traceIn_run_of_prepared h, runIn_run_of_prepared h]

/-- What a preparation does in surroundings is what it does to their ledger. -/
theorem prepares_of_runIn {kind : Preparation.Kind} {e : Surroundings} {s m : Scene}
    {result : Except Outcome Prepared}
    (h : runIn e (Preparation.prepare ctx order kind) s = (result, m)) :
    Preparation.Prepares ctx order kind s.ledger result m.ledger := by
  have hprepares :=
    (Preparation.prepares_prepare (runOn_traceIn e (Preparation.prepare ctx order kind) s)).1
  rw [h] at hprepares
  exact hprepares

/-- An order that is refused has failed. -/
theorem failed_of_prepares {kind : Preparation.Kind} {l l' : Ledger} {o : Outcome}
    (h : Preparation.Prepares ctx order kind l (.error o) l') : o.success = false := by
  cases h with
  | refused hrefusal => cases hrefusal <;> rfl

/-- What was filed can be asked for. -/
theorem filed_of_prepares {kind : Preparation.Kind} {l l' : Ledger} {p : Prepared}
    (h : Preparation.Prepares ctx order kind l (.ok p) l')
    (hknown : ctx.hosts.lookup order.partner = .ok p.partner) : Filed ctx order p l' := by
  cases h with
  | ready hholds hnoLog transient => exact filed_of_holds hknown hholds hnoLog

section Clocks

variable {e e' : Surroundings} {s m m' : Scene} {p p' : Prepared}

/-- Prepared transfers that differ only in times show the same, whatever the clocks tell. -/
theorem showing_goOn (htree : e.tree = e'.tree) (htransport : e.transport = e'.transport)
    (hpaired : p.Paired ctx p') (hknown : ctx.hosts.lookup order.partner = .ok p.partner)
    (hsimilar : ∀ odd, (Comparison.retimed ctx odd htree htransport).Similar none m m')
    (hready : Ready m.ledger p.record) (hready' : Ready m'.ledger p'.record) (policy : Policy) :
    showing [] e (Comparison.goOn policy .none p) m =
      showing [] e' (Comparison.goOn policy .none p') m' := by
  have hshown : ∀ odd, ctx.hosts.Stranger odd → _ := fun odd hodd =>
    Comparison.shown_goOn (c := Comparison.retimed ctx odd htree htransport) hpaired
      (hodd.unlisted _ _ hknown) (hsimilar odd) hready hready' policy .none
  obtain ⟨odd, hodd⟩ := ctx.hosts.exists_stranger
  obtain ⟨hrequests, hfailures, houtcome, -⟩ := hshown odd hodd
  refine Showing.ext hrequests hfailures houtcome (funext fun key => ?_)
  obtain ⟨odd, hodd, hne⟩ := ctx.hosts.exists_stranger_ne key.requested
  obtain ⟨-, -, -, hafter⟩ := hshown odd hodd
  exact hafter.records key fun hown => hne hown.1

/-- Two runs that prepare a new transfer are refused alike, or come by records that are alike. -/
theorem found_of_prepare (ctx : Context) (htree : e.tree = e'.tree)
    (htransport : e.transport = e'.transport) (hnew : order.fixedId = none) (s : Scene) :
    let left := runIn e (Preparation.prepare ctx order .direct) s
    let right := runIn e' (Preparation.prepare ctx order .direct) s
    Comparison.Found ctx order left.1 right.1 ∧
      ∀ odd, (Comparison.retimed ctx odd htree htransport).Similar none left.2 right.2 := by
  intro left right
  have hinStep : ∀ odd, (Comparison.retimed ctx odd htree htransport).InStep none
      (Preparation.prepare ctx order .direct) (Preparation.prepare ctx order .direct)
      (Comparison.Found ctx order) fun _ => none :=
    fun odd => Comparison.inStep_prepare hnew rfl
  exact ⟨(hinStep "" s s (.refl s)).1, fun odd => (hinStep odd s s (.refl s)).2⟩

end Clocks

/-- What was filed is found again by its number. -/
theorem exists_recalled {form : Order.Form} (hform : form.complete ctx.hosts = .ok order)
    {e : Surroundings} {s m : Scene} {p : Prepared}
    (hsubmit : runIn e (Preparation.prepare ctx order .submit) s = (.ok p, m))
    (hfiled : Filed ctx order p m.ledger) :
    let filed := runIn e (submit ctx order) s
    ∃ id later n, filed.1.specialId = some id ∧ (form.byNumber id).complete ctx.hosts = .ok later ∧
      runIn e (Preparation.prepare ctx later .direct) filed.2 = (.ok p, n) ∧
      Ready n.ledger p.record ∧ ∀ c : Comparison, c.Similar none m n := by
  intro filed
  have hfiling : filed = (.succeeded .initOk (some p.record), m) :=
    runIn_submit_of_prepared hsubmit
  rw [hfiling]
  refine ⟨p.record.specialId, _, _, rfl, Order.Form.complete_byNumber hform _,
    runIn_prepare_byNumber e hfiled (Order.Form.recalls_byNumber hform _), ?_, ?_⟩
  · exact ⟨Ledger.find?_put_self _ _, hfiled.ready.notDone⟩
  · intro c
    exact Comparison.similar_put hfiled.ready.stored

/-- A new order that is refused fails alike when it is carried out and when it is filed. -/
theorem alike_of_refused {e e' : Surroundings} {s m m' : Scene} {o o' : Outcome}
    (hrun : runIn e (Preparation.prepare ctx order .direct) s = (.error o, m))
    (hsubmit : runIn e' (Preparation.prepare ctx order .submit) s = (.error o', m'))
    (halike : o.timeless = o'.timeless) :
    let direct := runIn e (run ctx order) s
    let filed := runIn e' (submit ctx order) s
    filed.1.success = false ∧ direct.1.success = false ∧ direct.1.code = filed.1.code ∧
      direct.1.cause = filed.1.cause := by
  intro direct filed
  have hdirect : direct = (o, m) := runIn_run_of_refused hrun
  have hfiled : filed = (o', m') := runIn_submit_of_refused hsubmit
  have hfailed : o'.success = false := failed_of_prepares (prepares_of_runIn hsubmit)
  obtain ⟨hsuccess, hcode, hcause⟩ := Outcome.fields_of_timeless halike
  rw [hdirect, hfiled]
  exact ⟨hfailed, hsuccess.trans hfailed, hcode, hcause⟩

/-- A new order that is accepted shows the same when it is carried out and when it is filed and then
asked for by its number. -/
theorem showing_of_accepted {form : Order.Form} (hform : form.complete ctx.hosts = .ok order)
    {e e' : Surroundings} {s m m' : Scene} {p p' : Prepared} (htree : e.tree = e'.tree)
    (htransport : e.transport = e'.transport)
    (hrun : runIn e (Preparation.prepare ctx order .direct) s = (.ok p, m))
    (hsubmit : runIn e' (Preparation.prepare ctx order .submit) s = (.ok p', m'))
    (hpaired : p.Paired ctx p') (hknown : ctx.hosts.lookup order.partner = .ok p.partner)
    (hsimilar : ∀ odd, (Comparison.retimed ctx odd htree htransport).Similar none m m') :
    let filed := runIn e' (submit ctx order) s
    ∃ id later, filed.1.specialId = some id ∧ (form.byNumber id).complete ctx.hosts = .ok later ∧
      showing [] e (run ctx order) s =
        showing (traceIn e' (submit ctx order) s) e' (run ctx later) filed.2 := by
  intro filed
  have hrecord : Filed ctx order p m.ledger := filed_of_prepares (prepares_of_runIn hrun) hknown
  have hrecord' : Filed ctx order p' m'.ledger :=
    filed_of_prepares (prepares_of_runIn hsubmit) (hpaired.partner ▸ hknown)
  obtain ⟨id, later, n, hid, hcomplete, hlater, hready, hafter⟩ :=
    exists_recalled hform hsubmit hrecord'
  have hquiet : Trace.Plain (traceIn e' (submit ctx order) s) := by
    rw [traceIn_submit_of_prepared hsubmit]
    exact plain_traceIn_prepare ctx order .submit e' s
  have hgoesOn := showing_goOn htree htransport hpaired hknown
    (fun odd => (hsimilar odd).trans (hafter _)) hrecord.ready hready ctx.policy
  refine ⟨id, later, hid, hcomplete, ?_⟩
  rw [showing_of_plain hquiet, showing_run_of_prepared hrun, showing_run_of_prepared hlater,
    hgoesOn]

/-- A new order is carried out at once, or it is filed and then asked for by the number that came
back, with the same partner and with nothing else but whether to drop the record.  When it cannot
be filed, whoever refuses it, carrying it out at once fails for the same reason; otherwise both
show the same.  The clocks need not agree. -/
theorem showing_deferred {form : Order.Form} (hform : form.complete ctx.hosts = .ok order)
    (hnew : form.fixedId = none) {e e' : Surroundings} (htree : e.tree = e'.tree)
    (htransport : e.transport = e'.transport) (s : Scene) :
    let direct := runIn e (run ctx order) s
    let filed := runIn e' (submit ctx order) s
    (∀ t outcome, Run (submit ctx order) t outcome → outcome.success = false →
      Run (run ctx order) t outcome) ∧
    (filed.1.success = false →
      direct.1.success = false ∧ direct.1.code = filed.1.code ∧ direct.1.cause = filed.1.cause) ∧
    (filed.1.success = true → ∃ id later, filed.1.specialId = some id ∧
      (form.byNumber id).complete ctx.hosts = .ok later ∧
      showing [] e (run ctx order) s =
        showing (traceIn e' (submit ctx order) s) e' (run ctx later) filed.2) := by
  intro direct filed
  have hfresh : order.fixedId = none := by
    obtain ⟨-, -, rfl⟩ := Order.Form.complete_eq_ok_iff.1 hform
    exact hnew
  refine ⟨fun _ _ => run_of_submit_failed hfresh, ?_⟩
  obtain ⟨hfound, hsimilar⟩ := found_of_prepare ctx htree htransport hfresh s
  generalize hrun : runIn e (Preparation.prepare ctx order .direct) s = left at hfound hsimilar
  generalize hsubmit : runIn e' (Preparation.prepare ctx order .direct) s = right
    at hfound hsimilar
  rw [← Preparation.prepare_submit ctx hfresh] at hsubmit
  obtain ⟨a, m⟩ := left
  obtain ⟨a', m'⟩ := right
  cases hfound with
  | refused halike =>
      obtain ⟨hfailed, hends⟩ := alike_of_refused hrun hsubmit halike
      exact ⟨fun _ => hends, fun hdone => absurd (hfailed.symm.trans hdone) Bool.false_ne_true⟩
  | @ready p p' hpaired hknown =>
      have hdone : filed.1.success = true :=
        congrArg (fun ending => ending.1.success) (runIn_submit_of_prepared hsubmit)
      refine ⟨fun hfailed => absurd (hfailed.symm.trans hdone) Bool.false_ne_true, fun _ => ?_⟩
      exact showing_of_accepted hform htree htransport hrun hsubmit hpaired hknown hsimilar

/-- An order in full for a partner that is reached. -/
def sampleForm : Order.Form where
  partner := "north"
  rule := some "out"
  filename := some "a.txt"

/-- The surroundings of a sample at another time. -/
def sampleLater : Surroundings :=
  { sampleSurroundings [] with clock := fun _ => ⟨⟨default, ⟨18, 0, 0, 0, by decide⟩⟩⟩ }

/-- The order of the sample form is filed in the evening, and the transfer is then asked for by its
number. -/
theorem showing_deferred_sample :
    let ctx := sampleComparison.ctx
    let order := sampleForm.order ctx.hosts
    let filed := runIn sampleLater (submit ctx order) { ledger := {} }
    filed.1.success = true ∧ ∃ id later, filed.1.specialId = some id ∧
      (sampleForm.byNumber id).complete ctx.hosts = .ok later ∧
      showing [] (sampleSurroundings []) (run ctx order) { ledger := {} } =
        showing (traceIn sampleLater (submit ctx order) { ledger := {} }) sampleLater
          (run ctx later) filed.2 := by
  intro ctx order filed
  have hform : sampleForm.complete ctx.hosts = .ok order := rfl
  have htree : (sampleSurroundings []).tree = sampleLater.tree := rfl
  have htransport : (sampleSurroundings []).transport = sampleLater.transport := rfl
  have hfiled : filed.1.success = true := by decide +kernel
  exact ⟨hfiled, (showing_deferred hform rfl htree htransport { ledger := {} }).2.2 hfiled⟩

end Delivery

end Courier
