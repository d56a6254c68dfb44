import Courier.Proofs.Delivery.Conduct
import Courier.Proofs.Delivery.Filing
import Courier.Proofs.Transfer.StoredForm
import Courier.Delivery.Intervention
import Courier.Spool.Configuration

/-!
# Interrupted transfers

What canceling and stopping a transfer does, path by path: to the ledger, towards the other end
of the transfer, and to the outcome.  The record is found first, here or at the other end, and
what is done then is said of the record at hand.

Main definitions:

- `Trace.Deals` says which packets were sent to a partner for an answer, and that nobody else
  was called.
- `Intervention.Adopted` and `Intervention.Marked` say how the record of a transfer is changed
  when it is taken over from the other end, and when the transfer is broken off.
- `Intervention.Locates` and `Intervention.Misses` tell how a record is found or not, and
  `Intervention.Handles` what is done with the one at hand.
- `Intervention.Interrupts` tells all that breaking a transfer off can do.

Main statements:

- Whatever the ledger and the answers of the other end, breaking off a transfer between two hosts
  of a directory does just this (`interrupts_of_listed`).
-/

namespace Courier

open Program

/-! ## Directories -/

namespace Directory

/-- Whether every host is listed under its own name. -/
def Coherent (d : Directory) : Prop :=
  ∀ name p, d.lookup name = .ok p → p.hostId = name

/-- A directory without hosts is coherent. -/
theorem coherent_of_nil {d : Directory} (h : d.hosts = []) : d.Coherent := by
  intro name p hlookup
  simp [lookup, h] at hlookup

/-- A directory stays coherent as hosts are listed. -/
theorem Coherent.addHost {d : Directory} (h : d.Coherent) (p : Partner) :
    (d.addHost p).Coherent := by
  intro name q hlookup
  by_cases hname : name = p.hostId
  · subst hname
    rw [lookup_addHost] at hlookup
    rw [Except.ok.inj hlookup]
  · rw [lookup_addHost_of_ne d hname] at hlookup
    exact h name q hlookup

/-- No alias makes a directory incoherent. -/
theorem Coherent.addAlias {d : Directory} (h : d.Coherent) (name hostId : String) :
    (d.addAlias name hostId).Coherent :=
  h

end Directory

/-- In a directory that is configured every host is listed under its own name. -/
theorem Configuration.coherent_directory (c : Configuration) : c.directory.Coherent := by
  have hlisted : ∀ (hosts : List Partner) (d : Directory), d.Coherent →
      (hosts.foldl Directory.addHost d).Coherent := by
    intro hosts
    induction hosts with
    | nil => exact fun d h => h
    | cons p rest ih => exact fun d h => ih _ (h.addHost p)
  have haliased : ∀ (aliases : List (String × String)) (d : Directory), d.Coherent →
      (aliases.foldl (fun d a => d.addAlias a.1 a.2) d).Coherent := by
    intro aliases
    induction aliases with
    | nil => exact fun d h => h
    | cons a rest ih => exact fun d h => ih _ (h.addAlias a.1 a.2)
  exact haliased _ _ (hlisted _ _ (Directory.coherent_of_nil rfl))

/-! ## Dealings with one partner -/

/-- The packet that was sent for an answer, with the answer. -/
def Exchange.asked? : Exchange → Option (Packet × Except SessionFault Answer)
  | ⟨.ask _ packet _, answer⟩ => some (packet, answer)
  | _ => none

/-- The requests that call one partner at most, for single requests. -/
inductive Request.Calls (partner : Partner) : Request → Prop where
  | apart {r : Request} (h : r.isApart = true) : Calls partner r
  | connect : Calls partner (.connect ⟨partner, none, .none⟩)
  | ask {s : Session} {packet : Packet} {timeout : Calendar.Span} :
      Calls partner (.ask s packet timeout)
  | close {s : Session} : Calls partner (.close s)

/-- Whether a trace deals with one partner at most: these packets were sent for an answer, and
no others. -/
structure Trace.Deals (t : Trace) (partner : Partner)
    (asked : List (Packet × Except SessionFault Answer)) : Prop where
  asked : t.filterMap Exchange.asked? = asked
  calls : ∀ x ∈ t, x.request.Calls partner

/-- Whether a trace has nothing to do with sessions. -/
def Trace.IsApart (t : Trace) : Prop :=
  ∀ x ∈ t, x.request.isApart = true

namespace Trace

variable {t u : Trace} {partner : Partner} {as bs : List (Packet × Except SessionFault Answer)}

/-- Dealings one after the other are those of the whole trace. -/
theorem Deals.append (ht : t.Deals partner as) (hu : u.Deals partner bs) :
    Trace.Deals (t ++ u) partner (as ++ bs) := by
  refine ⟨?_, ?_⟩
  · rw [List.filterMap_append, ht.asked, hu.asked]
  · intro x hx
    rcases List.mem_append.1 hx with hx | hx
    · exact ht.calls x hx
    · exact hu.calls x hx

/-- Where nobody is called there are no dealings. -/
theorem IsApart.deals (h : t.IsApart) : t.Deals partner [] := by
  refine ⟨?_, fun x hx => .apart (h x hx)⟩
  rw [List.filterMap_eq_nil_iff]
  rintro ⟨r, answer⟩ hx
  have hapart := h _ hx
  cases r with
  | ask s packet timeout => cases hapart
  | _ => rfl

theorem isApart_nil : Trace.IsApart [] := by
  intro x hx
  cases hx

theorem IsApart.cons {x : Exchange} (hx : x.request.isApart = true) (h : t.IsApart) :
    Trace.IsApart (x :: t) :=
  List.forall_mem_cons.2 ⟨hx, h⟩

end Trace

/-- A trace that asks nothing of the ledger leaves it alone. -/
theorem Kept.unchanged {t : Trace} {l l' : Ledger} (h : Kept t l l')
    (ht : ∀ x ∈ t, ∀ op, x.request ≠ .ledger op) : l' = l := by
  induction t generalizing l with
  | nil => exact h
  | cons x t ih =>
      obtain ⟨m, hx, hrest⟩ := h
      have hrest' := ih hrest fun y hy => ht y (List.mem_cons_of_mem x hy)
      have hne := ht x List.mem_cons_self
      rcases x with ⟨r, answer⟩
      cases r with
      | ledger op => exact absurd rfl (hne op)
      | _ => exact hrest'.trans hx

/-! ## Single requests -/

namespace Connection

variable {policy : Policy} {partner : Partner} {packet : Packet} {l l' : Ledger} {t : Trace}

/-- The requests of the attempts to open a session. -/
inductive Tries (partner : Partner) : Request → Prop where
  | connect : Tries partner (.connect ⟨partner, none, .none⟩)
  | clockFraction : Tries partner .clockFraction
  | sleep {s : Calendar.Span} : Tries partner (.sleep s)

/-- The attempts to open a session ask for one with the partner. -/
theorem asks_tryOpen (policy : Policy) (partner : Partner) (left : Nat) (reason : String) :
    Asks (Tries partner) (tryOpen policy partner left reason) := by
  induction left generalizing reason with
  | zero => trivial
  | succ left ih =>
      refine asks_bind (asks_perform .connect) fun result => ?_
      cases result with
      | connected session => trivial
      | fatal code message => trivial
      | pending reason =>
          dsimp only
          split
          · refine asks_bind (asks_bind (asks_perform .clockFraction) fun _ => trivial) fun _ => ?_
            exact asks_bind (asks_perform .sleep) fun _ => ih _
          · exact ih _
      | overloaded =>
          dsimp only
          split
          · exact asks_bind (asks_perform .sleep) fun _ => ih _
          · exact ih _

/-- Attempts are no dealings yet. -/
theorem deals_of_tries (h : ∀ x ∈ t, Tries partner x.request) : t.Deals partner [] := by
  refine ⟨?_, ?_⟩
  · rw [List.filterMap_eq_nil_iff]
    rintro ⟨r, answer⟩ hx
    have htries := h _ hx
    cases r with
    | ask s packet timeout => cases htries
    | _ => rfl
  · rintro ⟨r, answer⟩ hx
    have htries : Tries partner r := h _ hx
    cases htries with
    | connect => exact .connect
    | clockFraction => exact .apart rfl
    | sleep => exact .apart rfl

/-- What comes of sending one packet: no session could be opened, or the packet was sent, once,
and the result is its answer. -/
inductive Exchanges (partner : Partner) (packet : Packet) (t : Trace) :
    Except SessionFault Answer → Prop where
  | unreached {fault : SessionFault} (deals : t.Deals partner []) :
      Exchanges partner packet t (.error fault)
  | sent {result : Except SessionFault Answer} (deals : t.Deals partner [(packet, result)]) :
      Exchanges partner packet t result

/-- What is asked of others than partners before and afterwards makes no difference. -/
theorem Exchanges.frame {u v : Trace} {result : Except SessionFault Answer}
    (h : Exchanges partner packet t result) (hu : u.IsApart) (hv : v.IsApart) :
    Exchanges partner packet (u ++ (t ++ v)) result := by
  cases h with
  | unreached deals => exact .unreached (hu.deals.append (deals.append hv.deals))
  | sent deals => exact .sent (hu.deals.append (deals.append hv.deals))

/-- A packet that is answered is one dealing. -/
theorem Exchanges.deals_of_ok {answer : Answer} (h : Exchanges partner packet t (.ok answer)) :
    t.Deals partner [(packet, .ok answer)] := by
  cases h with
  | sent deals => exact deals

/-- One packet is sent to the partner at most, and the ledger is left alone. -/
theorem exchanges_of_runOn {result : Except SessionFault Answer}
    (h : RunOn l (exchange policy partner packet) t result l') :
    l' = l ∧ Exchanges partner packet t result := by
  obtain ⟨u, opened, v, m, rfl, hopen, hrest⟩ := h.of_bind
  have htries := hopen.1.request_of_mem (asks_tryOpen _ _ _ _)
  have hsame : m = l := by
    refine hopen.2.unchanged fun x hx op heq => ?_
    have hx' := htries x hx
    rw [heq] at hx'
    cases hx'
  subst hsame
  have hdeals := deals_of_tries htries
  cases opened with
  | error fault =>
      obtain ⟨rfl, rfl, rfl⟩ := hrest.of_done
      rw [List.append_nil]
      exact ⟨rfl, .unreached hdeals⟩
  | ok session =>
      obtain ⟨answer, w, rfl, hanswer⟩ := hrest.of_ask fun _ _ hm => hm
      obtain ⟨_, x, rfl, hdone⟩ := hanswer.of_ask fun _ _ hm => hm
      obtain ⟨rfl, rfl, rfl⟩ := hdone.of_done
      refine ⟨rfl, .sent ?_⟩
      have hsent : Trace.Deals [⟨.ask session packet policy.requestTimeout, result⟩,
          ⟨.close session, ()⟩] partner [(packet, result)] := by
        refine ⟨rfl, ?_⟩
        intro x hx
        rcases List.mem_cons.1 hx with rfl | hx
        · exact .ask
        · rw [List.mem_singleton.1 hx]
          exact .close
      exact hdeals.append hsent

end Connection

namespace Intervention

open Connection

/-! ## Records -/

/-- The status of a transfer that was broken off. -/
def Interrupt.status : Interrupt → Status
  | cancel => .inError
  | stop => .interrupted

/-- How the record of a transfer is marked that was broken off: its status and its code tell so,
and all but these, the remark and the moment of the change stays. -/
structure Marked (action : Interrupt) (r s : Record) : Prop where
  status : s.status = action.status
  code : s.errorCode = action.code
  rest : s = { r with
    status := s.status, errorCode := s.errorCode, errorMessage := s.errorMessage,
    updatedAt := s.updatedAt }

/-- How a record is taken over from the other end: it waits to be picked up, without an error,
and all but these and the moment of the change is as received. -/
structure Adopted (received r : Record) : Prop where
  status : r.status = .toSubmit
  code : r.errorCode = .initOk
  message : r.errorMessage = none
  rest : r = { received with
    status := r.status, errorCode := r.errorCode, errorMessage := r.errorMessage,
    updatedAt := r.updatedAt }

theorem marked_mark (action : Interrupt) (r : Record) (now : Calendar.Moment) :
    Marked action r (action.mark r now) := by
  cases action <;> exact ⟨rfl, rfl, rfl⟩

/-- A record that is received is adopted by filing it to be submitted. -/
theorem adopted_setToSubmit (r : Record) (now : Calendar.Moment) :
    Adopted r (r.setToSubmit now) :=
  ⟨rfl, rfl, rfl, rfl⟩

/-- An adopted record keeps the key that the partner gave it. -/
theorem Adopted.key {received r : Record} (h : Adopted received r) : r.key = received.key := by
  rw [h.rest]

/-- An interruption keeps the key of a record. -/
@[simp] theorem mark_key (action : Interrupt) (r : Record) (now : Calendar.Moment) :
    (action.mark r now).key = r.key := by
  cases action <;> rfl

/-- An interruption keeps how far a record has come. -/
@[simp] theorem mark_rank (action : Interrupt) (r : Record) (now : Calendar.Moment) :
    (action.mark r now).rank = r.rank := by
  cases action <;> rfl

/-! ## Finding the record -/

/-- The question for the record of a transfer. -/
def question (key : Record.Key) : Packet :=
  .information (.describeTransfer key.specialId key.requester key.requested)

/-- Whether an answer describes the transfer with a key by a record that can be taken over. -/
structure Describes (answer : Answer) (key : Record.Key) (r : Record) : Prop where
  accepted : answer.code.isOkStep = true
  decodes : Json.decode Record.ofJson (answer.payload.getD "") = .ok r
  key : r.key = key
  notDone : r.status ≠ .done

/-- How the record of a transfer is found: in the ledger, or else at the other end, whose copy is
filed then and stamped with the moment of that. -/
inductive Locates (key : Record.Key) (peer : Partner) (l : Ledger) (t : Trace) (r : Record)
    (l' : Ledger) : Prop where
  | here (found : l.find? key = some r) (apart : t.IsApart) (unchanged : l' = l)
  | there {answer : Answer} {received : Record} (missing : l.find? key = none)
      (server : peer.isClientOnly = false) (deals : t.Deals peer [(question key, .ok answer)])
      (describes : Describes answer key received) (adopted : Adopted received r)
      (stamped : ⟨.now, r.updatedAt⟩ ∈ t) (stored : l'.find? key = some r)
      (others : AgreeExcept key l l')

/-- How the record of a transfer is not found: it is not in the ledger, and the other end cannot
be asked or does not describe one that can be taken over.  Nothing has changed then. -/
inductive Misses (key : Record.Key) (peer : Partner) (l : Ledger) (t : Trace) (outcome : Outcome)
    (l' : Ledger) : Prop where
  | unasked (missing : l.find? key = none) (clientOnly : peer.isClientOnly = true)
      (apart : t.IsApart) (failure : outcome.success = false) (code : outcome.code = .internal)
      (unchanged : l' = l)
  | undescribed {result : Except SessionFault Answer} (missing : l.find? key = none)
      (server : peer.isClientOnly = false) (exchanges : Exchanges peer (question key) t result)
      (unsuitable : ∀ answer r, result = .ok answer → ¬Describes answer key r)
      (failure : outcome.success = false) (code : outcome.code = .internal) (unchanged : l' = l)

/-! ## Breaking off -/

/-- What is done with the record at hand, which is not done.  When the other end can be called,
one command is sent to it in the form that it understands. -/
inductive Handles (action : Interrupt) (key : Record.Key) (peer : Partner) (r : Record)
    (m : Ledger) (t : Trace) (outcome : Outcome) (l' : Ledger) : Prop where
  | uncalled {marked : Record} (clientOnly : peer.isClientOnly = true) (apart : t.IsApart)
      (marks : Marked action r marked) (success : outcome.success = true)
      (code : outcome.code = action.code) (record : outcome.record = some marked)
      (stored : l' = m.put marked)
  | failed {fault : SessionFault} (server : peer.isClientOnly = false)
      (exchanges : Exchanges peer (packet action.kind key none peer) t (.error fault))
      (outcome_eq : outcome = .failed fault.code fault.message (some r)) (unchanged : l' = m)
  | acknowledged {answer : Answer} {marked : Record} (server : peer.isClientOnly = false)
      (deals : t.Deals peer [(packet action.kind key none peer, .ok answer)])
      (answered : answer.code = .completeOk) (marks : Marked action r marked)
      (outcome_eq : outcome = .succeeded .completeOk (some marked)) (stored : l' = m.put marked)
  | finished {answer : Answer} (server : peer.isClientOnly = false)
      (deals : t.Deals peer [(packet action.kind key none peer, .ok answer)])
      (answered : answer.code = .transferOk) (outcome_eq : outcome = alreadyFinished .transferOk r)
      (unchanged : l' = m)
  | unexpected {answer : Answer} (server : peer.isClientOnly = false)
      (deals : t.Deals peer [(packet action.kind key none peer, .ok answer)])
      (answered : answer.code ≠ .completeOk ∧ answer.code ≠ .transferOk)
      (failure : outcome.success = false) (code : outcome.code = .internal)
      (record : outcome.record = some r) (unchanged : l' = m)

/-- All that breaking off the transfer with a key can do.  A transfer that is done here is left
alone and nobody is called, one without a record fails and nothing changes, and any other one is
handled from the record that was found. -/
inductive Interrupts (action : Interrupt) (key : Record.Key) (peer : Partner) (l : Ledger)
    (t : Trace) (outcome : Outcome) (l' : Ledger) : Prop where
  | done {r : Record} (found : l.find? key = some r) (done : r.status = .done) (apart : t.IsApart)
      (outcome_eq : outcome = alreadyFinished .transferOk r) (unchanged : l' = l)
  | missed (h : Misses key peer l t outcome l')
  | handled {u v : Trace} {r : Record} {m : Ledger} (split : t = u ++ v)
      (located : Locates key peer l u r m) (notDone : r.status ≠ .done)
      (h : Handles action key peer r m v outcome l')

variable {ctx : Context} {key : Record.Key} {peer : Partner} {l l' m : Ledger} {t : Trace}
  {r : Record} {outcome : Outcome} {action : Interrupt}

/-! ## Runs -/

/-- What an answer to the question for a record says. -/
def described (result : Except SessionFault Answer) : Except SessionFault Record :=
  result >>= Inquiry.accepted >>= Inquiry.recordOf

/-- A question about a record changes nothing here and gives what the partner answers. -/
theorem described_of_runOn {result : Except SessionFault Record} {hostId : String}
    (hlookup : ctx.hosts.lookup hostId = .ok peer)
    (h : RunOn l (Inquiry.describe ctx hostId key) t result l') :
    l' = l ∧ ∃ reply, Exchanges peer (question key) t reply ∧ result = described reply := by
  obtain ⟨u, asked, v, n, rfl, hask, hrest⟩ := h.of_bind
  simp only [Inquiry.ask, hlookup] at hask
  obtain ⟨w, reply, x, k, rfl, hexchange, hanswer⟩ := hask.of_bind
  obtain ⟨rfl, hexchanges⟩ := exchanges_of_runOn hexchange
  cases reply with
  | error fault =>
      obtain ⟨rfl, rfl, rfl⟩ := hanswer.of_done
      obtain ⟨rfl, rfl, rfl⟩ := hrest.of_done
      rw [List.append_nil, List.append_nil]
      exact ⟨rfl, _, hexchanges, rfl⟩
  | ok answer =>
      obtain ⟨rfl, rfl, rfl⟩ := hanswer.of_done
      cases haccepted : Inquiry.accepted answer with
      | error fault =>
          simp only [haccepted] at hrest
          obtain ⟨rfl, rfl, rfl⟩ := hrest.of_done
          rw [List.append_nil, List.append_nil]
          refine ⟨rfl, _, hexchanges, ?_⟩
          show _ = Inquiry.accepted answer >>= Inquiry.recordOf
          rw [haccepted]
          rfl
      | ok answer' =>
          simp only [haccepted] at hrest
          obtain ⟨rfl, rfl, rfl⟩ := hrest.of_done
          rw [List.append_nil, List.append_nil]
          refine ⟨rfl, _, hexchanges, ?_⟩
          show _ = Inquiry.accepted answer >>= Inquiry.recordOf
          rw [haccepted]
          rfl

/-- A description is an answer that holds a record and does not say that something is wrong. -/
theorem described_eq_ok {reply : Except SessionFault Answer} {r : Record} :
    described reply = .ok r ↔ ∃ answer, reply = .ok answer ∧ answer.code.isOkStep = true ∧
      Json.decode Record.ofJson (answer.payload.getD "") = .ok r := by
  cases reply with
  | error fault =>
      constructor
      · intro h
        cases h
      · rintro ⟨answer, h, -⟩
        cases h
  | ok answer =>
      have hbind : described (.ok answer) = Inquiry.accepted answer >>= Inquiry.recordOf := rfl
      rw [hbind, Inquiry.accepted]
      by_cases hok : answer.code.isOkStep = true
      · rw [if_pos hok]
        have hrecord : (Except.ok answer >>= Inquiry.recordOf) = Inquiry.recordOf answer := rfl
        rw [hrecord, Inquiry.recordOf]
        cases hdecode : Json.decode Record.ofJson (answer.payload.getD "") with
        | error fault => simp [hdecode]
        | ok s => simp [hok, hdecode]
      · rw [if_neg hok]
        constructor
        · intro h
          cases h
        · rintro ⟨answer', h, hok', -⟩
          obtain rfl := Except.ok.inj h
          exact absurd hok' hok

/-- A record that was described is taken over when it is the wanted one and not done. -/
theorem adopt_of_runOn {result : Except Outcome Record} (hmissing : l.find? key = none)
    (h : RunOn l (adopt key r) t result l') :
    t.IsApart ∧
      ((¬(r.key = key ∧ r.status ≠ .done) ∧ l' = l ∧
          ∃ outcome, result = .error outcome ∧ outcome.success = false ∧
            outcome.code = .internal) ∨
        (r.key = key ∧ r.status ≠ .done ∧ ∃ s, result = .ok s ∧ Adopted r s ∧
          ⟨.now, s.updatedAt⟩ ∈ t ∧ l'.find? key = some s ∧ AgreeExcept key l l')) := by
  unfold adopt at h
  split at h
  · next hkey =>
      obtain ⟨rfl, rfl, rfl⟩ := h.of_done
      exact ⟨Trace.isApart_nil, .inl ⟨fun hboth => hkey hboth.1, rfl, _, rfl, rfl, rfl⟩⟩
  · next hkey =>
      have hkey' : r.key = key := Decidable.not_not.1 hkey
      split at h
      · next hdone =>
          obtain ⟨rfl, rfl, rfl⟩ := h.of_done
          have hstatus : r.status = .done := by simpa [Record.isAllDone] using hdone
          exact ⟨Trace.isApart_nil, .inl ⟨fun hboth => hboth.2 hstatus, rfl, _, rfl, rfl, rfl⟩⟩
      · next hdone =>
          have hopen : r.status ≠ .done := by simpa [Record.isAllDone] using hdone
          obtain ⟨now, u, rfl, hnow⟩ := h.of_ask fun _ _ hm => hm
          obtain ⟨v, rfl, hinsert⟩ := hnow.of_ledger
          have hfree : l.find? (r.setToSubmit now).key = none := by
            rw [Record.setToSubmit_key, hkey', hmissing]
          simp only [Ledger.perform, Ledger.insert, hfree] at hinsert
          obtain ⟨rfl, rfl, rfl⟩ := hinsert.of_done
          refine ⟨Trace.isApart_nil.cons rfl |>.cons rfl, .inr ⟨hkey', hopen, _, rfl,
            adopted_setToSubmit r now, List.mem_cons_self, ?_, ?_⟩⟩
          · rw [← hkey']
            exact Ledger.find?_put_self l (r.setToSubmit now)
          · rw [← hkey']
            exact AgreeExcept.put l (r.setToSubmit now)

/-- The record of a transfer is found, here or at the other end, or nothing changes. -/
theorem locates_or_misses {result : Except Outcome Record}
    (hlookup : peer.isClientOnly = false → ctx.hosts.lookup peer.hostId = .ok peer)
    (h : RunOn l (locate ctx key peer) t result l') :
    (∃ r, result = .ok r ∧ Locates key peer l t r l') ∨
      ∃ outcome, result = .error outcome ∧ Misses key peer l t outcome l' := by
  obtain ⟨u, rfl, hload⟩ := h.of_ledger
  simp only [Ledger.perform] at hload
  cases hfind : l.find? key with
  | some r =>
      simp only [hfind] at hload
      obtain ⟨rfl, rfl, rfl⟩ := hload.of_done
      exact .inl ⟨r, rfl, .here hfind (Trace.isApart_nil.cons rfl) rfl⟩
  | none =>
      simp only [hfind] at hload
      cases hclient : peer.isClientOnly with
      | true =>
          simp only [hclient, if_true] at hload
          obtain ⟨rfl, rfl, rfl⟩ := hload.of_done
          exact .inr ⟨_, rfl, .unasked hfind hclient (Trace.isApart_nil.cons rfl) rfl rfl rfl⟩
      | false =>
          simp only [hclient, Bool.false_eq_true, if_false] at hload
          obtain ⟨v, received, w, n, rfl, hdescribe, hrest⟩ := hload.of_bind
          obtain ⟨rfl, reply, hexchanges, hreceived⟩ :=
            described_of_runOn (hlookup hclient) hdescribe
          have hasked : ∀ loaded, Trace.IsApart [⟨.ledger (.load key), loaded⟩] := fun _ =>
            Trace.isApart_nil.cons rfl
          cases received with
          | error fault =>
              obtain ⟨rfl, rfl, rfl⟩ := hrest.of_done
              refine .inr ⟨_, rfl, .undescribed hfind hclient
                (hexchanges.frame (hasked _) Trace.isApart_nil) ?_ rfl rfl rfl⟩
              intro answer r hreply hdescribes
              have hok := described_eq_ok.2
                ⟨answer, hreply, hdescribes.accepted, hdescribes.decodes⟩
              cases hreceived.trans hok
          | ok received =>
              obtain ⟨answer, rfl, haccepted, hdecodes⟩ := described_eq_ok.1 hreceived.symm
              obtain ⟨hapart, hadopt⟩ := adopt_of_runOn hfind hrest
              have hframed := fun loaded => hexchanges.frame (hasked loaded) hapart
              rcases hadopt with ⟨hunsuitable, rfl, outcome, rfl, hfailure, hcode⟩ |
                ⟨hkey, hopen, r, rfl, hadopted, hstamped, hstored, hothers⟩
              · refine .inr ⟨outcome, rfl,
                  .undescribed hfind hclient (hframed _) ?_ hfailure hcode rfl⟩
                intro answer' r hanswer hdescribes
                obtain rfl := Except.ok.inj hanswer
                obtain rfl := Except.ok.inj (hdecodes.symm.trans hdescribes.decodes)
                exact hunsuitable ⟨hdescribes.key, hdescribes.notDone⟩
              · exact .inl ⟨r, rfl, .there hfind hclient (hframed _).deals_of_ok
                  ⟨haccepted, hdecodes, hkey, hopen⟩ hadopted
                  (List.mem_cons_of_mem _ (List.mem_append_right v hstamped)) hstored hothers⟩

/-- The record that is found has the key that it was looked for with. -/
theorem Locates.key_eq (h : Locates key peer l t r m) : r.key = key := by
  cases h with
  | here found => exact Ledger.key_of_find? found
  | there _ _ _ _ _ _ stored => exact Ledger.key_of_find? stored

/-- A record that was found can be changed, unless it is done. -/
theorem Locates.ready (h : Locates key peer l t r m) (hopen : r.status ≠ .done) :
    Delivery.Ready m r := by
  have hready : ∀ {m : Ledger}, m.find? key = some r → Delivery.Ready m r := by
    intro m hfind
    refine ⟨?_, hopen⟩
    rw [Ledger.key_of_find? hfind]
    exact hfind
  cases h with
  | here found _ unchanged =>
      rw [unchanged]
      exact hready found
  | there _ _ _ _ _ _ stored => exact hready stored

/-! ## Breaking off -/

/-- A record that is broken off is marked and saved, without anybody being called. -/
theorem breakOff_of_runOn {s : Record} (hready : Delivery.Ready m r)
    (h : RunOn m (breakOff action r) t s l') :
    Marked action r s ∧ l' = m.put s ∧ t.IsApart := by
  obtain ⟨now, u, rfl, hnow⟩ := h.of_ask fun _ _ hm => hm
  obtain ⟨_, rfl, hsave⟩ := hnow.of_map
  have hapart := hsave.1.request_of_mem
    (Delivery.ensures_save (Delivery.tends_isApart _) rfl).asks
  obtain ⟨rfl, -⟩ := Delivery.runOn_save hsave hready (by simp) (.inl (by simp))
  exact ⟨marked_mark action r now, rfl, Trace.IsApart.cons rfl hapart⟩

/-- What the answer to the command means for the record at hand. -/
theorem handles_of_answer {answer : Answer} {u v : Trace} (hready : Delivery.Ready m r)
    (hserver : peer.isClientOnly = false)
    (hdeals : u.Deals peer [(packet action.kind key none peer, .ok answer)])
    (h : RunOn m (interpretInterrupt action r answer) v outcome l') :
    Handles action key peer r m (u ++ v) outcome l' := by
  unfold interpretInterrupt at h
  split at h
  · next hcomplete =>
      obtain ⟨s, rfl, hbreak⟩ := h.of_map
      obtain ⟨hmarked, hstored, hapart⟩ := breakOff_of_runOn hready hbreak
      exact .acknowledged hserver (hdeals.append hapart.deals) hcomplete hmarked rfl hstored
  · next hcomplete =>
      split at h
      · next htransfer =>
          obtain ⟨rfl, rfl, rfl⟩ := h.of_done
          rw [List.append_nil]
          exact .finished hserver hdeals htransfer rfl rfl
      · next htransfer =>
          obtain ⟨rfl, rfl, rfl⟩ := h.of_done
          rw [List.append_nil]
          exact .unexpected hserver hdeals ⟨hcomplete, htransfer⟩ rfl rfl rfl rfl

/-- Breaking a transfer off between two ends does just this. -/
theorem interrupts_of_runOn {specialId : Int} {requested requester : String} {parties : Parties}
    (hresolve : resolve ctx.hosts requested requester = .ok parties)
    (hlookup : parties.peer.isClientOnly = false →
      ctx.hosts.lookup parties.peer.hostId = .ok parties.peer)
    (h : RunOn l (interrupt ctx action specialId requested requester) t outcome l') :
    Interrupts action (parties.key specialId) parties.peer l t outcome l' := by
  obtain ⟨u, found, v, m, rfl, hfind, hrest⟩ := h.of_bind
  simp only [find, hresolve] at hfind
  obtain ⟨w, located, x, n, rfl, hlocate, hend⟩ := hfind.of_bind
  rcases locates_or_misses hlookup hlocate with ⟨r, rfl, hlocates⟩ | ⟨outcome, rfl, hmisses⟩
  · obtain ⟨rfl, rfl, rfl⟩ := hend.of_done
    rw [List.append_nil]
    dsimp only at hrest
    by_cases hdone : r.isAllDone = true
    · have hstatus : r.status = .done := by simpa [Record.isAllDone] using hdone
      simp only [hdone, if_true] at hrest
      obtain ⟨rfl, rfl, rfl⟩ := hrest.of_done
      rw [List.append_nil]
      cases hlocates with
      | here found apart unchanged => exact .done found hstatus apart rfl unchanged
      | there _ _ _ _ adopted => simp [adopted.status] at hstatus
    · have hopen : r.status ≠ .done := by simpa [Record.isAllDone] using hdone
      have hready := hlocates.ready hopen
      simp only [hdone, Bool.false_eq_true, if_false] at hrest
      refine .handled rfl hlocates hopen ?_
      cases hclient : parties.peer.isClientOnly with
      | true =>
          simp only [hclient, if_true] at hrest
          obtain ⟨s, rfl, hbreak⟩ := hrest.of_map
          obtain ⟨hmarked, hstored, hapart⟩ := breakOff_of_runOn hready hbreak
          exact .uncalled hclient hapart hmarked rfl rfl rfl hstored
      | false =>
          simp only [hclient, Bool.false_eq_true, if_false] at hrest
          obtain ⟨y, reply, z, k, rfl, hexchange, hanswer⟩ := hrest.of_bind
          obtain ⟨rfl, hexchanges⟩ := exchanges_of_runOn hexchange
          cases reply with
          | error fault =>
              obtain ⟨rfl, rfl, rfl⟩ := hanswer.of_done
              rw [List.append_nil]
              exact .failed hclient hexchanges rfl rfl
          | ok answer => exact handles_of_answer hready hclient hexchanges.deals_of_ok hanswer
  · obtain ⟨rfl, rfl, rfl⟩ := hend.of_done
    obtain ⟨rfl, rfl, rfl⟩ := hrest.of_done
    rw [List.append_nil, List.append_nil]
    exact .missed hmisses

/-! ## Hosts of a directory -/

/-- A host that can be called is listed under its own name. -/
theorem lookup_of_entryOf {hosts : Directory} (hcoherent : hosts.Coherent) {name : String}
    {p : Partner} (h : entryOf hosts name = .ok p) (hserver : p.isClientOnly = false) :
    hosts.lookup p.hostId = .ok p := by
  unfold entryOf at h
  cases hlookup : hosts.lookup name with
  | ok q =>
      simp only [hlookup] at h
      obtain rfl := Except.ok.inj h
      rw [hcoherent name q hlookup, hlookup]
  | error fault =>
      simp only [hlookup] at h
      split at h
      · obtain rfl := Except.ok.inj h
        simp [Partner.isClientOnly, Partner.clientOnly] at hserver
      · cases h

/-- Two hosts that have entries are resolved to them. -/
theorem resolve_of_entries {hosts : Directory} {requested requester : String} {p q : Partner}
    (hrequested : entryOf hosts (hosts.resolve requested) = .ok p)
    (hrequester : entryOf hosts (hosts.resolve requester) = .ok q) :
    resolve hosts requested requester =
      .ok ⟨p, q, hosts.isLocal (hosts.resolve requester)⟩ := by
  simp only [resolve, hrequested, hrequester]

/-- Whatever the ledger, and whatever is answered by all but the ledger: breaking off a transfer
between two hosts of a directory comes to an end and has done just this, where the other end is
the requested host when the requester is this host, and the requester otherwise. -/
theorem interrupts_of_listed (ctx : Context) (hcoherent : ctx.hosts.Coherent) (action : Interrupt)
    (specialId : Int) (requested requester : String) (l : Ledger)
    (answer : Trace → (r : Request) → r.Answer) {p q : Partner}
    (hrequested : entryOf ctx.hosts (ctx.hosts.resolve requested) = .ok p)
    (hrequester : entryOf ctx.hosts (ctx.hosts.resolve requester) = .ok q) :
    let run := play (onLedger l answer) (interrupt ctx action specialId requested requester)
    let peer := if ctx.hosts.isLocal (ctx.hosts.resolve requester) then p else q
    Interrupts action ⟨specialId, q.hostId, p.hostId⟩ peer l run.2 run.1 (run.2.ledgerAfter l) := by
  intro run peer
  have hresolve := resolve_of_entries hrequested hrequester
  have hlookup : peer.isClientOnly = false → ctx.hosts.lookup peer.hostId = .ok peer := by
    by_cases hlocal : ctx.hosts.isLocal (ctx.hosts.resolve requester) = true
    · have hpeer : peer = p := if_pos hlocal
      rw [hpeer]
      exact lookup_of_entryOf hcoherent hrequested
    · have hpeer : peer = q := if_neg hlocal
      rw [hpeer]
      exact lookup_of_entryOf hcoherent hrequester
  exact interrupts_of_runOn hresolve hlookup (runOn_play l answer _)

/-! ## A transfer that is not known here -/

/-- A host that can be called. -/
def samplePeer : Partner := { hostId := "there" }

/-- This host and one that can be called. -/
def sampleContext : Context where
  hosts := ({ plainId := "here", secureId := "here-tls" } : Directory).addHost samplePeer
  rules := .ofList []
  policy := .standard

/-- The key of a transfer from here. -/
def sampleKey : Record.Key := ⟨7, "here", "there"⟩

/-- The record of a transfer that runs. -/
def sampleRecord : Record :=
  { (default : Record) with key := sampleKey, status := .running }

/-- A moment after the last change of the record. -/
def sampleNow : Calendar.Moment := ⟨⟨default, ⟨12, 0, 0, 0, by decide⟩⟩⟩

/-- An answer that describes a transfer in some text. -/
def sampleDescription (text : String) : Answer :=
  { code := .completeOk, payload := some text }

/-- Answers of a host that describes the transfer and refuses the command, when it is reached. -/
def sampleAnswers (reached : Connect.Result) : Trace → (r : Request) → r.Answer
  | _, .now => sampleNow
  | _, .clockFraction => 0
  | _, .files op => match op with
      | .metadata _ | .entries _ | .read _ | .write _ _ | .makeDirectories _ | .rename _ _
      | .remove _ => .error .notFound
  | _, .ledger op => ((Ledger.mk [] 0).perform op).1
  | _, .connect _ => reached
  | _, .ask _ (.information _) _ => .ok (sampleDescription sampleRecord.toJson.compact)
  | _, .ask _ _ _ => .ok { code := .internal }
  | _, .complete _ _ | _, .send _ _ _ | _, .writable _ => .error .closed
  | _, .reportFailure _ | _, .reportProgress _ | _, .tally _ | _, .sleep _ | _, .close _ => ()

theorem sampleContext_coherent : sampleContext.hosts.Coherent :=
  (Directory.coherent_of_nil rfl).addHost samplePeer

theorem interrupts_of_listed_sample :
    sampleContext.hosts.Coherent ∧
    entryOf sampleContext.hosts (sampleContext.hosts.resolve "there") = .ok samplePeer ∧
    entryOf sampleContext.hosts (sampleContext.hosts.resolve "here") = .ok (.clientOnly "here") ∧
    Interrupts .cancel sampleKey samplePeer {}
      (play (onLedger {} (sampleAnswers (.connected ⟨0⟩)))
        (interrupt sampleContext .cancel 7 "there" "here")).2
      (play (onLedger {} (sampleAnswers (.connected ⟨0⟩)))
        (interrupt sampleContext .cancel 7 "there" "here")).1
      (Trace.ledgerAfter {}
        (play (onLedger {} (sampleAnswers (.connected ⟨0⟩)))
          (interrupt sampleContext .cancel 7 "there" "here")).2) :=
  ⟨sampleContext_coherent, rfl, rfl, interrupts_of_listed sampleContext sampleContext_coherent
    .cancel 7 "there" "here" {} (sampleAnswers (.connected ⟨0⟩)) rfl rfl⟩

/-- What is asked to find the transfer at the other end. -/
def sampleSearch (text : String) : Trace :=
  [⟨.ledger (.load sampleKey), none⟩, ⟨.connect ⟨samplePeer, none, .none⟩, .connected ⟨0⟩⟩,
    ⟨.ask ⟨0⟩ (question sampleKey) sampleContext.policy.requestTimeout,
      .ok (sampleDescription text)⟩,
    ⟨.close ⟨0⟩, ()⟩]

/-- What is asked to take it over. -/
def sampleAdoption : Trace :=
  [⟨.now, sampleNow⟩, ⟨.ledger (.insert (sampleRecord.setToSubmit sampleNow)), .ok ()⟩]

/-- What is asked to have it canceled, which is refused. -/
def sampleCommand : Trace :=
  [⟨.connect ⟨samplePeer, none, .none⟩, .connected ⟨0⟩⟩,
    ⟨.ask ⟨0⟩ (packet .cancel sampleKey none samplePeer) sampleContext.policy.requestTimeout,
      .ok { code := .internal }⟩,
    ⟨.close ⟨0⟩, ()⟩]

theorem run_find_sample {text : String}
    (hdecode : Json.decode Record.ofJson text = .ok sampleRecord) :
    Run (find sampleContext 7 "there" "here") (sampleSearch text ++ sampleAdoption)
      (.ok (⟨samplePeer, .clientOnly "here", true⟩, sampleRecord.setToSubmit sampleNow)) := by
  have hrecord : Inquiry.recordOf (sampleDescription text) = .ok sampleRecord := by
    simp only [Inquiry.recordOf, sampleDescription, Option.getD_some, hdecode]
  have hdescribe : Run (Inquiry.describe sampleContext "there" sampleKey) (sampleSearch text).tail
      (.ok sampleRecord) := by
    rw [← hrecord]
    exact Run.step (Run.step (Run.step (Run.done _)))
  have hadopt : Run (adopt sampleKey sampleRecord) sampleAdoption
      (.ok (sampleRecord.setToSubmit sampleNow)) :=
    Run.step (Run.step (Run.done _))
  have hlocate : Run (locate sampleContext sampleKey samplePeer)
      (sampleSearch text ++ sampleAdoption) (.ok (sampleRecord.setToSubmit sampleNow)) :=
    Run.ask_iff.2 ⟨none, _, rfl, Run.bind_iff.2 ⟨_, _, _, rfl, hdescribe, hadopt⟩⟩
  rw [← List.append_nil (sampleSearch text ++ sampleAdoption)]
  exact Run.bind_iff.2 ⟨_, _, [], rfl, hlocate, Run.done _⟩

/-- A record that is taken over does not keep the moment of its last change, and no command is
sent to a host that is not reached. -/
theorem interrupt_restamps_sample :
    (let run := play (onLedger {} (sampleAnswers (.connected ⟨0⟩)))
      (interrupt sampleContext .cancel 7 "there" "here")
    (run.2.ledgerAfter {}).find? sampleKey ≠
      some { sampleRecord with
        status := .toSubmit, errorCode := .initOk, errorMessage := none }) ∧
    (let run := play
      (onLedger { records := [sampleRecord] } (sampleAnswers (.fatal .connectionImpossible "")))
      (interrupt sampleContext .cancel 7 "there" "here")
    run.2.filterMap Exchange.asked? = []) := by
  refine ⟨?_, rfl⟩
  intro run
  let text := sampleRecord.toJson.compact
  have hdecode : Json.decode Record.ofJson text = .ok sampleRecord :=
    Record.decode_compact
      ⟨by decide, by decide, by decide, by decide, by decide, by decide⟩
  have hrun : Run (interrupt sampleContext .cancel 7 "there" "here")
      (sampleSearch text ++ sampleAdoption ++ sampleCommand)
      (internal ("unexpected answer: " ++ ResultCode.internal.text)
        (some (sampleRecord.setToSubmit sampleNow))) :=
    Run.bind_iff.2 ⟨_, _, _, rfl, run_find_sample hdecode,
      Run.step (Run.step (Run.step (Run.done _)))⟩
  have hanswered : Answered (onLedger {} (sampleAnswers (.connected ⟨0⟩))) []
      (sampleSearch text ++ sampleAdoption ++ sampleCommand) :=
    ⟨rfl, rfl, rfl, rfl, rfl, rfl, rfl, rfl, rfl, trivial⟩
  have hplay : run = _ := play_of_run hrun hanswered
  rw [hplay]
  decide

end Intervention

end Courier
