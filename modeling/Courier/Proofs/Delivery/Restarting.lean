import Courier.Proofs.Delivery.Provenance

/-!
# Transfers that are restarted from here

A requester that only opens sessions and is this host runs its transfer again itself.  The record
is found under the key that the names in the request stand for.  What is run is an order by number
for the host that this record names as requested, and the order derives a key of its own: the name
is resolved once more, and this host goes by the name that it has towards that partner.  The
requester that the record names has no part in it.

So two keys meet here.  Where they are equal, the transfer that was found is run.  Where they are
not, another one is, with the same number, and when there is none the restart fails.

Main definitions:

- `Intervention.rerun?` is the partner and the key that the order for a record means.
- `Intervention.Resumes` says which record an attempt asks for when a transfer is resumed, and
  `Intervention.Reruns` how a run of such a transfer goes.
- `Intervention.RestartsHere` tells all that such a restart can do.

Main statements:

- Whatever the directory, the ledger and the answers, a restart by this host does just this
  (`restartsHere_of_listed`).
-/

namespace Courier

open Program

/-! ## Calls -/

/-- The requests that call nobody but a partner, for a transfer whose record is in some form. -/
def Request.CallsFor (peer : Partner) (Q : Record → Prop) : Request → Prop
  | .connect c => ∃ s, c = ⟨peer, some s, .none⟩ ∧ Q s
  | _ => True

theorem Delivery.tends_callsFor (key : Record.Key) (peer : Partner) (Q : Record → Prop) :
    Tends key (Request.CallsFor peer Q) :=
  ⟨trivial, fun _ _ => trivial, trivial, fun _ => trivial⟩

theorem Delivery.calls_callsFor (peer : Partner) (Q : Record → Prop) :
    Calls peer Q .none (Request.CallsFor peer Q) :=
  ⟨fun r hr => ⟨r, rfl, hr⟩, trivial, fun _ => trivial, fun _ _ => trivial, fun _ => trivial⟩

namespace Intervention

/-! ## Keys -/

/-- The partner of the order that runs the transfer under a key again, and the key that this
order means. -/
def rerun? (hosts : Directory) (key : Record.Key) : Option (Partner × Record.Key) :=
  if Text.trim key.requested = "" then none
  else match hosts.lookup (hosts.resolve (Text.trim key.requested)) with
    | .ok partner =>
        some (partner, ⟨key.specialId, hosts.localId partner.useTls, partner.hostId⟩)
    | .error _ => none

/-! ## Runs of a record -/

/-- The records that attempts ask for when a transfer is resumed: as it was found, with the new
start when there is one, or noted as one whose partner was too busy. -/
inductive Resumes (r : Record) (start : Option Calendar.Moment) : Record → Prop where
  | asFound : Resumes r start { r with startTime := start.getD r.startTime }
  | overloaded {s : Record} (now : Calendar.Moment) (h : Resumes r start s) :
      Resumes r start (Delivery.overloaded s now)

theorem Resumes.key {r s : Record} {start : Option Calendar.Moment} (h : Resumes r start s) :
    s.key = r.key := by
  induction h with
  | asFound => rfl
  | overloaded now h ih => exact ih

/-- How a record is resumed with a partner: the partner is called, every attempt asks for this
record, nothing else is changed in the ledger, and the outcome is about it. -/
structure Resumed (peer : Partner) (r : Record) (start : Option Calendar.Moment) (l : Ledger)
    (t : Trace) (outcome : Outcome) (l' : Ledger) : Prop where
  called : t.connects ≠ []
  attempts : ∀ x ∈ t, ∀ c, x.request = .connect c →
    ∃ s, c = ⟨peer, some s, .none⟩ ∧ Resumes r start s
  others : AgreeExcept r.key l l'
  code : outcome.success = true → outcome.code = .preProcessingOk
  record : ∃ s, outcome.record = some s ∧ s.key = r.key

/-- How the order for the record under a key ends.  It is refused, with nobody called and nothing
changed, or the record that it means is resumed. -/
inductive Reruns (hosts : Directory) (key : Record.Key) (start : Option Calendar.Moment)
    (l : Ledger) (t : Trace) (outcome : Outcome) (l' : Ledger) : Prop where
  | unnamed (named : rerun? hosts key = none) (apart : t.IsApart)
      (failure : outcome.success = false) (unchanged : l' = l)
  | missing {peer : Partner} {meant : Record.Key} (named : rerun? hosts key = some (peer, meant))
      (missing : l.find? meant = none) (apart : t.IsApart)
      (outcome_eq : outcome = .failed .queryRemotelyUnknown ("no transfer " ++ meant.text) none)
      (unchanged : l' = l)
  | done {peer : Partner} {r : Record} (named : rerun? hosts key = some (peer, r.key))
      (found : l.find? r.key = some r) (done : r.status = .done) (apart : t.IsApart)
      (outcome_eq : outcome =
        .failed .queryAlreadyFinished ("transfer " ++ r.key.text ++ " is already done") (some r))
      (unchanged : l' = l)
  | resumed {peer : Partner} {r : Record} (named : rerun? hosts key = some (peer, r.key))
      (found : l.find? r.key = some r) (notDone : r.status ≠ .done)
      (h : Resumed peer r start l t outcome l')

/-- All that a restart by this host can do to the transfer with a key.  One that is done is left
alone, and one without a record fails.  For any other one an order is run, and the record that was
found is resumed whenever the order means it.  It may start when the clocks of this host first show
the time, if they ever do. -/
inductive RestartsHere (hosts : Directory) (key : Record.Key) (peer : Partner)
    (time : Option Calendar.Timestamp) (l : Ledger) (t : Trace) (outcome : Outcome)
    (l' : Ledger) : Prop where
  | done {r : Record} (found : l.find? key = some r) (done : r.status = .done) (apart : t.IsApart)
      (outcome_eq : outcome = alreadyFinished .completeOk r) (unchanged : l' = l)
  | missed (h : Misses key peer l t outcome l')
  | rerun {u v : Trace} {r : Record} {m : Ledger} (split : t = u ++ v)
      (located : Locates key peer l u r m) (notDone : r.status ≠ .done)
      (h : Reruns hosts key (time.bind hosts.zone.first?) m v outcome l')
      (faithful : rerun? hosts key = some (peer, key) →
        Resumed peer r (time.bind hosts.zone.first?) m v outcome l')

variable {ctx : Context} {key : Record.Key} {peer : Partner} {l l' m : Ledger} {t : Trace}
  {r : Record} {outcome : Outcome} {time : Option Calendar.Timestamp}
  {start : Option Calendar.Moment}

/-- A record that is not done is resumed when it is the one that the order means. -/
theorem Reruns.resumed_of_named (h : Reruns ctx.hosts key start m t outcome l')
    (hready : Delivery.Ready m r) (hnamed : rerun? ctx.hosts key = some (peer, r.key)) :
    Resumed peer r start m t outcome l' := by
  have hsame : ∀ {q : Partner} {s : Record}, rerun? ctx.hosts key = some (q, s.key) →
      m.find? s.key = some s → q = peer ∧ s = r := by
    intro q s hnamed' hfound
    obtain ⟨rfl, hkey⟩ := Prod.mk.inj (Option.some.inj (hnamed'.symm.trans hnamed))
    rw [hkey, hready.stored] at hfound
    exact ⟨rfl, (Option.some.inj hfound).symm⟩
  cases h with
  | unnamed named => simp [named] at hnamed
  | missing named missing =>
      obtain ⟨rfl, rfl⟩ := Prod.mk.inj (Option.some.inj (named.symm.trans hnamed))
      simp [hready.stored] at missing
  | done named found done =>
      obtain ⟨-, rfl⟩ := hsame named found
      exact absurd done hready.notDone
  | resumed named found notDone h =>
      obtain ⟨rfl, rfl⟩ := hsame named found
      exact h

/-! ## Orders by number -/

/-- An order by number says nothing about its record but when it may start. -/
theorem amend_restartForm (hosts : Directory) (filed stored : Record) :
    Preparation.amend stored ((restartForm hosts.zone filed time).order hosts) =
      { stored with startTime := (time.bind hosts.zone.first?).getD stored.startTime } := by
  unfold restartForm
  generalize time.bind hosts.zone.first? = start
  cases start <;> rfl

/-! ## Runs -/

/-- A record that was taken up is resumed with its partner, whatever comes of that. -/
theorem resumed_of_finishes {stored : Record} {p : Prepared} {u v : Trace} {ended : Outcome}
    (hsame : p.record.key = stored.key) (hu : u.IsApart)
    (hcalls : ∀ x ∈ v, x.request.CallsFor p.partner (Resumes stored start))
    (hconnects : v.connects ≠ []) (h : Delivery.Finishes (l.put p.record) p v ended l') :
    Resumed p.partner stored start l (u ++ v)
      (if ended.success then .succeeded .preProcessingOk ended.record else ended) l' := by
  have hcalled : Trace.connects (u ++ v) ≠ [] := by
    rw [Trace.connects_append]
    exact List.append_ne_nil_of_right_ne_nil _ hconnects
  have hattempts : ∀ x ∈ u ++ v, ∀ c, x.request = .connect c →
      ∃ s, c = ⟨p.partner, some s, .none⟩ ∧ Resumes stored start s := by
    intro x hx c hconnect
    rcases List.mem_append.1 hx with hx | hx
    · have hapart := hu x hx
      rw [hconnect] at hapart
      cases hapart
    · have hfor := hcalls x hx
      rwa [hconnect] at hfor
  have hput : AgreeExcept stored.key l (l.put p.record) := hsame ▸ AgreeExcept.put l p.record
  obtain ⟨⟨r, hrecord, hkey⟩, hothers⟩ := h.record
  refine ⟨hcalled, hattempts, hput.trans (hsame ▸ hothers), ?_, r, ?_, hkey.trans hsame⟩
  · by_cases hsuccess : ended.success = true
    · rw [if_pos hsuccess]
      exact fun _ => rfl
    · rw [if_neg hsuccess]
      exact fun h => absurd h hsuccess
  · split
    · exact hrecord
    · exact hrecord

/-- The order for a record is only refused for the record that it means. -/
theorem reruns_of_refusal {filed : Record} {partner : Partner} {kind : Preparation.Kind}
    {refused : Outcome}
    (hlookup : ctx.hosts.lookup ((restartForm ctx.hosts.zone filed time).order ctx.hosts).partner = .ok partner)
    (hnamed : rerun? ctx.hosts filed.key =
      some (partner, ⟨filed.specialId, ctx.hosts.localId partner.useTls, partner.hostId⟩))
    (hapart : t.IsApart)
    (h : Preparation.Refusal ctx ((restartForm ctx.hosts.zone filed time).order ctx.hosts) kind l refused) :
    Reruns ctx.hosts filed.key (time.bind ctx.hosts.zone.first?) l t
      (if refused.success then .succeeded .preProcessingOk refused.record else refused) l := by
  have hkey : Preparation.orderedKey? ctx ((restartForm ctx.hosts.zone filed time).order ctx.hosts) l =
      some ⟨filed.specialId, ctx.hosts.localId partner.useTls, partner.hostId⟩ :=
    Preparation.orderedKey?_eq hlookup
  cases h with
  | unknownHost hunknown => simp [hlookup] at hunknown
  | unknownRule _ hnew => cases hnew
  | unsuitableRule _ hnew => cases hnew
  | unknownId _ hkey' hfind =>
      obtain rfl := Option.some.inj (hkey.symm.trans hkey')
      exact .missing hnamed hfind hapart rfl rfl
  | alreadyDone _ hkey' hfind hdone =>
      obtain rfl := Option.some.inj (hkey.symm.trans hkey')
      have hsame := Ledger.key_of_find? hfind
      refine .done (hsame ▸ hnamed) (hsame ▸ hfind) hdone hapart ?_ rfl
      rw [hsame]
      rfl

/-- The order for a record ends in one of the four ways. -/
theorem reruns_of_run {filed : Record} {order : Order} {ended : Outcome}
    (hcomplete : (restartForm ctx.hosts.zone filed time).complete ctx.hosts = .ok order)
    (h : RunOn l (Delivery.run ctx order) t ended l') :
    Reruns ctx.hosts filed.key (time.bind ctx.hosts.zone.first?) l t
      (if ended.success then .succeeded .preProcessingOk ended.record else ended) l' := by
  obtain ⟨hblank, -, rfl⟩ := Order.Form.complete_eq_ok_iff.1 hcomplete
  have hblank' : Text.trim filed.key.requested ≠ "" := hblank
  cases hlookup : ctx.hosts.lookup (ctx.hosts.resolve (Text.trim filed.key.requested)) with
  | error fault =>
      obtain ⟨u, result, v, m, rfl, hprepare, hrest⟩ := h.of_bind
      simp only [Preparation.prepare, Order.Form.order, restartForm, hlookup] at hprepare
      obtain ⟨rfl, rfl, rfl⟩ := hprepare.of_done
      obtain ⟨rfl, rfl, rfl⟩ := hrest.of_done
      refine .unnamed ?_ Trace.isApart_nil rfl rfl
      simp [rerun?, hblank', hlookup]
  | ok partner =>
      have hnamed : rerun? ctx.hosts filed.key =
          some (partner, ⟨filed.specialId, ctx.hosts.localId partner.useTls, partner.hostId⟩) := by
        simp [rerun?, hblank', hlookup, Record.specialId]
      obtain ⟨u, v, found, m, rfl, hapart, hobtains, -, hend⟩ := Delivery.obtains_of_run hlookup h
      cases hobtains with
      | refused hrefusal _ =>
          obtain ⟨rfl, rfl, rfl⟩ := hend
          rw [List.append_nil]
          exact reruns_of_refusal hlookup hnamed hapart hrefusal
      | entered hentered => cases hentered.isNew
      | @takenUp stored r htaken =>
          have hid : filed.specialId = stored.specialId := Option.some.inj htaken.number
          have hrecord : r = { stored with
              startTime := (time.bind ctx.hosts.zone.first?).getD stored.startTime } :=
            htaken.amended.trans (amend_restartForm _ _ _)
          have hsame : r.key = stored.key := by rw [hrecord]
          have hopen : r.status ≠ .done := by
            rw [hrecord]
            exact htaken.notDone
          have hcalls : ∀ x ∈ v, x.request.CallsFor partner
              (Resumes stored (time.bind ctx.hosts.zone.first?)) := by
            refine hend.1.request_of_mem (Delivery.ensures_connect_finish_of (p := ⟨partner, r, _⟩)
              (Delivery.tends_callsFor _ _ _) (Delivery.calls_callsFor _ _) ?_ ?_ ?_ _).asks
            · exact fun s hs => hs.key.trans hsame.symm
            · exact fun s now hs => .overloaded now hs
            · exact hrecord ▸ .asFound
          obtain ⟨hfinishes, hconnects⟩ :=
            Delivery.finishes_of_ready hend ⟨Ledger.find?_put_self l r, hopen⟩
          refine .resumed ?_ htaken.found htaken.notDone
            (resumed_of_finishes (p := ⟨partner, r, _⟩) hsame hapart hcalls hconnects hfinishes)
          rw [hnamed, htaken.key, hid]

/-- A transfer that is run again from here is run so. -/
theorem reruns_of_restartLocally (h : RunOn l (restartLocally ctx r time) t outcome l') :
    Reruns ctx.hosts r.key (time.bind ctx.hosts.zone.first?) l t outcome l' := by
  unfold restartLocally at h
  cases hcomplete : (restartForm ctx.hosts.zone r time).complete ctx.hosts with
  | error fault =>
      simp only [hcomplete] at h
      obtain ⟨rfl, rfl, rfl⟩ := h.of_done
      refine .unnamed ?_ Trace.isApart_nil rfl rfl
      by_cases hblank : Text.trim r.key.requested = ""
      · simp [rerun?, hblank]
      · have hok : (restartForm ctx.hosts.zone r time).complete ctx.hosts =
            .ok ((restartForm ctx.hosts.zone r time).order ctx.hosts) :=
          Order.Form.complete_eq_ok_iff.2 ⟨hblank, .inr rfl, rfl⟩
        cases hcomplete.symm.trans hok
  | ok order =>
      simp only [hcomplete] at h
      obtain ⟨u, ended, v, m, rfl, hrun, hrest⟩ := h.of_bind
      have hreruns := reruns_of_run hcomplete hrun
      by_cases hsuccess : ended.success = true
      · simp only [hsuccess, if_true] at hrest hreruns
        obtain ⟨rfl, rfl, rfl⟩ := hrest.of_done
        rwa [List.append_nil]
      · simp only [hsuccess] at hrest hreruns
        obtain ⟨rfl, rfl, rfl⟩ := hrest.of_done
        rwa [List.append_nil]

/-- A restart between two ends, the requester being this host, does just this. -/
theorem restartsHere_of_runOn {specialId : Int} {requested requester : String} {q : Partner}
    (hresolve : resolve ctx.hosts requested requester = .ok ⟨peer, q, true⟩)
    (hlookup : peer.isClientOnly = false → ctx.hosts.lookup peer.hostId = .ok peer)
    (hclient : q.isClientOnly = true)
    (h : RunOn l (restart ctx specialId requested requester time) t outcome l') :
    RestartsHere ctx.hosts ⟨specialId, q.hostId, peer.hostId⟩ peer time l t outcome l' := by
  obtain ⟨u, found, v, m, rfl, hfind, hrest⟩ := h.of_bind
  simp only [find, hresolve] at hfind
  obtain ⟨w, located, x, n, rfl, hlocate, hend⟩ := hfind.of_bind
  rcases locates_or_misses hlookup hlocate with ⟨r, rfl, hlocates⟩ |
    ⟨missed, rfl, hmisses⟩
  · obtain ⟨rfl, rfl, rfl⟩ := hend.of_done
    rw [List.append_nil]
    dsimp only at hrest
    by_cases hdone : r.isAllDone = true
    · have hstatus : r.status = .done := by simpa [Record.isAllDone] using hdone
      simp only [hdone, if_true] at hrest
      obtain ⟨rfl, rfl, rfl⟩ := hrest.of_done
      rw [List.append_nil]
      cases hlocates with
      | here found apart unchanged => exact .done found hstatus apart rfl unchanged
      | there _ _ _ _ adopted => simp [adopted.status] at hstatus
    · have hopen : r.status ≠ .done := by simpa [Record.isAllDone] using hdone
      have hready := hlocates.ready hopen
      have hkey : r.key = ⟨specialId, q.hostId, peer.hostId⟩ := hlocates.key_eq
      simp only [hdone, Bool.false_eq_true, if_false, hclient, if_true] at hrest
      have hreruns := reruns_of_restartLocally hrest
      rw [hkey] at hreruns
      refine .rerun rfl hlocates hopen hreruns fun hnamed => ?_
      exact hreruns.resumed_of_named hready (by rw [hnamed, hkey])
  · obtain ⟨rfl, rfl, rfl⟩ := hend.of_done
    obtain ⟨rfl, rfl, rfl⟩ := hrest.of_done
    rw [List.append_nil, List.append_nil]
    exact .missed hmisses

/-- Whatever the ledger, and whatever is answered by all but the ledger: a restart by this host,
which only opens sessions, comes to an end and has done just this. -/
theorem restartsHere_of_listed (ctx : Context) (hcoherent : ctx.hosts.Coherent) (specialId : Int)
    (requested requester : String) (time : Option Calendar.Timestamp) (l : Ledger)
    (answer : Trace → (r : Request) → r.Answer) {p q : Partner}
    (hrequested : entryOf ctx.hosts (ctx.hosts.resolve requested) = .ok p)
    (hrequester : entryOf ctx.hosts (ctx.hosts.resolve requester) = .ok q)
    (hlocal : ctx.hosts.isLocal (ctx.hosts.resolve requester) = true)
    (hclient : q.isClientOnly = true) :
    let run := play (onLedger l answer) (restart ctx specialId requested requester time)
    RestartsHere ctx.hosts ⟨specialId, q.hostId, p.hostId⟩ p time l run.2 run.1
      (run.2.ledgerAfter l) := by
  intro run
  have hresolve := resolve_of_entries hrequested hrequester
  rw [hlocal] at hresolve
  exact restartsHere_of_runOn hresolve (lookup_of_entryOf hcoherent hrequested) hclient
    (runOn_play l answer _)

/-! ## A partner that is called by another name of this host -/

/-- A host that sessions are encrypted with. -/
def sampleSecurePeer : Partner := { hostId := "there-tls", useTls := true }

/-- This host and one that it calls by the name it has towards encrypted partners. -/
def sampleSecureContext : Context where
  hosts := ({ plainId := "here", secureId := "here-tls" } : Directory).addHost sampleSecurePeer
  rules := .ofList []
  policy := .standard

/-- A transfer that this host entered under its plain name. -/
def samplePlainRecord : Record :=
  { sampleRecord with key := ⟨7, "here", "there-tls"⟩ }

theorem sampleSecureContext_coherent : sampleSecureContext.hosts.Coherent :=
  (Directory.coherent_of_nil rfl).addHost sampleSecurePeer

theorem restartsHere_of_listed_sample :
    sampleSecureContext.hosts.Coherent ∧
    entryOf sampleSecureContext.hosts (sampleSecureContext.hosts.resolve "there-tls") =
      .ok sampleSecurePeer ∧
    entryOf sampleSecureContext.hosts (sampleSecureContext.hosts.resolve "here") =
      .ok (.clientOnly "here") ∧
    sampleSecureContext.hosts.isLocal (sampleSecureContext.hosts.resolve "here") = true ∧
    (Partner.clientOnly "here").isClientOnly = true ∧
    (let run := play (onLedger { records := [samplePlainRecord] } (sampleAnswers .overloaded))
      (restart sampleSecureContext 7 "there-tls" "here" none)
    RestartsHere sampleSecureContext.hosts ⟨7, "here", "there-tls"⟩ sampleSecurePeer none
      { records := [samplePlainRecord] } run.2 run.1
      (run.2.ledgerAfter { records := [samplePlainRecord] })) :=
  ⟨sampleSecureContext_coherent, rfl, rfl, rfl, rfl, restartsHere_of_listed sampleSecureContext
    sampleSecureContext_coherent 7 "there-tls" "here" none { records := [samplePlainRecord] }
    (sampleAnswers .overloaded) rfl rfl rfl rfl⟩

/-- The order for this record means another transfer, of which there is none. -/
example : rerun? sampleSecureContext.hosts samplePlainRecord.key =
    some (sampleSecurePeer, ⟨7, "here-tls", "there-tls"⟩) := by
  decide

end Intervention

end Courier
