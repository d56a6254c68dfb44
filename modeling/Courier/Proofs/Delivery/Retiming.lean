import Courier.Proofs.Delivery.Frames
import Courier.Proofs.Delivery.Independence

/-!
# The clock makes no difference

Two runs of the same errand begin in the same scene.  Their clocks need not agree, but the
transport answers the same, times aside.  Then the runs end with the same outcome and leave the
same records, times aside.

The runs are compared like those in which one partner differs.  That partner is a stranger here, a
host that no errand calls.

Main definitions:

- `Directory.Stranger` is a name that no host of a directory has.
- `Comparison.retimed` compares two surroundings that differ only in their clocks.
- `Comparison.Recovered` says how a record is found in two runs.

Main statements:

- Looking up a record that is filed, and taking over one that is not, are in step
  (`inStep_recoverRecord`, `inStep_locate`).
- An order by number and an interruption are in step (`inStep_runById`, `inStep_interrupt`), so
  that errands do not depend on the clock (`Errand.timeless_runIn`).
-/

namespace Courier

open Program

/-! ## Strangers -/

/-- A text that is longer than some others. -/
theorem exists_longer (names : List String) :
    ∃ text : String, ∀ name ∈ names, name.length < text.length := by
  induction names with
  | nil => exact ⟨"", fun name hname => by cases hname⟩
  | cons name rest ih =>
      obtain ⟨text, htext⟩ := ih
      refine ⟨name ++ text ++ "x", ?_⟩
      have hlength : (name ++ text ++ "x").length = name.length + text.length + 1 := by
        rw [String.length_append, String.length_append]
        rfl
      intro other hother
      rw [hlength]
      rcases List.mem_cons.1 hother with rfl | hrest
      · omega
      · have hlt := htext other hrest
        omega

namespace Directory

variable {d : Directory} {odd : String}

/-- Whether no host of a directory has a name. -/
structure Stranger (d : Directory) (odd : String) : Prop where
  unlisted : ∀ name p, d.lookup name = .ok p → p.hostId ≠ odd
  foreign : d.isLocal odd = false

/-- There is a stranger, other than anybody one may think of. -/
theorem exists_stranger_ne (d : Directory) (other : String) :
    ∃ odd, d.Stranger odd ∧ other ≠ odd := by
  obtain ⟨odd, hlonger⟩ :=
    exists_longer (other :: d.plainId :: d.secureId :: d.hosts.map fun entry => entry.2.hostId)
  have hne : ∀ name, name ∈ other :: d.plainId :: d.secureId :: d.hosts.map (fun e => e.2.hostId) →
      name ≠ odd := by
    intro name hname hsame
    have hlt := hlonger name hname
    rw [hsame] at hlt
    exact Nat.lt_irrefl _ hlt
  obtain ⟨hother, hplain, hsecure, hhosts⟩ :
      other ≠ odd ∧ d.plainId ≠ odd ∧ d.secureId ≠ odd ∧
        ∀ name ∈ d.hosts.map (fun e => e.2.hostId), name ≠ odd := by
    simpa only [List.forall_mem_cons] using hne
  refine ⟨odd, ⟨?_, ?_⟩, hother⟩
  · intro name p hlookup
    have hmem : (name, p) ∈ d.hosts := by
      unfold lookup at hlookup
      cases hfound : d.hosts.lookup name with
      | none =>
          rw [hfound] at hlookup
          cases hlookup
      | some q =>
          rw [hfound] at hlookup
          obtain rfl := Except.ok.inj hlookup
          obtain ⟨before, after, hlisted, -⟩ := List.lookup_eq_some_iff.1 hfound
          rw [hlisted]
          exact List.mem_append_right before List.mem_cons_self
    exact hhosts p.hostId (List.mem_map_of_mem (f := fun e : String × Partner => e.2.hostId) hmem)
  · simp [isLocal, hplain.symm, hsecure.symm]

theorem exists_stranger (d : Directory) : ∃ odd, d.Stranger odd := by
  obtain ⟨odd, hodd, -⟩ := d.exists_stranger_ne ""
  exact ⟨odd, hodd⟩

/-- No end of a transfer is a stranger. -/
theorem Stranger.of_entryOf (h : d.Stranger odd) {name : String} {p : Partner}
    (hentry : Intervention.entryOf d name = .ok p) : p.hostId ≠ odd := by
  unfold Intervention.entryOf at hentry
  cases hlookup : d.lookup name with
  | ok q =>
      rw [hlookup] at hentry
      obtain rfl := Except.ok.inj hentry
      exact h.unlisted name q hlookup
  | error fault =>
      rw [hlookup] at hentry
      by_cases hlocal : d.isLocal name = true
      · simp only [if_pos hlocal] at hentry
        obtain rfl := Except.ok.inj hentry
        rintro rfl
        exact absurd h.foreign (by simpa [Partner.clientOnly] using hlocal)
      · simp only [if_neg hlocal] at hentry
        cases hentry

theorem Stranger.of_resolve (h : d.Stranger odd) {requested requester : String}
    {parties : Intervention.Parties}
    (hresolve : Intervention.resolve d requested requester = .ok parties) :
    parties.requested.hostId ≠ odd ∧ parties.peer.hostId ≠ odd := by
  unfold Intervention.resolve at hresolve
  cases hrequested : Intervention.entryOf d (d.resolve requested) with
  | error fault =>
      simp only [hrequested] at hresolve
      cases hresolve
  | ok p =>
      cases hrequester : Intervention.entryOf d (d.resolve requester) with
      | error fault =>
          simp only [hrequested, hrequester] at hresolve
          cases hresolve
      | ok q =>
          simp only [hrequested, hrequester] at hresolve
          obtain rfl := Except.ok.inj hresolve
          refine ⟨h.of_entryOf hrequested, ?_⟩
          unfold Intervention.Parties.peer
          split
          · exact h.of_entryOf hrequested
          · exact h.of_entryOf hrequester

end Directory

/-- Two surroundings that differ only in their clocks, compared with some host left out. -/
def Comparison.retimed (ctx : Context) (odd : String) {e e' : Surroundings}
    (htree : e.tree = e'.tree) (htransport : e.transport = e'.transport) : Comparison where
  ctx := ctx
  odd := odd
  left := e
  right := e'
  tree := htree
  connect _ _ := by rw [htransport]
  reply _ _ := by rw [htransport]

/-! ## Records -/

namespace Record

variable {r r' : Record}

theorem timeless_setToSubmit (h : r.timeless = r'.timeless) (now now' : Calendar.Moment) :
    (r.setToSubmit now).timeless = (r'.setToSubmit now').timeless :=
  congrArg (fun r => r.setToSubmit default) h

theorem timeless_mark (h : r.timeless = r'.timeless) (action : Intervention.Interrupt)
    (now now' : Calendar.Moment) :
    (action.mark r now).timeless = (action.mark r' now').timeless := by
  cases action with
  | cancel => exact timeless_setInError h _ _ now now'
  | stop => exact congrArg (fun r => r.setInterrupted .stoppedTransfer default) h

theorem timeless_amend (h : r.timeless = r'.timeless) (order : Order) :
    (Preparation.amend r order).timeless = (Preparation.amend r' order).timeless := by
  have hinfo : ({ r with fileInfo := order.fileInfo } : Record).timeless =
      ({ r' with fileInfo := order.fileInfo } : Record).timeless :=
    congrArg (fun r => ({ r with fileInfo := order.fileInfo } : Record)) h
  unfold Preparation.amend
  cases order.startTime with
  | none =>
      split
      · exact hinfo
      · exact h
  | some time =>
      split
      · exact hinfo
      · exact h

end Record

namespace Ledger

variable {l l' : Ledger} {r r' : Record}

/-- An update with a record that is not done is answered in the same way, times aside: a stored
record that is done is another one. -/
theorem perform_update_of_timeless
    (hstored : (l.find? r.key).map Record.timeless = (l'.find? r.key).map Record.timeless)
    (halike : r.timeless = r'.timeless) (hundone : r.isAllDone = false) :
    (l.perform (.update r)).1 = (l'.perform (.update r')).1 := by
  have hne : ∀ {stored s : Record}, s.isAllDone = false →
      ((stored.isAllDone = true ∧ stored ≠ s) ↔ stored.isAllDone = true) := by
    intro stored s hs
    constructor
    · exact fun h => h.1
    · intro hdone
      refine ⟨hdone, ?_⟩
      rintro rfl
      rw [hs] at hdone
      cases hdone
  have hundone' : r'.isAllDone = false := Record.isAllDone_of_timeless halike ▸ hundone
  simp only [perform, update, hne hundone, hne hundone']
  rw [← Record.key_of_timeless halike]
  rcases Record.none_or_some_of_timeless hstored with
    ⟨hleft, hright⟩ | ⟨stored, stored', hleft, hright, hstored'⟩
  · rw [hleft, hright]
  · rw [hleft, hright]
    dsimp only
    rw [← Record.isAllDone_of_timeless hstored', ← Record.status_of_timeless hstored',
      ← Record.rank_of_timeless hstored', Record.status_of_timeless halike,
      Record.rank_of_timeless halike]
    by_cases hdone : stored.isAllDone = true
    · rw [if_pos hdone, if_pos hdone]
    · rw [if_neg hdone, if_neg hdone]
      by_cases hbehind : stored.status = .running ∧ r'.status = .running ∧
          r'.rank < stored.rank
      · rw [if_pos hbehind, if_pos hbehind]
      · rw [if_neg hbehind, if_neg hbehind]

end Ledger

namespace Comparison

variable {c : Comparison} {held : Option (Session × String)} {r r' : Record} {key : Record.Key}

theorem inStep_load (hkey : ¬c.ctx.hosts.IsOwn c.odd key) :
    c.InStep held (ledger (.load key)) (ledger (.load key))
      (fun a a' => a.map Record.timeless = a'.map Record.timeless ∧ ∀ r, a = some r → r.key = key)
      fun _ => held := by
  intro s s' h
  exact ⟨⟨h.records key hkey, fun r hfound => Ledger.key_of_find? hfound⟩, h⟩

theorem inStep_update_of_undone (halike : r.timeless = r'.timeless)
    (hkey : ¬c.ctx.hosts.IsOwn c.odd r.key) (hundone : r.isAllDone = false) :
    c.InStep held (ledger (.update r)) (ledger (.update r')) Eq fun _ => held := by
  intro s s' h
  exact ⟨Ledger.perform_update_of_timeless (h.records r.key hkey) halike hundone,
    (inStep_update halike hkey s s' h).2⟩

theorem inStep_insert (halike : r.timeless = r'.timeless)
    (hkey : ¬c.ctx.hosts.IsOwn c.odd r.key) :
    c.InStep held (ledger (.insert r)) (ledger (.insert r')) Eq fun _ => held := by
  intro s s' h
  have hsame := Record.key_of_timeless halike
  have hstored := h.records r.key hkey
  show (s.ledger.perform (.insert r)).1 = (s'.ledger.perform (.insert r')).1 ∧
    c.Similar held { s with ledger := (s.ledger.perform (.insert r)).2 }
      { s' with ledger := (s'.ledger.perform (.insert r')).2 }
  simp only [Ledger.perform, Ledger.insert, ← hsame]
  rcases Record.none_or_some_of_timeless hstored with
    ⟨hleft, hright⟩ | ⟨stored, stored', hleft, hright, -⟩
  · rw [hleft, hright]
    refine ⟨rfl, ?_, fun key hother => ?_, h.calls, h.held⟩
    · show max s.ledger.nextId (r.key.specialId + 1) = max s'.ledger.nextId (r'.key.specialId + 1)
      rw [h.nextId, hsame]
    · show ((s.ledger.put r).find? key).map _ = ((s'.ledger.put r').find? key).map _
      by_cases hown : key = r.key
      · rw [hown, Ledger.find?_put_self, hsame, Ledger.find?_put_self]
        exact congrArg some halike
      · rw [Ledger.find?_put_of_ne _ hown, Ledger.find?_put_of_ne _ (hsame ▸ hown)]
        exact h.records key hother
  · rw [hleft, hright]
    exact ⟨rfl, h⟩

/-! ## Single requests -/

/-- The session that attempts for a single request ended with, and whom it is with. -/
def heldOpen (host : String) (opened : Except SessionFault Session) :
    Option (Session × String) :=
  match opened with
  | .ok session => some (session, host)
  | .error _ => none

theorem inStep_ask (session : Session) (packet : Packet) (timeout : Calendar.Span) {host : String}
    (hhost : host ≠ c.odd) :
    c.InStep (some (session, host)) (perform (.ask session packet timeout))
      (perform (.ask session packet timeout)) Eq fun _ => some (session, host) := by
  intro s s' h
  exact h.call hhost _

theorem inStep_tryOpen {partner : Partner} (hhost : partner.hostId ≠ c.odd) (policy : Policy)
    (left : Nat) (reason : String) :
    c.InStep none (Connection.tryOpen policy partner left reason)
      (Connection.tryOpen policy partner left reason) Eq (heldOpen partner.hostId) := by
  induction left generalizing reason with
  | zero => exact inStep_done rfl rfl
  | succ left ih =>
      refine inStep_bind (inStep_connect rfl hhost) fun result _ hsame => ?_
      subst hsame
      cases result with
      | connected session => exact inStep_done rfl rfl
      | fatal code message => exact inStep_done rfl rfl
      | pending reason =>
          dsimp only
          split
          · refine inStep_bind (inStep_reconnectDelay _ _) fun delay delay' _ => ?_
            exact inStep_bind (inStep_sleep _ _) fun _ _ _ => ih reason
          · exact ih reason
      | overloaded =>
          dsimp only
          split
          · exact inStep_bind (inStep_sleep _ _) fun _ _ _ => ih _
          · exact ih _

theorem inStep_exchange {partner : Partner} (hhost : partner.hostId ≠ c.odd) (policy : Policy)
    (packet : Packet) :
    c.InStep none (Connection.exchange policy partner packet)
      (Connection.exchange policy partner packet) Eq fun _ => none := by
  refine inStep_bind (inStep_tryOpen hhost policy _ _) fun opened _ hsame => ?_
  subst hsame
  cases opened with
  | error fault => exact inStep_done rfl rfl
  | ok session =>
      refine inStep_bind (inStep_ask session packet _ hhost) fun answer _ hsame => ?_
      subst hsame
      exact inStep_bind (inStep_close session hhost) fun _ _ _ => inStep_done rfl rfl

theorem inStep_describe (hodd : c.ctx.hosts.Stranger c.odd) (hostId : String)
    (key : Record.Key) :
    c.InStep none (Inquiry.describe c.ctx hostId key) (Inquiry.describe c.ctx hostId key) Eq
      fun _ => none := by
  have hask : c.InStep none
      (Inquiry.ask c.ctx hostId (.describeTransfer key.specialId key.requester key.requested))
      (Inquiry.ask c.ctx hostId (.describeTransfer key.specialId key.requester key.requested)) Eq
      fun _ => none := by
    unfold Inquiry.ask
    cases hlookup : c.ctx.hosts.lookup hostId with
    | error fault => exact inStep_done rfl rfl
    | ok partner =>
        have hhost := hodd.unlisted _ _ hlookup
        refine inStep_bind (inStep_exchange hhost _ _) fun answer _ hsame => ?_
        subst hsame
        cases answer <;> exact inStep_done rfl rfl
  refine inStep_bind hask fun answer _ hsame => ?_
  subst hsame
  cases answer <;> exact inStep_done rfl rfl

/-! ## Finding a record -/

/-- How the record under a key is found, or not found, on both sides. -/
inductive Recovered (key : Record.Key) :
    Except Outcome Record → Except Outcome Record → Prop where
  | refused {o o' : Outcome} (halike : o.timeless = o'.timeless) :
      Recovered key (.error o) (.error o')
  | recovered {r r' : Record} (halike : r.timeless = r'.timeless) (hkey : r.key = key) :
      Recovered key (.ok r) (.ok r')

/-- A record that is filed is found by its key. -/
theorem inStep_recoverRecord (hkey : ¬c.ctx.hosts.IsOwn c.odd key) (order : Order) :
    c.InStep none (Preparation.recoverRecord order key .direct)
      (Preparation.recoverRecord order key .direct) (Recovered key) fun _ => none := by
  refine inStep_bind (inStep_load hkey) fun found found' hfound => ?_
  obtain ⟨hstored, hown⟩ := hfound
  rcases Record.none_or_some_of_timeless hstored with ⟨rfl, rfl⟩ | ⟨r, r', rfl, rfl, halike⟩
  · exact inStep_done (.refused rfl) rfl
  · have hamended := Record.timeless_amend halike order
    have hamendedKey : (Preparation.amend r order).key = key :=
      (Preparation.amend_key r order).trans (hown r rfl)
    dsimp only
    rw [← Record.isAllDone_of_timeless halike]
    by_cases hdone : r.isAllDone = true
    · rw [if_pos hdone, if_pos hdone]
      exact inStep_done (.refused (Outcome.timeless_failed halike _ _)) rfl
    · rw [if_neg hdone, if_neg hdone]
      have hundone : (Preparation.amend r order).isAllDone = false := by
        rw [Record.isAllDone, Preparation.amend_status]
        simpa [Record.isAllDone] using hdone
      simp only [pure_eq, done_bind]
      refine inStep_bind (inStep_update_of_undone hamended (hamendedKey ▸ hkey) hundone) ?_
      intro updated _ hsame
      subst hsame
      cases updated with
      | error fault => exact inStep_done (.refused (Outcome.timeless_failed hamended _ _)) rfl
      | ok _ => exact inStep_done (.recovered hamended hamendedKey) rfl

/-- A record that the other end described is taken over. -/
theorem inStep_adopt (hkey : ¬c.ctx.hosts.IsOwn c.odd key) (r : Record) :
    c.InStep none (Intervention.adopt key r) (Intervention.adopt key r) (Recovered key)
      fun _ => none := by
  unfold Intervention.adopt
  by_cases hsame : r.key = key
  · rw [if_neg fun hne => hne hsame]
    split
    · exact inStep_done (.refused rfl) rfl
    · refine inStep_bind inStep_now fun now now' _ => ?_
      have halike := Record.timeless_setToSubmit (rfl : r.timeless = r.timeless) now now'
      refine inStep_bind (inStep_insert halike (show ¬c.ctx.hosts.IsOwn c.odd r.key from
        hsame ▸ hkey)) fun inserted _ hinserted => ?_
      subst hinserted
      cases inserted with
      | error fault => exact inStep_done (.refused (Outcome.timeless_failed halike _ _)) rfl
      | ok _ => exact inStep_done (.recovered halike hsame) rfl
  · rw [if_pos hsame]
    exact inStep_done (.refused rfl) rfl

/-- The record of a transfer is found here or at the other end. -/
theorem inStep_locate (hodd : c.ctx.hosts.Stranger c.odd) (hkey : ¬c.ctx.hosts.IsOwn c.odd key)
    (peer : Partner) :
    c.InStep none (Intervention.locate c.ctx key peer) (Intervention.locate c.ctx key peer)
      (Recovered key) fun _ => none := by
  refine inStep_bind (inStep_load hkey) fun found found' hfound => ?_
  obtain ⟨hstored, hown⟩ := hfound
  rcases Record.none_or_some_of_timeless hstored with ⟨rfl, rfl⟩ | ⟨r, r', rfl, rfl, halike⟩
  · dsimp only
    split
    · exact inStep_done (.refused rfl) rfl
    · refine inStep_bind (inStep_describe hodd _ key) fun described _ hsame => ?_
      subst hsame
      cases described with
      | error fault => exact inStep_done (.refused rfl) rfl
      | ok r => exact inStep_adopt hkey r
  · exact inStep_done (.recovered halike (hown r rfl)) rfl

/-! ## Errands -/

/-- An order by number. -/
theorem inStep_runById (hodd : c.ctx.hosts.Stranger c.odd) {order : Order} {id : Int}
    (hid : order.fixedId = some id) :
    c.InStep none (Delivery.run c.ctx order) (Delivery.run c.ctx order)
      (fun o o' => o.timeless = o'.timeless) fun _ => none := by
  have hprepare : c.InStep none (Preparation.prepare c.ctx order .direct)
      (Preparation.prepare c.ctx order .direct) (Found c.ctx order) fun _ => none := by
    unfold Preparation.prepare
    cases hlookup : c.ctx.hosts.lookup order.partner with
    | error fault => exact inStep_done (.refused rfl) rfl
    | ok partner =>
        simp only [Preparation.findRecord, hid]
        have hkey : ¬c.ctx.hosts.IsOwn c.odd
            ⟨id, c.ctx.hosts.localId partner.useTls, partner.hostId⟩ :=
          fun hown => hodd.unlisted _ _ hlookup hown.1
        refine inStep_bind (inStep_recoverRecord hkey order) fun found found' hfound => ?_
        cases hfound with
        | refused halike => exact inStep_done (.refused halike) rfl
        | recovered halike hown =>
            refine inStep_done (.ready ⟨rfl, halike, rfl, ?_, ?_⟩ hlookup) rfl
            · rw [hown]
            · rw [hown]
              exact isLocal_localId c.ctx.hosts partner.useTls
  refine inStep_bind hprepare fun prepared prepared' hfound => ?_
  cases hfound with
  | refused halike => exact inStep_done halike rfl
  | ready h known => exact inStep_goOn h (hodd.unlisted _ _ known) _ _

theorem inStep_breakOff (halike : r.timeless = r'.timeless)
    (hkey : ¬c.ctx.hosts.IsOwn c.odd r.key) (action : Intervention.Interrupt) :
    c.InStep held (Intervention.breakOff action r) (Intervention.breakOff action r')
      (fun r r' => r.timeless = r'.timeless) fun _ => held := by
  refine inStep_bind inStep_now fun now now' _ => ?_
  have hmarked := Record.timeless_mark halike action now now'
  have hmarkedKey : (action.mark r now).key = r.key := by
    cases action <;> rfl
  exact inStep_bind (inStep_save hmarked (hmarkedKey ▸ hkey)) fun _ _ _ => inStep_done hmarked rfl

theorem inStep_interpretInterrupt (halike : r.timeless = r'.timeless)
    (hkey : ¬c.ctx.hosts.IsOwn c.odd r.key) (action : Intervention.Interrupt) (answer : Answer) :
    c.InStep held (Intervention.interpretInterrupt action r answer)
      (Intervention.interpretInterrupt action r' answer)
      (fun o o' => o.timeless = o'.timeless) fun _ => held := by
  unfold Intervention.interpretInterrupt
  by_cases hdone : answer.code = .completeOk
  · rw [if_pos hdone, if_pos hdone]
    refine inStep_bind (inStep_breakOff halike hkey action) fun m m' hmarked => ?_
    exact inStep_done (Outcome.timeless_succeeded hmarked _) rfl
  · rw [if_neg hdone, if_neg hdone]
    by_cases hended : answer.code = .transferOk
    · rw [if_pos hended, if_pos hended]
      exact inStep_done (Outcome.timeless_withCause (Outcome.timeless_succeeded halike _) _) rfl
    · rw [if_neg hended, if_neg hended]
      exact inStep_done (Outcome.timeless_failed halike _ _) rfl

/-- Canceling and stopping. -/
theorem inStep_interrupt (hodd : c.ctx.hosts.Stranger c.odd) (action : Intervention.Interrupt)
    (specialId : Int) (requested requester : String) :
    c.InStep none (Intervention.interrupt c.ctx action specialId requested requester)
      (Intervention.interrupt c.ctx action specialId requested requester)
      (fun o o' => o.timeless = o'.timeless) fun _ => none := by
  unfold Intervention.interrupt Intervention.find
  cases hresolve : Intervention.resolve c.ctx.hosts requested requester with
  | error outcome => exact inStep_done rfl rfl
  | ok parties =>
      obtain ⟨hrequested, hpeer⟩ := hodd.of_resolve hresolve
      have hkey : ¬c.ctx.hosts.IsOwn c.odd (parties.key specialId) :=
        fun hown => hrequested hown.1
      simp only [bind_assoc]
      refine inStep_bind (inStep_locate hodd hkey parties.peer) fun found found' hfound => ?_
      cases hfound with
      | refused halike => exact inStep_done halike rfl
      | @recovered r r' halike hown =>
          have hrecord : ¬c.ctx.hosts.IsOwn c.odd r.key := hown ▸ hkey
          simp only [pure_eq, done_bind]
          rw [← Record.isAllDone_of_timeless halike]
          by_cases hdone : r.isAllDone = true
          · rw [if_pos hdone, if_pos hdone]
            have hended := Outcome.timeless_succeeded halike .transferOk
            exact inStep_done (Outcome.timeless_withCause hended _) rfl
          · rw [if_neg hdone, if_neg hdone]
            by_cases hclient : parties.peer.isClientOnly = true
            · rw [if_pos hclient, if_pos hclient]
              refine inStep_bind (inStep_breakOff halike hrecord action) fun m m' hmarked => ?_
              have hended := Outcome.timeless_succeeded hmarked action.code
              exact inStep_done (Outcome.timeless_withCause hended _) rfl
            · rw [if_neg hclient, if_neg hclient]
              refine inStep_bind (inStep_exchange hpeer _ _) fun answer _ hsame => ?_
              subst hsame
              cases answer with
              | error fault => exact inStep_done (Outcome.timeless_failed halike _ _) rfl
              | ok answer => exact inStep_interpretInterrupt halike hrecord action answer

end Comparison

namespace Errand

/-- The transfer of an errand is not with a stranger. -/
theorem requested_ne_of_key? {ctx : Context} {odd : String} (hodd : ctx.hosts.Stranger odd)
    {errand : Errand} {key : Record.Key} (hkey : errand.key? ctx = some key) :
    key.requested ≠ odd := by
  cases errand with
  | run order id =>
      simp only [key?] at hkey
      cases hlookup : ctx.hosts.lookup order.partner with
      | error fault =>
          rw [hlookup] at hkey
          cases hkey
      | ok partner =>
          rw [hlookup] at hkey
          obtain rfl := Option.some.inj hkey
          exact hodd.unlisted _ _ hlookup
  | interrupt action specialId requested requester =>
      simp only [key?] at hkey
      cases hresolve : Intervention.resolve ctx.hosts requested requester with
      | error outcome =>
          rw [hresolve] at hkey
          cases hkey
      | ok parties =>
          rw [hresolve] at hkey
          obtain rfl := Option.some.inj hkey
          exact (hodd.of_resolve hresolve).1

/-- Two runs of an errand that begin in the same scene and whose transport answers the same end
with the same outcome and leave the same records, times aside, whatever their clocks tell. -/
theorem timeless_runIn (ctx : Context) (errand : Errand) {e e' : Surroundings}
    (htree : e.tree = e'.tree) (htransport : e.transport = e'.transport) (s : Scene) :
    (runIn e (errand.program ctx) s).1.timeless = (runIn e' (errand.program ctx) s).1.timeless ∧
    ∀ key, ((runIn e (errand.program ctx) s).2.ledger.find? key).map Record.timeless =
      ((runIn e' (errand.program ctx) s).2.ledger.find? key).map Record.timeless := by
  obtain ⟨odd, hodd⟩ := ctx.hosts.exists_stranger
  let c := Comparison.retimed ctx odd htree htransport
  have hinStep : c.InStep none (errand.program ctx) (errand.program ctx)
      (fun o o' => o.timeless = o'.timeless) fun _ => none := by
    cases errand with
    | run order id => exact Comparison.inStep_runById hodd rfl
    | interrupt action specialId requested requester =>
        exact Comparison.inStep_interrupt hodd action specialId requested requester
  obtain ⟨houtcome, hsimilar⟩ := hinStep s s (.refl s)
  refine ⟨houtcome, ?_⟩
  intro key
  by_cases hkey : errand.key? ctx = some key
  · exact hsimilar.records key fun hown => requested_ne_of_key? hodd hkey hown.1
  · have hkeeps := errand.keepsTo_program ctx
    rw [find?_runIn_of_not hkeeps hkey, find?_runIn_of_not hkeeps hkey]

end Errand

end Courier
