import Courier.Proofs.Delivery.Attempt
import Courier.Proofs.Delivery.Requests
import Courier.Spool.Dispatch
import Courier.Spool.Bulletin

/-!
# Conduct of the dealings with partners

Every dealing with a partner closes the session that it opened, and each of them opens one at a
time.  The attempts to open a session end with one that is open or with none, the ends of a
transfer have nothing to do with sessions, and all else is put together from these.

Main statements:

- The attempts to reach a partner leave open just the session that they return
  (`conducts_tryOpen`, `opens_tryConnect`).
- Single requests, transfers, questions, interventions, messages to observers and dispatches
  conduct sessions from none to none.
-/

namespace Courier

open Program

/-! ## Programs apart from sessions -/

/-- Whether a program has nothing to do with sessions. -/
abbrev Program.IsApart {α : Type} (p : Program α) : Prop :=
  p.Asks fun r => r.isApart = true

/-- Only attempts and calls have to do with sessions, neither the preparation of a transfer nor
what is done with its record. -/
theorem Preparation.allows_isApart : Allows fun r => r.isApart = true :=
  ⟨rfl, fun _ => rfl, fun _ => rfl⟩

/-- Work on a record has nothing to do with sessions. -/
theorem Delivery.tends_isApart (key : Record.Key) : Tends key fun r => r.isApart = true :=
  ⟨rfl, fun _ _ => rfl, rfl, fun _ => rfl⟩

namespace Delivery

theorem isApart_terminate (p : Prepared) (code : ResultCode) (cause : String) :
    (terminate p code cause).IsApart :=
  (ensures_terminate (tends_isApart _) rfl code cause).asks

theorem isApart_conclude (p : Prepared) (rank : Option Nat) : (conclude p rank).IsApart :=
  (ensures_conclude (tends_isApart _) rfl rank).asks

theorem isApart_started (p : Prepared) : (started p).IsApart :=
  (ensures_started (tends_isApart _) rfl).asks

theorem isApart_noteOverload (p : Prepared) : (noteOverload p).IsApart :=
  (ensures_noteOverload (tends_isApart _) rfl).asks

end Delivery

/-- Nobody is called before the record of a transfer is ready. -/
theorem Preparation.isApart_prepare (ctx : Context) (order : Order) (kind : Kind) :
    (prepare ctx order kind).IsApart :=
  (ensures_prepare allows_isApart ctx order kind).asks

/-! ## Attempts to open a session -/

/-- An attempt that the partner has not decided on opens nothing. -/
theorem Exchange.opened?_of_not_isSettled {c : Connect} {r : Connect.Result}
    (h : r.isSettled = false) : Exchange.opened? ⟨.connect c, r⟩ = none := by
  cases r with
  | connected s => exact nomatch h
  | _ => rfl

/-- Whether a trace opened a session, or none, and is about no open session otherwise. -/
structure Trace.Opens (t : Trace) (o : Option Session) : Prop where
  free : ∀ x ∈ t, x.request.isFree = true
  openings : t.openings = o.toList

namespace Trace.Opens

variable {o : Option Session} {x : Exchange} {t u : Trace}

/-- A trace apart from sessions opens none. -/
theorem of_isApart (h : ∀ x ∈ t, x.request.isApart = true) : t.Opens none :=
  ⟨fun x hx => Request.isFree_of_isApart (h x hx), openings_of_isApart h⟩

/-- What comes before a trace and opens nothing adds nothing. -/
theorem prepend (hu : u.Opens none) (ht : t.Opens o) : Trace.Opens (u ++ t) o := by
  refine ⟨?_, ?_⟩
  · intro y hy
    rcases List.mem_append.1 hy with hy | hy
    · exact hu.free y hy
    · exact ht.free y hy
  · rw [openings_append, hu.openings, ht.openings]
    rfl

/-- A free request that opens nothing may come first. -/
theorem cons (hx : x.request.isFree = true) (hopened : x.opened? = none) (ht : t.Opens o) :
    Trace.Opens (x :: t) o := by
  have hsingle : Trace.Opens [x] none :=
    ⟨by simpa using hx, by simp [Trace.openings, hopened]⟩
  exact hsingle.prepend ht

/-- A session is opened, and nothing is done with it yet. -/
theorem opened {c : Connect} {s : Session} (ht : ∀ x ∈ t, x.request.isApart = true) :
    Trace.Opens (⟨.connect c, .connected s⟩ :: t) (some s) := by
  refine ⟨List.forall_mem_cons.2 ⟨rfl, (of_isApart ht).free⟩, ?_⟩
  show s :: t.openings = [s]
  rw [openings_of_isApart ht]

/-- A trace that opens at most one session conducts itself well. -/
theorem conducts (h : t.Opens o) : t.Conducts none o := by
  obtain ⟨hfree, hopenings⟩ := h
  induction t with
  | nil =>
      cases o with
      | none => rfl
      | some s => exact absurd hopenings (by simp [Trace.openings])
  | cons x t ih =>
      have hrest : ∀ y ∈ t, y.request.isFree = true := fun y hy =>
        hfree y (List.mem_cons_of_mem x hy)
      cases hx : x.opened? with
      | none =>
          have hopened : Trace.openings t = o.toList := by
            rwa [Trace.openings, List.filterMap_cons_none hx] at hopenings
          exact ⟨none, .free hx (hfree x List.mem_cons_self), ih hrest hopened⟩
      | some s =>
          rw [Trace.openings, List.filterMap_cons_some hx] at hopenings
          cases o with
          | none => exact absurd hopenings (by simp)
          | some s' =>
              obtain ⟨rfl, hnone⟩ := List.cons.inj hopenings
              exact ⟨some s, .opens hx, Trace.conducts_of_free hrest hnone⟩

end Trace.Opens

namespace Connection

/-- The attempts to open a session for single requests leave it open, if there is one. -/
theorem conducts_tryOpen (policy : Policy) (partner : Partner) (left : Nat) (reason : String) :
    Conducts none (tryOpen policy partner left reason) Except.toOption := by
  intro t result h
  refine Trace.Opens.conducts ?_
  induction left generalizing reason t with
  | zero =>
      obtain ⟨rfl, rfl⟩ := run_tryOpen_zero h
      exact ⟨by simp, rfl⟩
  | succ left ih =>
      cases opening_of_run h with
      | connected => exact Trace.Opens.opened (by simp)
      | fatal => exact Trace.Opens.cons rfl rfl ⟨by simp, rfl⟩
      | exhausted _ hr =>
          exact Trace.Opens.cons rfl (Exchange.opened?_of_not_isSettled hr) ⟨by simp, rfl⟩
      | pending _ hagain => exact (((ih _ _ hagain).cons rfl rfl).cons rfl rfl).cons rfl rfl
      | overloaded _ hagain => exact ((ih _ _ hagain).cons rfl rfl).cons rfl rfl

/-- Every session for a single request is closed after its answer. -/
theorem conducts_exchange (policy : Policy) (partner : Partner) (packet : Packet) :
    Conducts none (exchange policy partner packet) fun _ => none := by
  refine conducts_bind (conducts_tryOpen policy partner _ _) fun opened => ?_
  cases opened with
  | error fault => exact conducts_done rfl
  | ok session =>
      refine conducts_bind (conducts_call rfl) fun answer => ?_
      exact conducts_bind (conducts_close session) fun _ => conducts_done rfl

end Connection

namespace Delivery

/-- The session that the attempts of a transfer ended with. -/
def openAfter (result : Except Outcome (Session × Prepared)) : Option Session :=
  result.toOption.map Prod.fst

variable {policy : Policy} {through : Through} {p : Prepared} {reason : String}
  {attempts overloads : Nat} {t : Trace} {result : Except Outcome (Session × Prepared)}

/-- The attempts to reach the partner of a transfer leave open the session that they return. -/
theorem opens_tryConnect
    (h : Run (tryConnect policy through p reason attempts overloads) t result) :
    t.Opens (openAfter result) := by
  have hends : ∀ {p : Prepared} {code cause u outcome}, Run (terminate p code cause) u outcome →
      Trace.Opens u none := fun hrun =>
    Trace.Opens.of_isApart (hrun.request_of_mem (isApart_terminate _ _ _))
  induction p, reason, attempts, overloads using tryConnect_induction generalizing t with
  | spent p reason overloads =>
      obtain ⟨outcome, hterminate, rfl⟩ := run_tryConnect_zero h
      exact hends hterminate
  | attempt p reason left overloads again patient =>
      cases attempt_of_run h with
      | connected hstarted =>
          exact Trace.Opens.opened (hstarted.request_of_mem (isApart_started _))
      | exhausted _ hterminate => exact (hends hterminate).cons rfl rfl
      | fatal hterminate => exact (hends hterminate).cons rfl rfl
      | pending _ hagain => exact (((again _ hagain).cons rfl rfl).cons rfl rfl).cons rfl rfl
      | givenUp _ hnoted hterminate =>
          have hnote := Trace.Opens.of_isApart (hnoted.request_of_mem (isApart_noteOverload _))
          exact (hnote.prepend (hends hterminate)).cons rfl rfl
      | overloaded hsucc hnoted hagain =>
          have hnote := Trace.Opens.of_isApart (hnoted.request_of_mem (isApart_noteOverload _))
          have hrest := patient _ _ _ hsucc hagain
          exact (hnote.prepend (hrest.cons rfl rfl)).cons rfl rfl

/-- After the attempts at most one session is open, the one that was given back. -/
theorem conducts_connect (policy : Policy) (through : Through) (p : Prepared) :
    Conducts none (connect policy through p) openAfter :=
  fun _ _ hrun => (opens_tryConnect hrun).conducts

/-- The session of a transfer is closed at its end. -/
theorem conducts_finish (policy : Policy) (session : Session) (p : Prepared) :
    Conducts (some session) (finish policy session p) fun _ => none := by
  refine conducts_bind (conducts_call rfl) fun completion => ?_
  refine conducts_bind (conducts_close session) fun _ => ?_
  cases completion with
  | error fault => exact conducts_of_asks (isApart_terminate _ _ _)
  | ok completion =>
      dsimp only
      split
      · exact conducts_of_asks (isApart_conclude _ _)
      · exact conducts_of_asks (isApart_terminate _ _ _)

/-- A transfer closes its session before it ends. -/
theorem conducts_carryOut (ctx : Context) (order : Order) (kind : Preparation.Kind)
    (through : Through) : Conducts none (carryOut ctx order kind through) fun _ => none := by
  refine conducts_bind (conducts_of_asks (Preparation.isApart_prepare _ _ _)) fun prepared => ?_
  cases prepared with
  | error outcome => exact conducts_done rfl
  | ok p =>
      refine conducts_bind (conducts_connect _ _ p) fun connected => ?_
      cases connected with
      | error outcome => exact conducts_done rfl
      | ok opened => exact conducts_finish _ _ _

end Delivery

/-! ## Questions, interventions and messages -/

namespace Inquiry

/-- A question leaves no session open. -/
theorem conducts_ask (ctx : Context) (hostId : String) (query : Query) :
    Conducts none (ask ctx hostId query) fun _ => none := by
  unfold ask
  split
  · exact conducts_done rfl
  · refine conducts_bind (Connection.conducts_exchange _ _ _) fun answer => ?_
    cases answer <;> exact conducts_done rfl

theorem conducts_describe (ctx : Context) (hostId : String) (key : Record.Key) :
    Conducts none (describe ctx hostId key) fun _ => none := by
  refine conducts_bind (conducts_ask _ _ _) fun answer => ?_
  cases answer <;> exact conducts_done rfl

theorem conducts_listFiles (ctx : Context) (hostId rule pattern : String) :
    Conducts none (listFiles ctx hostId rule pattern) fun _ => none := by
  refine conducts_bind (conducts_ask _ _ _) fun answer => ?_
  cases answer <;> exact conducts_done rfl

end Inquiry

namespace Intervention

theorem conducts_locate (ctx : Context) (key : Record.Key) (peer : Partner) :
    Conducts none (locate ctx key peer) fun _ => none := by
  refine conducts_bind (conducts_of_asks (asks_perform rfl)) fun found => ?_
  cases found with
  | some record => exact conducts_done rfl
  | none =>
      dsimp only
      split
      · exact conducts_done rfl
      · refine conducts_bind (Inquiry.conducts_describe _ _ _) fun described => ?_
        cases described with
        | error fault => exact conducts_done rfl
        | ok record =>
            have hallows := Preparation.allows_isApart
            exact conducts_of_asks (asks_adopt hallows.now (fun _ => hallows.ledger _) _ _)

/-- A search leaves none open. -/
theorem conducts_find (ctx : Context) (specialId : Int) (requested requester : String) :
    Conducts none (find ctx specialId requested requester) fun _ => none := by
  unfold find
  split
  · exact conducts_done rfl
  · refine conducts_bind (conducts_locate _ _ _) fun located => ?_
    cases located <;> exact conducts_done rfl

/-- Nor does an interruption. -/
theorem conducts_interrupt (ctx : Context) (action : Interrupt) (specialId : Int)
    (requested requester : String) :
    Conducts none (interrupt ctx action specialId requested requester) fun _ => none := by
  refine conducts_bind (conducts_find _ _ _ _) fun found => ?_
  cases found with
  | error outcome => exact conducts_done rfl
  | ok found =>
      dsimp only
      split
      · exact conducts_done rfl
      · split
        · exact conducts_bind (conducts_of_asks (asks_breakOff Delivery.tends_isApart _ _)) fun _ => conducts_done rfl
        · refine conducts_bind (Connection.conducts_exchange _ _ _) fun answer => ?_
          cases answer with
          | error fault => exact conducts_done rfl
          | ok answer => exact conducts_of_asks (asks_interpretInterrupt Delivery.tends_isApart _ _ _)

/-- The transfer of a local restart closes its own session. -/
theorem conducts_restartLocally (ctx : Context) (record : Record)
    (time : Option Calendar.Timestamp) :
    Conducts none (restartLocally ctx record time) fun _ => none := by
  unfold restartLocally
  split
  · exact conducts_done rfl
  · refine conducts_bind (Delivery.conducts_carryOut _ _ _ _) fun outcome => ?_
    split <;> exact conducts_done rfl

/-- A restart leaves no session open. -/
theorem conducts_restart (ctx : Context) (specialId : Int) (requested requester : String)
    (time : Option Calendar.Timestamp) :
    Conducts none (restart ctx specialId requested requester time) fun _ => none := by
  refine conducts_bind (conducts_find _ _ _ _) fun found => ?_
  cases found with
  | error outcome => exact conducts_done rfl
  | ok found =>
      dsimp only
      split
      · exact conducts_done rfl
      · split
        · split
          · exact conducts_restartLocally _ _ _
          · exact conducts_done rfl
        · refine conducts_bind (Connection.conducts_exchange _ _ _) fun answer => ?_
          cases answer <;> exact conducts_done rfl

end Intervention

namespace Bulletin

/-- A message to an observer has a session of its own. -/
theorem conducts_deliver (ctx : Context) (b : Bulletin) :
    Conducts none (deliver ctx b) fun _ => none := by
  unfold deliver
  split
  · exact conducts_done rfl
  · refine conducts_bind (Connection.conducts_exchange _ _ _) fun answer => ?_
    cases answer <;> exact conducts_done rfl

/-- Messages to several observers use one session after the other. -/
theorem conducts_sendAll (ctx : Context) (bulletins : List Bulletin) :
    Conducts none (sendAll ctx bulletins) fun _ => none := by
  induction bulletins with
  | nil => exact conducts_done rfl
  | cons b rest ih =>
      exact conducts_bind (conducts_deliver ctx b) fun _ =>
        conducts_bind ih fun _ => conducts_done rfl

end Bulletin

end Courier
