import Courier.Delivery.Batch
import Courier.Delivery.Intervention
import Courier.Proofs.Delivery.Attempt
import Courier.Proofs.Session.Conduct

/-!
# What transfers ask for

Which requests the programs of a transfer make, whatever is answered.  Once the record of a
transfer is ready, only this record is filed and taken out, and only its partner is called.

Main definitions:

- `Program.Ensures` says that a program only makes requests of some kind, and what is true of
  the value that it ends with.
- `Preparation.Allows`, `Delivery.Tends`, `Delivery.Carries` and `Connection.Deals` say that a
  kind of requests has all those that prepare a transfer, that tend its record, that bring it to
  its partner, and that ask a partner single things; `Delivery.Serves` says all of this.

Main statements:

- Preparing a transfer, tending its record, calling its partner and carrying it out ask for
  nothing else (`ensures_prepare`, `ensures_terminate`, `ensures_tryConnect`, `asks_carryOut`).
- Nothing else is asked for to list files, at home or with a partner (`asks_expand`,
  `asks_listFiles`), and to break off or restart a transfer (`asks_interrupt`, `asks_restart`).
-/

namespace Courier

open Program

/-! ## Requests and values -/

namespace Program

variable {α β : Type} {P : Request → Prop} {Q : α → Prop} {R : β → Prop}

/-- Whether a program only makes requests of some kind, and ends with a value of some kind,
whatever is answered. -/
def Ensures (P : Request → Prop) (Q : α → Prop) : Program α → Prop
  | .done a => Q a
  | .step r next => P r ∧ ∀ answer, Ensures P Q (next answer)

theorem ensures_done {a : α} (h : Q a) : Ensures P Q (.done a) :=
  h

/-- What a program ensures of its value is what the next one can start from. -/
theorem ensures_bind {p : Program α} {f : α → Program β} (hp : Ensures P Q p)
    (hf : ∀ a, Q a → Ensures P R (f a)) : Ensures P R (p >>= f) := by
  induction p with
  | done a => exact hf a hp
  | step r next ih => exact ⟨hp.1, fun answer => ih answer (hp.2 answer)⟩

/-- A request whose answer may be any. -/
theorem ensures_ask {r : Request} {f : r.Answer → Program β} (hr : P r)
    (hf : ∀ answer, Ensures P R (f answer)) : Ensures P R (perform r >>= f) :=
  ⟨hr, hf⟩

/-- Whoever forgets about the value still knows what is asked for. -/
theorem Ensures.asks {p : Program α} (h : Ensures P Q p) : Asks P p := by
  induction p with
  | done a => trivial
  | step r next ih => exact ⟨h.1, fun answer => ih answer (h.2 answer)⟩

/-- What a program ensures of its value is true of the value of every run. -/
theorem Ensures.value {p : Program α} {t : Trace} {a : α} (h : Ensures P Q p)
    (hrun : Run p t a) : Q a := by
  induction hrun with
  | done a => exact h
  | step _ ih => exact ih (h.2 _)

end Program

/-! ## Kinds of requests -/

/-- Whether a kind of requests has all those that prepare a transfer. -/
structure Preparation.Allows (P : Request → Prop) : Prop where
  now : P .now
  metadata : ∀ p, P (.files (.metadata p))
  ledger : ∀ op, P (.ledger op)

/-- Whether a kind of requests has all those that find the record of an order by number. -/
structure Preparation.Recovers (P : Request → Prop) : Prop where
  now : P .now
  load : ∀ key, P (.ledger (.load key))
  update : ∀ r, P (.ledger (.update r))

/-- Who may enter records may look up filed ones. -/
theorem Preparation.Allows.recovers {P : Request → Prop} (h : Preparation.Allows P) :
    Preparation.Recovers P :=
  ⟨h.now, fun _ => h.ledger _, fun _ => h.ledger _⟩

/-- Whether a kind of requests has all those that tend the record under a key. -/
structure Delivery.Tends (key : Record.Key) (P : Request → Prop) : Prop where
  now : P .now
  update : ∀ r : Record, r.key = key → P (.ledger (.update r))
  delete : P (.ledger (.delete key))
  reportFailure : ∀ r, P (.reportFailure r)

/-- Whether a kind of requests has all those that ask a partner single things. -/
structure Connection.Deals (partner : Partner) (P : Request → Prop) : Prop where
  connect : P (.connect ⟨partner, none, .none⟩)
  clockFraction : P .clockFraction
  sleep : ∀ s, P (.sleep s)
  ask : ∀ s packet timeout, P (.ask s packet timeout)
  close : ∀ s, P (.close s)

/-- Whether a kind of requests has all those that find the record of a transfer, here or at the
other end. -/
structure Intervention.Seeks (P : Request → Prop) : Prop where
  now : P .now
  load : ∀ key, P (.ledger (.load key))
  insert : ∀ r, P (.ledger (.insert r))
  deals : ∀ partner, Connection.Deals partner P

/-- Whether a kind of requests has all those that bring a prepared transfer to a partner: its
attempts ask in a role for a record of some kind. -/
structure Delivery.Calls (partner : Partner) (Q : Record → Prop) (through : Through)
    (P : Request → Prop) : Prop where
  connect : ∀ r, Q r → P (.connect ⟨partner, some r, through⟩)
  clockFraction : P .clockFraction
  sleep : ∀ s, P (.sleep s)
  complete : ∀ s timeout, P (.complete s timeout)
  close : ∀ s, P (.close s)

/-- Whether a kind of requests has all those that bring a prepared transfer to a partner, the
attempts asking for the record under a key, in its mode. -/
structure Delivery.Carries (partner : Partner) (key : Record.Key) (mode : Mode)
    (through : Through) (P : Request → Prop) : Prop where
  connect : ∀ r : Record, r.key = key → r.mode = mode →
    P (.connect ⟨partner, some r, through⟩)
  clockFraction : P .clockFraction
  sleep : ∀ s, P (.sleep s)
  complete : ∀ s timeout, P (.complete s timeout)
  close : ∀ s, P (.close s)

/-- A transfer calls its partner with the record that it carries, however far this has come. -/
theorem Delivery.Carries.calls {partner : Partner} {key : Record.Key} {mode : Mode}
    {through : Through} {P : Request → Prop} (h : Delivery.Carries partner key mode through P) :
    Delivery.Calls partner (fun r => r.key = key ∧ r.mode = mode) through P :=
  ⟨fun r hr => h.connect r hr.1 hr.2, h.clockFraction, h.sleep, h.complete, h.close⟩

/-- Whether a kind of requests has all those of transfers that have a record already. -/
structure Delivery.Reuses (P : Request → Prop) : Prop where
  seeks : Intervention.Seeks P
  recovers : Preparation.Recovers P
  tends : ∀ key, Tends key P
  carries : ∀ partner key mode through, Carries partner key mode through P

/-- Whether a kind of requests has all those of transfers. -/
structure Delivery.Serves (P : Request → Prop) : Prop where
  allows : Preparation.Allows P
  tends : ∀ key, Tends key P
  carries : ∀ partner key mode through, Carries partner key mode through P
  deals : ∀ partner, Connection.Deals partner P

variable {P : Request → Prop}

/-- Who may serve every order may serve those for filed records. -/
theorem Delivery.Serves.reuses (h : Delivery.Serves P) : Delivery.Reuses P :=
  ⟨⟨h.allows.now, fun _ => h.allows.ledger _, fun _ => h.allows.ledger _, h.deals⟩,
    h.allows.recovers, h.tends, h.carries⟩

/-! ## Records -/

namespace Delivery

variable {key : Record.Key} {record : Record} {p : Prepared}

theorem ensures_save (hP : Tends key P) (hkey : record.key = key) :
    Ensures P (fun _ => True) (save record) :=
  ensures_ask (hP.update record hkey) fun _ => trivial

theorem ensures_discard (hP : Tends key P) (hkey : record.key = key) :
    Ensures P (fun _ => True) (discard record) :=
  ensures_ask (hkey ▸ hP.delete) fun _ => trivial

/-- A record that has failed keeps its key. -/
theorem ensures_finalizeInError (hP : Tends key P) (hkey : record.key = key) (code : ResultCode)
    (cause : String) : Ensures P (fun r => r.key = key) (finalizeInError record code cause) := by
  unfold finalizeInError
  split
  · exact ensures_done hkey
  · refine ensures_ask hP.now fun now => ?_
    refine ensures_bind (ensures_save hP hkey) fun _ _ => ?_
    exact ensures_ask (hP.reportFailure _) fun _ => ensures_done hkey

theorem ensures_terminate (hP : Tends key P) (hkey : p.record.key = key) (code : ResultCode)
    (cause : String) : Ensures P (fun _ => True) (terminate p code cause) := by
  refine ensures_bind (ensures_finalizeInError hP hkey code cause) fun r hr => ?_
  split
  · exact ensures_bind (ensures_discard hP hr) fun _ _ => trivial
  · trivial

/-- A record whose transfer was accepted keeps its key. -/
theorem ensures_acknowledge (hP : Tends key P) (hkey : record.key = key) (rank : Option Nat) :
    Ensures P (fun r => r.key = key) (acknowledge record rank) := by
  cases rank with
  | none => exact ensures_done hkey
  | some rank =>
      refine ensures_ask hP.now fun now => ?_
      split
      · next r hadvance =>
          have heq := Record.eq_of_advanceRank hadvance
          refine ensures_done ?_
          rw [heq]
          exact hkey
      · exact ensures_done hkey

theorem ensures_conclude (hP : Tends key P) (hkey : p.record.key = key) (rank : Option Nat) :
    Ensures P (fun _ => True) (conclude p rank) := by
  refine ensures_bind (ensures_acknowledge hP hkey rank) fun r hr => ?_
  refine ensures_ask hP.now fun now => ensures_bind (ensures_save hP hr) fun _ _ => ?_
  split
  · exact ensures_bind (ensures_discard hP hr) fun _ _ => trivial
  · trivial

/-- The transfer goes on under the same key, with the same partner. -/
theorem ensures_started (hP : Tends key P) (hkey : p.record.key = key) :
    Ensures P (fun p' => p'.record.key = key ∧ p'.partner = p.partner) (started p) :=
  ensures_ask hP.now fun _ => ensures_bind (ensures_save hP hkey) fun _ _ =>
    ensures_done ⟨hkey, rfl⟩

/-- The record of a transfer whose partner was too busy. -/
def overloaded (record : Record) (now : Calendar.Moment) : Record :=
  record.setInError .serverOverloaded (some "partner overloaded") now

/-- After an overload the record is as it was, or it says that the partner was overloaded. -/
theorem ensures_noteOverload (hP : Tends key P) (hkey : p.record.key = key) :
    Ensures P (fun p' => p'.partner = p.partner ∧
      (p'.record = p.record ∨ ∃ now, p'.record = overloaded p.record now)) (noteOverload p) := by
  unfold noteOverload
  split
  · exact ensures_done ⟨rfl, .inl rfl⟩
  · exact ensures_ask hP.now fun now => ensures_bind (ensures_save hP hkey) fun _ _ =>
      ensures_done ⟨rfl, .inr ⟨now, rfl⟩⟩

end Delivery

/-! ## Preparation -/

namespace Preparation

theorem ensures_localFileSize (hP : Allows P) (rule : Rule) (filename : String) :
    Ensures P (fun _ => True) (localFileSize rule filename) := by
  refine ensures_ask (hP.metadata _) fun info => ?_
  cases info <;> trivial

/-- A new record asks for no more than a preparation may ask for. -/
theorem ensures_createRecord (hP : Allows P) (ctx : Context) (order : Order) (partner : Partner)
    (requester : String) (kind : Kind) :
    Ensures P (fun _ => True) (createRecord ctx order partner requester kind) := by
  unfold createRecord
  split
  · trivial
  · split
    · trivial
    · dsimp only
      split
      · refine ensures_bind (ensures_localFileSize hP _ _) fun size _ => ?_
        refine ensures_ask hP.now fun now => ensures_ask (hP.ledger _) fun created => ?_
        cases created <;> trivial
      · refine ensures_bind (Q := fun _ => True) trivial fun size _ => ?_
        refine ensures_ask hP.now fun now => ensures_ask (hP.ledger _) fun created => ?_
        cases created <;> trivial

/-- A filed record is taken up without anything being entered. -/
theorem ensures_recoverRecord (hP : Recovers P) (order : Order) (key : Record.Key) (kind : Kind) :
    Ensures P (fun _ => True) (recoverRecord order key kind) := by
  refine ensures_ask (hP.load _) fun found => ?_
  cases found with
  | none => trivial
  | some record =>
      dsimp only
      split
      · trivial
      · split
        · refine ensures_ask hP.now fun now => ?_
          refine ensures_bind (Q := fun _ => True) trivial fun r _ => ?_
          refine ensures_ask (hP.update _) fun updated => ?_
          cases updated <;> trivial
        · refine ensures_bind (Q := fun _ => True) trivial fun r _ => ?_
          refine ensures_ask (hP.update _) fun updated => ?_
          cases updated <;> trivial

theorem ensures_markTransient (hP : Recovers P) (kind : Kind) (record : Record) :
    Ensures P (fun _ => True) (markTransient kind record) := by
  unfold markTransient
  split
  · refine ensures_ask (hP.update _) fun updated => ?_
    cases updated <;> trivial
  · trivial

/-- An order is prepared by what makes or finds its record, and by what marks it. -/
theorem ensures_prepare_of (hP : Recovers P) {ctx : Context} {order : Order} {kind : Kind}
    (hfind : ∀ partner, Ensures P (fun _ => True) (findRecord ctx order partner kind)) :
    Ensures P (fun _ => True) (prepare ctx order kind) := by
  unfold prepare
  split
  · trivial
  · refine ensures_bind (hfind _) fun found _ => ?_
    cases found with
    | error outcome => trivial
    | ok record =>
        refine ensures_bind (ensures_markTransient hP _ _) fun marked _ => ?_
        cases marked <;> trivial

/-- Preparing a transfer is between the clock, the files and the ledger. -/
theorem ensures_prepare (hP : Allows P) (ctx : Context) (order : Order) (kind : Kind) :
    Ensures P (fun _ => True) (prepare ctx order kind) := by
  have hfind : ∀ partner, Ensures P (fun _ => True) (findRecord ctx order partner kind) := by
    intro partner
    unfold findRecord
    split
    · exact ensures_recoverRecord hP.recovers _ _ _
    · exact ensures_createRecord hP _ _ _ _ _
  exact ensures_prepare_of hP.recovers hfind

/-- An order by number makes no new record. -/
theorem ensures_prepare_known (hP : Recovers P) {ctx : Context} {order : Order} {kind : Kind}
    {id : Int} (hid : order.fixedId = some id) :
    Ensures P (fun _ => True) (prepare ctx order kind) := by
  refine ensures_prepare_of hP fun partner => ?_
  simp only [findRecord, hid]
  exact ensures_recoverRecord hP _ _ _

end Preparation

/-! ## Sessions -/

namespace Connection

variable {partner : Partner}

theorem ensures_reconnectDelay (hP : P .clockFraction) (policy : Policy) (attempt : Nat) :
    Ensures P (fun _ => True) (reconnectDelay policy attempt) :=
  ensures_ask hP fun _ => trivial

/-- Attempts to open a session for questions go to the one partner. -/
theorem ensures_tryOpen (hP : Deals partner P) (policy : Policy) (left : Nat) (reason : String) :
    Ensures P (fun _ => True) (tryOpen policy partner left reason) := by
  induction left generalizing reason with
  | zero => trivial
  | succ left ih =>
      refine ensures_ask hP.connect fun result => ?_
      cases result with
      | connected session => trivial
      | fatal code message => trivial
      | pending reason =>
          dsimp only
          split
          · refine ensures_bind (ensures_reconnectDelay hP.clockFraction _ _) fun delay _ => ?_
            exact ensures_ask (hP.sleep _) fun _ => ih _
          · exact ih _
      | overloaded =>
          dsimp only
          split
          · exact ensures_ask (hP.sleep _) fun _ => ih _
          · exact ih _

/-- A session for one question is opened, used and closed with the same partner. -/
theorem ensures_exchange (hP : Deals partner P) (policy : Policy) (packet : Packet) :
    Ensures P (fun _ => True) (exchange policy partner packet) := by
  refine ensures_bind (ensures_tryOpen hP policy _ _) fun opened _ => ?_
  cases opened with
  | error fault => trivial
  | ok session =>
      refine ensures_ask (hP.ask _ _ _) fun _ => ?_
      exact ensures_ask (hP.close _) fun _ => trivial

end Connection

namespace Delivery

variable {key : Record.Key} {p : Prepared} {partner : Partner} {mode : Mode} {through : Through}

/-- The attempts to reach a partner call nobody else and tend the record of the transfer.  They
ask for what this record is, and stays when it is noted that the partner was too busy. -/
theorem ensures_tryConnect_of {Q : Record → Prop} (htends : Tends key P)
    (hcalls : Calls partner Q through P) (hkey : ∀ r, Q r → r.key = key)
    (hoverloaded : ∀ r now, Q r → Q (overloaded r now)) (hrecord : Q p.record)
    (hpartner : p.partner = partner) (policy : Policy) (reason : String)
    (attempts overloads : Nat) :
    Ensures P (fun result => ∀ s p', result = .ok (s, p') → p'.record.key = key)
      (tryConnect policy through p reason attempts overloads) := by
  have hends : ∀ {p : Prepared} {code cause}, Q p.record →
      Ensures P (fun result => ∀ s p', result = .ok (s, p') → p'.record.key = key)
        (terminate p code cause >>= fun outcome =>
          .done (.error outcome : Except Outcome (Session × Prepared))) := fun hrecord =>
    ensures_bind (ensures_terminate htends (hkey _ hrecord) _ _) fun _ _ => by simp [Ensures]
  induction p, reason, attempts, overloads using tryConnect_induction with
  | spent p reason overloads =>
      rw [tryConnect]
      exact hends hrecord
  | attempt p reason left overloads again patient =>
      rw [tryConnect]
      have hconnect : P (.connect ⟨p.partner, some p.record, through⟩) := by
        rw [hpartner]
        exact hcalls.connect _ hrecord
      refine ensures_ask hconnect fun result => ?_
      cases result with
      | connected session =>
          refine ensures_bind (ensures_started htends (hkey _ hrecord)) fun p' hp' =>
            ensures_done ?_
          rintro s p'' ⟨⟩
          exact hp'.1
      | fatal code message => exact hends hrecord
      | pending reason =>
          dsimp only
          split
          · refine ensures_bind
              (Connection.ensures_reconnectDelay hcalls.clockFraction _ _) fun delay _ => ?_
            exact ensures_ask (hcalls.sleep _) fun _ => again _ hrecord hpartner
          · exact again _ hrecord hpartner
      | overloaded =>
          refine ensures_bind (ensures_noteOverload htends (hkey _ hrecord))
            fun noted hnoted => ?_
          obtain ⟨hpartner', hrecord'⟩ := hnoted
          have hnoted : Q noted.record := by
            rcases hrecord' with heq | ⟨now, heq⟩
            · rwa [heq]
            · rw [heq]
              exact hoverloaded _ _ hrecord
          cases overloads with
          | zero => exact hends hnoted
          | succ fewer =>
              exact ensures_ask (hcalls.sleep _) fun _ =>
                patient _ _ fewer rfl hnoted (hpartner'.trans hpartner)

/-- The attempts ask for the record of the transfer in its mode. -/
theorem ensures_tryConnect (htends : Tends key P) (hcarries : Carries partner key mode through P)
    (hkey : p.record.key = key) (hmode : p.record.mode = mode) (hpartner : p.partner = partner)
    (policy : Policy) (reason : String) (attempts overloads : Nat) :
    Ensures P (fun result => ∀ s p', result = .ok (s, p') → p'.record.key = key)
      (tryConnect policy through p reason attempts overloads) :=
  ensures_tryConnect_of htends hcarries.calls (fun _ hr => hr.1) (fun _ _ hr => hr) ⟨hkey, hmode⟩
    hpartner policy reason attempts overloads

/-- The rest of a transfer, from its session on, concerns its record and its partner. -/
theorem ensures_finish {Q : Record → Prop} (htends : Tends key P)
    (hcalls : Calls partner Q through P) (hkey : p.record.key = key) (policy : Policy)
    (session : Session) : Ensures P (fun _ => True) (finish policy session p) := by
  refine ensures_ask (hcalls.complete _ _) fun completion => ?_
  refine ensures_ask (hcalls.close _) fun _ => ?_
  cases completion with
  | error fault => exact ensures_terminate htends hkey _ _
  | ok completion =>
      dsimp only
      split
      · exact ensures_conclude htends hkey _
      · exact ensures_terminate htends hkey _ _

/-- A prepared transfer only tends its record and calls its partner, asking for what the record
is. -/
theorem ensures_connect_finish_of {Q : Record → Prop} (htends : Tends p.record.key P)
    (hcalls : Calls p.partner Q through P) (hkey : ∀ r, Q r → r.key = p.record.key)
    (hoverloaded : ∀ r now, Q r → Q (overloaded r now)) (hrecord : Q p.record)
    (policy : Policy) :
    Ensures P (fun _ => True) (connect policy through p >>= fun
      | .error outcome => .done outcome
      | .ok (session, p) => finish policy session p) := by
  refine ensures_bind (ensures_tryConnect_of htends hcalls hkey hoverloaded hrecord rfl _ _ _ _)
    fun result h => ?_
  cases result with
  | error outcome => trivial
  | ok opened => exact ensures_finish htends hcalls (h _ _ rfl) _ _

/-- A transfer, from its first attempt on, concerns its record and its partner. -/
theorem ensures_connect_finish (htends : Tends p.record.key P)
    (hcarries : Carries p.partner p.record.key p.record.mode through P) (policy : Policy) :
    Ensures P (fun _ => True) (connect policy through p >>= fun
      | .error outcome => .done outcome
      | .ok (session, p) => finish policy session p) :=
  ensures_connect_finish_of htends hcarries.calls (fun _ hr => hr.1) (fun _ _ hr => hr)
    ⟨rfl, rfl⟩ policy

/-- Carrying out an order asks for what prepares it, tends its record and calls its partner. -/
theorem asks_carryOut (hP : Serves P) (ctx : Context) (order : Order) (kind : Preparation.Kind)
    (through : Through) : Asks P (carryOut ctx order kind through) := by
  refine asks_bind (Preparation.ensures_prepare hP.allows ctx order kind).asks fun prepared => ?_
  cases prepared with
  | error outcome => trivial
  | ok p => exact (ensures_connect_finish (hP.tends _) (hP.carries _ _ _ _) _).asks

/-- So does an order by number, which enters no new record. -/
theorem asks_carryOut_known (hP : Reuses P) {ctx : Context} {order : Order}
    {kind : Preparation.Kind} {id : Int} (hid : order.fixedId = some id) (through : Through) :
    Asks P (carryOut ctx order kind through) := by
  refine asks_bind (Preparation.ensures_prepare_known hP.recovers hid).asks fun prepared => ?_
  cases prepared with
  | error outcome => trivial
  | ok p => exact (ensures_connect_finish (hP.tends _) (hP.carries _ _ _ _) _).asks

/-- An order that is only filed asks for what its preparation asks for. -/
theorem asks_submit (hP : Preparation.Allows P) (ctx : Context) (order : Order) :
    Asks P (submit ctx order) := by
  refine asks_bind (Preparation.ensures_prepare hP ctx order .submit).asks fun prepared => ?_
  cases prepared <;> trivial

end Delivery

/-! ## Questions -/

namespace Inquiry

/-- A question goes to one partner. -/
theorem asks_ask (hP : ∀ partner, Connection.Deals partner P) (ctx : Context) (hostId : String)
    (query : Query) : Asks P (ask ctx hostId query) := by
  unfold ask
  split
  · trivial
  · refine asks_bind (Connection.ensures_exchange (hP _) _ _).asks fun answer => ?_
    cases answer <;> trivial

theorem asks_describe (hP : ∀ partner, Connection.Deals partner P) (ctx : Context)
    (hostId : String) (key : Record.Key) : Asks P (describe ctx hostId key) := by
  refine asks_bind (asks_ask hP _ _ _) fun answer => ?_
  cases answer <;> trivial

theorem asks_listFiles (hP : ∀ partner, Connection.Deals partner P) (ctx : Context)
    (hostId rule pattern : String) : Asks P (listFiles ctx hostId rule pattern) := by
  refine asks_bind (asks_ask hP _ _ _) fun answer => ?_
  cases answer <;> trivial

end Inquiry

/-! ## Interventions -/

namespace Intervention

/-- A record that a partner has told about is entered here. -/
theorem asks_adopt (hnow : P .now) (hinsert : ∀ r, P (.ledger (.insert r))) (key : Record.Key)
    (record : Record) : Asks P (adopt key record) := by
  unfold adopt
  split
  · trivial
  · split
    · trivial
    · refine asks_bind (asks_perform hnow) fun now => ?_
      refine asks_bind (asks_perform (hinsert _)) fun inserted => ?_
      cases inserted <;> trivial

/-- An interrupted transfer is dealt with under the key of its record. -/
theorem asks_breakOff (hP : ∀ key, Delivery.Tends key P) (action : Interrupt)
    (record : Record) : Asks P (breakOff action record) :=
  asks_bind (asks_perform (hP record.key).now) fun _ =>
    asks_bind (Delivery.ensures_save (hP _) rfl).asks fun _ => trivial

theorem asks_interpretInterrupt (hP : ∀ key, Delivery.Tends key P) (action : Interrupt)
    (record : Record) (answer : Answer) : Asks P (interpretInterrupt action record answer) := by
  unfold interpretInterrupt
  split
  · exact asks_bind (asks_breakOff hP _ _) fun _ => trivial
  · split <;> trivial

/-- A record is looked for here, and then at the partner. -/
theorem asks_locate (hP : Seeks P) (ctx : Context) (key : Record.Key) (peer : Partner) :
    Asks P (locate ctx key peer) := by
  refine asks_bind (asks_perform (hP.load _)) fun found => ?_
  cases found with
  | some record => trivial
  | none =>
      dsimp only
      split
      · trivial
      · refine asks_bind (Inquiry.asks_describe hP.deals _ _ _) fun described => ?_
        cases described with
        | error fault => trivial
        | ok record => exact asks_adopt hP.now hP.insert _ _

/-- A record is found under its number and its hosts, here or at the partner. -/
theorem asks_find (hP : Seeks P) (ctx : Context) (specialId : Int)
    (requested requester : String) : Asks P (find ctx specialId requested requester) := by
  unfold find
  split
  · trivial
  · refine asks_bind (asks_locate hP _ _ _) fun located => ?_
    cases located <;> trivial

/-- Breaking a transfer off asks for what transfers with a record ask for. -/
theorem asks_interrupt (hP : Delivery.Reuses P) (ctx : Context) (action : Interrupt)
    (specialId : Int) (requested requester : String) :
    Asks P (interrupt ctx action specialId requested requester) := by
  refine asks_bind (asks_find hP.seeks _ _ _ _) fun found => ?_
  cases found with
  | error outcome => trivial
  | ok found =>
      dsimp only
      split
      · trivial
      · split
        · exact asks_bind (asks_breakOff hP.tends _ _) fun _ => trivial
        · refine asks_bind (Connection.ensures_exchange (hP.seeks.deals _) _ _).asks fun answer => ?_
          cases answer with
          | error fault => trivial
          | ok answer => exact asks_interpretInterrupt hP.tends _ _ _

/-- A transfer that is run again is ordered by its number. -/
theorem fixedId_of_restartForm {hosts : Directory} {zone : Calendar.Zone} {record : Record}
    {time : Option Calendar.Timestamp} {order : Order}
    (h : (restartForm zone record time).complete hosts = .ok order) :
    order.fixedId = some record.specialId := by
  obtain ⟨-, -, rfl⟩ := Order.Form.complete_eq_ok_iff.1 h
  rfl

/-- A restart at this host is an order for the number of the record. -/
theorem asks_restartLocally (hP : Delivery.Reuses P) (ctx : Context) (record : Record)
    (time : Option Calendar.Timestamp) : Asks P (restartLocally ctx record time) := by
  unfold restartLocally
  split
  · trivial
  · next order hcomplete =>
      have hid := fixedId_of_restartForm hcomplete
      refine asks_bind (Delivery.asks_carryOut_known hP hid _) fun outcome => ?_
      split <;> trivial

/-- So does restarting it. -/
theorem asks_restart (hP : Delivery.Reuses P) (ctx : Context) (specialId : Int)
    (requested requester : String) (time : Option Calendar.Timestamp) :
    Asks P (restart ctx specialId requested requester time) := by
  refine asks_bind (asks_find hP.seeks _ _ _ _) fun found => ?_
  cases found with
  | error outcome => trivial
  | ok found =>
      dsimp only
      split
      · trivial
      · split
        · split
          · exact asks_restartLocally hP _ _ _
          · trivial
        · refine asks_bind (Connection.ensures_exchange (hP.seeks.deals _) _ _).asks fun answer => ?_
          cases answer <;> trivial

end Intervention

/-! ## Files -/

namespace Names

/-- What is asked for each element is all that is asked for a list. -/
theorem asks_mapM {α β : Type} {f : α → Program β} (hf : ∀ a, Asks P (f a)) (as : List α) :
    Asks P (as.mapM f) := by
  induction as with
  | nil => trivial
  | cons a rest ih =>
      rw [List.mapM_cons]
      exact asks_bind (hf a) fun _ => asks_bind ih fun _ => asks_done _

theorem asks_filterM {α : Type} {f : α → Program Bool} (hf : ∀ a, Asks P (f a)) (as : List α) :
    Asks P (as.filterM f) := by
  have haux : ∀ as found : List α, Asks P (as.filterAuxM f found) := by
    intro as
    induction as with
    | nil => exact fun _ => trivial
    | cons a rest ih => exact fun found => asks_bind (hf a) fun _ => ih _
  exact asks_bind (haux as []) fun _ => asks_done _

/-- Expanding a pattern asks for files only. -/
theorem asks_expand (hP : ∀ op, P (.files op)) (base : Path) (pattern : String) :
    Asks P (expand base pattern : Program (List String)) := by
  have hmatching : ∀ directory segment,
      Asks P (matchingNames directory segment : Program (List String)) := by
    intro directory segment
    refine asks_bind (asks_perform (hP _)) fun entries => ?_
    cases entries <;> trivial
  have hextend : ∀ component candidates,
      Asks P (extend base component candidates : Program (List Path)) := by
    intro component candidates
    unfold extend
    split
    · split
      · exact asks_bind (asks_mapM (fun _ => asks_bind (hmatching _ _) fun _ => asks_done _) _)
          fun _ => asks_done _
      · trivial
    · trivial
  have hcandidates : ∀ components found,
      Asks P (candidates base components found : Program (List Path)) := by
    intro components
    induction components with
    | nil => exact fun _ => trivial
    | cons component rest ih => exact fun found => asks_bind (hextend _ _) fun _ => ih _
  have hisFile : ∀ p, Asks P (Files.isFile p : Program Bool) := by
    intro p
    refine asks_bind (asks_perform (hP _)) fun info => ?_
    cases info <;> trivial
  exact asks_bind (hcandidates _ _) fun found =>
    asks_bind (asks_filterM (fun _ => hisFile _) _) fun _ => asks_done _

end Names

end Courier
