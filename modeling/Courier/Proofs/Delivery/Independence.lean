import Courier.Proofs.Delivery.Conduct
import Courier.Proofs.Delivery.Lockstep
import Courier.Proofs.Delivery.Traversal

/-!
# Partners of a batch do not depend on each other

Whatever one partner of a batch answers, the transfers with all other partners end the same, and
their records are the same, times aside.  Numbers are given before any partner is called, so
that they are the same too.

Main definitions:

- `Prepared.Paired` says that two prepared transfers differ only in times.
- `Comparison.sees` is what is seen of an outcome by someone who does not look at the odd
  partner.

Main statements:

- Transfers with any other partner are in step (`inStep_goOn`), and what is done for the odd
  partner leaves everybody else's surroundings similar (`similar_goOn`).
- Two runs of a batch that sends show the same outcomes and leave the same records, but for the
  odd partner (`Batch.independent`).
-/

namespace Courier

open Program

/-- Whether two prepared transfers differ only in times; both are this host's own. -/
structure Prepared.Paired (ctx : Context) (p p' : Prepared) : Prop where
  partner : p.partner = p'.partner
  record : p.record.timeless = p'.record.timeless
  noLog : p.noLog = p'.noLog
  requested : p.record.key.requested = p.partner.hostId
  requester : ctx.hosts.isLocal p.record.key.requester = true

theorem Prepared.Paired.symm {ctx : Context} {p p' : Prepared} (h : p.Paired ctx p') :
    p'.Paired ctx p := by
  have hkey := Record.key_of_timeless h.record
  refine ⟨h.partner.symm, h.record.symm, h.noLog.symm, ?_, ?_⟩
  · rw [← hkey, ← h.partner]
    exact h.requested
  · rw [← hkey]
    exact h.requester

namespace Comparison

variable {c : Comparison} {held : Option (Session × String)} {r r' : Record} {p p' : Prepared}

/-- The records of transfers with the odd partner are its own. -/
theorem isOwn_of_paired (h : p.Paired c.ctx p') (hhost : p.partner.hostId = c.odd) :
    c.ctx.hosts.IsOwn c.odd p.record.key :=
  ⟨h.requested.trans hhost, h.requester⟩

/-- Those of transfers with another partner are not. -/
theorem not_isOwn_of_paired (h : p.Paired c.ctx p') (hhost : p.partner.hostId ≠ c.odd) :
    ¬c.ctx.hosts.IsOwn c.odd p.record.key :=
  fun hown => hhost (h.requested.symm.trans hown.1)

/-! ## Records -/

/-- A record of another partner is saved on both sides. -/
theorem inStep_save (halike : r.timeless = r'.timeless)
    (hkey : ¬c.ctx.hosts.IsOwn c.odd r.key) :
    c.InStep held (Delivery.save r) (Delivery.save r') (fun _ _ => True) fun _ => held :=
  inStep_bind (inStep_update halike hkey) fun _ _ _ => inStep_done trivial rfl

/-- A record is taken out on both sides, or is not there on either. -/
theorem inStep_discard (halike : r.timeless = r'.timeless) :
    c.InStep held (Delivery.discard r) (Delivery.discard r') (fun _ _ => True) fun _ => held := by
  unfold Delivery.discard
  rw [← Record.key_of_timeless halike]
  exact inStep_bind (inStep_delete _) fun _ _ _ => inStep_done trivial rfl

/-- Records that are alike fail alike. -/
theorem inStep_finalizeInError (halike : r.timeless = r'.timeless)
    (hkey : ¬c.ctx.hosts.IsOwn c.odd r.key) (code : ResultCode) (cause : String) :
    c.InStep held (Delivery.finalizeInError r code cause) (Delivery.finalizeInError r' code cause)
      (fun r r' => r.timeless = r'.timeless) fun _ => held := by
  unfold Delivery.finalizeInError
  rw [← Record.isAllDone_of_timeless halike]
  split
  · exact inStep_done halike rfl
  · refine inStep_bind inStep_now fun now now' _ => ?_
    have hchanged := Record.timeless_setInError halike code (some cause) now now'
    refine inStep_bind (inStep_save hchanged hkey) fun _ _ _ => ?_
    exact inStep_bind (inStep_reportFailure _ _) fun _ _ _ => inStep_done hchanged rfl

/-- A transfer with another partner fails alike on both sides. -/
theorem inStep_terminate (h : p.Paired c.ctx p') (hhost : p.partner.hostId ≠ c.odd)
    (code : ResultCode) (cause : String) :
    c.InStep held (Delivery.terminate p code cause) (Delivery.terminate p' code cause)
      (fun o o' => o.timeless = o'.timeless) fun _ => held := by
  refine inStep_bind (inStep_finalizeInError h.record (not_isOwn_of_paired h hhost) code cause)
    fun r r' halike => ?_
  have houtcome := Outcome.timeless_failed halike code cause
  rw [← h.noLog, ← Record.ignoreSave_of_timeless halike]
  split
  · exact inStep_bind (inStep_discard halike) fun _ _ _ => inStep_done houtcome rfl
  · exact inStep_done houtcome rfl

/-- The rank that a partner acknowledges is noted alike. -/
theorem inStep_acknowledge (halike : r.timeless = r'.timeless) (rank : Option Nat) :
    c.InStep held (Delivery.acknowledge r rank) (Delivery.acknowledge r' rank)
      (fun a a' => a.timeless = a'.timeless ∧ a.key = r.key) fun _ => held := by
  cases rank with
  | none => exact inStep_done ⟨halike, rfl⟩ rfl
  | some rank =>
      refine inStep_bind inStep_now fun now now' _ => ?_
      have hiff : (r.status = .running ∧ rank < r.rank) ↔
          (r'.status = .running ∧ rank < r'.rank) := by
        rw [Record.status_of_timeless halike, Record.rank_of_timeless halike]
      unfold Record.advanceRank
      by_cases hbehind : r.status = .running ∧ rank < r.rank
      · rw [if_pos hbehind, if_pos (hiff.1 hbehind)]
        exact inStep_done ⟨halike, rfl⟩ rfl
      · rw [if_neg hbehind, if_neg (mt hiff.2 hbehind)]
        exact inStep_done ⟨Record.timeless_ranked halike rank now now', rfl⟩ rfl

/-- A transfer with another partner goes well on both sides. -/
theorem inStep_conclude (h : p.Paired c.ctx p') (hhost : p.partner.hostId ≠ c.odd)
    (rank : Option Nat) :
    c.InStep held (Delivery.conclude p rank) (Delivery.conclude p' rank)
      (fun o o' => o.timeless = o'.timeless) fun _ => held := by
  refine inStep_bind (inStep_acknowledge h.record rank) fun r r' hacknowledged => ?_
  obtain ⟨halike, hkey⟩ := hacknowledged
  have hown : ¬c.ctx.hosts.IsOwn c.odd r.key := hkey ▸ not_isOwn_of_paired h hhost
  refine inStep_bind inStep_now fun now now' _ => ?_
  have hdone := Record.timeless_setDone halike now now'
  have houtcome := Outcome.timeless_succeeded hdone .completeOk
  refine inStep_bind (inStep_save hdone hown) fun _ _ _ => ?_
  rw [← h.noLog]
  split
  · exact inStep_bind (inStep_discard hdone) fun _ _ _ => inStep_done houtcome rfl
  · exact inStep_done houtcome rfl

/-- It is started on both sides. -/
theorem inStep_started (h : p.Paired c.ctx p') (hhost : p.partner.hostId ≠ c.odd) :
    c.InStep held (Delivery.started p) (Delivery.started p')
      (fun q q' => q.Paired c.ctx q' ∧ q.partner = p.partner) fun _ => held := by
  refine inStep_bind inStep_now fun now now' _ => ?_
  have halike := Record.timeless_setRunning h.record now now'
  refine inStep_bind (inStep_save halike (not_isOwn_of_paired h hhost)) fun _ _ _ => ?_
  exact inStep_done ⟨⟨h.partner, halike, h.noLog, h.requested, h.requester⟩, rfl⟩ rfl

/-- An overload is noted on both sides. -/
theorem inStep_noteOverload (h : p.Paired c.ctx p') (hhost : p.partner.hostId ≠ c.odd) :
    c.InStep held (Delivery.noteOverload p) (Delivery.noteOverload p')
      (fun q q' => q.Paired c.ctx q' ∧ q.partner = p.partner) fun _ => held := by
  have hterminal : p.record.isTerminal = p'.record.isTerminal := by
    rw [Record.isTerminal, Record.isTerminal, Record.status_of_timeless h.record]
  unfold Delivery.noteOverload
  rw [← hterminal]
  split
  · exact inStep_done ⟨h, rfl⟩ rfl
  · refine inStep_bind inStep_now fun now now' _ => ?_
    have halike := Record.timeless_setInError h.record .serverOverloaded
      (some "partner overloaded") now now'
    refine inStep_bind (inStep_save halike (not_isOwn_of_paired h hhost)) fun _ _ _ => ?_
    exact inStep_done ⟨⟨h.partner, halike, h.noLog, h.requested, h.requester⟩, rfl⟩ rfl

/-! ## Sessions -/

/-- How the attempts to reach a partner end when they are in step. -/
inductive Reached (ctx : Context) (partner : Partner) :
    Except Outcome (Session × Prepared) → Except Outcome (Session × Prepared) → Prop where
  | failed {o o' : Outcome} (halike : o.timeless = o'.timeless) :
      Reached ctx partner (.error o) (.error o')
  | opened {session : Session} {p p' : Prepared} (h : p.Paired ctx p')
      (same : p.partner = partner) : Reached ctx partner (.ok (session, p)) (.ok (session, p'))

/-- The session that the attempts of a transfer ended with, and whom it is with. -/
def heldWith (partner : Partner) (result : Except Outcome (Session × Prepared)) :
    Option (Session × String) :=
  (Delivery.openAfter result).map fun session => (session, partner.hostId)

/-- Delays may differ, as the clock gives the fraction that is added to them. -/
theorem inStep_reconnectDelay (policy : Policy) (attempt : Nat) :
    c.InStep held (Connection.reconnectDelay policy attempt)
      (Connection.reconnectDelay policy attempt) (fun _ _ => True) fun _ => held :=
  inStep_bind inStep_clockFraction fun _ _ _ => inStep_done trivial rfl

/-- The attempts to reach any other partner are in step. -/
theorem inStep_tryConnect (h : p.Paired c.ctx p') (hhost : p.partner.hostId ≠ c.odd)
    (policy : Policy) (through : Through) (reason : String) (attempts overloads : Nat) :
    c.InStep none (Delivery.tryConnect policy through p reason attempts overloads)
      (Delivery.tryConnect policy through p' reason attempts overloads)
      (Reached c.ctx p.partner) (heldWith p.partner) := by
  have hends : ∀ {q q' : Prepared} {partner : Partner} (code : ResultCode) (cause : String),
      q.Paired c.ctx q' → q.partner.hostId ≠ c.odd →
      c.InStep none
        (Delivery.terminate q code cause >>= fun o =>
          .done (.error o : Except Outcome (Session × Prepared)))
        (Delivery.terminate q' code cause >>= fun o => .done (.error o))
        (Reached c.ctx partner) (heldWith partner) := fun code cause hq hqhost =>
    inStep_bind (inStep_terminate hq hqhost code cause) fun _ _ halike =>
      inStep_done (.failed halike) rfl
  induction p, reason, attempts, overloads using Delivery.tryConnect_induction
    generalizing p' with
  | spent p reason overloads =>
      rw [Delivery.tryConnect, Delivery.tryConnect]
      exact hends _ _ h hhost
  | attempt p reason left overloads again patient =>
      have hattempt : (Connect.mk p.partner (some p.record) through).timeless =
          (Connect.mk p'.partner (some p'.record) through).timeless := by
        simp only [Connect.timeless, Option.map_some, h.partner, h.record]
      rw [Delivery.tryConnect, Delivery.tryConnect]
      refine inStep_bind (inStep_connect hattempt hhost) fun result _ hsame => ?_
      subst hsame
      cases result with
      | connected session =>
          refine inStep_bind (inStep_started h hhost) fun q q' hq => ?_
          exact inStep_done (.opened hq.1 hq.2) rfl
      | fatal code message => exact hends _ _ h hhost
      | pending reason =>
          have hagain := again reason h hhost
          dsimp only
          split
          · refine inStep_bind (inStep_reconnectDelay _ _) fun delay delay' _ => ?_
            exact inStep_bind (inStep_sleep _ _) fun _ _ _ => hagain
          · exact hagain
      | overloaded =>
          refine inStep_bind (inStep_noteOverload h hhost) fun q q' hq => ?_
          obtain ⟨hpaired, hpartner⟩ := hq
          have hhost' : q.partner.hostId ≠ c.odd := hpartner ▸ hhost
          cases overloads with
          | zero => exact hends _ _ hpaired hhost'
          | succ fewer =>
              refine inStep_bind (inStep_sleep _ _) fun _ _ _ => ?_
              rw [← hpartner]
              exact patient q reason fewer rfl hpaired hhost'

/-- With a session that is held on both sides, a transfer comes to the same end. -/
theorem inStep_finish (h : p.Paired c.ctx p') (hhost : p.partner.hostId ≠ c.odd)
    (policy : Policy) (session : Session) :
    c.InStep (some (session, p.partner.hostId)) (Delivery.finish policy session p)
      (Delivery.finish policy session p') (fun o o' => o.timeless = o'.timeless)
      fun _ => none := by
  refine inStep_bind (inStep_complete session _ hhost) fun completion _ hsame => ?_
  subst hsame
  refine inStep_bind (inStep_close session hhost) fun _ _ _ => ?_
  cases completion with
  | error fault => exact inStep_terminate h hhost _ _
  | ok completion =>
      dsimp only
      split
      · exact inStep_conclude h hhost _
      · exact inStep_terminate h hhost _ _

/-! ## Preparation -/

/-- How preparing an order ends when it is in step. -/
inductive Found (ctx : Context) (order : Order) :
    Except Outcome Prepared → Except Outcome Prepared → Prop where
  | refused {o o' : Outcome} (halike : o.timeless = o'.timeless) :
      Found ctx order (.error o) (.error o')
  | ready {p p' : Prepared} (h : p.Paired ctx p')
      (known : ctx.hosts.lookup order.partner = .ok p.partner) : Found ctx order (.ok p) (.ok p')

theorem isLocal_localId (d : Directory) (useTls : Bool) : d.isLocal (d.localId useTls) = true := by
  cases useTls <;> simp [Directory.isLocal, Directory.localId]

/-- Files are of one size on both sides. -/
theorem inStep_localFileSize (rule : Rule) (filename : String) :
    c.InStep held (Preparation.localFileSize rule filename)
      (Preparation.localFileSize rule filename) Eq fun _ => held := by
  refine inStep_bind (inStep_files _) fun info _ hsame => ?_
  subst hsame
  cases info <;> exact inStep_done rfl rfl

/-- How the record of a new transfer is made, or not made, on both sides. -/
inductive Made (requester : String) (partner : Partner) :
    Except Outcome Record → Except Outcome Record → Prop where
  | refused (o : Outcome) : Made requester partner (.error o) (.error o)
  | made {r r' : Record} (halike : r.timeless = r'.timeless)
      (hrequester : r.key.requester = requester) (hrequested : r.key.requested = partner.hostId) :
      Made requester partner (.ok r) (.ok r')

/-- A new record takes the same number on both sides, whoever it is for. -/
theorem inStep_createRecord (order : Order) (partner : Partner) (requester : String)
    (kind : Preparation.Kind) :
    c.InStep none (Preparation.createRecord c.ctx order partner requester kind)
      (Preparation.createRecord c.ctx order partner requester kind) (Made requester partner)
      fun _ => none := by
  unfold Preparation.createRecord
  cases c.ctx.rules.resolve (order.rule.getD "") with
  | error fault => exact inStep_done (.refused _) rfl
  | ok rule =>
      dsimp only
      cases Preparation.refusal rule kind with
      | some cause => exact inStep_done (.refused _) rfl
      | none =>
          dsimp only
          split
          · refine inStep_bind (inStep_localFileSize _ _) fun size _ hsame => ?_
            subst hsame
            refine inStep_bind inStep_now fun now now' _ => ?_
            refine inStep_bind (inStep_create _ now now') fun _ _ hcreated => ?_
            cases hcreated with
            | created halike hrequester hrequested =>
                exact inStep_done (.made halike hrequester hrequested) rfl
          · simp only [pure_eq, done_bind]
            refine inStep_bind inStep_now fun now now' _ => ?_
            refine inStep_bind (inStep_create _ now now') fun _ _ hcreated => ?_
            cases hcreated with
            | created halike hrequester hrequested =>
                exact inStep_done (.made halike hrequester hrequested) rfl

/-- Preparing a new transfer is in step, whoever the partner is. -/
theorem inStep_prepare {order : Order} {kind : Preparation.Kind} (hnew : order.fixedId = none)
    (hkind : kind.isThrough = false) :
    c.InStep none (Preparation.prepare c.ctx order kind) (Preparation.prepare c.ctx order kind)
      (Found c.ctx order) fun _ => none := by
  unfold Preparation.prepare
  cases hknown : c.ctx.hosts.lookup order.partner with
  | error fault => exact inStep_done (.refused rfl) rfl
  | ok partner =>
      simp only [Preparation.findRecord, hnew]
      refine inStep_bind (inStep_createRecord _ _ _ _) fun a a' hfound => ?_
      cases hfound with
      | refused o => exact inStep_done (.refused rfl) rfl
      | made halike hrequester hrequested =>
          have hlocal := isLocal_localId c.ctx.hosts partner.useTls
          rw [← hrequester] at hlocal
          simp only [Preparation.markTransient, hkind, Bool.false_and, Bool.false_eq_true, if_false]
          exact inStep_done (.ready ⟨rfl, halike, rfl, hrequested, hlocal⟩ hknown) rfl

/-! ## Orders -/

/-- What follows on the preparation of a transfer. -/
def goOn (policy : Policy) (through : Through) (p : Prepared) : Program Outcome := do
  match ← Delivery.connect policy through p with
  | .error outcome => return outcome
  | .ok (session, p) => Delivery.finish policy session p

/-- A transfer with another partner ends alike, from its first attempt on. -/
theorem inStep_goOn (h : p.Paired c.ctx p') (hhost : p.partner.hostId ≠ c.odd) (policy : Policy)
    (through : Through) :
    c.InStep none (goOn policy through p) (goOn policy through p')
      (fun o o' => o.timeless = o'.timeless) fun _ => none := by
  refine inStep_bind (inStep_tryConnect h hhost _ _ _ _ _) fun result result' hreached => ?_
  cases hreached with
  | failed halike => exact inStep_done halike rfl
  | opened hpaired hsame =>
      show c.InStep (some (_, _)) _ _ _ _
      rw [← hsame]
      exact inStep_finish hpaired (hsame ▸ hhost) _ _

/-- What is done for the odd partner is seen by nobody else. -/
theorem similar_goOn (e : Surroundings) (s : Scene) (policy : Policy) (through : Through)
    (hown : c.ctx.hosts.IsOwn c.odd p.record.key) (hhost : p.partner.hostId = c.odd) :
    c.Similar none s (runIn e (goOn policy through p) s).2 := by
  have htends : Delivery.Tends p.record.key c.Concerns :=
    ⟨trivial, fun r hkey => show c.ctx.hosts.IsOwn c.odd r.key from hkey ▸ hown, hown,
      fun _ => trivial⟩
  have hcarries : Delivery.Carries p.partner p.record.key p.record.mode through c.Concerns :=
    ⟨fun _ _ _ => show p.partner.hostId = c.odd from hhost, trivial, fun _ => trivial,
      fun _ _ => trivial, fun _ => trivial⟩
  refine similar_runIn (Delivery.ensures_connect_finish htends hcarries _).asks ?_ e s
  refine conducts_bind (Delivery.conducts_connect _ _ p) fun result => ?_
  cases result with
  | error outcome => exact conducts_done rfl
  | ok opened => exact Delivery.conducts_finish _ _ _

/-! ## Items -/

/-- Whether a name stands for the odd partner. -/
def isOdd (c : Comparison) (name : String) : Bool :=
  match c.ctx.hosts.lookup (c.ctx.hosts.resolve (Text.trim name)) with
  | .ok partner => partner.hostId == c.odd
  | .error _ => false

/-- An order of a batch is for a new transfer with the partner that was named. -/
theorem order_of_complete {b : Batch} {name file : String} {order : Order}
    (h : (b.form name file).complete c.ctx.hosts = .ok order) :
    order.fixedId = none ∧ order.partner = c.ctx.hosts.resolve (Text.trim name) := by
  have hform : (b.form name file).fixedId = none ∧ (b.form name file).partner = name := by
    unfold Batch.form Order.Form.withBlockSize
    split <;> exact ⟨rfl, rfl⟩
  obtain ⟨-, -, rfl⟩ := Order.Form.complete_eq_ok_iff.1 h
  exact ⟨hform.1, congrArg (fun name => c.ctx.hosts.resolve (Text.trim name)) hform.2⟩

/-- A name stands for the odd partner when its order does. -/
theorem isOdd_of_lookup {b : Batch} {name file : String} {order : Order} {partner : Partner}
    (h : (b.form name file).complete c.ctx.hosts = .ok order)
    (hknown : c.ctx.hosts.lookup order.partner = .ok partner) :
    c.isOdd name = true ↔ partner.hostId = c.odd := by
  rw [(order_of_complete h).2] at hknown
  simp [isOdd, hknown]

/-- Whether outcomes are the same, times aside, unless they are about the odd partner. -/
def Agree (c : Comparison) (name : String) (o o' : Outcome) : Prop :=
  c.isOdd name = false → o.timeless = o'.timeless

/-- One file with one partner. -/
theorem inStep_runItem (b : Batch) (name file : String) :
    c.InStep none (b.runItem c.ctx name file) (b.runItem c.ctx name file) (c.Agree name)
      fun _ => none := by
  unfold Batch.runItem
  cases hcomplete : (b.form name file).complete c.ctx.hosts with
  | error fault => exact inStep_done (fun _ => rfl) rfl
  | ok order =>
      have hnew := (order_of_complete hcomplete).1
      dsimp only
      split
      · refine inStep_bind (inStep_prepare hnew rfl) fun a a' hfound => ?_
        cases hfound with
        | refused halike => exact inStep_done (fun _ => halike) rfl
        | ready h known =>
            exact inStep_done (fun _ => Outcome.timeless_succeeded h.record .initOk) rfl
      · refine inStep_bind (inStep_prepare hnew rfl) fun a a' hfound => ?_
        cases hfound with
        | refused halike => exact inStep_done (fun _ => halike) rfl
        | @ready p p' h known =>
            have hodd := isOdd_of_lookup hcomplete known
            by_cases hhost : p.partner.hostId = c.odd
            · intro s s' hsimilar
              refine ⟨fun hnot => absurd (hodd.2 hhost) (by simp [hnot]), ?_⟩
              have hleft := similar_goOn c.left s c.ctx.policy .none (isOwn_of_paired h hhost) hhost
              have hright := similar_goOn c.right s' c.ctx.policy .none
                (isOwn_of_paired h.symm (h.partner ▸ hhost)) (h.partner ▸ hhost)
              exact (hleft.symm.trans hsimilar).trans hright
            · exact (inStep_goOn h hhost _ _).imp fun o o' halike _ => halike

/-! ## Batches -/

/-- What is seen of an outcome by someone who does not look at the odd partner. -/
def sees (c : Comparison) (i : ItemOutcome) : String × String × Option Outcome :=
  (i.partner, i.file, if c.isOdd i.partner then none else some i.outcome.timeless)

/-- Whether two tallies look the same. -/
def LooksSame (c : Comparison) (t t' : Tally) : Prop :=
  t.results.map c.sees = t'.results.map c.sees

theorem results_add (t : Tally) (i : ItemOutcome) : (t.add i).results = t.results ++ [i] := by
  unfold Tally.add
  split <;> rfl

/-- One more pair of outcomes that agree leaves the tallies looking the same. -/
theorem LooksSame.add {t t' : Tally} {name file : String} {o o' : Outcome}
    (h : c.LooksSame t t') (ho : c.Agree name o o') :
    c.LooksSame (t.add ⟨name, file, o⟩) (t'.add ⟨name, file, o'⟩) := by
  have hsees : c.sees ⟨name, file, o⟩ = c.sees ⟨name, file, o'⟩ := by
    unfold sees
    cases hodd : c.isOdd name with
    | true => rfl
    | false => simp only [ho hodd]
  rw [LooksSame, results_add, results_add, List.map_append, List.map_append, h]
  simp only [List.map_cons, List.map_nil, hsees]

/-- The files for one name are sent in step. -/
theorem inStep_runFiles (b : Batch) (name : String) (files : List String) {t t' : Tally}
    (h : c.LooksSame t t') :
    c.InStep none (b.runFiles c.ctx name files t) (b.runFiles c.ctx name files t') c.LooksSame
      fun _ => none := by
  induction files generalizing t t' with
  | nil => exact inStep_done h rfl
  | cons file rest ih =>
      refine inStep_bind (inStep_reportProgress _ _) fun _ _ _ => ?_
      refine inStep_bind (inStep_runItem b name file) fun o o' ho => ?_
      exact inStep_bind (inStep_reportProgress _ _) fun _ _ _ => ih (h.add ho)

/-- The partners are gone through in step. -/
theorem inStep_runPartners (b : Batch) (rule : Rule) (files names : List String) {t t' : Tally}
    (h : c.LooksSame t t') :
    c.InStep none (b.runPartners c.ctx rule (some files) names t)
      (b.runPartners c.ctx rule (some files) names t') c.LooksSame fun _ => none := by
  induction names generalizing t t' with
  | nil => exact inStep_done h rfl
  | cons name rest ih =>
      simp only [Batch.runPartners, pure_eq, done_bind]
      exact inStep_bind (inStep_runFiles b name files h) fun _ _ h => ih h

/-- The files that a rule sends are found among the own files. -/
theorem asks_resolveLocal (rule : Rule) (names : List String) :
    Asks (fun r => ∃ op, r = .files op) (Batch.resolveLocal rule names) := by
  unfold Batch.resolveLocal
  induction names with
  | nil => exact asks_done _
  | cons name rest ih =>
      simp only [Batch.resolveWith]
      split
      · refine asks_bind (Names.asks_expand (fun op => ⟨op, rfl⟩) _ _) fun found => ?_
        exact asks_bind ih fun _ => asks_done _
      · exact asks_bind (asks_done _) fun found => asks_bind ih fun _ => asks_done _

/-- A batch of files to be sent runs in step with itself, whatever the odd partner does. -/
theorem inStep_run (b : Batch) {rule : Rule} (hrule : c.ctx.rules.resolve b.rule = .ok rule)
    (hsend : rule.canSend = true) :
    c.InStep none (b.run c.ctx) (b.run c.ctx) c.LooksSame fun _ => none := by
  simp only [Batch.run, hrule, hsend, if_true]
  split
  · exact inStep_done rfl rfl
  · refine inStep_bind (inStep_of_asks (asks_resolveLocal rule b.files)) fun files _ hsame => ?_
    subst hsame
    exact inStep_runPartners b rule files b.partners rfl

end Comparison

/-- Two runs of a batch that sends begin with the same ledger, and one partner may answer
differently.  Then the outcomes with all other partners are the same, and so are all records but
those of this host's own transfers with that partner, times aside. -/
theorem Batch.independent (c : Comparison) (b : Batch) (l : Ledger) {rule : Rule}
    (hrule : c.ctx.rules.resolve b.rule = .ok rule) (hsend : rule.canSend = true) :
    let left := runIn c.left (b.run c.ctx) { ledger := l }
    let right := runIn c.right (b.run c.ctx) { ledger := l }
    left.1.results.map c.sees = right.1.results.map c.sees ∧
      ∀ key, ¬c.ctx.hosts.IsOwn c.odd key →
        (left.2.ledger.find? key).map Record.timeless =
          (right.2.ledger.find? key).map Record.timeless := by
  intro left right
  obtain ⟨hresults, hsimilar⟩ := Comparison.inStep_run b hrule hsend _ _ (.refl { ledger := l })
  exact ⟨hresults, hsimilar.records⟩

/-- Surroundings in which everybody is reached but those on a list. -/
def sampleSurroundings (unreached : List String) : Surroundings where
  clock _ := default
  fraction _ := 0
  tree op := Batch.answerNothing (.files op)
  transport :=
    { connect host _ _ :=
        if host ∈ unreached then .fatal .connectionImpossible "unreachable" else .connected ⟨0⟩
      reply _ _ r := match r with
        | .complete _ _ => .ok (.ok 0)
        | r => Batch.answerNothing r }

/-- The same surroundings but for one partner, which is reached in one and not in the other. -/
def sampleComparison : Comparison where
  ctx := { Batch.sampleContext with
    hosts := (Batch.sampleContext.hosts.addHost { hostId := "north" }).addHost
      { hostId := "south" } }
  odd := "north"
  left := sampleSurroundings []
  right := sampleSurroundings ["north"]
  tree := rfl
  connect host hhost := by
    funext calls attempt
    simp [sampleSurroundings, hhost]
  reply _ _ := rfl

theorem Batch.independent_sample :
    let run := Batch.sampleBatch.run sampleComparison.ctx
    (runIn sampleComparison.left run { ledger := {} }).1.results.map sampleComparison.sees =
      (runIn sampleComparison.right run { ledger := {} }).1.results.map sampleComparison.sees :=
  (Batch.independent sampleComparison Batch.sampleBatch {} rfl rfl).1

end Courier
