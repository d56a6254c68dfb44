import Courier.Proofs.Delivery.Filing

/-!
# Preparing the record of a transfer

An order is refused for one of a few reasons and nothing has changed then, or it comes by the
record of its transfer.  An order in full has one entered in the ledger, under the next number; an
order by number takes the filed one up, and enters none.

Main definitions:

- `Trace.created` are the records that the ledger made in a trace.
- `Preparation.orderedKey?` is the key of the transfer that an order means.
- `Preparation.rankBefore` is the rank that this transfer has before it is carried out.
- `Preparation.Refusal` says why an order is refused, and with which outcome.
- `Preparation.Obtains` tells how an order comes by its record, or is refused.
- `Preparation.Prepares` says what has come of preparing an order.

Main statements:

- An order comes by its record or is refused (`obtains_of_findRecord`).
- Every order is prepared or refused, as it deserves (`prepares_prepare`).
-/

namespace Courier

open Program

/-! ## Records that are entered -/

/-- The record that the ledger made for a new transfer. -/
def Exchange.created? : Exchange → Option Record
  | ⟨.ledger (.create _ _), .ok r⟩ => some r
  | _ => none

namespace Trace

/-- The records that the ledger made for new transfers. -/
def created (t : Trace) : List Record :=
  t.filterMap Exchange.created?

@[simp] theorem created_append (t u : Trace) : created (t ++ u) = t.created ++ u.created :=
  List.filterMap_append

end Trace

namespace Preparation

/-! ## What an order means -/

/-- The key of the transfer that an order means: with its number, or with the next one of the
ledger. -/
def orderedKey? (ctx : Context) (order : Order) (l : Ledger) : Option Record.Key :=
  match ctx.hosts.lookup order.partner with
  | .ok partner =>
      some ⟨order.fixedId.getD l.freshId, ctx.hosts.localId partner.useTls, partner.hostId⟩
  | .error _ => none

/-- The rank that the transfer of an order has in the ledger.  A new one begins at zero. -/
def rankBefore (ctx : Context) (order : Order) (l : Ledger) : Nat :=
  match order.fixedId with
  | some _ => (((orderedKey? ctx order l).bind l.find?).map Record.rank).getD 0
  | none => 0

/-- Why an order is refused, and with which outcome.  A rule is only unsuitable for a stream in
the other direction, so an order that is carried out at once has four reasons. -/
inductive Refusal (ctx : Context) (order : Order) (kind : Kind) (l : Ledger) : Outcome → Prop where
  | unknownHost {fault : TransferFault} (hpartner : ctx.hosts.lookup order.partner = .error fault) :
      Refusal ctx order kind l (.failed .connectionImpossible fault.message none)
  | unknownRule {partner : Partner} {fault : TransferFault}
      (hpartner : ctx.hosts.lookup order.partner = .ok partner) (hnew : order.fixedId = none)
      (hrule : ctx.rules.resolve (order.rule.getD "") = .error fault) :
      Refusal ctx order kind l (.failed .internal fault.message none)
  | unsuitableRule {partner : Partner} {rule : Rule} {cause : String}
      (hpartner : ctx.hosts.lookup order.partner = .ok partner) (hnew : order.fixedId = none)
      (hrule : ctx.rules.resolve (order.rule.getD "") = .ok rule)
      (hcause : refusal rule kind = some cause) :
      Refusal ctx order kind l (.failed .internal cause none)
  | unknownId {id : Int} {key : Record.Key} (hid : order.fixedId = some id)
      (hkey : orderedKey? ctx order l = some key) (hfind : l.find? key = none) :
      Refusal ctx order kind l (.failed .queryRemotelyUnknown ("no transfer " ++ key.text) none)
  | alreadyDone {id : Int} {key : Record.Key} {r : Record} (hid : order.fixedId = some id)
      (hkey : orderedKey? ctx order l = some key) (hfind : l.find? key = some r)
      (hdone : r.status = .done) :
      Refusal ctx order kind l
        (.failed .queryAlreadyFinished ("transfer " ++ key.text ++ " is already done") (some r))

/-- The record that is entered for an order under a rule. -/
def entry (ctx : Context) (order : Order) (partner : Partner) (kind : Kind) (rule : Rule)
    (size : Int) (now : Calendar.Moment) (l : Ledger) : Record :=
  (draft rule order partner (ctx.hosts.localId partner.useTls) kind size).toRecord l.freshId now

/-- How a new record is entered: under the rule of the order, and under the next number. -/
structure Enters (ctx : Context) (order : Order) (partner : Partner) (kind : Kind) (l : Ledger)
    (t : Trace) (r : Record) : Prop where
  isNew : order.fixedId = none
  entered : ∃ rule size now, ctx.rules.resolve (order.rule.getD "") = .ok rule ∧
    refusal rule kind = none ∧ r = entry ctx order partner kind rule size now l
  created : t.created = [r]

/-- How the record of an order by number is taken up: it is in the ledger and not done, the order
may say something about it, and one that is only filed waits to be picked up again. -/
structure TakesUp (ctx : Context) (order : Order) (partner : Partner) (kind : Kind) (l : Ledger)
    (t : Trace) (stored r : Record) : Prop where
  number : order.fixedId = some stored.specialId
  key : stored.key = ⟨stored.specialId, ctx.hosts.localId partner.useTls, partner.hostId⟩
  found : l.find? stored.key = some stored
  notDone : stored.status ≠ .done
  amended : if kind = .submit then ∃ now, r = (amend stored order).setToSubmit now
    else r = amend stored order
  created : t.created = []

/-- What has come of looking for the record of an order: it was refused and nothing has changed, or
it has come by its record in one of the two ways. -/
inductive Obtains (ctx : Context) (order : Order) (partner : Partner) (kind : Kind) (l : Ledger)
    (t : Trace) : Except Outcome Record → Ledger → Prop where
  | refused {outcome : Outcome} (h : Refusal ctx order kind l outcome) (created : t.created = []) :
      Obtains ctx order partner kind l t (.error outcome) l
  | entered {r : Record} (h : Enters ctx order partner kind l t r) :
      Obtains ctx order partner kind l t (.ok r) { l.put r with nextId := l.freshId + 1 }
  | takenUp {stored r : Record} (h : TakesUp ctx order partner kind l t stored r) :
      Obtains ctx order partner kind l t (.ok r) (l.put r)

/-- How the ledger holds the record of the transfer that an order means. -/
structure Holds (ctx : Context) (order : Order) (kind : Kind) (l : Ledger) (r : Record)
    (l' : Ledger) : Prop where
  accepted : ∀ outcome, ¬ Refusal ctx order kind l outcome
  ready : Delivery.Ready l' r
  key : orderedKey? ctx order l = some r.key
  rank : r.rank = rankBefore ctx order l
  others : AgreeExcept r.key l l'

/-- What has come of preparing an order. -/
inductive Prepares (ctx : Context) (order : Order) (kind : Kind) (l : Ledger) :
    Except Outcome Prepared → Ledger → Prop where
  | refused {outcome : Outcome} (h : Refusal ctx order kind l outcome) :
      Prepares ctx order kind l (.error outcome) l
  | ready {p : Prepared} {l' : Ledger} (h : Holds ctx order kind l p.record l')
      (noLog : p.noLog = order.noLog)
      (transient : kind.isThrough = true → p.record.ignoreSave = true) :
      Prepares ctx order kind l (.ok p) l'

variable {ctx : Context} {order : Order} {kind : Kind} {l l' : Ledger} {t : Trace}
  {partner : Partner}

theorem orderedKey?_eq (hpartner : ctx.hosts.lookup order.partner = .ok partner) :
    orderedKey? ctx order l =
      some ⟨order.fixedId.getD l.freshId, ctx.hosts.localId partner.useTls, partner.hostId⟩ := by
  rw [orderedKey?, hpartner]

/-! ## New records -/

theorem runOn_localFileSize {rule : Rule} {filename : String} {size : Int}
    (h : RunOn l (localFileSize rule filename) t size l') :
    l' = l ∧ t.created = [] ∧ t.Plain := by
  obtain ⟨answer, u, rfl, hanswer⟩ := h.of_ask fun _ _ hm => hm
  cases answer with
  | ok info =>
      obtain ⟨rfl, -, rfl⟩ := hanswer.of_done
      exact ⟨rfl, rfl, rfl, rfl, rfl⟩
  | error fault =>
      obtain ⟨rfl, -, rfl⟩ := hanswer.of_done
      exact ⟨rfl, rfl, rfl, rfl, rfl⟩

/-- A new transfer is entered unless its rule forbids it. -/
theorem obtains_of_createRecord {result : Except Outcome Record}
    (hpartner : ctx.hosts.lookup order.partner = .ok partner) (hnew : order.fixedId = none)
    (h : RunOn l (createRecord ctx order partner (ctx.hosts.localId partner.useTls) kind) t
      result l') : Obtains ctx order partner kind l t result l' ∧ t.Plain := by
  unfold createRecord at h
  cases hrule : ctx.rules.resolve (order.rule.getD "") with
  | error fault =>
      simp only [hrule] at h
      obtain ⟨rfl, rfl, rfl⟩ := h.of_done
      exact ⟨.refused (.unknownRule hpartner hnew hrule) rfl, Trace.Plain.nil⟩
  | ok rule =>
      simp only [hrule] at h
      cases hcause : refusal rule kind with
      | some cause =>
          simp only [hcause] at h
          obtain ⟨rfl, rfl, rfl⟩ := h.of_done
          exact ⟨.refused (.unsuitableRule hpartner hnew hrule hcause) rfl, Trace.Plain.nil⟩
      | none =>
          simp only [hcause] at h
          split at h
          · obtain ⟨u, size, v, m, rfl, hsize, hrest⟩ := h.of_bind
            obtain ⟨rfl, hnone, hplain⟩ := runOn_localFileSize hsize
            obtain ⟨now, w, rfl, hnow⟩ := hrest.of_ask fun _ _ hm => hm
            obtain ⟨x, rfl, hdone⟩ := hnow.of_ledger
            obtain ⟨rfl, rfl, rfl⟩ := hdone.of_done
            refine ⟨.entered ⟨hnew, ⟨rule, size, now, hrule, hcause, rfl⟩, ?_⟩,
              hplain.append ⟨rfl, rfl, rfl⟩⟩
            rw [Trace.created_append, hnone]
            rfl
          · obtain ⟨now, w, rfl, hnow⟩ := h.of_ask fun _ _ hm => hm
            obtain ⟨x, rfl, hdone⟩ := hnow.of_ledger
            obtain ⟨rfl, rfl, rfl⟩ := hdone.of_done
            exact ⟨.entered ⟨hnew, ⟨rule, -1, now, hrule, hcause, rfl⟩, rfl⟩, rfl, rfl, rfl⟩

theorem holds_of_enters {r : Record}
    (hpartner : ctx.hosts.lookup order.partner = .ok partner)
    (h : Enters ctx order partner kind l t r) :
    Holds ctx order kind l r { l.put r with nextId := l.freshId + 1 } := by
  have hnew := h.isNew
  obtain ⟨rule, size, now, hrule, hcause, rfl⟩ := h.entered
  refine ⟨?_, ⟨Ledger.find?_put_self _ _, ?_⟩, ?_, ?_, AgreeExcept.create _ _ _⟩
  · intro outcome hrefusal
    cases hrefusal with
    | unknownHost hunknown => simp [hpartner] at hunknown
    | unknownRule _ _ hunknown => simp [hrule] at hunknown
    | unsuitableRule _ _ hrule' hcause' =>
        obtain rfl := Except.ok.inj (hrule.symm.trans hrule')
        simp [hcause] at hcause'
    | unknownId hid => simp [hnew] at hid
    | alreadyDone hid => simp [hnew] at hid
  · simp [entry, Draft.toRecord, draft]
  · rw [orderedKey?_eq hpartner, hnew]
    rfl
  · rw [rankBefore, hnew]
    rfl

/-! ## Filed records -/

@[simp] theorem amend_key (r : Record) (order : Order) : (amend r order).key = r.key := by
  unfold amend
  cases order.startTime <;> cases order.hasFileInfo <;> rfl

@[simp] theorem amend_rank (r : Record) (order : Order) : (amend r order).rank = r.rank := by
  unfold amend
  cases order.startTime <;> cases order.hasFileInfo <;> rfl

@[simp] theorem amend_status (r : Record) (order : Order) :
    (amend r order).status = r.status := by
  unfold amend
  cases order.startTime <;> cases order.hasFileInfo <;> rfl

/-- A record that is found is amended unless it is done. -/
theorem obtains_of_recoverRecord {result : Except Outcome Record} {id : Int}
    (hpartner : ctx.hosts.lookup order.partner = .ok partner) (hid : order.fixedId = some id)
    (h : RunOn l (recoverRecord order ⟨id, ctx.hosts.localId partner.useTls, partner.hostId⟩ kind)
      t result l') : Obtains ctx order partner kind l t result l' ∧ t.Plain := by
  have horder : orderedKey? ctx order l =
      some ⟨id, ctx.hosts.localId partner.useTls, partner.hostId⟩ := by
    rw [orderedKey?_eq hpartner, hid]
    rfl
  obtain ⟨u, rfl, hload⟩ := h.of_ledger
  simp only [Ledger.perform] at hload
  cases hfind : l.find? ⟨id, ctx.hosts.localId partner.useTls, partner.hostId⟩ with
  | none =>
      simp only [hfind] at hload
      obtain ⟨rfl, rfl, rfl⟩ := hload.of_done
      exact ⟨.refused (.unknownId hid horder hfind) rfl, rfl, rfl, rfl⟩
  | some stored =>
      simp only [hfind] at hload
      have hkey := Ledger.key_of_find? hfind
      have hid' : stored.specialId = id := congrArg Record.Key.specialId hkey
      have hfound : l.find? stored.key = some stored := by rw [hkey, hfind]
      split at hload
      · next hdone =>
          obtain ⟨rfl, rfl, rfl⟩ := hload.of_done
          have hstatus : stored.status = .done := by simpa [Record.isAllDone] using hdone
          exact ⟨.refused (.alreadyDone hid horder hfind hstatus) rfl, rfl, rfl, rfl⟩
      · next hdone =>
          have hopen : stored.status ≠ .done := by simpa [Record.isAllDone] using hdone
          have hready : Delivery.Ready l stored := ⟨hfound, hopen⟩
          have hnumber : order.fixedId = some stored.specialId := by rw [hid, hid']
          have hkey' : stored.key =
              ⟨stored.specialId, ctx.hosts.localId partner.useTls, partner.hostId⟩ := by
            rw [hid', hkey]
          split at hload
          · next hkind =>
              obtain ⟨now, v, rfl, hnow⟩ := hload.of_ask fun _ _ hm => hm
              obtain ⟨w, rfl, hend⟩ := Delivery.runOn_update hnow hready (by simp)
                (Or.inr (by simp [Record.setToSubmit]))
              obtain ⟨rfl, rfl, rfl⟩ := hend.of_done
              refine ⟨.takenUp ⟨hnumber, hkey', hfound, hopen, ?_, rfl⟩, rfl, rfl, rfl⟩
              rw [if_pos hkind]
              exact ⟨now, rfl⟩
          · next hkind =>
              obtain ⟨v, rfl, hend⟩ := Delivery.runOn_update hload hready (by simp)
                (Or.inl (by simp))
              obtain ⟨rfl, rfl, rfl⟩ := hend.of_done
              refine ⟨.takenUp ⟨hnumber, hkey', hfound, hopen, ?_, rfl⟩, rfl, rfl, rfl⟩
              rw [if_neg hkind]

/-- A record that is taken up keeps its key and its rank, and is still not done. -/
theorem TakesUp.keeps {stored r : Record} (h : TakesUp ctx order partner kind l t stored r) :
    r.key = stored.key ∧ r.rank = stored.rank ∧ r.status ≠ .done := by
  have hamended := h.amended
  split at hamended
  · obtain ⟨now, rfl⟩ := hamended
    simp [Record.setToSubmit]
  · obtain rfl := hamended
    simpa using h.notDone

theorem TakesUp.orderedKey? {stored r : Record}
    (hpartner : ctx.hosts.lookup order.partner = .ok partner)
    (h : TakesUp ctx order partner kind l t stored r) :
    Preparation.orderedKey? ctx order l = some stored.key := by
  rw [orderedKey?_eq hpartner, h.number, h.key]
  rfl

theorem holds_of_takesUp {stored r : Record}
    (hpartner : ctx.hosts.lookup order.partner = .ok partner)
    (h : TakesUp ctx order partner kind l t stored r) : Holds ctx order kind l r (l.put r) := by
  obtain ⟨hsame, hrank, hdone⟩ := h.keeps
  have hkey := h.orderedKey? hpartner
  have hid := h.number
  refine ⟨?_, ⟨Ledger.find?_put_self _ _, hdone⟩, ?_, ?_, AgreeExcept.put _ _⟩
  · intro outcome hrefusal
    cases hrefusal with
    | unknownHost hunknown => simp [hpartner] at hunknown
    | unknownRule _ hnew => simp [hid] at hnew
    | unsuitableRule _ hnew => simp [hid] at hnew
    | unknownId _ hkey' hnone =>
        obtain rfl := Option.some.inj (hkey.symm.trans hkey')
        simp [h.found] at hnone
    | alreadyDone _ hkey' hfound hstatus =>
        obtain rfl := Option.some.inj (hkey.symm.trans hkey')
        obtain rfl := Option.some.inj (h.found.symm.trans hfound)
        exact h.notDone hstatus
  · rw [hkey, hsame]
  · rw [hrank, rankBefore, hid, hkey]
    simp [h.found]

/-! ## Preparation -/

theorem obtains_of_findRecord {result : Except Outcome Record}
    (hpartner : ctx.hosts.lookup order.partner = .ok partner)
    (h : RunOn l (findRecord ctx order partner kind) t result l') :
    Obtains ctx order partner kind l t result l' ∧ t.Plain := by
  unfold findRecord at h
  cases hid : order.fixedId with
  | none =>
      simp only [hid] at h
      exact obtains_of_createRecord hpartner hid h
  | some id =>
      simp only [hid] at h
      exact obtains_of_recoverRecord hpartner hid h

theorem holds_of_obtains {r : Record} (hpartner : ctx.hosts.lookup order.partner = .ok partner)
    (h : Obtains ctx order partner kind l t (.ok r) l') : Holds ctx order kind l r l' := by
  cases h with
  | entered h => exact holds_of_enters hpartner h
  | takenUp h => exact holds_of_takesUp hpartner h

/-- The record of a stream is marked as one that does not outlive its transfer. -/
theorem runOn_markTransient {result : Except Outcome Record} {r : Record}
    (h : RunOn l (markTransient kind r) t result l') (hready : Delivery.Ready l r) :
    ∃ s, result = .ok s ∧ Delivery.Ready l' s ∧ s.key = r.key ∧ s.rank = r.rank ∧
      (kind.isThrough = true → s.ignoreSave = true) ∧ AgreeExcept r.key l l' ∧ t.Plain := by
  unfold markTransient at h
  split at h
  · obtain ⟨u, rfl, hend⟩ := Delivery.runOn_update h hready rfl (Or.inl rfl)
    obtain ⟨rfl, rfl, rfl⟩ := hend.of_done
    exact ⟨_, rfl, ⟨Ledger.find?_put_self _ _, hready.notDone⟩, rfl, rfl, fun _ => rfl,
      AgreeExcept.put l { r with ignoreSave := true }, rfl, rfl, rfl⟩
  · next hmarked =>
      obtain ⟨rfl, rfl, rfl⟩ := h.of_done
      refine ⟨r, rfl, hready, rfl, rfl, ?_, AgreeExcept.refl _ _, Trace.Plain.nil⟩
      intro hthrough
      simpa [hthrough] using hmarked

/-- Every order is prepared or refused, as it deserves. -/
theorem prepares_prepare {result : Except Outcome Prepared}
    (h : RunOn l (prepare ctx order kind) t result l') :
    Prepares ctx order kind l result l' ∧ t.Plain := by
  unfold prepare at h
  cases hpartner : ctx.hosts.lookup order.partner with
  | error fault =>
      simp only [hpartner] at h
      obtain ⟨rfl, rfl, rfl⟩ := h.of_done
      exact ⟨Prepares.refused (Refusal.unknownHost hpartner), Trace.Plain.nil⟩
  | ok partner =>
      simp only [hpartner] at h
      obtain ⟨u, found, v, m, rfl, hfind, hrest⟩ := h.of_bind
      obtain ⟨hobtains, hplain⟩ := obtains_of_findRecord hpartner hfind
      cases found with
      | error outcome =>
          obtain ⟨rfl, rfl, rfl⟩ := hrest.of_done
          rw [List.append_nil]
          cases hobtains with
          | refused hrefusal => exact ⟨Prepares.refused hrefusal, hplain⟩
      | ok r =>
          have hholds := holds_of_obtains hpartner hobtains
          obtain ⟨w, marked, x, n, rfl, hmark, hend⟩ := hrest.of_bind
          obtain ⟨s, rfl, hready, hkey, hrank, htransient, hothers, hplain'⟩ :=
            runOn_markTransient hmark hholds.ready
          obtain ⟨rfl, rfl, rfl⟩ := hend.of_done
          rw [List.append_nil]
          refine ⟨Prepares.ready ⟨hholds.accepted, hready, ?_, ?_, ?_⟩ rfl htransient,
            hplain.append hplain'⟩
          · rw [hholds.key, hkey]
          · rw [hrank, hholds.rank]
          · exact hkey ▸ hholds.others.trans hothers

end Preparation

end Courier
