import Courier.Proofs.Delivery.Provenance
import Courier.Spool.Dispatch

/-!
# How a spool sends a file again

A dispatch sends a file to each host of its job.  What it does for a host depends on whether the
transfers are only filed, and on whether the number of an earlier transfer is known.  Such a number
names a transfer with one host, so a dispatch to several hosts has no use for it.

A new number is given out only where it has to be: when none is known, when the known transfer is
gone or done, and when a restart of it has failed.

Main definitions:

- `Directory.Knows` says that a name, or an alias, stands for a listed host, and still does without
  the blanks at its ends.
- `Dispatch.FilesNew`, `Dispatch.Refiles`, `Dispatch.RunsNew` and `Dispatch.Resubmits` are the
  things that are done for a host, and `Dispatch.Sends` says which of them is.
- `Dispatch.SendsAll` chains them over the hosts of a job.

Main statements:

- Whatever the item, the ledger and the answers of the partners, a dispatch sends the file to each
  host in this way, and its result is that of all hosts together (`sendsAll_of_known`).
- To be listed is not enough: an order drops the blanks at the ends of a name, so that nothing is
  sent to a host that is listed with them (`nothing_asked_of_padded`).
-/

namespace Courier

open Program

/-- Whether a name or an alias stands for a listed host, also without the blanks at its ends: an
order drops these, while a restart and a cancellation take the name as it is. -/
structure Directory.Knows (d : Directory) (name : String) (p : Partner) : Prop where
  notBlank : Text.trim name ≠ ""
  listed : d.lookup (d.resolve name) = .ok p
  trimmed : d.lookup (d.resolve (Text.trim name)) = .ok p

/-- Whether a ledger holds an open transfer under a key. -/
def Ledger.HasOpen (l : Ledger) (key : Record.Key) : Prop :=
  ∃ r, l.find? key = some r ∧ r.status ≠ .done

namespace Dispatch

/-! ## Orders -/

section Orders

variable (job : Job) (host file : String) (fixedId : Option Int)

@[simp] theorem form_partner : (form job host file fixedId).partner = host := by
  unfold form Order.Form.withBlockSize
  split <;> rfl

@[simp] theorem form_rule : (form job host file fixedId).rule = some job.rule := by
  unfold form Order.Form.withBlockSize
  split <;> rfl

@[simp] theorem form_filename : (form job host file fixedId).filename = some file := by
  unfold form Order.Form.withBlockSize
  split <;> rfl

@[simp] theorem form_fixedId : (form job host file fixedId).fixedId = fixedId := by
  unfold form Order.Form.withBlockSize
  split <;> rfl

@[simp] theorem form_startTime : (form job host file fixedId).startTime = none := by
  unfold form Order.Form.withBlockSize
  split <;> rfl

end Orders

/-- A job that names a rule has an order for every file and every host. -/
theorem carryOut_eq {ctx : Context} {job : Job} {host file : String} {p : Partner}
    (hknown : ctx.hosts.Knows host p) (hrule : job.rule ≠ "") (hfile : file ≠ "")
    (fixedId : Option Int) (act : Context → Order → Program Outcome) :
    carryOut ctx job host file fixedId act =
      act ctx ((form job host file fixedId).order ctx.hosts) := by
  have hcomplete : (form job host file fixedId).complete ctx.hosts =
      .ok ((form job host file fixedId).order ctx.hosts) := by
    apply Order.Form.complete_eq_ok_iff.2
    refine ⟨?_, .inl ?_, rfl⟩
    · rw [form_partner]
      exact hknown.notBlank
    · simp [Order.Form.hasTarget, hrule, hfile]
  simp only [carryOut, hcomplete]

/-! ## What is done for a host -/

/-- The key of a transfer with a partner that is asked for from here. -/
def keyOf (ctx : Context) (partner : Partner) (id : Int) : Record.Key :=
  ⟨id, ctx.hosts.localId partner.useTls, partner.hostId⟩

/-- The record of a new transfer of a file: under the next number, waiting to be picked up. -/
structure IsNew (ctx : Context) (rule : Rule) (file : String) (partner : Partner) (l : Ledger)
    (r : Record) : Prop where
  key : r.key = keyOf ctx partner l.freshId
  rule : r.rule = rule.name
  filename : r.filename = file
  status : r.status = .toSubmit

/-- A new transfer is filed: just this record is entered, and nobody is called. -/
structure FilesNew (ctx : Context) (rule : Rule) (file : String) (partner : Partner) (l : Ledger)
    (t : Trace) (r : Record) (outcome : Outcome) (l' : Ledger) : Prop where
  isNew : IsNew ctx rule file partner l r
  created : t.created = [r]
  stored : l' = { l.put r with nextId := l.freshId + 1 }
  apart : t.IsApart
  outcome : outcome = .succeeded .initOk (some r)

/-- A transfer is filed again: its record waits to be picked up, none is entered, and nobody is
called.  But for its status, and what the job says about the file, the record is as before. -/
structure Refiles (stored : Record) (l : Ledger) (t : Trace) (r : Record) (outcome : Outcome)
    (l' : Ledger) : Prop where
  status : r.status = .toSubmit
  rest : r = { stored with
    fileInfo := r.fileInfo, status := r.status, errorCode := r.errorCode
    errorMessage := r.errorMessage, updatedAt := r.updatedAt }
  created : t.created = []
  stored : l' = l.put r
  apart : t.IsApart
  outcome : outcome = .succeeded .initOk (some r)

/-- A new transfer is run: just this record is entered, the partner is called, and the outcome is
about the transfer. -/
structure RunsNew (ctx : Context) (job : Job) (rule : Rule) (file host : String)
    (partner : Partner) (l : Ledger) (t : Trace) (outcome : Outcome) (l' : Ledger) : Prop where
  run : RunOn l (runFresh ctx job host file) t outcome l'
  created : ∃ r, t.created = [r] ∧ IsNew ctx rule file partner l r
  called : t.connects ≠ []
  record : ∃ r, outcome.record = some r ∧ r.key = keyOf ctx partner l.freshId
  others : AgreeExcept (keyOf ctx partner l.freshId) l l'

/-- A known transfer is restarted, once, and this is all when it succeeds.  When it fails, the
transfer is canceled, once, and a new one is run.  No record is entered before that. -/
inductive Resubmits (ctx : Context) (job : Job) (rule : Rule) (file host : String)
    (partner : Partner) (id : Int) (l : Ledger) (t : Trace) (outcome : Outcome) (l' : Ledger) :
    Prop where
  | restarted
      (restart : RunOn l (Intervention.restart ctx id host (ctx.hosts.localId partner.useTls) none)
        t outcome l')
      (success : outcome.success = true) (created : t.created = [])
  | replaced {u v w : Trace} {restarted canceled : Outcome} {m n : Ledger}
      (split : t = u ++ (v ++ w))
      (restart : RunOn l (Intervention.restart ctx id host (ctx.hosts.localId partner.useTls) none)
        u restarted m)
      (failure : restarted.success = false)
      (cancel : RunOn m (Intervention.cancel ctx id host (ctx.hosts.localId partner.useTls))
        v canceled n)
      (created : u.created = [] ∧ v.created = [])
      (h : RunsNew ctx job rule file host partner n w outcome l')

/-- What is done for a host, by how the transfers are carried out and by the known number. -/
inductive Sends (ctx : Context) (job : Job) (rule : Rule) (file host : String)
    (partner : Partner) (l : Ledger) (t : Trace) (outcome : Outcome) (l' : Ledger) :
    Option Int → Prop where
  | filesNew {r : Record} (mode : job.submitOnly = true)
      (h : FilesNew ctx rule file partner l t r outcome l') :
      Sends ctx job rule file host partner l t outcome l' none
  | refiles {id : Int} {stored r : Record} (mode : job.submitOnly = true)
      (found : l.find? (keyOf ctx partner id) = some stored) (notDone : stored.status ≠ .done)
      (h : Refiles stored l t r outcome l') :
      Sends ctx job rule file host partner l t outcome l' (some id)
  | filesAnew {id : Int} {r : Record} (mode : job.submitOnly = true)
      (gone : ¬l.HasOpen (keyOf ctx partner id))
      (h : FilesNew ctx rule file partner l t r outcome l') :
      Sends ctx job rule file host partner l t outcome l' (some id)
  | runsNew (mode : job.submitOnly = false)
      (h : RunsNew ctx job rule file host partner l t outcome l') :
      Sends ctx job rule file host partner l t outcome l' none
  | resubmits {id : Int} (mode : job.submitOnly = false)
      (h : Resubmits ctx job rule file host partner id l t outcome l') :
      Sends ctx job rule file host partner l t outcome l' (some id)

/-- What is done for all hosts, one after the other, with the outcome for each of them.  Every
outcome is counted before the next host has its turn. -/
inductive SendsAll (ctx : Context) (job : Job) (rule : Rule) (file : String)
    (knownId : Option Int) : List String → Ledger → Trace → List Outcome → Ledger → Prop where
  | nil {l : Ledger} : SendsAll ctx job rule file knownId [] l [] [] l
  | cons {host : String} {rest : List String} {partner : Partner} {l m l' : Ledger} {t u : Trace}
      {outcome : Outcome} {outcomes : List Outcome} (known : ctx.hosts.Knows host partner)
      (h : Sends ctx job rule file host partner l t outcome m knownId)
      (others : SendsAll ctx job rule file knownId rest m u outcomes l') :
      SendsAll ctx job rule file knownId (host :: rest) l
        (t ++ ⟨.tally outcome.success, ()⟩ :: u) (outcome :: outcomes) l'

/-- The number that a dispatch of an item makes use of. -/
def knownId? (job : Job) (item : Item) : Option Int :=
  if job.hosts.length = 1 then item.specialId else none

/-! ## Orders of a job -/

variable {ctx : Context} {job : Job} {rule : Rule} {file host : String} {p : Partner}
  {l l' : Ledger} {t : Trace} {outcome : Outcome} {kind : Preparation.Kind}
  {fixedId : Option Int}

/-- The order for a known host is for the partner that it stands for. -/
theorem lookup_form (hknown : ctx.hosts.Knows host p) :
    ctx.hosts.lookup ((form job host file fixedId).order ctx.hosts).partner = .ok p := by
  show ctx.hosts.lookup (ctx.hosts.resolve (Text.trim (form job host file fixedId).partner)) = _
  rw [form_partner]
  exact hknown.trimmed

/-- It is under the rule of the job. -/
theorem resolve_form (hrule : ctx.rules.resolve job.rule = .ok rule) :
    ctx.rules.resolve (((form job host file fixedId).order ctx.hosts).rule.getD "") =
      .ok rule := by
  show ctx.rules.resolve ((form job host file fixedId).rule.getD "") = _
  rw [form_rule]
  exact hrule

/-- The record that is entered for an order of the job. -/
theorem isNew_of_enters {r : Record} (hrule : ctx.rules.resolve job.rule = .ok rule)
    (h : Preparation.Enters ctx ((form job host file fixedId).order ctx.hosts) p kind l t r) :
    IsNew ctx rule file p l r := by
  obtain ⟨resolved, size, now, hresolved, -, rfl⟩ := h.entered
  rw [resolve_form hrule] at hresolved
  obtain rfl := Except.ok.inj hresolved
  refine ⟨rfl, rfl, ?_, rfl⟩
  show (form job host file fixedId).filename.getD "" = file
  rw [form_filename, Option.getD_some]

/-- An order of the job is refused only for the number that it has, and then a new one is wanted
when the order is only filed. -/
theorem gone_of_refusal (hknown : ctx.hosts.Knows host p)
    (hrule : ctx.rules.resolve job.rule = .ok rule)
    (hkind : Preparation.refusal rule kind = none)
    (h : Preparation.Refusal ctx ((form job host file fixedId).order ctx.hosts) kind l outcome) :
    ∃ id, fixedId = some id ∧ ¬l.HasOpen (keyOf ctx p id) ∧ wantsFresh outcome = true := by
  have hkeyOf : ∀ {id key}, fixedId = some id → Preparation.orderedKey? ctx
      ((form job host file fixedId).order ctx.hosts) l = some key → key = keyOf ctx p id := by
    intro id key hid hkey
    rw [Preparation.orderedKey?_eq (lookup_form hknown)] at hkey
    obtain rfl := Option.some.inj hkey
    show Record.Key.mk ((form job host file fixedId).fixedId.getD _) _ _ = _
    rw [form_fixedId, hid]
    rfl
  have hnumber : ∀ {id}, ((form job host file fixedId).order ctx.hosts).fixedId = some id →
      fixedId = some id := fun hid => (form_fixedId job host file fixedId).symm.trans hid
  cases h with
  | unknownHost hunknown => simp [lookup_form hknown] at hunknown
  | unknownRule _ _ hunknown => simp [resolve_form hrule] at hunknown
  | unsuitableRule _ _ hresolved hcause =>
      rw [resolve_form hrule] at hresolved
      obtain rfl := Except.ok.inj hresolved
      simp [hkind] at hcause
  | unknownId hid hkey hfind =>
      refine ⟨_, hnumber hid, ?_, rfl⟩
      rintro ⟨r, hr, -⟩
      rw [← hkeyOf (hnumber hid) hkey, hfind] at hr
      cases hr
  | alreadyDone hid hkey hfind hdone =>
      refine ⟨_, hnumber hid, ?_, rfl⟩
      rintro ⟨r, hr, hopen⟩
      rw [← hkeyOf (hnumber hid) hkey, hfind] at hr
      obtain rfl := Option.some.inj hr
      exact hopen hdone

/-! ## Filing -/

/-- An order without a number is filed as a new transfer. -/
theorem filesNew_of_runOn (hknown : ctx.hosts.Knows host p)
    (hrule : ctx.rules.resolve job.rule = .ok rule)
    (h : RunOn l (Delivery.submit ctx ((form job host file none).order ctx.hosts)) t outcome l') :
    ∃ r, FilesNew ctx rule file p l t r outcome l' := by
  obtain ⟨hapart, found, hobtains, houtcome⟩ := Delivery.obtains_of_submit (lookup_form hknown) h
  cases hobtains with
  | refused hrefusal _ =>
      obtain ⟨id, hid, -⟩ := gone_of_refusal hknown hrule rfl hrefusal
      cases hid
  | entered hentered =>
      exact ⟨_, isNew_of_enters hrule hentered, hentered.created, rfl, hapart, houtcome⟩
  | takenUp htaken =>
      have hnumber := htaken.number
      rw [show ((form job host file none).order ctx.hosts).fixedId = none from
        form_fixedId job host file none] at hnumber
      cases hnumber

/-- What an order of a job changes in a filed record. -/
theorem refiles_of_amend {stored r : Record} {order : Order} (hstart : order.startTime = none)
    (h : ∃ now, r = (Preparation.amend stored order).setToSubmit now) :
    r.status = .toSubmit ∧ r = { stored with
      fileInfo := r.fileInfo, status := r.status, errorCode := r.errorCode
      errorMessage := r.errorMessage, updatedAt := r.updatedAt } := by
  obtain ⟨now, rfl⟩ := h
  refine ⟨rfl, ?_⟩
  simp only [Preparation.amend, hstart]
  split <;> rfl

/-- An order by number is filed with the record that it means, or none is open. -/
theorem refiles_of_runOn {id : Int} (hknown : ctx.hosts.Knows host p)
    (hrule : ctx.rules.resolve job.rule = .ok rule)
    (h : RunOn l (Delivery.submit ctx ((form job host file (some id)).order ctx.hosts)) t
      outcome l') :
    (∃ stored r, l.find? (keyOf ctx p id) = some stored ∧ stored.status ≠ .done ∧
        Refiles stored l t r outcome l') ∨
      ¬l.HasOpen (keyOf ctx p id) ∧ wantsFresh outcome = true ∧ l' = l ∧ t.created = [] ∧
        t.IsApart := by
  obtain ⟨hapart, found, hobtains, houtcome⟩ := Delivery.obtains_of_submit (lookup_form hknown) h
  have hnumber : ((form job host file (some id)).order ctx.hosts).fixedId = some id :=
    form_fixedId job host file (some id)
  cases hobtains with
  | refused hrefusal hcreated =>
      obtain ⟨_, ⟨⟩, hgone, hfresh⟩ := gone_of_refusal hknown hrule rfl hrefusal
      exact .inr ⟨hgone, houtcome ▸ hfresh, rfl, hcreated, hapart⟩
  | entered hentered => cases hnumber.symm.trans hentered.isNew
  | @takenUp stored r htaken =>
      left
      have hid : stored.specialId = id :=
        Option.some.inj (htaken.number.symm.trans hnumber)
      have hkey : stored.key = keyOf ctx p id := by
        rw [htaken.key, hid]
        rfl
      obtain ⟨hstatus, hrest⟩ := refiles_of_amend (form_startTime _ _ _ _) htaken.amended
      exact ⟨stored, r, hkey ▸ htaken.found, htaken.notDone, hstatus, hrest, htaken.created, rfl,
        hapart, houtcome⟩

/-- Filing the transfer of a file does one of three things. -/
theorem sends_of_submit {knownId : Option Int} (hknown : ctx.hosts.Knows host p)
    (hrule : ctx.rules.resolve job.rule = .ok rule) (hnamed : job.rule ≠ "") (hfile : file ≠ "")
    (hmode : job.submitOnly = true)
    (h : RunOn l (submit ctx job host file knownId) t outcome l') :
    Sends ctx job rule file host p l t outcome l' knownId := by
  unfold submit at h
  simp only [carryOut_eq hknown hnamed hfile] at h
  cases knownId with
  | none =>
      obtain ⟨r, hfiles⟩ := filesNew_of_runOn hknown hrule h
      exact .filesNew hmode hfiles
  | some id =>
      obtain ⟨u, first, v, m, rfl, hfirst, hrest⟩ := h.of_bind
      rcases refiles_of_runOn hknown hrule hfirst with
        ⟨stored, r, hfound, hopen, hrefiles⟩ | ⟨hgone, hfresh, rfl, hcreated, hapart⟩
      · have hkept : wantsFresh first = false := by
          rw [hrefiles.outcome]
          rfl
        simp only [hkept, Bool.false_eq_true, if_false] at hrest
        obtain ⟨rfl, rfl, rfl⟩ := hrest.of_done
        rw [List.append_nil]
        exact .refiles hmode hfound hopen hrefiles
      · simp only [hfresh, if_true] at hrest
        obtain ⟨r, hfiles⟩ := filesNew_of_runOn hknown hrule hrest
        refine .filesAnew hmode hgone ⟨hfiles.isNew, ?_, hfiles.stored, ?_, hfiles.outcome⟩
        · rw [Trace.created_append, hcreated, hfiles.created, List.nil_append]
        · intro x hx
          rcases List.mem_append.1 hx with hx | hx
          · exact hapart x hx
          · exact hfiles.apart x hx

/-! ## Running -/

/-- A new transfer of a file enters one record and is brought to its partner. -/
theorem runsNew_of_runOn (hknown : ctx.hosts.Knows host p)
    (hrule : ctx.rules.resolve job.rule = .ok rule) (hnamed : job.rule ≠ "") (hfile : file ≠ "")
    (h : RunOn l (runFresh ctx job host file) t outcome l') :
    RunsNew ctx job rule file host p l t outcome l' := by
  have hrun := h
  rw [runFresh, carryOut_eq hknown hnamed hfile] at hrun
  obtain ⟨u, v, found, m, rfl, hapart, hobtains, hnone, hend⟩ :=
    Delivery.obtains_of_run (lookup_form hknown) hrun
  cases hobtains with
  | refused hrefusal _ =>
      obtain ⟨id, hid, -⟩ := gone_of_refusal hknown hrule rfl hrefusal
      cases hid
  | takenUp htaken =>
      have hnumber := htaken.number
      rw [show ((form job host file none).order ctx.hosts).fixedId = none from
        form_fixedId job host file none] at hnumber
      cases hnumber
  | @entered r hentered =>
      have hnew := isNew_of_enters hrule hentered
      have hready : Delivery.Ready { l.put r with nextId := l.freshId + 1 } r := by
        refine ⟨Ledger.find?_put_self l r, ?_⟩
        rw [hnew.status]
        decide
      obtain ⟨hfinishes, hconnects⟩ := Delivery.finishes_of_ready hend hready
      obtain ⟨⟨s, hrecord, hkey⟩, hothers⟩ := hfinishes.record
      have hput : AgreeExcept r.key l { l.put r with nextId := l.freshId + 1 } :=
        AgreeExcept.create l r _
      refine ⟨h, ⟨r, ?_, hnew⟩, ?_, ⟨s, hrecord, hkey.trans hnew.key⟩, ?_⟩
      · rw [Trace.created_append, hentered.created, hnone, List.append_nil]
      · rw [Trace.connects_append]
        exact List.append_ne_nil_of_right_ne_nil _ hconnects
      · rw [← hnew.key]
        exact hput.trans hothers

/-- A known transfer is restarted, or canceled and replaced. -/
theorem resubmits_of_runOn {id : Int} (hknown : ctx.hosts.Knows host p)
    (hrule : ctx.rules.resolve job.rule = .ok rule) (hnamed : job.rule ≠ "") (hfile : file ≠ "")
    (h : RunOn l (resubmit ctx job host file id) t outcome l') :
    Resubmits ctx job rule file host p id l t outcome l' := by
  simp only [resubmit, hknown.listed] at h
  obtain ⟨u, restarted, x, m, rfl, hrestart, hrest⟩ := h.of_bind
  have hrestarted : u.created = [] := Trace.created_of_createsNone
    (hrestart.1.request_of_mem (Intervention.asks_restart reuses_createsNone _ _ _ _ _))
  by_cases hsuccess : restarted.success = true
  · simp only [hsuccess, if_true] at hrest
    obtain ⟨rfl, rfl, rfl⟩ := hrest.of_done
    rw [List.append_nil]
    exact .restarted hrestart hsuccess hrestarted
  · simp only [hsuccess] at hrest
    obtain ⟨v, canceled, w, n, rfl, hcancel, hfresh⟩ := hrest.of_bind
    have hcanceled : v.created = [] := Trace.created_of_createsNone
      (hcancel.1.request_of_mem (Intervention.asks_interrupt reuses_createsNone _ _ _ _ _))
    exact .replaced rfl hrestart (by simpa using hsuccess) hcancel ⟨hrestarted, hcanceled⟩
      (runsNew_of_runOn hknown hrule hnamed hfile hfresh)

/-! ## Hosts -/

/-- What is done for a known host is one of the four things, as the mode and the number say. -/
theorem sends_of_sendTo {knownId : Option Int} (hknown : ctx.hosts.Knows host p)
    (hrule : ctx.rules.resolve job.rule = .ok rule) (hnamed : job.rule ≠ "") (hfile : file ≠ "")
    (h : RunOn l (sendTo ctx job file knownId host) t outcome l') :
    Sends ctx job rule file host p l t outcome l' knownId := by
  unfold sendTo at h
  cases hmode : job.submitOnly with
  | true =>
      simp only [hmode, if_true] at h
      exact sends_of_submit hknown hrule hnamed hfile hmode h
  | false =>
      simp only [hmode, Bool.false_eq_true, if_false] at h
      cases knownId with
      | none => exact .runsNew hmode (runsNew_of_runOn hknown hrule hnamed hfile h)
      | some id => exact .resubmits hmode (resubmits_of_runOn hknown hrule hnamed hfile h)

/-- The result of a dispatch to some hosts, from the outcome for each of them.  It went well when
all of them did, and its number is the last one that there is. -/
def Result.gather (before : Result) (outcomes : List Outcome) : Result :=
  { before with
    success := before.success && outcomes.all Outcome.success
    specialId := (outcomes.filterMap Outcome.specialId).getLast?.or before.specialId }

theorem gather_nil (before : Result) : before.gather [] = before := by
  simp [Result.gather]

theorem gather_cons (before : Result) (outcome : Outcome) (outcomes : List Outcome) :
    Result.gather { before with
      success := before.success && outcome.success
      specialId := outcome.specialId.or before.specialId } outcomes =
      before.gather (outcome :: outcomes) := by
  have hlast : (List.filterMap Outcome.specialId (outcome :: outcomes)).getLast? =
      (outcomes.filterMap Outcome.specialId).getLast?.or outcome.specialId := by
    cases hid : outcome.specialId <;> simp [List.getLast?_cons, hid]
  simp only [Result.gather, List.all_cons, Bool.and_assoc, hlast, Option.or_assoc]

/-- The file is sent to one host after the other, and the result gathers the outcomes. -/
theorem sendsAll_of_runOn {knownId : Option Int} {hosts : List String} {before result : Result}
    (hknown : ∀ host ∈ hosts, ∃ p, ctx.hosts.Knows host p)
    (hrule : ctx.rules.resolve job.rule = .ok rule) (hnamed : job.rule ≠ "") (hfile : file ≠ "")
    (h : RunOn l (sendToAll ctx job file knownId hosts before) t result l') :
    ∃ outcomes, SendsAll ctx job rule file knownId hosts l t outcomes l' ∧
      result = before.gather outcomes := by
  induction hosts generalizing before t l with
  | nil =>
      obtain ⟨rfl, rfl, rfl⟩ := h.of_done
      exact ⟨[], .nil, (gather_nil _).symm⟩
  | cons host rest ih =>
      obtain ⟨p, hhost⟩ := hknown host List.mem_cons_self
      obtain ⟨u, outcome, v, m, rfl, hsend, hrest⟩ := h.of_bind
      obtain ⟨_, w, rfl, hothers⟩ := hrest.of_ask fun _ _ hm => hm
      obtain ⟨outcomes, hall, rfl⟩ :=
        ih (fun name hname => hknown name (List.mem_cons_of_mem _ hname)) hothers
      have hsends := sends_of_sendTo hhost hrule hnamed hfile hsend
      exact ⟨_, .cons hhost hsends hall, gather_cons _ _ _⟩

/-- Whatever the ledger, and whatever is answered by all but the ledger: a dispatch of an item to
known hosts under a known rule comes to an end.  It has sent the file to each host of its job, in
order, with one outcome for each.  It went well when all of them did, and its number is that of
the last outcome that has one. -/
theorem sendsAll_of_known (ctx : Context) (job : Job) (item : Item) (rule : Rule) (l : Ledger)
    (answer : Trace → (r : Request) → r.Answer)
    (hknown : ∀ host ∈ job.hosts, ∃ p, ctx.hosts.Knows host p)
    (hrule : ctx.rules.resolve job.rule = .ok rule) (hnamed : job.rule ≠ "")
    (hfile : item.path.text ≠ "") :
    let sent := play (onLedger l answer) (run ctx job item)
    ∃ outcomes,
      SendsAll ctx job rule item.path.text (knownId? job item) job.hosts l sent.2 outcomes
        (sent.2.ledgerAfter l) ∧
      sent.1.path = item.path ∧
      (sent.1.success = true ↔ ∀ outcome ∈ outcomes, outcome.success = true) ∧
      sent.1.specialId = (outcomes.filterMap Outcome.specialId).getLast? := by
  intro sent
  obtain ⟨outcomes, hall, hresult⟩ :=
    sendsAll_of_runOn hknown hrule hnamed hfile (runOn_play l answer (run ctx job item))
  refine ⟨outcomes, hall, ?_, ?_, ?_⟩
  · rw [hresult]
    rfl
  · rw [hresult]
    simp [Result.gather]
  · rw [hresult]
    simp [Result.gather]

/-! ## A file that was sent before -/

/-- A rule that sends. -/
def sampleRule : Rule := { name := "out", mode := .send }

/-- This host, one that can be called, and the rule. -/
def sampleSpoolContext : Context :=
  { Intervention.sampleContext with rules := .ofList [sampleRule] }

/-- A job that runs its transfers with the one host. -/
def sampleJob : Job where
  name := "outbox"
  directories := [⟨"watch"⟩]
  statusFile := ⟨"outbox.status"⟩
  rule := "out"
  hosts := ["there"]
  submitOnly := false

/-- A file that was sent by a transfer of the ledger before. -/
def sampleItem : Item := { path := ⟨"watch/a"⟩, lastModified := 0, size := 1, specialId := some 7 }

theorem sampleHost_known :
    sampleSpoolContext.hosts.Knows "there" Intervention.samplePeer :=
  ⟨by decide, rfl, rfl⟩

theorem sendsAll_of_known_sample :
    (∀ host ∈ sampleJob.hosts, ∃ p, sampleSpoolContext.hosts.Knows host p) ∧
    sampleSpoolContext.rules.resolve sampleJob.rule = .ok sampleRule ∧ sampleJob.rule ≠ "" ∧
    sampleItem.path.text ≠ "" ∧
    (let sent := play (onLedger { records := [Intervention.sampleRecord] }
        (Intervention.sampleAnswers .overloaded)) (run sampleSpoolContext sampleJob sampleItem)
    ∃ outcomes,
      SendsAll sampleSpoolContext sampleJob sampleRule "watch/a" (some 7) ["there"]
        { records := [Intervention.sampleRecord] } sent.2 outcomes
        (sent.2.ledgerAfter { records := [Intervention.sampleRecord] }) ∧
      sent.1.path = sampleItem.path ∧
      (sent.1.success = true ↔ ∀ outcome ∈ outcomes, outcome.success = true) ∧
      sent.1.specialId = (outcomes.filterMap Outcome.specialId).getLast?) := by
  have hknown : ∀ host ∈ sampleJob.hosts, ∃ p, sampleSpoolContext.hosts.Knows host p := by
    intro host hhost
    obtain rfl := List.mem_singleton.1 hhost
    exact ⟨_, sampleHost_known⟩
  have hnamed : sampleJob.rule ≠ "" := by decide
  have hfile : sampleItem.path.text ≠ "" := by decide
  exact ⟨hknown, rfl, hnamed, hfile, sendsAll_of_known sampleSpoolContext sampleJob sampleItem
    sampleRule _ (Intervention.sampleAnswers .overloaded) hknown rfl hnamed hfile⟩

/-! ## A host whose name has blanks at its ends -/

/-- A host that is listed under a name with blanks at its ends. -/
def paddedPeer : Partner := { hostId := " there " }

/-- This host, the one with the blanks, and the rule. -/
def paddedContext : Context where
  hosts := ({ plainId := "here", secureId := "here-tls" } : Directory).addHost paddedPeer
  rules := .ofList [sampleRule]
  policy := .standard

/-- A job that runs its transfers with this host. -/
def paddedJob : Job := { sampleJob with hosts := [" there "] }

/-- A file that was not sent before. -/
def freshItem : Item := { sampleItem with specialId := none }

/-- An order names its partner without the blanks, and nobody is listed so.  A dispatch to this host
counts it as failed and asks for nothing else: no record is entered and nobody is called. -/
theorem nothing_asked_of_padded :
    paddedContext.hosts.lookup (paddedContext.hosts.resolve " there ") = .ok paddedPeer ∧
    paddedContext.rules.resolve paddedJob.rule = .ok sampleRule ∧
    run paddedContext paddedJob freshItem =
      .step (.tally false) fun _ => .done ⟨freshItem.path, false, none⟩ := by
  have hcomplete : (form paddedJob " there " "watch/a" none).complete paddedContext.hosts =
      .ok ((form paddedJob " there " "watch/a" none).order paddedContext.hosts) :=
    Order.Form.complete_eq_ok_iff.2 ⟨by decide, .inl rfl, rfl⟩
  have htrimmed : paddedContext.hosts.resolve (Text.trim " there ") = "there" := by decide
  have hunlisted : paddedContext.hosts.lookup
      ((form paddedJob " there " "watch/a" none).order paddedContext.hosts).partner =
        .error (.unknownHost "there") := by
    show paddedContext.hosts.lookup (paddedContext.hosts.resolve (Text.trim " there ")) = _
    rw [htrimmed]
    rfl
  have hsend : runFresh paddedContext paddedJob " there " "watch/a" =
      .done (.failed .connectionImpossible (TransferFault.unknownHost "there").message none) := by
    rw [runFresh, carryOut, hcomplete]
    simp only [Delivery.run, Delivery.carryOut, Preparation.prepare, hunlisted]
    rfl
  have hrun : run paddedContext paddedJob freshItem =
      sendToAll paddedContext paddedJob "watch/a" none [" there "] ⟨freshItem.path, true, none⟩ :=
    rfl
  have hone : sendTo paddedContext paddedJob "watch/a" none " there " =
      runFresh paddedContext paddedJob " there " "watch/a" := rfl
  refine ⟨rfl, rfl, ?_⟩
  rw [hrun, sendToAll, hone, hsend]
  rfl

end Dispatch

end Courier
