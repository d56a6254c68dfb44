import Courier.Proofs.Delivery.Interruption
import Courier.Proofs.Delivery.Requests
import Courier.Proofs.Delivery.Sending

/-!
# Roles of attempts

An attempt to open the session of a transfer says which stream the session is to carry, and the
mode of the record that it asks for says so too.  What the session is for is up to the operation.
The mode is up to the ledger, which gave the record out: nothing that is done to a record until
its partner is called changes it.  So the two agree whenever the record that was given suits the
operation, and only then.

A new record is in the mode that the rule of its order allots.  It suits every stream, since an
unsuitable rule is refused, and it suits a transfer of files unless the rule is for streams
itself.  The record of an order by number is taken as it is found.

Main definitions:

- `Through.Suits` says that a session is for the stream that a mode means.
- `Trace.attempts` and `Trace.given?` are the attempts in a trace and the record that the ledger
  gave out last.
- `Operation` has the operations that call partners for a transfer, and `Operation.through` says
  what their sessions are for.
- `Trace.Brings` says that attempts are for one stream and ask for the record that was given, in
  its mode.

Main statements:

- Preparing an order leaves the mode of the record that was given (`given_of_run_prepare`), and
  from then on the attempts ask for it in this mode (`Delivery.brings_of_drives`).
- Whatever is asked of an operation and answered to it, its attempts agree with the modes of their
  records just when the record that was given suits it (`Operation.roles_of_attempts`).
-/

namespace Courier

open Program

/-! ## Streams and modes -/

/-- The stream that a mode is for. -/
def Mode.through (m : Mode) : Through :=
  if m.isThrough then if m.isSend then .send else .receive else .none

/-- Whether a session is for the stream that a mode means: the caller sends it, receives it, or
there is none. -/
structure Through.Suits (through : Through) (m : Mode) : Prop where
  send : through = .send ↔ m.isThrough = true ∧ m.isSend = true
  receive : through = .receive ↔ m.isThrough = true ∧ m.isRecv = true
  none : through = .none ↔ m.isThrough = false

/-- A session suits just one stream: the one that the mode is for. -/
theorem Through.suits_iff {through : Through} {m : Mode} :
    through.Suits m ↔ through = m.through := by
  constructor
  · rintro ⟨hsend, hreceive, hnone⟩
    unfold Mode.through
    split
    · next hthrough =>
        split
        · next h => exact hsend.2 ⟨hthrough, h⟩
        · next h => exact hreceive.2 ⟨hthrough, by simpa [Mode.isRecv] using h⟩
    · next hthrough => exact hnone.2 (by simpa using hthrough)
  · rintro rfl
    cases m <;> exact ⟨by decide, by decide, by decide⟩

/-- The stream that a mode is for suits it. -/
theorem Mode.suits_through (m : Mode) : m.through.Suits m :=
  Through.suits_iff.2 rfl

instance (through : Through) (m : Mode) : Decidable (through.Suits m) :=
  decidable_of_iff _ Through.suits_iff.symm

/-! ## Attempts and records -/

/-- The attempt to open the session of a transfer: what the session is for, and the record of the
transfer. -/
def Exchange.attempt? : Exchange → Option (Through × Record)
  | ⟨.connect ⟨_, some r, through⟩, _⟩ => some (through, r)
  | _ => none

/-- The record that the ledger gave out, new or found. -/
def Exchange.given? : Exchange → Option Record
  | ⟨.ledger (.create _ _), .ok r⟩ => some r
  | ⟨.ledger (.load _), some r⟩ => some r
  | _ => none

/-- Whether a new record is given out in the mode of its draft. -/
def Exchange.KeepsMode : Exchange → Prop
  | ⟨.ledger (.create d _), .ok r⟩ => r.mode = d.mode
  | _ => True

namespace Trace

/-- The attempts to open the sessions of transfers. -/
def attempts (t : Trace) : List (Through × Record) :=
  t.filterMap Exchange.attempt?

/-- The record that the ledger gave out last. -/
def given? (t : Trace) : Option Record :=
  (t.filterMap Exchange.given?).getLast?

/-- Whether new records are given out in the modes of their drafts. -/
def KeepsModes (t : Trace) : Prop :=
  ∀ x ∈ t, x.KeepsMode

/-- Whether every session is for the stream that the mode of its record means. -/
def Agrees (t : Trace) : Prop :=
  ∀ a ∈ t.attempts, a.1.Suits a.2.mode

instance (t : Trace) : Decidable t.Agrees :=
  inferInstanceAs (Decidable (∀ a ∈ t.attempts, a.1.Suits a.2.mode))

variable {t u : Trace}

@[simp] theorem attempts_append (t u : Trace) : attempts (t ++ u) = t.attempts ++ u.attempts :=
  List.filterMap_append

/-- Of two traces one after the other, the later one says which record was given last. -/
theorem given?_append (t u : Trace) : given? (t ++ u) = u.given?.or t.given? := by
  rw [given?, List.filterMap_append, List.getLast?_append]
  rfl

theorem keepsModes_append : KeepsModes (t ++ u) ↔ t.KeepsModes ∧ u.KeepsModes :=
  List.forall_mem_append

end Trace

/-- A ledger gives new records out in the modes of their drafts. -/
theorem Exchange.Keeps.keepsMode {x : Exchange} {l l' : Ledger} (h : x.Keeps l l') :
    x.KeepsMode := by
  rcases x with ⟨r, answer⟩
  cases r with
  | ledger op =>
      cases op with
      | create d now =>
          cases answer with
          | ok r =>
              obtain ⟨⟨⟩, -⟩ := Prod.ext_iff.1 h
              rfl
          | error fault => trivial
      | _ => trivial
  | _ => trivial

/-- A ledger gives out records in the mode that it keeps them in, so that its traces keep modes. -/
theorem Kept.keepsModes {t : Trace} {l l' : Ledger} (h : Kept t l l') : t.KeepsModes := by
  induction t generalizing l with
  | nil => exact fun x hx => absurd hx List.not_mem_nil
  | cons x t ih =>
      obtain ⟨m, hx, ht⟩ := h
      exact List.forall_mem_cons.2 ⟨hx.keepsMode, ih ht⟩

/-! ## Requests that bring a record to a partner -/

/-- Whether a request attempts no transfer. -/
def Request.AttemptsNone : Request → Prop
  | .connect c => c.record = none
  | _ => True

/-- Whether a request, when it is an attempt, is for a stream and asks for a record in a mode, and
whether it does not have the ledger give out another one. -/
def Request.Drives (through : Through) (mode : Mode) : Request → Prop
  | .connect c => c.through = through ∧ ∃ r, c.record = some r ∧ r.mode = mode
  | .ledger (.create _ _) | .ledger (.load _) => False
  | _ => True

/-- Nobody is called in a trace without a request that calls. -/
theorem attempts_of_attemptsNone {t : Trace} (h : ∀ x ∈ t, x.request.AttemptsNone) :
    t.attempts = [] := by
  refine List.filterMap_eq_nil_iff.2 fun x hx => ?_
  have hnone := h x hx
  rcases x with ⟨r, answer⟩
  cases r with
  | connect c =>
      obtain ⟨partner, record, through⟩ := c
      obtain rfl : record = none := hnone
      rfl
  | _ => rfl

theorem allows_attemptsNone : Preparation.Allows Request.AttemptsNone :=
  ⟨trivial, fun _ => trivial, fun _ => trivial⟩

/-- Work on the record of a transfer calls nobody. -/
theorem tends_attemptsNone (key : Record.Key) : Delivery.Tends key Request.AttemptsNone :=
  ⟨trivial, fun _ _ => trivial, trivial, fun _ => trivial⟩

theorem deals_attemptsNone (partner : Partner) :
    Connection.Deals partner Request.AttemptsNone :=
  ⟨rfl, trivial, fun _ => trivial, fun _ _ _ => trivial, fun _ => trivial⟩

/-- Looking for a record, here or at its partner, calls nobody for a transfer. -/
theorem seeks_attemptsNone : Intervention.Seeks Request.AttemptsNone :=
  ⟨trivial, fun _ => trivial, fun _ => trivial, deals_attemptsNone⟩

theorem tends_drives (key : Record.Key) (through : Through) (mode : Mode) :
    Delivery.Tends key (Request.Drives through mode) :=
  ⟨trivial, fun _ _ => trivial, trivial, fun _ => trivial⟩

/-- The attempts of a transfer bring its record, in the mode that it has. -/
theorem carries_drives (partner : Partner) (key : Record.Key) (mode : Mode) (through : Through) :
    Delivery.Carries partner key mode through (Request.Drives through mode) :=
  ⟨fun r _ hmode => ⟨rfl, r, rfl, hmode⟩, trivial, fun _ => trivial, fun _ _ => trivial,
    fun _ => trivial⟩

/-- From the first attempt on, no other record is given out. -/
theorem given?_of_drives {t : Trace} {through : Through} {mode : Mode}
    (h : ∀ x ∈ t, x.request.Drives through mode) : t.given? = none := by
  have hnil : t.filterMap Exchange.given? = [] := by
    refine List.filterMap_eq_nil_iff.2 fun x hx => ?_
    have hdrives := h x hx
    rcases x with ⟨r, answer⟩
    cases r with
    | ledger op =>
        cases op with
        | create d now => cases hdrives
        | load key => cases hdrives
        | _ => rfl
    | _ => rfl
  rw [Trace.given?, hnil]
  rfl

/-- All attempts of a transfer are for its stream and in the mode of its record. -/
theorem attempts_of_drives {t : Trace} {through : Through} {mode : Mode}
    (h : ∀ x ∈ t, x.request.Drives through mode) :
    ∀ a ∈ t.attempts, a.1 = through ∧ a.2.mode = mode := by
  intro a ha
  obtain ⟨⟨r, answer⟩, hx, hattempt⟩ := List.mem_filterMap.1 ha
  have hdrives : r.Drives through mode := h _ hx
  cases r with
  | connect c =>
      obtain ⟨partner, record, role⟩ := c
      obtain ⟨rfl, r, rfl, hmode⟩ := hdrives
      obtain rfl := Option.some.inj hattempt
      exact ⟨rfl, hmode⟩
  | _ => cases hattempt

/-! ## Preparation -/

namespace Preparation

variable {ctx : Context} {order : Order} {kind : Kind} {t : Trace}

/-- What the session of an order is for. -/
def Kind.through : Kind → Through
  | direct | submit => .none
  | sendThrough => .send
  | recvThrough => .receive

/-- What an order in full says about the mode of its record: the rule suits what the order is
carried out for, and allots the mode.  An order by number says nothing. -/
def Allots (ctx : Context) (order : Order) (kind : Kind) (mode : Mode) : Prop :=
  order.fixedId = none →
    ∃ rule, ctx.rules.resolve (order.rule.getD "") = .ok rule ∧ refusal rule kind = none ∧
      mode = modeFor rule order kind

/-- Streams and files go the same way: the rule of an order says which. -/
@[simp] theorem isSend_modeFor (rule : Rule) (order : Order) (kind : Kind) :
    (modeFor rule order kind).isSend = rule.mode.isSend := by
  simp only [modeFor]
  split <;> split <;> simp

/-- A record is in a mode for streams when the order is for a stream, or the rule is. -/
@[simp] theorem isThrough_modeFor (rule : Rule) (order : Order) (kind : Kind) :
    (modeFor rule order kind).isThrough = (kind.isThrough || rule.mode.isThrough) := by
  unfold modeFor
  cases kind.isThrough with
  | true => simp
  | false => cases order.useHash <;> simp

/-- The mode under a rule suits what the order is carried out for, unless files are to be
transferred by a rule for streams. -/
theorem Allots.through_eq_iff {m : Mode} {rule : Rule} (h : Allots ctx order kind m)
    (hnew : order.fixedId = none) (hrule : ctx.rules.resolve (order.rule.getD "") = .ok rule) :
    m.through = kind.through ↔ (kind.through = .none → rule.mode.isThrough = false) := by
  obtain ⟨resolved, hresolved, hsuitable, rfl⟩ := h hnew
  obtain rfl := Except.ok.inj (hrule.symm.trans hresolved)
  cases kind with
  | direct | submit =>
      rw [Kind.through, (Mode.suits_through _).none, isThrough_modeFor]
      simp [Kind.isThrough]
  | sendThrough =>
      have hsend : rule.mode.isSend = true := by
        cases hsend : rule.mode.isSend with
        | true => rfl
        | false => simp [refusal, Rule.canSend, hsend] at hsuitable
      have hmode : (modeFor rule order .sendThrough).through = .send :=
        (Mode.suits_through _).send.2 ⟨by simp [Kind.isThrough], by simp [hsend]⟩
      exact iff_of_true hmode fun hnone => by cases hnone
  | recvThrough =>
      have hrecv : rule.mode.isSend = false := by
        cases hsend : rule.mode.isSend with
        | true => simp [refusal, Rule.canReceive, Mode.isRecv, hsend] at hsuitable
        | false => rfl
      have hmode : (modeFor rule order .recvThrough).through = .receive :=
        (Mode.suits_through _).receive.2
          ⟨by simp [Kind.isThrough], by simp [Mode.isRecv, hrecv]⟩
      exact iff_of_true hmode fun hnone => by cases hnone

/-! ### New records -/

/-- The record that was created is the last one given, and it is in the mode that its rule
allots. -/
theorem given_of_run_createRecord {partner : Partner} {requester : String} {r : Record}
    (h : Run (createRecord ctx order partner requester kind) t (.ok r)) (hmodes : t.KeepsModes) :
    t.given? = some r ∧ Allots ctx order kind r.mode := by
  unfold createRecord at h
  cases hrule : ctx.rules.resolve (order.rule.getD "") with
  | error fault =>
      simp only [hrule] at h
      obtain ⟨-, ⟨⟩⟩ := Run.done_iff.1 h
  | ok rule =>
      simp only [hrule] at h
      cases hcause : refusal rule kind with
      | some cause =>
          simp only [hcause] at h
          obtain ⟨-, ⟨⟩⟩ := Run.done_iff.1 h
      | none =>
          simp only [hcause] at h
          split at h
          all_goals
            obtain ⟨u, size, v, rfl, -, hrest⟩ := Run.bind_iff.1 h
            obtain ⟨n, w, rfl, hnow⟩ := Run.ask_iff.1 hrest
            obtain ⟨created, x, rfl, hend⟩ := Run.ask_iff.1 hnow
            cases created with
            | error fault => obtain ⟨-, ⟨⟩⟩ := Run.done_iff.1 hend
            | ok record =>
                obtain ⟨rfl, ⟨⟩⟩ := Run.done_iff.1 hend
                have hmode : r.mode = modeFor rule order kind :=
                  hmodes _ (List.mem_append_right u (List.mem_cons_of_mem _ List.mem_cons_self))
                refine ⟨?_, fun _ => ⟨rule, hrule, hcause, hmode⟩⟩
                rw [Trace.given?_append]
                rfl

/-! ### Filed records -/

/-- What an order changes of a filed record leaves its mode. -/
@[simp] theorem amend_mode (r : Record) (order : Order) : (amend r order).mode = r.mode := by
  unfold amend
  cases order.startTime <;> cases order.hasFileInfo <;> rfl

/-- A filed record keeps the mode that the ledger gave it out in. -/
theorem given_of_run_recoverRecord {key : Record.Key} {r : Record}
    (h : Run (recoverRecord order key kind) t (.ok r)) :
    ∃ found, t.given? = some found ∧ r.mode = found.mode := by
  obtain ⟨loaded, u, rfl, hload⟩ := Run.ask_iff.1 h
  cases loaded with
  | none => obtain ⟨-, ⟨⟩⟩ := Run.done_iff.1 hload
  | some found =>
      dsimp only at hload
      split at hload
      · obtain ⟨-, ⟨⟩⟩ := Run.done_iff.1 hload
      · split at hload
        · obtain ⟨n, v, rfl, hnow⟩ := Run.ask_iff.1 hload
          obtain ⟨updated, w, rfl, hend⟩ := Run.ask_iff.1 hnow
          cases updated with
          | error fault => obtain ⟨-, ⟨⟩⟩ := Run.done_iff.1 hend
          | ok _ =>
              obtain ⟨rfl, ⟨⟩⟩ := Run.done_iff.1 hend
              exact ⟨found, rfl, amend_mode found order⟩
        · obtain ⟨updated, w, rfl, hend⟩ := Run.ask_iff.1 hload
          cases updated with
          | error fault => obtain ⟨-, ⟨⟩⟩ := Run.done_iff.1 hend
          | ok _ =>
              obtain ⟨rfl, ⟨⟩⟩ := Run.done_iff.1 hend
              exact ⟨found, rfl, amend_mode found order⟩

/-- A record that is looked for or entered has the mode of the one that was given, and the order
allots it. -/
theorem given_of_run_findRecord {partner : Partner} {r : Record}
    (h : Run (findRecord ctx order partner kind) t (.ok r)) (hmodes : t.KeepsModes) :
    ∃ found, t.given? = some found ∧ r.mode = found.mode ∧ Allots ctx order kind found.mode := by
  unfold findRecord at h
  cases hid : order.fixedId with
  | none =>
      simp only [hid] at h
      obtain ⟨hgiven, hallots⟩ := given_of_run_createRecord h hmodes
      exact ⟨r, hgiven, rfl, hallots⟩
  | some id =>
      simp only [hid] at h
      obtain ⟨found, hgiven, hmode⟩ := given_of_run_recoverRecord h
      exact ⟨found, hgiven, hmode, fun hnew => by simp [hid] at hnew⟩

/-- Marking a record as not to be kept leaves its mode and gives no other one. -/
theorem mode_of_run_markTransient {r s : Record}
    (h : Run (markTransient kind r) t (.ok s)) : s.mode = r.mode ∧ t.given? = none := by
  unfold markTransient at h
  split at h
  · obtain ⟨updated, u, rfl, hend⟩ := Run.ask_iff.1 h
    cases updated with
    | error fault => obtain ⟨-, ⟨⟩⟩ := Run.done_iff.1 hend
    | ok _ =>
        obtain ⟨rfl, ⟨⟩⟩ := Run.done_iff.1 hend
        exact ⟨rfl, rfl⟩
  · obtain ⟨rfl, ⟨⟩⟩ := Run.done_iff.1 h
    exact ⟨rfl, rfl⟩

/-- The record of a prepared order is in the mode in which the ledger gave it out. -/
theorem given_of_run_prepare {p : Prepared} (h : Run (prepare ctx order kind) t (.ok p))
    (hmodes : t.KeepsModes) :
    ∃ found, t.given? = some found ∧ p.record.mode = found.mode ∧
      Allots ctx order kind found.mode := by
  unfold prepare at h
  cases hpartner : ctx.hosts.lookup order.partner with
  | error fault =>
      simp only [hpartner] at h
      obtain ⟨-, ⟨⟩⟩ := Run.done_iff.1 h
  | ok partner =>
      simp only [hpartner] at h
      obtain ⟨u, result, v, rfl, hfind, hrest⟩ := Run.bind_iff.1 h
      cases result with
      | error outcome => obtain ⟨-, ⟨⟩⟩ := Run.done_iff.1 hrest
      | ok r =>
          obtain ⟨found, hgiven, hmode, hallots⟩ :=
            given_of_run_findRecord hfind (Trace.keepsModes_append.1 hmodes).1
          obtain ⟨w, marked, x, rfl, hmark, hend⟩ := Run.bind_iff.1 hrest
          cases marked with
          | error outcome => obtain ⟨-, ⟨⟩⟩ := Run.done_iff.1 hend
          | ok s =>
              obtain ⟨rfl, ⟨⟩⟩ := Run.done_iff.1 hend
              obtain ⟨hsame, hnone⟩ := mode_of_run_markTransient hmark
              refine ⟨found, ?_, hsame.trans hmode, hallots⟩
              rw [List.append_nil, Trace.given?_append, hnone, hgiven]
              rfl

end Preparation

/-! ## Traces of transfers -/

/-- Whether all attempts in a trace are for one stream and ask for the record that the ledger gave
out last, in its mode; something is known of this mode. -/
inductive Trace.Brings (through : Through) (known : Mode → Prop) (t : Trace) : Prop where
  | nothing (none : t.attempts = [])
  | given {r : Record} (given : t.given? = some r) (known : known r.mode)
      (attempts : ∀ a ∈ t.attempts, a.1 = through ∧ a.2.mode = r.mode)

section

variable {ctx : Context} {t u : Trace} {through : Through} {known : Mode → Prop}

theorem Trace.Brings.of_done {α : Type} {a b : α} (h : Run (.done a) t b) :
    t.Brings through known := by
  obtain ⟨rfl, -⟩ := Run.done_iff.1 h
  exact .nothing rfl

/-- What comes before the attempts makes no difference. -/
theorem Trace.Brings.prepend (h : t.Brings through known) (hu : u.attempts = []) :
    Trace.Brings through known (u ++ t) := by
  cases h with
  | nothing hnone => exact .nothing (by rw [attempts_append, hu, hnone, List.append_nil])
  | given hgiven hknown hattempts =>
      refine .given (by rw [given?_append, hgiven, Option.some_or]) hknown ?_
      rwa [attempts_append, hu, List.nil_append]

/-- Attempts that are alike agree with their records when one of them does. -/
theorem Trace.agrees_iff {m : Mode} (hne : t.attempts ≠ [])
    (h : ∀ a ∈ t.attempts, a.1 = through ∧ a.2.mode = m) : t.Agrees ↔ through.Suits m := by
  constructor
  · intro hagrees
    obtain ⟨a, ha⟩ := List.exists_mem_of_ne_nil _ hne
    obtain ⟨hthrough, hmode⟩ := h a ha
    exact hthrough ▸ hmode ▸ hagrees a ha
  · intro hsuits a ha
    obtain ⟨hthrough, hmode⟩ := h a ha
    rwa [hthrough, hmode]

/-- Less may be known of the mode. -/
theorem Trace.Brings.imp {known' : Mode → Prop} (h : t.Brings through known)
    (hknown : ∀ m, known m → known' m) : t.Brings through known' := by
  cases h with
  | nothing hnone => exact .nothing hnone
  | given hgiven h hattempts => exact .given hgiven (hknown _ h) hattempts

namespace Delivery

/-- Once a record was given out, it is brought to its partner in its mode. -/
theorem brings_of_drives {r : Record} (hnone : u.attempts = []) (hgiven : u.given? = some r)
    (hknown : known r.mode) (h : ∀ x ∈ t, x.request.Drives through r.mode) :
    Trace.Brings through known (u ++ t) := by
  refine .given ?_ hknown ?_
  · rw [Trace.given?_append, given?_of_drives h, hgiven, Option.none_or]
  · rw [Trace.attempts_append, hnone, List.nil_append]
    exact attempts_of_drives h

/-- Nobody is called before the order is prepared. -/
theorem attempts_of_run_prepare {order : Order} {kind : Preparation.Kind}
    {result : Except Outcome Prepared} (h : Run (Preparation.prepare ctx order kind) t result) :
    t.attempts = [] :=
  attempts_of_attemptsNone
    (h.request_of_mem (Preparation.ensures_prepare allows_attemptsNone ctx order kind).asks)

/-- A program that prepares an order and makes no attempts but for the prepared record brings the
record that was given for the order. -/
theorem brings_of_run_prepare {α : Type} {order : Order} {kind : Preparation.Kind}
    {next : Except Outcome Prepared → Program α} {a : α}
    (h : Run (Preparation.prepare ctx order kind >>= next) t a) (hmodes : t.KeepsModes)
    (hrefused : ∀ outcome, Asks Request.AttemptsNone (next (.error outcome)))
    (hready : ∀ p, Asks (Request.Drives through p.record.mode) (next (.ok p))) :
    t.Brings through (Preparation.Allots ctx order kind) := by
  obtain ⟨u, prepared, v, rfl, hprepare, hrest⟩ := Run.bind_iff.1 h
  have hnone := attempts_of_run_prepare hprepare
  cases prepared with
  | error outcome =>
      have hrefusal := attempts_of_attemptsNone (hrest.request_of_mem (hrefused outcome))
      exact .nothing (by rw [Trace.attempts_append, hnone, hrefusal, List.append_nil])
  | ok p =>
      obtain ⟨found, hgiven, hmode, hallots⟩ :=
        Preparation.given_of_run_prepare hprepare (Trace.keepsModes_append.1 hmodes).1
      exact brings_of_drives hnone hgiven hallots (hmode ▸ hrest.request_of_mem (hready p))

/-- A transfer that is carried out brings the record that was given for it. -/
theorem brings_of_run_carryOut {order : Order} {kind : Preparation.Kind} {outcome : Outcome}
    (h : Run (carryOut ctx order kind through) t outcome) (hmodes : t.KeepsModes) :
    t.Brings through (Preparation.Allots ctx order kind) := by
  refine brings_of_run_prepare h hmodes (fun _ => trivial) fun p => ?_
  exact (ensures_connect_finish (tends_drives _ _ _) (carries_drives _ _ _ _) _).asks

end Delivery

namespace Stream.Sender

variable {s s' : Sender}

/-- A stream that is sent brings the record that was given for it. -/
theorem brings_of_run_initiate {result : Except Outcome Unit}
    (h : Run (s.initiate ctx) t (result, s')) (hmodes : t.KeepsModes) :
    t.Brings .send (Preparation.Allots ctx s.order .sendThrough) := by
  unfold initiate at h
  split at h
  · exact .of_done h
  · refine Delivery.brings_of_run_prepare h hmodes (fun _ => trivial) fun p => ?_
    refine asks_bind (Delivery.ensures_tryConnect (tends_drives p.record.key _ _)
      (carries_drives p.partner _ _ _) rfl rfl rfl _ _ _ _).asks fun opened => ?_
    cases opened <;> trivial

theorem asks_sendBlock (session : Session) (block : Block) :
    Asks Request.AttemptsNone (sendBlock session block) := by
  refine asks_bind (asks_perform trivial) fun writable => ?_
  cases writable with
  | error fault => trivial
  | ok _ => exact asks_perform trivial

theorem asks_abort (a : Active) (code : ResultCode) (cause : String) :
    Asks Request.AttemptsNone (abort a code cause) := by
  refine asks_bind (asks_perform trivial) fun _ => asks_bind (asks_perform trivial) fun _ => ?_
  exact (Delivery.ensures_terminate (tends_attemptsNone _) rfl _ _).asks

/-- The end of a stream calls nobody. -/
theorem asks_conclude (a : Active) : Asks Request.AttemptsNone (conclude ctx a) := by
  refine asks_bind (asks_perform trivial) fun announced => ?_
  cases announced with
  | error fault => exact asks_abort _ _ _
  | ok _ =>
      refine asks_bind (asks_perform trivial) fun completion => ?_
      cases completion with
      | error fault => exact asks_abort _ _ _
      | ok completion =>
          dsimp only
          split
          · refine asks_bind (asks_perform trivial) fun acknowledged => ?_
            cases acknowledged with
            | error fault => exact asks_abort _ _ _
            | ok _ =>
                refine asks_bind (asks_perform trivial) fun _ => ?_
                exact (Delivery.ensures_conclude (tends_attemptsNone _) rfl _).asks
          · exact asks_abort _ _ _

/-- No other call on a sender attempts anything. -/
theorem asks_answer {call : Call} (h : call ≠ .initiate) :
    Asks Request.AttemptsNone (answer ctx s call) := by
  have hends : ∀ {p : Program (Outcome × Sender)}, Asks Request.AttemptsNone p →
      Asks Request.AttemptsNone (p >>= fun r => .done (Reply.ended r.1, r.2)) := fun hp =>
    asks_bind hp fun _ => trivial
  cases call with
  | initiate => exact absurd rfl h
  | run => trivial
  | block data => trivial
  | write block =>
      refine asks_bind ?_ fun _ => trivial
      unfold write
      split
      · trivial
      · refine asks_bind (asks_sendBlock _ _) fun sent => ?_
        cases sent <;> trivial
  | finalize =>
      refine hends ?_
      unfold finalize
      split
      · trivial
      · refine asks_bind ?_ fun ended => ?_
        · unfold ensureEnd
          split
          · trivial
          · refine asks_bind (asks_sendBlock _ _) fun sent => ?_
            cases sent <;> trivial
        · cases ended with
          | error fault => exact asks_bind (asks_abort _ _ _) fun _ => trivial
          | ok a => exact asks_bind (asks_conclude _) fun _ => trivial
  | giveUp cause =>
      refine hends ?_
      unfold giveUp
      split
      · trivial
      · exact asks_bind (asks_abort _ _ _) fun _ => trivial

/-- Of the calls of a sender, only the first one brings a record. -/
theorem brings_of_run_answer {call : Call} {reply : Reply}
    (h : Run (answer ctx s call) t (reply, s')) (hmodes : t.KeepsModes) :
    t.Brings .send (Preparation.Allots ctx s.order .sendThrough) := by
  by_cases hcall : call = .initiate
  · subst hcall
    obtain ⟨u, ⟨result, s₁⟩, v, rfl, hinitiate, hrest⟩ := Run.bind_iff.1 h
    obtain ⟨rfl, -⟩ := Run.done_iff.1 hrest
    rw [List.append_nil] at hmodes ⊢
    exact brings_of_run_initiate hinitiate hmodes
  · exact .nothing (attempts_of_attemptsNone (h.request_of_mem (asks_answer hcall)))

end Stream.Sender

namespace Intervention

variable {time : Option Calendar.Timestamp} {outcome : Outcome}

/-- A transfer that is restarted from here is brought to its partner without a stream. -/
theorem brings_of_run_restartLocally {record : Record}
    (h : Run (restartLocally ctx record time) t outcome) (hmodes : t.KeepsModes) :
    t.Brings .none fun _ => True := by
  unfold restartLocally at h
  split at h
  · exact .of_done h
  · obtain ⟨u, ended, v, rfl, hrun, hend⟩ := Run.bind_iff.1 h
    obtain rfl : v = [] := by
      split at hend <;> exact (Run.done_iff.1 hend).1
    rw [List.append_nil] at hmodes ⊢
    exact (Delivery.brings_of_run_carryOut hrun hmodes).imp fun _ _ => trivial

/-- A transfer that is restarted elsewhere is not attempted from here. -/
theorem brings_of_run_restart {specialId : Int} {requested requester : String}
    (h : Run (restart ctx specialId requested requester time) t outcome)
    (hmodes : t.KeepsModes) : t.Brings .none fun _ => True := by
  obtain ⟨u, found, v, rfl, hfind, hrest⟩ := Run.bind_iff.1 h
  have hnone : u.attempts = [] := attempts_of_attemptsNone
    (hfind.request_of_mem (asks_find seeks_attemptsNone _ _ _ _))
  have hkeeps := (Trace.keepsModes_append.1 hmodes).2
  refine Trace.Brings.prepend ?_ hnone
  cases found with
  | error outcome => exact .of_done hrest
  | ok found =>
      dsimp only at hrest
      split at hrest
      · exact .of_done hrest
      · split at hrest
        · split at hrest
          · exact brings_of_run_restartLocally hrest hkeeps
          · exact .of_done hrest
        · refine .nothing (attempts_of_attemptsNone (hrest.request_of_mem ?_))
          refine asks_bind (Connection.ensures_exchange (deals_attemptsNone _) _ _).asks
            fun answer => ?_
          cases answer <;> trivial

end Intervention

end

/-! ## Operations -/

/-- The operations that call partners for a transfer. -/
inductive Operation where
  | run (order : Order)
  /-- The caller makes one call on the sender of a stream. -/
  | call (s : Stream.Sender) (call : Stream.Sender.Call)
  | receive (order : Order)
  | restart (specialId : Int) (requested requester : String)
      (time : Option Calendar.Timestamp)

namespace Operation

/-- The order of an operation and what it is carried out for.  A restart has an order by number,
which depends on the record that it finds. -/
def order? : Operation → Option (Order × Preparation.Kind)
  | run order => some (order, .direct)
  | call s _ => some (s.order, .sendThrough)
  | receive order => some (order, .recvThrough)
  | restart .. => none

/-- What the sessions of an operation are for. -/
def through (op : Operation) : Through :=
  match op.order? with
  | some (_, kind) => kind.through
  | none => .none

/-- Whether an operation is ordered in full, under a rule. -/
def IsUnder (ctx : Context) (op : Operation) (rule : Rule) : Prop :=
  ∃ order kind, op.order? = some (order, kind) ∧ order.fixedId = none ∧
    ctx.rules.resolve (order.rule.getD "") = .ok rule

/-- Whether a trace is one of an operation. -/
def Runs (ctx : Context) (t : Trace) : Operation → Prop
  | run order => ∃ outcome, Run (Delivery.run ctx order) t outcome
  | call s c => ∃ result, Run (s.answer ctx c) t result
  | receive order => ∃ outcome, Run (Stream.receive ctx order) t outcome
  | restart specialId requested requester time =>
      ∃ outcome, Run (Intervention.restart ctx specialId requested requester time) t outcome

/-- What the attempts of an operation are for, and when this agrees with the modes of the records
that they ask for. -/
structure Plays (ctx : Context) (op : Operation) (t : Trace) : Prop where
  /-- Every session is for what the operation is for. -/
  through : ∀ a ∈ t.attempts, a.1 = op.through
  /-- Every record is in the mode in which the ledger gave out the last one, so the attempts agree
  with their records just when this one suits the operation. -/
  given : t.attempts ≠ [] → ∃ r, t.given? = some r ∧ (∀ a ∈ t.attempts, a.2.mode = r.mode) ∧
    (t.Agrees ↔ op.through.Suits r.mode)
  /-- Under a rule a stream agrees, and a transfer of files does unless the rule is for streams. -/
  ordered : t.attempts ≠ [] → ∀ rule, op.IsUnder ctx rule →
    (t.Agrees ↔ (op.through = .none → rule.mode.isThrough = false))

variable {ctx : Context} {op : Operation} {t : Trace}

/-- What an operation says about the mode of its record. -/
def Knows (ctx : Context) (op : Operation) (m : Mode) : Prop :=
  ∀ order kind, op.order? = some (order, kind) → Preparation.Allots ctx order kind m

/-- The mode that an order allots is one that its operation knows of. -/
theorem knows_of_allots {order : Order} {kind : Preparation.Kind} {m : Mode}
    (horder : op.order? = some (order, kind)) (h : Preparation.Allots ctx order kind m) :
    op.Knows ctx m := by
  intro order' kind' horder'
  obtain ⟨⟩ := Option.some.inj (horder.symm.trans horder')
  exact h

/-- Every operation brings the record that was given to it, for the stream that it is about. -/
theorem brings_of_runs (h : op.Runs ctx t) (hmodes : t.KeepsModes) :
    t.Brings op.through (op.Knows ctx) := by
  cases op with
  | run order =>
      obtain ⟨outcome, h⟩ := h
      exact (Delivery.brings_of_run_carryOut h hmodes).imp fun _ => knows_of_allots rfl
  | call s c =>
      obtain ⟨⟨reply, s'⟩, h⟩ := h
      exact (Stream.Sender.brings_of_run_answer h hmodes).imp fun _ => knows_of_allots rfl
  | receive order =>
      obtain ⟨outcome, h⟩ := h
      exact (Delivery.brings_of_run_carryOut h hmodes).imp fun _ => knows_of_allots rfl
  | restart specialId requested requester time =>
      obtain ⟨outcome, h⟩ := h
      refine (Intervention.brings_of_run_restart h hmodes).imp fun m _ => ?_
      rintro order kind ⟨⟩

/-- Whatever the ledger and the partners answer, the attempts of an operation agree with the modes
of their records just when the record that the ledger gave out suits the operation, which a record
under a rule does unless files are to be transferred by a rule for streams. -/
theorem roles_of_attempts (ctx : Context) (op : Operation) {t : Trace} (h : op.Runs ctx t)
    (hmodes : t.KeepsModes) : Plays ctx op t := by
  cases brings_of_runs h hmodes with
  | nothing hnone =>
      refine ⟨?_, fun hne => absurd hnone hne, fun hne => absurd hnone hne⟩
      rw [hnone]
      exact List.forall_mem_nil _
  | given hgiven hknown hattempts =>
      refine ⟨fun a ha => (hattempts a ha).1, fun hne => ?_, fun hne => ?_⟩
      · exact ⟨_, hgiven, fun a ha => (hattempts a ha).2, Trace.agrees_iff hne hattempts⟩
      · rintro rule ⟨order, kind, horder, hnew, hrule⟩
        have hthrough : op.through = kind.through := by rw [through, horder]
        rw [Trace.agrees_iff hne hattempts, Through.suits_iff, hthrough, eq_comm]
        exact (hknown order kind horder).through_eq_iff hnew hrule

/-! ## A stream that is sent by the number of a file to receive -/

/-- The record of a file that is to be received. -/
def sampleRecord : Record :=
  { (default : Record) with key := Intervention.sampleKey, mode := .recv, status := .running }

/-- The order for its transfer, by number. -/
def sampleOrder : Order :=
  { (default : Order) with partner := "there", fileInfo := noFileInfo, fixedId := some 7 }

/-- The record after the transfer failed. -/
def sampleFailure : Record :=
  { sampleRecord with ignoreSave := true }.setInError .connectionImpossible (some "refused")
    Intervention.sampleNow

/-- What happens when it is ordered as a stream to be sent, and the partner refuses. -/
def sampleTrace : Trace :=
  [⟨.ledger (.load Intervention.sampleKey), some sampleRecord⟩,
    ⟨.ledger (.update sampleRecord), .ok ()⟩,
    ⟨.ledger (.update { sampleRecord with ignoreSave := true }), .ok ()⟩,
    ⟨.connect ⟨Intervention.samplePeer, some { sampleRecord with ignoreSave := true }, .send⟩,
      .fatal .connectionImpossible "refused"⟩,
    ⟨.now, Intervention.sampleNow⟩,
    ⟨.ledger (.update sampleFailure), .ok ()⟩,
    ⟨.reportFailure sampleFailure, ()⟩,
    ⟨.ledger (.delete Intervention.sampleKey), .ok true⟩]

theorem runs_sampleTrace :
    (call { order := sampleOrder } .initiate).Runs Intervention.sampleContext sampleTrace := by
  have hprepare : Run (Preparation.prepare Intervention.sampleContext sampleOrder .sendThrough)
      (sampleTrace.take 3)
      (.ok ⟨Intervention.samplePeer, { sampleRecord with ignoreSave := true }, false⟩) :=
    Run.step (Run.step (Run.step (Run.done _)))
  have hconnect : Run (Delivery.connect Intervention.sampleContext.policy .send
      ⟨Intervention.samplePeer, { sampleRecord with ignoreSave := true }, false⟩)
      (sampleTrace.drop 3)
      (.error (.failed .connectionImpossible "refused" (some sampleFailure))) := by
    rw [Delivery.connect, show Intervention.sampleContext.policy.attempts = 2 + 1 from rfl,
      Delivery.tryConnect]
    exact Run.step (Run.step (Run.step (Run.step (Run.step (Run.done _)))))
  have hinitiate : Run (Stream.Sender.initiate Intervention.sampleContext { order := sampleOrder })
      sampleTrace (.error (.failed .connectionImpossible "refused" (some sampleFailure)),
        { order := sampleOrder, finished := true }) :=
    Run.bind_iff.2 ⟨_, _, _, rfl, hprepare,
      Run.bind_iff.2 ⟨_, _, [], (List.append_nil _).symm, hconnect, Run.done _⟩⟩
  exact ⟨_, Run.bind_iff.2 ⟨_, _, [], (List.append_nil _).symm, hinitiate, Run.done _⟩⟩

/-- A ledger with this record could have answered so. -/
theorem kept_sampleTrace : Kept sampleTrace { records := [sampleRecord] } {} :=
  ⟨_, rfl, _, rfl, _, rfl, _, rfl, _, rfl, _, rfl, _, rfl, _, rfl, rfl⟩

theorem roles_of_attempts_sample :
    (call { order := sampleOrder } .initiate).Runs Intervention.sampleContext sampleTrace ∧
    sampleTrace.KeepsModes ∧
    Plays Intervention.sampleContext (call { order := sampleOrder } .initiate) sampleTrace ∧
    sampleTrace.attempts.map (fun a => (a.1, a.2.mode)) = [(.send, .recv)] ∧
    ¬sampleTrace.Agrees :=
  ⟨runs_sampleTrace, kept_sampleTrace.keepsModes,
    roles_of_attempts _ _ runs_sampleTrace kept_sampleTrace.keepsModes, rfl, by decide⟩

end Operation

end Courier
