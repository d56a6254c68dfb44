import Courier.Delivery.Outcome
import Courier.Proofs.Session.Conduct

/-!
# Two runs in step

Two runs of programs are compared that begin with the same ledger and the same files.  Their
clocks need not agree, and one partner may answer differently.  What partners answer otherwise
depends only on what they were asked before, so that the runs stay in step as long as they ask
the same, times aside.

Main definitions:

- `Surroundings` answer all requests, the transport from the calls on the same partner so far;
  `Scene` is what changes along a run, and `Program.runIn` runs a program in its surroundings.
- `Record.timeless` and its likes leave times out.
- `Comparison` is a pair of surroundings that differ in their clocks and in one partner only.
- `Comparison.Similar` says that two scenes differ only in times and in what is about this
  partner, and `Comparison.InStep` that two programs keep scenes similar.

Main statements:

- Programs that are in step are composed (`inStep_bind`), and requests that are the same but for
  times are in step unless they are for the partner that may differ.
- A trace that only concerns this partner leaves the scene similar (`similar_of_follows`).
-/

namespace Courier

open Program Calendar

/-! ## Leaving times out -/

/-- A record without its times. -/
def Record.timeless (r : Record) : Record :=
  { r with startTime := default, updatedAt := default }

/-- What a session is opened for, without times. -/
def Connect.timeless (c : Connect) : Connect :=
  { c with record := c.record.map Record.timeless }

/-- An outcome without times. -/
def Outcome.timeless (o : Outcome) : Outcome :=
  { o with record := o.record.map Record.timeless }

namespace Record

variable {r r' : Record}

/-- Records that are alike but for their times are the same in all else. -/
theorem key_of_timeless (h : r.timeless = r'.timeless) : r.key = r'.key :=
  show r.timeless.key = r'.timeless.key from h ▸ rfl

theorem status_of_timeless (h : r.timeless = r'.timeless) : r.status = r'.status :=
  show r.timeless.status = r'.timeless.status from h ▸ rfl

theorem rank_of_timeless (h : r.timeless = r'.timeless) : r.rank = r'.rank :=
  show r.timeless.rank = r'.timeless.rank from h ▸ rfl

theorem ignoreSave_of_timeless (h : r.timeless = r'.timeless) : r.ignoreSave = r'.ignoreSave :=
  show r.timeless.ignoreSave = r'.timeless.ignoreSave from h ▸ rfl

theorem isAllDone_of_timeless (h : r.timeless = r'.timeless) : r.isAllDone = r'.isAllDone := by
  rw [isAllDone, isAllDone, status_of_timeless h]

/-- What is found in two places is nothing, or two records that are alike but for their times. -/
theorem none_or_some_of_timeless {a a' : Option Record}
    (h : a.map timeless = a'.map timeless) :
    (a = none ∧ a' = none) ∨ ∃ r r', a = some r ∧ a' = some r' ∧ r.timeless = r'.timeless := by
  cases a with
  | none => exact .inl ⟨rfl, Option.map_eq_none_iff.1 h.symm⟩
  | some r =>
      obtain ⟨r', ha', halike⟩ := Option.map_eq_some_iff.1 h.symm
      exact .inr ⟨r, r', rfl, ha', halike.symm⟩

/-- A change of records that is told by the record without times and by the time. -/
theorem timeless_setRunning (h : r.timeless = r'.timeless) (now now' : Moment) :
    (r.setRunning now).timeless = (r'.setRunning now').timeless :=
  congrArg (fun r => r.setRunning default) h

/-- Records that differ in their times only still do when both are done. -/
theorem timeless_setDone (h : r.timeless = r'.timeless) (now now' : Moment) :
    (r.setDone now).timeless = (r'.setDone now').timeless :=
  congrArg (fun r => r.setDone default) h

/-- Records that differ in their times only still do when both have failed in the same way. -/
theorem timeless_setInError (h : r.timeless = r'.timeless) (code : ResultCode)
    (message : Option String) (now now' : Moment) :
    (r.setInError code message now).timeless = (r'.setInError code message now').timeless :=
  congrArg (fun r => r.setInError code message default) h

/-- Records that differ in their times only still do when both have come as far. -/
theorem timeless_ranked (h : r.timeless = r'.timeless) (rank : Nat) (now now' : Moment) :
    timeless { r with rank := rank, updatedAt := now } =
      timeless { r' with rank := rank, updatedAt := now' } :=
  congrArg (fun r => ({ r with rank := rank } : Record)) h

end Record

namespace Outcome

variable {r r' : Record} {o o' : Outcome}

/-- Outcomes that are alike but for times are the same but for their records. -/
theorem fields_of_timeless (h : o.timeless = o'.timeless) :
    o.success = o'.success ∧ o.code = o'.code ∧ o.cause = o'.cause :=
  ⟨show o.timeless.success = o'.timeless.success from h ▸ rfl,
    show o.timeless.code = o'.timeless.code from h ▸ rfl,
    show o.timeless.cause = o'.timeless.cause from h ▸ rfl⟩

/-- Outcomes with records that are alike but for their times. -/
theorem timeless_succeeded (h : r.timeless = r'.timeless) (code : ResultCode) :
    (succeeded code (some r)).timeless = (succeeded code (some r')).timeless := by
  simp only [timeless, succeeded, Option.map_some, h]

/-- Failures are alike when their records are. -/
theorem timeless_failed (h : r.timeless = r'.timeless) (code : ResultCode) (cause : String) :
    (failed code cause (some r)).timeless = (failed code cause (some r')).timeless := by
  simp only [timeless, failed, Option.map_some, h]

theorem timeless_withCause (h : o.timeless = o'.timeless) (cause : String) :
    (o.withCause cause).timeless = (o'.withCause cause).timeless :=
  congrArg (fun o => o.withCause cause) h

end Outcome

/-! ## Updates of a ledger -/

/-- The record that an update by another one leaves. -/
def Record.updated (stored r : Record) : Record :=
  if stored.isAllDone ∨ (stored.status = .running ∧ r.status = .running ∧ r.rank < stored.rank) then
    stored
  else r

/-- Records that are alike but for times are updated alike. -/
theorem Record.timeless_updated {stored stored' r r' : Record}
    (hstored : stored.timeless = stored'.timeless) (h : r.timeless = r'.timeless) :
    (stored.updated r).timeless = (stored'.updated r').timeless := by
  unfold updated
  rw [isAllDone_of_timeless hstored, status_of_timeless hstored, rank_of_timeless hstored,
    status_of_timeless h, rank_of_timeless h]
  split
  · exact hstored
  · exact h

namespace Ledger

variable {l : Ledger} {r : Record} {key : Record.Key}

/-- A new record is found under its own key, and all others as before. -/
theorem find?_create (d : Draft) (now : Moment) :
    (l.create d now).2.find? key =
      if key = (d.toRecord l.freshId now).key then some (d.toRecord l.freshId now)
      else l.find? key := by
  split
  · next h =>
      subst h
      exact find?_put_self l _
  · next h => exact find?_put_of_ne l h

/-- An update puts the record in its place or changes nothing. -/
theorem perform_update_eq_or :
    (l.perform (.update r)).2 = l ∨ (l.perform (.update r)).2 = l.put r := by
  simp only [perform, update]
  cases l.find? r.key with
  | none => exact .inl rfl
  | some stored =>
      dsimp only
      split
      · next hok =>
          split at hok
          · cases hok
          · split at hok
            · cases hok
            · cases hok
              exact .inr rfl
      · exact .inl rfl

/-- An update gives out no number. -/
theorem nextId_perform_update : (l.perform (.update r)).2.nextId = l.nextId := by
  rcases perform_update_eq_or (l := l) (r := r) with h | h <;> rw [h]
  rfl

/-- An update is about its own key. -/
theorem find?_perform_update_of_ne (h : key ≠ r.key) :
    (l.perform (.update r)).2.find? key = l.find? key := by
  rcases perform_update_eq_or (l := l) (r := r) with hsame | hput
  · rw [hsame]
  · rw [hput, find?_put_of_ne l h]

/-- Whatever is answered to an update, the record that it leaves is told by the stored one and
the new one, times aside. -/
theorem find?_perform_update_self :
    (l.perform (.update r)).2.find? r.key = (l.find? r.key).map fun stored => stored.updated r := by
  simp only [perform, update]
  cases hfound : l.find? r.key with
  | none => exact hfound
  | some stored =>
      simp only [Option.map_some, Record.updated]
      by_cases hdone : stored.isAllDone = true
      · by_cases hsame : stored = r
        · subst hsame
          simp [hdone, find?_put_self]
        · simp [hdone, hsame, hfound]
      · by_cases hbehind : stored.status = .running ∧ r.status = .running ∧ r.rank < stored.rank
        · simp [hdone, hbehind, hfound]
        · simp [hdone, hbehind, find?_put_self]

end Ledger

/-! ## Surroundings -/

/-- What partners answer to attempts to open a session and to calls on an open one.  A partner
knows what it was asked before and what it answered, times aside, and nothing else. -/
structure Transport where
  connect : String → List Exchange → Connect → Connect.Result
  reply : String → List Exchange → (r : Request) → r.Answer

/-- What a program can learn from. -/
structure Surroundings where
  /-- The moments that are told, one after the other. -/
  clock : Nat → Moment
  /-- The fractions of a second that are told. -/
  fraction : Nat → Nat
  /-- What is answered about files, which do not change. -/
  tree : (op : FileOp) → op.Answer
  transport : Transport

/-- What changes along a run. -/
structure Scene where
  ledger : Ledger
  /-- How often the time was asked for. -/
  readings : Nat := 0
  /-- What each partner was asked and what it answered, times aside. -/
  calls : String → List Exchange := fun _ => []
  /-- Whom each session is with; the last one to have opened it, should there be several. -/
  partnerOf : Session → String := fun _ => ""

namespace Scene

/-- A partner was asked something. -/
def asked (s : Scene) (host : String) (x : Exchange) : Scene :=
  { s with calls := fun other => if other = host then s.calls host ++ [x] else s.calls other }

/-- An attempt was made to open a session. -/
def tried (s : Scene) (c : Connect) (result : Connect.Result) : Scene :=
  { s.asked c.partner.hostId ⟨.connect c.timeless, result⟩ with
    partnerOf := match result with
      | .connected session =>
          fun other => if other = session then c.partner.hostId else s.partnerOf other
      | _ => s.partnerOf }

@[simp] theorem ledger_asked (s : Scene) (host : String) (x : Exchange) :
    (s.asked host x).ledger = s.ledger := rfl

@[simp] theorem partnerOf_asked (s : Scene) (host : String) (x : Exchange) :
    (s.asked host x).partnerOf = s.partnerOf := rfl

@[simp] theorem ledger_tried (s : Scene) (c : Connect) (result : Connect.Result) :
    (s.tried c result).ledger = s.ledger := rfl

/-- A question to one partner is not among the calls of another. -/
theorem calls_asked_of_ne (s : Scene) {host other : String} (x : Exchange) (h : other ≠ host) :
    (s.asked host x).calls other = s.calls other :=
  if_neg h

/-- An attempt with one partner is not among the calls of another. -/
theorem calls_tried_of_ne (s : Scene) {c : Connect} (result : Connect.Result) {other : String}
    (h : other ≠ c.partner.hostId) : (s.tried c result).calls other = s.calls other :=
  if_neg h

/-- A session that was opened belongs to the partner that was called. -/
theorem partnerOf_tried (s : Scene) (c : Connect) (session : Session) :
    (s.tried c (.connected session)).partnerOf session = c.partner.hostId :=
  if_pos rfl

end Scene

namespace Surroundings

/-- A call on an open session. -/
def call (e : Surroundings) (session : Session) (r : Request) : StateM Scene r.Answer := fun s =>
  let answer := e.transport.reply (s.partnerOf session) (s.calls (s.partnerOf session)) r
  (answer, s.asked (s.partnerOf session) ⟨r, answer⟩)

/-- Answer a request. -/
def answer (e : Surroundings) : (r : Request) → StateM Scene r.Answer
  | .now => fun s => (e.clock s.readings, { s with readings := s.readings + 1 })
  | .clockFraction => fun s => (e.fraction s.readings, { s with readings := s.readings + 1 })
  | .files op => fun s => (e.tree op, s)
  | .ledger op => fun s => ((s.ledger.perform op).1, { s with ledger := (s.ledger.perform op).2 })
  | .reportFailure _ | .reportProgress _ | .tally _ | .sleep _ => fun s => ((), s)
  | .connect c => fun s =>
      let result := e.transport.connect c.partner.hostId (s.calls c.partner.hostId) c.timeless
      (result, s.tried c result)
  | .send session packet flush => e.call session (.send session packet flush)
  | .writable session => e.call session (.writable session)
  | .complete session timeout => e.call session (.complete session timeout)
  | .ask session packet timeout => e.call session (.ask session packet timeout)
  | .close session => e.call session (.close session)

end Surroundings

namespace Program

variable {α β : Type}

/-- Run a program in its surroundings: the value that it ends with, and the scene then. -/
def runIn (e : Surroundings) (p : Program α) (s : Scene) : α × Scene :=
  (p.runM e.answer).run s

/-- One program after the other starts in the scene that the first one leaves. -/
theorem runIn_bind (e : Surroundings) (p : Program α) (f : α → Program β) (s : Scene) :
    runIn e (p >>= f) s = runIn e (f (runIn e p s).1) (runIn e p s).2 := by
  simp only [runIn, runM_bind]
  rfl

/-- Whether a trace leads from one scene to another one in some surroundings. -/
def Follows (e : Surroundings) : Scene → Trace → Scene → Prop
  | s, [], s' => s' = s
  | s, x :: t, s' => x.answer = (e.answer x.request s).1 ∧
      Follows e (e.answer x.request s).2 t s'

/-- What happens in some surroundings is a run. -/
theorem exists_follows (e : Surroundings) (p : Program α) (s : Scene) :
    ∃ t, Run p t (runIn e p s).1 ∧ Follows e s t (runIn e p s).2 := by
  induction p generalizing s with
  | done a => exact ⟨[], .done a, rfl⟩
  | step r next ih =>
      obtain ⟨t, hrun, hfollows⟩ := ih (e.answer r s).1 (e.answer r s).2
      exact ⟨⟨r, (e.answer r s).1⟩ :: t, .step hrun, rfl, hfollows⟩

end Program

/-! ## Comparisons -/

/-- Whether a key is that of a transfer that this host has asked a partner for. -/
def Directory.IsOwn (d : Directory) (host : String) (key : Record.Key) : Prop :=
  key.requested = host ∧ d.isLocal key.requester = true

/-- Two surroundings, with the same hosts and rules, that differ only in their clocks and in what
one partner answers. -/
structure Comparison where
  ctx : Context
  /-- The partner whose answers may differ. -/
  odd : String
  left : Surroundings
  right : Surroundings
  tree : left.tree = right.tree
  connect : ∀ host, host ≠ odd → left.transport.connect host = right.transport.connect host
  reply : ∀ host, host ≠ odd → left.transport.reply host = right.transport.reply host

namespace Comparison

variable (c : Comparison)

/-- Whether two scenes differ only in times and in what is about the odd partner.  A session may
be held, and then it is with the same partner in both. -/
structure Similar (held : Option (Session × String)) (s s' : Scene) : Prop where
  nextId : s.ledger.nextId = s'.ledger.nextId
  records : ∀ key, ¬c.ctx.hosts.IsOwn c.odd key →
    (s.ledger.find? key).map Record.timeless = (s'.ledger.find? key).map Record.timeless
  calls : ∀ host, host ≠ c.odd → s.calls host = s'.calls host
  held : ∀ session host, held = some (session, host) →
    s.partnerOf session = host ∧ s'.partnerOf session = host

/-- Whether two programs, run in the two surroundings, keep scenes similar and end with values
that are related; `after` tells which session is held at the end. -/
def InStep {α : Type} (held : Option (Session × String)) (p p' : Program α) (Q : α → α → Prop)
    (after : α → Option (Session × String)) : Prop :=
  ∀ s s', c.Similar held s s' →
    Q (runIn c.left p s).1 (runIn c.right p' s').1 ∧
      c.Similar (after (runIn c.left p s).1) (runIn c.left p s).2 (runIn c.right p' s').2

variable {c} {α β : Type} {held : Option (Session × String)}

namespace Similar

variable {s s' s'' : Scene}

/-- Every scene is similar to itself. -/
theorem refl (s : Scene) : c.Similar none s s :=
  ⟨rfl, fun _ _ => rfl, fun _ _ => rfl, by simp⟩

theorem symm (h : c.Similar none s s') : c.Similar none s' s :=
  ⟨h.nextId.symm, fun key hkey => (h.records key hkey).symm,
    fun host hhost => (h.calls host hhost).symm, by simp⟩

/-- Similarity is passed on, so that a third run can be compared with the first. -/
theorem trans (h : c.Similar none s s') (h' : c.Similar none s' s'') : c.Similar none s s'' :=
  ⟨h.nextId.trans h'.nextId, fun key hkey => (h.records key hkey).trans (h'.records key hkey),
    fun host hhost => (h.calls host hhost).trans (h'.calls host hhost), by simp⟩

/-- The session that is held may be let go. -/
theorem letGo (h : c.Similar held s s') : c.Similar none s s' :=
  ⟨h.nextId, h.records, h.calls, by simp⟩

end Similar

/-! ## Composition -/

theorem inStep_done {a a' : α} {Q : α → α → Prop} {after : α → Option (Session × String)}
    (h : Q a a') (hafter : after a = held) : c.InStep held (.done a) (.done a') Q after :=
  fun _ _ hsimilar => ⟨h, hafter ▸ hsimilar⟩

/-- Programs in step, followed by programs in step, are in step. -/
theorem inStep_bind {p p' : Program α} {f f' : α → Program β} {Q : α → α → Prop}
    {R : β → β → Prop} {between : α → Option (Session × String)}
    {after : β → Option (Session × String)} (hp : c.InStep held p p' Q between)
    (hf : ∀ a a', Q a a' → c.InStep (between a) (f a) (f' a') R after) :
    c.InStep held (p >>= f) (p' >>= f') R after := by
  intro s s' hsimilar
  obtain ⟨hvalue, hbetween⟩ := hp s s' hsimilar
  rw [runIn_bind, runIn_bind]
  exact hf _ _ hvalue _ _ hbetween

/-- What is known of the values may be weakened. -/
theorem InStep.imp {p p' : Program α} {Q R : α → α → Prop}
    {after : α → Option (Session × String)} (h : c.InStep held p p' Q after)
    (hQ : ∀ a a', Q a a' → R a a') : c.InStep held p p' R after :=
  fun s s' hsimilar => ⟨hQ _ _ (h s s' hsimilar).1, (h s s' hsimilar).2⟩

/-! ## Requests to nobody else -/

/-- The clocks may differ: they are only asked for times, which are left out. -/
theorem inStep_now : c.InStep held now now (fun _ _ => True) fun _ => held :=
  fun _ _ h => ⟨trivial, h.nextId, h.records, h.calls, h.held⟩

theorem inStep_clockFraction :
    c.InStep held (perform .clockFraction) (perform .clockFraction) (fun _ _ => True)
      fun _ => held :=
  fun _ _ h => ⟨trivial, h.nextId, h.records, h.calls, h.held⟩

/-- The file systems are the same, and so are their answers. -/
theorem inStep_files (op : FileOp) :
    c.InStep held (perform (.files op)) (perform (.files op)) Eq fun _ => held :=
  fun _ _ h => ⟨congrFun c.tree op, h⟩

/-- Nobody notices how long a run sleeps. -/
theorem inStep_sleep (d d' : Span) :
    c.InStep held (sleep d) (sleep d') (fun _ _ => True) fun _ => held :=
  fun _ _ h => ⟨trivial, h⟩

/-- The hook for failures is called on both sides, with records that may differ in their times. -/
theorem inStep_reportFailure (r r' : Record) :
    c.InStep held (perform (.reportFailure r)) (perform (.reportFailure r')) (fun _ _ => True)
      fun _ => held :=
  fun _ _ h => ⟨trivial, h⟩

theorem inStep_reportProgress (p p' : Progress) :
    c.InStep held (perform (.reportProgress p)) (perform (.reportProgress p')) (fun _ _ => True)
      fun _ => held :=
  fun _ _ h => ⟨trivial, h⟩

/-- A program that only asks for files finds the same. -/
theorem inStep_of_asks {p : Program α} (h : Asks (fun r => ∃ op, r = .files op) p) :
    c.InStep held p p Eq fun _ => held := by
  induction p with
  | done a => exact inStep_done rfl rfl
  | step r next ih =>
      obtain ⟨⟨op, rfl⟩, hnext⟩ := h
      refine inStep_bind (inStep_files op) fun answer _ hsame => ?_
      subst hsame
      exact ih answer (hnext answer)

/-! ## Requests about records -/

/-- What a ledger answers to a draft, in both scenes. -/
inductive Created (d : Draft) :
    Except TransferFault Record → Except TransferFault Record → Prop where
  | created {r r' : Record} (halike : r.timeless = r'.timeless)
      (hrequester : r.key.requester = d.requester) (hrequested : r.key.requested = d.requested) :
      Created d (.ok r) (.ok r')

/-- New transfers get the same number. -/
theorem inStep_create (d : Draft) (now now' : Moment) :
    c.InStep held (ledger (.create d now)) (ledger (.create d now')) (Created d)
      fun _ => held := by
  intro s s' h
  have hfresh : s.ledger.freshId = s'.ledger.freshId := by
    rw [Ledger.freshId, Ledger.freshId, h.nextId]
  have halike : (d.toRecord s.ledger.freshId now).timeless =
      (d.toRecord s'.ledger.freshId now').timeless := by
    rw [hfresh]
    rfl
  refine ⟨.created halike rfl rfl, ?_, fun key hkey => ?_, h.calls, h.held⟩
  · show s.ledger.freshId + 1 = s'.ledger.freshId + 1
    rw [hfresh]
  · show ((s.ledger.create d now).2.find? key).map _ = ((s'.ledger.create d now').2.find? key).map _
    rw [Ledger.find?_create, Ledger.find?_create, Record.key_of_timeless halike]
    split
    · exact congrArg some halike
    · exact h.records key hkey

/-- An update that is not about the odd partner. -/
theorem inStep_update {r r' : Record} (halike : r.timeless = r'.timeless)
    (hkey : ¬c.ctx.hosts.IsOwn c.odd r.key) :
    c.InStep held (ledger (.update r)) (ledger (.update r'))
      (fun _ _ => True) fun _ => held := by
  intro s s' h
  refine ⟨trivial, ?_, fun key hother => ?_, h.calls, h.held⟩
  · exact Ledger.nextId_perform_update.trans (h.nextId.trans Ledger.nextId_perform_update.symm)
  · show ((s.ledger.perform (.update r)).2.find? key).map _ =
      ((s'.ledger.perform (.update r')).2.find? key).map _
    by_cases hsame : key = r.key
    · have hstored := h.records r.key hkey
      have hself := Ledger.find?_perform_update_self (l := s'.ledger) (r := r')
      rw [← Record.key_of_timeless halike] at hself
      rw [hsame, Ledger.find?_perform_update_self, hself]
      rcases Record.none_or_some_of_timeless hstored with
        ⟨hleft, hright⟩ | ⟨stored, stored', hleft, hright, hstored'⟩
      · rw [hleft, hright]
        rfl
      · rw [hleft, hright]
        exact congrArg some (Record.timeless_updated hstored' halike)
    · rw [Ledger.find?_perform_update_of_ne hsame,
        Ledger.find?_perform_update_of_ne (Record.key_of_timeless halike ▸ hsame)]
      exact h.records key hother

/-- A record is taken out on both sides, or on neither. -/
theorem inStep_delete (key : Record.Key) :
    c.InStep held (ledger (.delete key)) (ledger (.delete key))
      (fun _ _ => True) fun _ => held := by
  intro s s' h
  refine ⟨trivial, h.nextId, fun other hother => ?_, h.calls, h.held⟩
  show ((s.ledger.erase key).find? other).map _ = ((s'.ledger.erase key).find? other).map _
  by_cases hsame : other = key
  · rw [hsame, Ledger.find?_erase_self, Ledger.find?_erase_self]
  · rw [Ledger.find?_erase_of_ne _ hsame, Ledger.find?_erase_of_ne _ hsame]
    exact h.records other hother

/-! ## Requests to partners -/

/-- A partner other than the odd one was asked the same and answered the same. -/
theorem Similar.asked {s s' : Scene} (h : c.Similar held s s') (host : String) (x : Exchange) :
    c.Similar held (s.asked host x) (s'.asked host x) := by
  refine ⟨h.nextId, h.records, fun other hother => ?_, h.held⟩
  by_cases hsame : other = host
  · subst hsame
    simp only [Scene.asked, if_true, h.calls other hother]
  · rw [Scene.calls_asked_of_ne s x hsame, Scene.calls_asked_of_ne s' x hsame]
    exact h.calls other hother

/-- The session that an attempt opened, and whom it is with. -/
def heldAfter (host : String) (result : Connect.Result) : Option (Session × String) :=
  match result with
  | .connected session => some (session, host)
  | _ => none

/-- Attempts to reach a partner other than the odd one. -/
theorem inStep_connect {a a' : Connect} (halike : a.timeless = a'.timeless)
    (hhost : a.partner.hostId ≠ c.odd) :
    c.InStep none (perform (.connect a)) (perform (.connect a')) Eq
      (heldAfter a.partner.hostId) := by
  intro s s' h
  have hpartner : a.partner = a'.partner := show a.timeless.partner = a'.timeless.partner from
    halike ▸ rfl
  have hresult : (c.left.answer (.connect a) s).1 = (c.right.answer (.connect a') s').1 := by
    show c.left.transport.connect a.partner.hostId _ _ = c.right.transport.connect _ _ _
    rw [← hpartner, c.connect _ hhost, h.calls _ hhost, halike]
  refine ⟨hresult, ?_⟩
  show c.Similar (heldAfter _ (c.left.answer (.connect a) s).1)
    (s.tried a (c.left.answer (.connect a) s).1) (s'.tried a' (c.right.answer (.connect a') s').1)
  rw [← hresult]
  generalize (c.left.answer (.connect a) s).1 = result
  obtain ⟨nextId, records, calls, -⟩ := h.asked a.partner.hostId ⟨.connect a.timeless, result⟩
  refine ⟨nextId, records, fun other hother => ?_, ?_⟩
  · have hcalls := calls other hother
    show (s.asked _ _).calls other = (s'.asked _ _).calls other
    rw [← hpartner, ← halike]
    exact hcalls
  · intro session host hheld
    cases result with
    | connected session' =>
        obtain ⟨rfl, rfl⟩ := Prod.mk.inj (Option.some.inj hheld)
        exact ⟨Scene.partnerOf_tried s a session', hpartner ▸ Scene.partnerOf_tried s' a' session'⟩
    | _ => cases hheld

/-- A call on a session that is held with a partner other than the odd one. -/
theorem Similar.call {s s' : Scene} {session : Session} {host : String}
    (h : c.Similar (some (session, host)) s s') (hhost : host ≠ c.odd) (r : Request) :
    (c.left.call session r s).1 = (c.right.call session r s').1 ∧
      c.Similar (some (session, host)) (c.left.call session r s).2
        (c.right.call session r s').2 := by
  obtain ⟨hleft, hright⟩ := h.held session host rfl
  simp only [Surroundings.call, hleft, hright, c.reply host hhost, h.calls host hhost, true_and]
  exact h.asked host _

/-- The partner that holds the session has had the same calls on both sides, so it answers alike. -/
theorem inStep_complete (session : Session) (timeout : Option Span) {host : String}
    (hhost : host ≠ c.odd) :
    c.InStep (some (session, host))
      (perform (.complete session timeout)) (perform (.complete session timeout)) Eq
      fun _ => some (session, host) :=
  fun _ _ h => h.call hhost _

/-- After a session is closed, none is held. -/
theorem inStep_close (session : Session) {host : String} (hhost : host ≠ c.odd) :
    c.InStep (some (session, host)) (close session) (close session) Eq fun _ => none :=
  fun _ _ h => ⟨(h.call hhost _).1, (h.call hhost _).2.letGo⟩

/-! ## Requests that concern the odd partner only -/

/-- Whether a request files, takes out or calls nothing that is not about the odd partner. -/
def Concerns (c : Comparison) : Request → Prop
  | .ledger (.update r) => c.ctx.hosts.IsOwn c.odd r.key
  | .ledger (.delete key) => c.ctx.hosts.IsOwn c.odd key
  | .ledger _ => False
  | .connect a => a.partner.hostId = c.odd
  | _ => True

variable {e : Surroundings} {s s' : Scene} {r : Request}

/-- A call of the odd partner is seen by nobody else. -/
theorem similar_asked (s : Scene) (x : Exchange) : c.Similar none s (s.asked c.odd x) :=
  ⟨rfl, fun _ _ => rfl, fun _ hhost => (Scene.calls_asked_of_ne s x hhost).symm, by simp⟩

/-- Neither is anything else that concerns it only. -/
theorem similar_answer (h : c.Concerns r)
    (hcalled : ∀ session, r.called? = some session ∨ r.closed? = some session →
      s.partnerOf session = c.odd) : c.Similar none s (e.answer r s).2 := by
  have hcall : ∀ session (r : Request), s.partnerOf session = c.odd →
      c.Similar none s (e.call session r s).2 := by
    intro session r hsession
    show c.Similar none s (s.asked (s.partnerOf session) _)
    rw [hsession]
    exact similar_asked s _
  cases r with
  | ledger op =>
      cases op with
      | update r =>
          refine ⟨Ledger.nextId_perform_update.symm, fun key hkey => ?_, fun _ _ => rfl, by simp⟩
          have hne : key ≠ r.key := fun hsame => hkey (hsame ▸ h)
          exact congrArg _ (Ledger.find?_perform_update_of_ne hne).symm
      | delete key =>
          refine ⟨rfl, fun other hother => ?_, fun _ _ => rfl, by simp⟩
          have hne : other ≠ key := fun hsame => hother (hsame ▸ h)
          exact congrArg _ (Ledger.find?_erase_of_ne _ hne).symm
      | _ => exact h.elim
  | connect a =>
      have hhost : a.partner.hostId = c.odd := h
      exact ⟨rfl, fun _ _ => rfl, fun other hother =>
        (Scene.calls_tried_of_ne s _ (hhost ▸ hother)).symm, by simp⟩
  | send session packet flush => exact hcall session _ (hcalled session (.inl rfl))
  | writable session => exact hcall session _ (hcalled session (.inl rfl))
  | complete session timeout => exact hcall session _ (hcalled session (.inl rfl))
  | ask session packet timeout => exact hcall session _ (hcalled session (.inl rfl))
  | close session => exact hcall session _ (hcalled session (.inr rfl))
  | _ => exact ⟨rfl, fun _ _ => rfl, fun _ _ => rfl, by simp⟩

/-- What an exchange leaves open is with the odd partner, if it was so before. -/
theorem partnerOf_answer {o o' : Option Session} {x : Exchange} (h : c.Concerns x.request)
    (hanswer : x.answer = (e.answer x.request s).1) (hconducts : x.Conducts o o')
    (ho : ∀ session, o = some session → s.partnerOf session = c.odd) :
    ∀ session, o' = some session → (e.answer x.request s).2.partnerOf session = c.odd := by
  rcases x with ⟨r, a⟩
  cases hconducts with
  | opens opened =>
      obtain ⟨attempt, hx⟩ := Exchange.exists_connect_of_opened? opened
      cases hx
      rintro session ⟨⟩
      show (s.tried attempt (e.answer (.connect attempt) s).1).partnerOf _ = c.odd
      rw [← hanswer, Scene.partnerOf_tried]
      exact h
  | closes => exact fun session hsession => nomatch hsession
  | free opened hfree =>
      intro session hsession
      have hbefore := ho session hsession
      cases r with
      | connect attempt =>
          cases a with
          | connected session' => cases opened
          | _ =>
              show (s.tried attempt (e.answer (.connect attempt) s).1).partnerOf _ = c.odd
              rw [← hanswer]
              exact hbefore
      | _ => exact hbefore
  | calls called =>
      intro session hsession
      have hbefore := ho session hsession
      cases r <;> first | exact hbefore | cases called

/-- A trace that is orderly and concerns the odd partner only leaves the scene similar. -/
theorem similar_of_follows {o o' : Option Session} {t : Trace} (h : ∀ x ∈ t, c.Concerns x.request)
    (hconducts : t.Conducts o o') (hfollows : Follows e s t s')
    (ho : ∀ session, o = some session → s.partnerOf session = c.odd) : c.Similar none s s' := by
  induction t generalizing o s with
  | nil =>
      cases hfollows
      exact .refl _
  | cons x t ih =>
      obtain ⟨hanswer, hrest⟩ := hfollows
      obtain ⟨m, hx, ht⟩ := hconducts
      obtain ⟨hconcerns, hothers⟩ := List.forall_mem_cons.1 h
      have hm := partnerOf_answer hconcerns hanswer hx ho
      refine (similar_answer hconcerns fun session hsession => ho session ?_).trans
        (ih hothers ht hrest hm)
      exact hx.open_of_called hsession

/-- So does a program that closes its sessions and concerns the odd partner only. -/
theorem similar_runIn {p : Program α} (h : Asks c.Concerns p)
    (hconducts : Program.Conducts none p fun _ => none) (e : Surroundings) (s : Scene) :
    c.Similar none s (runIn e p s).2 := by
  obtain ⟨t, hrun, hfollows⟩ := exists_follows e p s
  exact similar_of_follows (hrun.request_of_mem h) (hconducts _ _ hrun) hfollows (by simp)

end Comparison

end Courier
