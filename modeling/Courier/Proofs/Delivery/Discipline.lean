import Courier.Proofs.Delivery.Sending

/-!
# Discipline of sessions

Sessions are opened, used and closed in order, whatever the transport answers and whatever a
caller asks of the sender of a stream, in any order and number.  What is said of a sender are
facts about the places in the transcript of all calls: an invariant relates the state of the
sender to what the transcript so far has in it, and every call keeps it.

Main definitions:

- `Sender.play` makes some calls; `Sender.transcript` is all that was asked meanwhile.
- `Sender.sessionAfter` is the session that some calls leave open: the first one to end the
  stream closes it.
- `Sender.Closed` says how the call that ends a stream leaves its session.
- `Sender.Lawful` collects the laws of the calls on one sender.

Main statements:

- Transfers, receptions, single requests and what is made of them conduct sessions in order, and
  all calls on a sender are lawful (`sessions_disciplined`).
-/

namespace Courier

open Program

/-! ## Places in a trace -/

namespace Trace

/-- Whether something holds of every exchange of a trace and all that came before it. -/
def Throughout (P : Trace → Exchange → Prop) : Trace → Trace → Prop
  | _, [] => True
  | before, x :: t => P before x ∧ Throughout P (before ++ [x]) t

variable {P : Trace → Exchange → Prop} {before t u v : Trace} {x : Exchange}

/-- What holds throughout a trace holds throughout its parts, each with what came before. -/
theorem throughout_append :
    Throughout P before (t ++ u) ↔ Throughout P before t ∧ Throughout P (before ++ t) u := by
  induction t generalizing before with
  | nil => simp [Throughout]
  | cons x t ih => simp [Throughout, ih, and_assoc]

/-- It holds at every place. -/
theorem Throughout.at (h : Throughout P before (u ++ x :: v)) : P (before ++ u) x :=
  (throughout_append.1 h).2.1

/-- Whether a block that ends the stream was sent. -/
def endsStream : Exchange → Bool
  | ⟨.send _ (.data b) _, .ok _⟩ => b.eof
  | _ => false

/-- Whether an exchange announces the last block of a transfer. -/
def announcesEnd : Exchange → Bool
  | ⟨.send _ (.endTransfer _) _, _⟩ => true
  | _ => false

/-- Whether the transport reported that a transfer went well. -/
def reportsSuccess : Exchange → Bool
  | ⟨.complete _ _, .ok completion⟩ => completion.success
  | _ => false

/-- Whether an exchange tells the partner of an error. -/
def tellsError : Exchange → Bool
  | ⟨.send _ (.error _ _) _, _⟩ => true
  | _ => false

/-- What has to have happened before an exchange with the session of a stream. -/
def Permits (before : Trace) (x : Exchange) : Prop :=
  match x.request with
  | .connect _ => x.opened? ≠ none → before.openings = []
  | .send s (.data _) _ => ∃ u, before = u ++ [⟨.writable s, .ok ()⟩]
  | .send _ (.endTransfer _) _ =>
      before.any endsStream = true ∧ before.any announcesEnd = false
  | .send _ (.endRequest _) _ => before.any reportsSuccess = true
  | _ => True

end Trace

namespace Stream.Sender

/-! ## Runs of calls -/

/-- Make some calls on a sender, one after the other, against answers that may depend on all
that happened before. -/
def play (ctx : Context) (answer : Trace → (r : Request) → r.Answer) :
    Sender → Trace → List Call → List Turn
  | _, _, [] => []
  | s, before, call :: calls =>
      let run := Program.play (fun t => answer (before ++ t)) (s.answer ctx call)
      ⟨call, run.1.1, run.2⟩ :: play ctx answer run.1.2 (before ++ run.2) calls

/-- All that was asked during some calls. -/
def transcript (turns : List Turn) : Trace :=
  turns.flatMap Turn.trace

/-- The session that is open after a call, given the one before it: a call that ends the stream
leaves none open. -/
def Turn.after (o : Option Session) (turn : Turn) : Option Session :=
  if turn.call.ends then none else o.or turn.trace.openings.head?

/-- The session that is open after some calls. -/
def sessionAfter (turns : List Turn) : Option Session :=
  turns.foldl Turn.after none

/-- How the call that ends a stream leaves its session: it is closed, and nothing is asked of any
session afterwards.  Just before that the partner is told: of the end of the request when the
stream went well, and of an error, once and with the cause of the outcome, when it did not. -/
structure Closed (s : Session) (t : Trace) (outcome : Outcome) : Prop where
  success : outcome.success = true → ∃ u v,
    t = u ++ ⟨.send s (.endRequest .completeOk) true, .ok ()⟩ :: ⟨.close s, ()⟩ :: v ∧
      (∀ x ∈ u, x.request.called? = some s ∧ Trace.tellsError x = false) ∧
      ∀ x ∈ v, x.request.isApart = true
  failure : outcome.success = false → ∃ u v cause result,
    t = u ++ ⟨.send s (.error .transferError cause) true, result⟩ :: ⟨.close s, ()⟩ :: v ∧
      outcome.cause = some cause ∧
      (∀ x ∈ u, x.request.called? = some s ∧ Trace.tellsError x = false) ∧
      ∀ x ∈ v, x.request.isApart = true

/-- The laws of the calls on one sender. -/
structure Lawful (turns : List Turn) : Prop where
  /-- Calls are made on the open session only.  It is opened by a call that begins the stream,
  and closed by the first one to end it after that. -/
  conducts : ∀ pre post, turns = pre ++ post →
    (transcript pre).Conducts none (sessionAfter pre)
  /-- A session is opened by the calls that begin the stream, and by no other ones. -/
  begun : ∀ turn ∈ turns, turn.trace.openings ≠ [] ↔ turn.reply = .initiated (.ok ())
  /-- No session is opened after another one. -/
  opened : ∀ u x v, transcript turns = u ++ x :: v → x.opened? ≠ none → Trace.openings u = []
  /-- The call that ends a stream leaves its session so. -/
  closed : ∀ pre turn post s, turns = pre ++ turn :: post → sessionAfter pre = some s →
    turn.call.ends = true → ∃ outcome, turn.reply = .ended outcome ∧ Closed s turn.trace outcome
  /-- All other calls close no session and tell nobody of an error. -/
  unclosed : ∀ pre turn post, turns = pre ++ turn :: post →
    turn.call.ends = false ∨ sessionAfter pre = none →
      ∀ x ∈ turn.trace, Trace.tellsError x = false ∧ x.request.closed? = none
  /-- A block is sent directly after the session has taken all before it. -/
  data : ∀ u v s b flush result, transcript turns = u ++ ⟨.send s (.data b) flush, result⟩ :: v →
    ∃ w, u = w ++ [⟨.writable s, .ok ()⟩]
  /-- The last block is announced once, and after a block was sent that ends the stream. -/
  announced : ∀ u v s rank flush result,
    transcript turns = u ++ ⟨.send s (.endTransfer rank) flush, result⟩ :: v →
      u.any Trace.endsStream = true ∧ u.any Trace.announcesEnd = false
  /-- The request is ended after the transport has reported that the transfer went well. -/
  acknowledged : ∀ u v s code flush result,
    transcript turns = u ++ ⟨.send s (.endRequest code) flush, result⟩ :: v →
      u.any Trace.reportsSuccess = true

/-! ## What may be asked of a session -/

variable {session : Session} {before t : Trace} {outcome : Outcome} {s s' : Sender} {turn : Turn}

/-- Attempts to open a session may be made as long as none was opened. -/
theorem permits_of_opens {o : Option Session} (h : t.Opens o)
    (hbefore : o ≠ none → before.openings = []) : Trace.Throughout Trace.Permits before t := by
  obtain ⟨hfree, hopenings⟩ := h
  induction t generalizing before o with
  | nil => trivial
  | cons x t ih =>
      have hrest : ∀ y ∈ t, y.request.isFree = true := fun y hy =>
        hfree y (List.mem_cons_of_mem x hy)
      have hx := hfree x List.mem_cons_self
      cases hopened : x.opened? with
      | none =>
          have hpermits : Trace.Permits before x := by
            rcases x with ⟨r, answer⟩
            cases r with
            | connect c => exact fun hne => absurd hopened hne
            | send s packet flush => cases hx
            | _ => trivial
          rw [Trace.openings, List.filterMap_cons_none hopened] at hopenings
          refine ⟨hpermits, ih (fun hne => ?_) hrest hopenings⟩
          rw [Trace.openings_append, hbefore hne, List.nil_append, Trace.openings,
            List.filterMap_cons_none hopened, List.filterMap_nil]
      | some s =>
          obtain ⟨c, rfl⟩ := Exchange.exists_connect_of_opened? hopened
          rw [Trace.openings, List.filterMap_cons_some hopened] at hopenings
          cases o with
          | none => cases hopenings
          | some s' =>
              obtain ⟨-, hnone⟩ := List.cons.inj hopenings
              exact ⟨fun _ => hbefore (by simp),
                ih (o := none) (fun hne => absurd rfl hne) hrest hnone⟩

/-- Apart from sessions everything is permitted. -/
theorem permits_of_isApart (h : ∀ x ∈ t, x.request.isApart = true) :
    Trace.Throughout Trace.Permits before t :=
  permits_of_opens (.of_isApart h) fun hne => absurd rfl hne

/-- An error may be told at any time. -/
theorem Aborts.permits (h : Aborts session t outcome) :
    Trace.Throughout Trace.Permits before t := by
  cases h with
  | told apart => exact ⟨trivial, trivial, permits_of_isApart apart⟩

/-- The end may be acknowledged once the partner has reported success. -/
theorem Acknowledges.permits (h : Acknowledges session t outcome)
    (hreport : before.any Trace.reportsSuccess = true) :
    Trace.Throughout Trace.Permits before t := by
  cases h with
  | unsent h => exact ⟨hreport, h.permits⟩
  | sent apart => exact ⟨hreport, trivial, permits_of_isApart apart⟩

/-- The end may be announced once, after the last block. -/
theorem Concludes.permits (h : Concludes session t outcome)
    (hended : before.any Trace.endsStream = true)
    (hunannounced : before.any Trace.announcesEnd = false) :
    Trace.Throughout Trace.Permits before t := by
  cases h with
  | unsent h => exact ⟨⟨hended, hunannounced⟩, h.permits⟩
  | unreported h => exact ⟨⟨hended, hunannounced⟩, trivial, h.permits⟩
  | failed h => exact ⟨⟨hended, hunannounced⟩, trivial, h.permits⟩
  | acknowledged success h =>
      refine ⟨⟨hended, hunannounced⟩, trivial, h.permits ?_⟩
      simp [Trace.reportsSuccess, success]

/-- Ending a stream asks for nothing out of place. -/
theorem Closes.permits {a : Active} (h : Closes a t outcome)
    (hended : a.ended = true → before.any Trace.endsStream = true)
    (hunannounced : before.any Trace.announcesEnd = false) :
    Trace.Throughout Trace.Permits before t := by
  cases h with
  | ended hend h => exact h.permits (hended hend) hunannounced
  | blocked h => exact ⟨trivial, h.permits⟩
  | unsent h => exact ⟨trivial, ⟨before, rfl⟩, h.permits⟩
  | finished h =>
      refine ⟨trivial, ⟨before, rfl⟩, h.permits ?_ ?_⟩
      · simp [Trace.endsStream, Block.endOfFile]
      · simp [Trace.announcesEnd, hunannounced]
  | givenUp h => exact h.permits

/-! ## What is open -/

/-- A stream that is broken off closes its session. -/
theorem Aborts.conducts (h : Aborts session t outcome) : t.Conducts (some session) none := by
  cases h with
  | told apart => exact ⟨_, .calls rfl, _, .closes, Trace.conducts_of_isApart apart⟩

theorem Acknowledges.conducts (h : Acknowledges session t outcome) :
    t.Conducts (some session) none := by
  cases h with
  | unsent h => exact ⟨_, .calls rfl, h.conducts⟩
  | sent apart => exact ⟨_, .calls rfl, _, .closes, Trace.conducts_of_isApart apart⟩

/-- So does one that is concluded. -/
theorem Concludes.conducts (h : Concludes session t outcome) :
    t.Conducts (some session) none := by
  cases h with
  | unsent h => exact ⟨_, .calls rfl, h.conducts⟩
  | unreported h => exact ⟨_, .calls rfl, _, .calls rfl, h.conducts⟩
  | failed h => exact ⟨_, .calls rfl, _, .calls rfl, h.conducts⟩
  | acknowledged _ h => exact ⟨_, .calls rfl, _, .calls rfl, h.conducts⟩

theorem Closes.conducts {a : Active} (h : Closes a t outcome) :
    t.Conducts (some a.session) none := by
  cases h with
  | ended _ h => exact h.conducts
  | blocked h => exact ⟨_, .calls rfl, h.conducts⟩
  | unsent h => exact ⟨_, .calls rfl, _, .calls rfl, h.conducts⟩
  | finished h => exact ⟨_, .calls rfl, _, .calls rfl, h.conducts⟩
  | givenUp h => exact h.conducts

/-! ## How a stream is closed -/

/-- Other calls on the session may come before the ones that close it. -/
theorem Closed.cons {x : Exchange} (h : Closed session t outcome)
    (hx : x.request.called? = some session ∧ Trace.tellsError x = false) :
    Closed session (x :: t) outcome where
  success hsuccess := by
    obtain ⟨u, v, rfl, hu, hv⟩ := h.success hsuccess
    exact ⟨x :: u, v, rfl, List.forall_mem_cons.2 ⟨hx, hu⟩, hv⟩
  failure hfailure := by
    obtain ⟨u, v, cause, result, rfl, hcause, hu, hv⟩ := h.failure hfailure
    exact ⟨x :: u, v, cause, result, rfl, hcause, List.forall_mem_cons.2 ⟨hx, hu⟩, hv⟩

/-- To tell the error is the last that is said in the session. -/
theorem Aborts.closed (h : Aborts session t outcome) : Closed session t outcome := by
  cases h with
  | told apart failed hcause =>
      refine ⟨fun hsuccess => ?_, fun _ => ⟨[], _, _, _, rfl, hcause, by simp, apart⟩⟩
      exact absurd (hsuccess.symm.trans failed) (by simp)

theorem Acknowledges.closed (h : Acknowledges session t outcome) : Closed session t outcome := by
  cases h with
  | unsent h => exact h.closed.cons ⟨rfl, rfl⟩
  | sent apart success =>
      refine ⟨fun _ => ⟨[], _, rfl, by simp, apart⟩, fun hfailure => ?_⟩
      exact absurd (hfailure.symm.trans success) (by simp)

theorem Concludes.closed (h : Concludes session t outcome) : Closed session t outcome := by
  cases h with
  | unsent h => exact h.closed.cons ⟨rfl, rfl⟩
  | unreported h => exact (h.closed.cons ⟨rfl, rfl⟩).cons ⟨rfl, rfl⟩
  | failed h => exact (h.closed.cons ⟨rfl, rfl⟩).cons ⟨rfl, rfl⟩
  | acknowledged _ h => exact (h.closed.cons ⟨rfl, rfl⟩).cons ⟨rfl, rfl⟩

/-- However a stream is closed, its session is. -/
theorem Closes.closed {a : Active} (h : Closes a t outcome) : Closed a.session t outcome := by
  cases h with
  | ended _ h => exact h.closed
  | blocked h => exact h.closed.cons ⟨rfl, rfl⟩
  | unsent h => exact (h.closed.cons ⟨rfl, rfl⟩).cons ⟨rfl, rfl⟩
  | finished h => exact (h.closed.cons ⟨rfl, rfl⟩).cons ⟨rfl, rfl⟩
  | givenUp h => exact h.closed

/-- Nothing is opened by the call that closes the session. -/
theorem Closed.openings (h : Closed session t outcome) : t.openings = [] := by
  have hcalls : ∀ u : Trace, (∀ x ∈ u, x.request.called? = some session ∧
      Trace.tellsError x = false) → u.openings = [] := fun u hu =>
    List.filterMap_eq_nil_iff.2 fun x hx => Exchange.opened?_of_called? (hu x hx).1
  cases hsuccess : outcome.success with
  | true =>
      obtain ⟨u, v, rfl, hu, hv⟩ := h.success hsuccess
      rw [Trace.openings_append, hcalls u hu]
      exact (Trace.openings_of_isApart hv : Trace.openings v = [])
  | false =>
      obtain ⟨u, v, cause, result, rfl, -, hu, hv⟩ := h.failure hsuccess
      rw [Trace.openings_append, hcalls u hu]
      exact (Trace.openings_of_isApart hv : Trace.openings v = [])

/-! ## One call -/

theorem apart_of_isFree {x : Exchange} (h : x.request.isFree = true) :
    Trace.tellsError x = false ∧ x.request.closed? = none := by
  rcases x with ⟨r, answer⟩
  refine ⟨?_, (Request.isFree_iff.1 h).2⟩
  cases r with
  | send s packet flush => exact nomatch h
  | _ => rfl

/-- The session of a sender, while it is open. -/
def session? (s : Sender) : Option Session :=
  s.active.map Active.session

/-- What the state of a sender says about all that was asked before. -/
structure Stands (before : Trace) (s : Sender) : Prop where
  unfinished : ∀ a, s.active = some a → s.finished = false
  fresh : s.active = none → s.finished = false → before.openings = []
  unannounced : s.finished = false → before.any Trace.announcesEnd = false
  ended : ∀ a, s.active = some a → a.ended = true → before.any Trace.endsStream = true

/-- Nothing is announced while a session is being opened. -/
theorem announcesEnd_of_opens {o : Option Session} (h : t.Opens o) :
    t.any Trace.announcesEnd = false := by
  rw [List.any_eq_false]
  rintro ⟨r, answer⟩ hx
  have hfree := h.free _ hx
  cases r with
  | send s packet flush => exact nomatch hfree
  | _ => simp [Trace.announcesEnd]

/-- A call leads from the session that is open before it to the one after it. -/
theorem Acts.conducts (h : Acts s turn s') : turn.trace.Conducts s.session? s'.session? := by
  cases h with
  | idle opens => exact Trace.conducts_of_free opens.free opens.openings
  | made active => simp [session?, active, Trace.Conducts]
  | opened inactive _ opens _ =>
      have hnone : s.session? = none := by simp [session?, inactive]
      rw [hnone]
      exact opens.conducts
  | blocked active =>
      have hsome : s.session? = some _ := congrArg (Option.map Active.session) active
      rw [hsome]
      exact ⟨_, .calls rfl, rfl⟩
  | unsent active =>
      have hsome : s.session? = some _ := congrArg (Option.map Active.session) active
      rw [hsome]
      exact ⟨_, .calls rfl, _, .calls rfl, rfl⟩
  | sent active =>
      have hsome : s.session? = some _ := congrArg (Option.map Active.session) active
      rw [hsome]
      exact ⟨_, .calls rfl, _, .calls rfl, rfl⟩
  | closed active _ h =>
      have hsome : s.session? = some _ := congrArg (Option.map Active.session) active
      rw [hsome]
      exact h.conducts

/-- The session after a call is told by the call and what it opened. -/
theorem Acts.after (h : Acts s turn s') : turn.after s.session? = s'.session? := by
  cases h with
  | @idle turn finished opens unended kept refused =>
      have hopenings : turn.trace.openings = [] := opens.openings
      cases hactive : s.active with
      | none => simp [Turn.after, session?, hactive, hopenings]
      | some a =>
          obtain ⟨hends, -⟩ := unended (by simp [hactive])
          simp [Turn.after, session?, hactive, hends]
  | made active => simp [Turn.after, session?, active, Call.ends]
  | opened inactive _ opens _ =>
      simp [Turn.after, session?, inactive, Call.ends, opens.openings]
  | blocked active => simp [Turn.after, session?, active, Call.ends]
  | unsent active => simp [Turn.after, session?, active, Call.ends]
  | sent active => simp [Turn.after, session?, active, Call.ends]
  | closed active ends h => simp [Turn.after, session?, ends]

/-- A call asks for nothing out of place. -/
theorem Acts.permits (h : Acts s turn s') (hstands : Stands before s) :
    Trace.Throughout Trace.Permits before turn.trace := by
  cases h with
  | idle opens => exact permits_of_opens opens fun hne => absurd rfl hne
  | made => trivial
  | opened inactive fresh opens _ =>
      exact permits_of_opens opens fun _ => hstands.fresh inactive fresh
  | blocked => exact ⟨trivial, trivial⟩
  | unsent => exact ⟨trivial, ⟨before, rfl⟩, trivial⟩
  | sent => exact ⟨trivial, ⟨before, rfl⟩, trivial⟩
  | closed active _ h =>
      exact h.permits (hstands.ended _ active) (hstands.unannounced (hstands.unfinished _ active))

/-- A call that leaves an open stream as it is may ask for anything but its end. -/
theorem Stands.append {a : Active} (h : Stands before s) (hactive : s.active = some a)
    (hunannounced : t.any Trace.announcesEnd = false) : Stands (before ++ t) s where
  unfinished := h.unfinished
  fresh hnone := nomatch hactive.symm.trans hnone
  unannounced hfinished := by
    rw [List.any_append, h.unannounced hfinished, hunannounced]
    rfl
  ended a ha hended := by
    rw [List.any_append, h.ended a ha hended, Bool.true_or]

/-- What the state of a sender says stays true from call to call. -/
theorem Acts.stands (h : Acts s turn s') (hstands : Stands before s) :
    Stands (before ++ turn.trace) s' := by
  cases h with
  | @idle turn finished opens unended kept refused =>
      have hfresh : finished = false → s.finished = false := by
        intro hfinished
        cases hs : s.finished with
        | false => rfl
        | true => exact absurd (kept hs) (by simp [hfinished])
      refine ⟨?_, ?_, ?_, ?_⟩
      · intro a ha
        have ha' : s.active = some a := ha
        obtain ⟨-, hsame⟩ := unended (by simp [ha'])
        exact hsame.trans (hstands.unfinished a ha')
      · intro hinactive hfinished
        rw [Trace.openings_append, hstands.fresh hinactive (hfresh hfinished), opens.openings]
        rfl
      · intro hfinished
        rw [List.any_append, hstands.unannounced (hfresh hfinished), announcesEnd_of_opens opens]
        rfl
      · intro a ha hended
        rw [List.any_append, hstands.ended a ha hended, Bool.true_or]
  | made active =>
      rw [List.append_nil]
      refine ⟨fun _ _ => hstands.unfinished _ active, nofun, hstands.unannounced, ?_⟩
      rintro a ha hended
      obtain rfl := Option.some.inj ha
      exact hstands.ended _ active hended
  | opened inactive fresh opens unended =>
      refine ⟨fun _ _ => fresh, nofun, fun _ => ?_, ?_⟩
      · rw [List.any_append, hstands.unannounced fresh, announcesEnd_of_opens opens]
        rfl
      · rintro a ha hended
        obtain rfl := Option.some.inj ha
        exact absurd (hended.symm.trans unended) (by simp)
  | blocked active => exact hstands.append active rfl
  | unsent active => exact hstands.append active rfl
  | @sent a b active =>
      refine ⟨fun _ _ => hstands.unfinished _ active, nofun, fun hfinished => ?_, ?_⟩
      · rw [List.any_append, hstands.unannounced hfinished]
        rfl
      · rintro a' ha hended
        obtain rfl := Option.some.inj ha
        rw [List.any_append]
        rcases Bool.or_eq_true_iff.1 hended with hbefore | heof
        · rw [hstands.ended a active hbefore, Bool.true_or]
        · simp [Trace.endsStream, heof]
  | closed active ends h =>
      refine ⟨fun _ ha => ?_, fun _ hfinished => ?_, fun hfinished => ?_, fun _ ha => ?_⟩
      · exact nomatch ha
      · exact nomatch hfinished
      · exact nomatch hfinished
      · exact nomatch ha

/-- A call opens a session when it begins the stream, and only then. -/
theorem Acts.begun (h : Acts s turn s') :
    turn.trace.openings ≠ [] ↔ turn.reply = .initiated (.ok ()) := by
  cases h with
  | idle opens _ _ refused =>
      have hopenings : turn.trace.openings = [] := opens.openings
      simp [hopenings, refused]
  | opened _ _ opens _ => simp [opens.openings]
  | made => simp [Trace.openings]
  | blocked => simp [Trace.openings, Exchange.opened?]
  | unsent => simp [Trace.openings, Exchange.opened?]
  | sent => simp [Trace.openings, Exchange.opened?]
  | closed _ _ h => simp [h.closed.openings]

/-- A call that does not end an open stream closes no session and tells nobody of an error. -/
theorem Acts.unclosed (h : Acts s turn s') (hopen : turn.call.ends = false ∨ s.session? = none) :
    ∀ x ∈ turn.trace, Trace.tellsError x = false ∧ x.request.closed? = none := by
  cases h with
  | idle opens => exact fun x hx => apart_of_isFree (opens.free x hx)
  | opened _ _ opens => exact fun x hx => apart_of_isFree (opens.free x hx)
  | made => simp
  | blocked => simp [Trace.tellsError, Request.closed?]
  | unsent => simp [Trace.tellsError, Request.closed?]
  | sent => simp [Trace.tellsError, Request.closed?]
  | closed active ends =>
      rcases hopen with hends | hnone
      · exact nomatch ends.symm.trans hends
      · simp [session?, active] at hnone

/-- A call that ends an open stream closes its session. -/
theorem Acts.closes (h : Acts s turn s') (hsession : s.session? = some session)
    (hends : turn.call.ends = true) :
    ∃ outcome, turn.reply = .ended outcome ∧ Closed session turn.trace outcome := by
  cases h with
  | idle _ unended =>
      cases hactive : s.active with
      | none => simp [session?, hactive] at hsession
      | some a => exact nomatch (unended (by simp [hactive])).1.symm.trans hends
  | @closed a call t outcome active _ h =>
      obtain rfl : a.session = session := by simpa [session?, active] using hsession
      exact ⟨outcome, rfl, h.closed⟩
  | _ => exact nomatch hends

/-! ## All calls -/

/-- Whether every turn is one that a call can take, from a sender on. -/
def History : Sender → List Turn → Prop
  | _, [] => True
  | s, turn :: turns => ∃ s', Acts s turn s' ∧ History s' turns

/-- The calls on a sender make a history, whatever is answered. -/
theorem history_play (ctx : Context) (answer : Trace → (r : Request) → r.Answer) (s : Sender)
    (before : Trace) (calls : List Call) : History s (play ctx answer s before calls) := by
  induction calls generalizing s before with
  | nil => trivial
  | cons call calls ih =>
      have hrun := (run_play (fun t => answer (before ++ t)) (s.answer ctx call)).1
      exact ⟨_, acts_of_run hrun, ih _ _⟩

/-- What is so before some turns and stays so from turn to turn is so at every turn. -/
theorem History.split {turns pre post : List Turn} (h : History s turns)
    (hsplit : turns = pre ++ post) (hstands : Stands before s) :
    ∃ s', History s' post ∧ Stands (before ++ transcript pre) s' ∧
      Trace.Conducts s.session? (transcript pre) s'.session? ∧
      pre.foldl Turn.after s.session? = s'.session? ∧
      Trace.Throughout Trace.Permits before (transcript pre) := by
  induction pre generalizing turns s before with
  | nil =>
      subst hsplit
      refine ⟨s, h, ?_, rfl, rfl, trivial⟩
      rwa [transcript, List.flatMap_nil, List.append_nil]
  | cons turn pre ih =>
      subst hsplit
      obtain ⟨s', hacts, hrest⟩ := h
      obtain ⟨s'', hpost, hstands', hconducts, hafter, hpermits⟩ :=
        ih hrest rfl (hacts.stands hstands)
      rw [transcript, List.flatMap_cons]
      refine ⟨s'', hpost, ?_, ?_, ?_, ?_⟩
      · rwa [← List.append_assoc]
      · exact Trace.conducts_append.2 ⟨_, hacts.conducts, hconducts⟩
      · rw [List.foldl_cons, hacts.after, hafter]
      · exact Trace.throughout_append.2 ⟨hacts.permits hstands, hpermits⟩

/-- All calls on a sender are lawful, in any order and number. -/
theorem History.lawful {order : Order} {turns : List Turn} (h : History { order } turns) :
    Lawful turns := by
  have hstart : Stands [] { order } := by
    refine ⟨fun _ ha => ?_, fun _ _ => rfl, fun _ => rfl, fun _ ha => ?_⟩
    · exact nomatch ha
    · exact nomatch ha
  have hat : ∀ {u x v}, transcript turns = u ++ x :: v → Trace.Permits u x := by
    intro u x v hsplit
    obtain ⟨s', -, -, -, -, hpermits⟩ := h.split (List.append_nil turns).symm hstart
    rw [hsplit] at hpermits
    exact hpermits.at
  have hturn : ∀ {pre turn post}, turns = pre ++ turn :: post →
      ∃ s s', sessionAfter pre = s.session? ∧ Acts s turn s' := by
    intro pre turn post hsplit
    obtain ⟨s, ⟨s', hacts, -⟩, -, -, hafter, -⟩ := h.split hsplit hstart
    exact ⟨s, s', hafter, hacts⟩
  refine ⟨?_, ?_, ?_, ?_, ?_, ?_, ?_, ?_⟩
  · intro pre post hsplit
    obtain ⟨s', -, -, hconducts, hafter, -⟩ := h.split hsplit hstart
    rw [sessionAfter]
    exact hafter ▸ hconducts
  · intro turn hmem
    obtain ⟨pre, post, hsplit⟩ := List.append_of_mem hmem
    obtain ⟨s, s', -, hacts⟩ := hturn hsplit
    exact hacts.begun
  · intro u x v hsplit hopened
    have hpermits := hat hsplit
    cases hx : x.opened? with
    | none => exact absurd hx hopened
    | some s =>
        obtain ⟨c, rfl⟩ := Exchange.exists_connect_of_opened? hx
        exact hpermits hopened
  · intro pre turn post session hsplit hopen hends
    obtain ⟨s, s', hafter, hacts⟩ := hturn hsplit
    have hsession : s.session? = some session := hafter.symm.trans hopen
    exact hacts.closes hsession hends
  · intro pre turn post hsplit hopen
    obtain ⟨s, s', hafter, hacts⟩ := hturn hsplit
    exact hacts.unclosed (hopen.imp id hafter.symm.trans)
  · intro u v s b flush result hsplit
    exact hat hsplit
  · intro u v s rank flush result hsplit
    exact hat hsplit
  · intro u v s code flush result hsplit
    exact hat hsplit

end Stream.Sender

/-! ## All dealings -/

/-- Whatever the hosts, the rules and the bounds, and whatever the transport and all else answer:
transfers, receptions, single requests, and the interventions, questions and messages that are
made of them come to an end and have closed every session that they opened, once and after all
calls on it; and all calls on the sender of a stream, in any order and number, are lawful. -/
theorem sessions_disciplined (ctx : Context) (answer : Trace → (r : Request) → r.Answer) :
    (∀ order, (play answer (Delivery.run ctx order)).2.Orderly) ∧
    (∀ order, (play answer (Stream.receive ctx order)).2.Orderly) ∧
    (∀ partner packet,
      (play answer (Connection.exchange ctx.policy partner packet)).2.Orderly) ∧
    (∀ action specialId requested requester, (play answer
      (Intervention.interrupt ctx action specialId requested requester)).2.Orderly) ∧
    (∀ specialId requested requester time, (play answer
      (Intervention.restart ctx specialId requested requester time)).2.Orderly) ∧
    (∀ hostId key, (play answer (Inquiry.describe ctx hostId key)).2.Orderly) ∧
    (∀ hostId rule pattern,
      (play answer (Inquiry.listFiles ctx hostId rule pattern)).2.Orderly) ∧
    (∀ bulletins, (play answer (Bulletin.sendAll ctx bulletins)).2.Orderly) ∧
    ∀ order calls, Stream.Sender.Lawful
      (Stream.Sender.play ctx answer { order } [] calls) := by
  refine ⟨fun order => ?_, fun order => ?_, fun partner packet => ?_, fun _ _ _ _ => ?_,
    fun _ _ _ _ => ?_, fun _ _ => ?_, fun _ _ _ => ?_, fun bulletins => ?_, fun order calls => ?_⟩
  · exact orderly_play (Delivery.conducts_carryOut ctx order _ _) answer
  · exact orderly_play (Delivery.conducts_carryOut ctx order _ _) answer
  · exact orderly_play (Connection.conducts_exchange _ partner packet) answer
  · exact orderly_play (Intervention.conducts_interrupt ctx _ _ _ _) answer
  · exact orderly_play (Intervention.conducts_restart ctx _ _ _ _) answer
  · exact orderly_play (Inquiry.conducts_describe ctx _ _) answer
  · exact orderly_play (Inquiry.conducts_listFiles ctx _ _ _) answer
  · exact orderly_play (Bulletin.conducts_sendAll ctx bulletins) answer
  · exact (Stream.Sender.history_play ctx answer { order } [] calls).lawful

end Courier
