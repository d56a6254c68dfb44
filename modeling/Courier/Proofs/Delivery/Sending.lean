import Courier.Delivery.Stream
import Courier.Proofs.Delivery.Conduct

/-!
# Calls on a sender

What one call of the caller on the sender of a stream can do, in whatever state the sender is:
which session it uses and how, what it gives back, and where it leaves the sender.

Main definitions:

- `Sender.Call` is a call and `Sender.Reply` what it gives back; `Sender.answer` answers a call.
- `Sender.Turn` is a call with its reply and what was asked meanwhile.
- `Sender.Acts` tells everything that a call can do.

Main statements:

- Every call acts so (`acts_of_run`).
-/

namespace Courier.Stream.Sender

open Program

/-! ## Calls -/

/-- A call of the caller. -/
inductive Call where
  | run
  | initiate
  | block (data : Option ByteArray)
  | write (block : Block)
  | finalize
  | giveUp (cause : String)
deriving DecidableEq

/-- What a call gives back. -/
inductive Reply where
  | refused (outcome : Outcome)
  | initiated (result : Except Outcome Unit)
  | block (result : Except SessionFault Block)
  | written (result : Except SessionFault Unit)
  | ended (outcome : Outcome)

/-- Whether a call ends the stream. -/
def Call.ends : Call → Bool
  | finalize => true
  | giveUp _ => true
  | _ => false

/-- Answer a call. -/
def answer (ctx : Context) (s : Sender) : Call → Program (Reply × Sender)
  | .run => return (.refused run, s)
  | .initiate => do
      let (result, s) ← s.initiate ctx
      return (.initiated result, s)
  | .block data => return (.block (s.block data).1, (s.block data).2)
  | .write block => do
      let (result, s) ← s.write block
      return (.written result, s)
  | .finalize => do
      let (outcome, s) ← s.finalize ctx
      return (.ended outcome, s)
  | .giveUp cause => do
      let (outcome, s) ← s.giveUp cause
      return (.ended outcome, s)

/-- A call with its reply and what was asked meanwhile. -/
structure Turn where
  call : Call
  reply : Reply
  trace : Trace

/-! ## Ends of a stream -/

/-- The stream is aborted: the partner is told why, if it can be reached, and the session is
closed. -/
inductive Aborts (session : Session) : Trace → Outcome → Prop where
  | told {cause : String} {result : Except SessionFault Unit} {v : Trace} {outcome : Outcome}
      (apart : ∀ x ∈ v, x.request.isApart = true) (failed : outcome.success = false)
      (hcause : outcome.cause = some cause) :
      Aborts session (⟨.send session (.error .transferError cause) true, result⟩ ::
        ⟨.close session, ()⟩ :: v) outcome

/-- The end of a stream that the transport reported to have gone well. -/
inductive Acknowledges (session : Session) : Trace → Outcome → Prop where
  | unsent {fault : SessionFault} {u : Trace} {outcome : Outcome} (h : Aborts session u outcome) :
      Acknowledges session (⟨.send session (.endRequest .completeOk) true, .error fault⟩ :: u)
        outcome
  | sent {v : Trace} {outcome : Outcome} (apart : ∀ x ∈ v, x.request.isApart = true)
      (success : outcome.success = true) :
      Acknowledges session (⟨.send session (.endRequest .completeOk) true, .ok ()⟩ ::
        ⟨.close session, ()⟩ :: v) outcome

/-- The end of a stream after its last block. -/
inductive Concludes (session : Session) : Trace → Outcome → Prop where
  | unsent {rank : Nat} {fault : SessionFault} {u : Trace} {outcome : Outcome}
      (h : Aborts session u outcome) :
      Concludes session (⟨.send session (.endTransfer rank) true, .error fault⟩ :: u) outcome
  | unreported {rank : Nat} {timeout : Option Calendar.Span} {fault : SessionFault} {u : Trace}
      {outcome : Outcome} (h : Aborts session u outcome) :
      Concludes session (⟨.send session (.endTransfer rank) true, .ok ()⟩ ::
        ⟨.complete session timeout, .error fault⟩ :: u) outcome
  | failed {rank : Nat} {timeout : Option Calendar.Span} {completion : Completion} {u : Trace}
      {outcome : Outcome} (h : Aborts session u outcome) :
      Concludes session (⟨.send session (.endTransfer rank) true, .ok ()⟩ ::
        ⟨.complete session timeout, .ok completion⟩ :: u) outcome
  | acknowledged {rank : Nat} {timeout : Option Calendar.Span} {completion : Completion}
      {u : Trace} {outcome : Outcome} (success : completion.success = true)
      (h : Acknowledges session u outcome) :
      Concludes session (⟨.send session (.endTransfer rank) true, .ok ()⟩ ::
        ⟨.complete session timeout, .ok completion⟩ :: u) outcome

/-- The end of a stream: the block that ends it is sent first, unless the caller did, or the
stream is given up at once. -/
inductive Closes (a : Active) : Trace → Outcome → Prop where
  | ended (hended : a.ended = true) {u : Trace} {outcome : Outcome}
      (h : Concludes a.session u outcome) :
      Closes a u outcome
  | blocked {fault : SessionFault} {u : Trace} {outcome : Outcome}
      (h : Aborts a.session u outcome) :
      Closes a (⟨.writable a.session, .error fault⟩ :: u) outcome
  | unsent {rank : Nat} {fault : SessionFault} {u : Trace} {outcome : Outcome}
      (h : Aborts a.session u outcome) :
      Closes a (⟨.writable a.session, .ok ()⟩ ::
        ⟨.send a.session (.data (.endOfFile rank)) true, .error fault⟩ :: u) outcome
  | finished {rank : Nat} {u : Trace} {outcome : Outcome} (h : Concludes a.session u outcome) :
      Closes a (⟨.writable a.session, .ok ()⟩ ::
        ⟨.send a.session (.data (.endOfFile rank)) true, .ok ()⟩ :: u) outcome
  | givenUp {u : Trace} {outcome : Outcome} (h : Aborts a.session u outcome) : Closes a u outcome

/-! ## Calls and what they do -/

/-- Everything that a call can do to a sender. -/
inductive Acts (s : Sender) : Turn → Sender → Prop where
  /-- Nothing is done with an open session, and none is opened. -/
  | idle {turn : Turn} {finished : Bool} (opens : turn.trace.Opens none)
      (unended : s.active ≠ none → turn.call.ends = false ∧ finished = s.finished)
      (kept : s.finished = true → finished = true)
      (refused : turn.reply ≠ .initiated (.ok ())) : Acts s turn { s with finished }
  /-- A block is made of some bytes. -/
  | made {a : Active} {data : Option ByteArray} {result : Except SessionFault Block} {rank : Nat}
      (active : s.active = some a) :
      Acts s ⟨.block data, .block result, []⟩ { s with active := some { a with nextRank := rank } }
  | opened {a : Active} {t : Trace} (inactive : s.active = none) (fresh : s.finished = false)
      (opens : t.Opens (some a.session)) (unended : a.ended = false) :
      Acts s ⟨.initiate, .initiated (.ok ()), t⟩ { s with active := some a }
  | blocked {a : Active} {b : Block} {fault : SessionFault} (active : s.active = some a) :
      Acts s ⟨.write b, .written (.error fault), [⟨.writable a.session, .error fault⟩]⟩ s
  | unsent {a : Active} {b : Block} {fault : SessionFault} (active : s.active = some a) :
      Acts s ⟨.write b, .written (.error fault), [⟨.writable a.session, .ok ()⟩,
        ⟨.send a.session (.data b) true, .error fault⟩]⟩ s
  | sent {a : Active} {b : Block} (active : s.active = some a) :
      Acts s ⟨.write b, .written (.ok ()), [⟨.writable a.session, .ok ()⟩,
        ⟨.send a.session (.data b) true, .ok ()⟩]⟩
        { s with active := some { a with ended := a.ended || b.eof } }
  | closed {a : Active} {call : Call} {t : Trace} {outcome : Outcome} (active : s.active = some a)
      (ends : call.ends = true) (h : Closes a t outcome) :
      Acts s ⟨call, .ended outcome, t⟩ { s with active := none, finished := true }

variable {ctx : Context} {s s' : Sender} {a : Active} {t : Trace} {outcome : Outcome}

theorem Acts.nothing {call : Call} {reply : Reply} (hcall : s.active ≠ none → call.ends = false)
    (hreply : reply ≠ .initiated (.ok ())) : Acts s ⟨call, reply, []⟩ s :=
  Acts.idle ⟨by simp, rfl⟩ (fun h => ⟨hcall h, rfl⟩) id hreply

/-! ## Calls that end the stream -/

theorem failed_terminate {p : Prepared} {code : ResultCode} {cause : String}
    (h : Run (Delivery.terminate p code cause) t outcome) :
    outcome.success = false ∧ outcome.cause = some cause := by
  obtain ⟨u, record, v, rfl, -, hrest⟩ := Run.bind_iff.1 h
  split at hrest
  · obtain ⟨w, _, x, rfl, -, hdone⟩ := Run.bind_iff.1 hrest
    obtain ⟨rfl, rfl⟩ := Run.done_iff.1 hdone
    exact ⟨rfl, rfl⟩
  · obtain ⟨rfl, rfl⟩ := Run.done_iff.1 hrest
    exact ⟨rfl, rfl⟩

theorem succeeded_conclude {p : Prepared} {rank : Option Nat}
    (h : Run (Delivery.conclude p rank) t outcome) : outcome.success = true := by
  obtain ⟨u, record, v, rfl, -, hnow⟩ := Run.bind_iff.1 h
  obtain ⟨now, w, rfl, hsave⟩ := Run.ask_iff.1 hnow
  obtain ⟨x, _, y, rfl, -, hrest⟩ := Run.bind_iff.1 hsave
  split at hrest
  · obtain ⟨z, _, z', rfl, -, hdone⟩ := Run.bind_iff.1 hrest
    obtain ⟨rfl, rfl⟩ := Run.done_iff.1 hdone
    rfl
  · obtain ⟨rfl, rfl⟩ := Run.done_iff.1 hrest
    rfl

theorem aborts_of_run {code : ResultCode} {cause : String}
    (h : Run (abort a code cause) t outcome) :
    Aborts a.session t outcome := by
  obtain ⟨result, u, rfl, hclose⟩ := Run.ask_iff.1 h
  obtain ⟨_, v, rfl, hterminate⟩ := Run.ask_iff.1 hclose
  obtain ⟨hfailed, hcause⟩ := failed_terminate hterminate
  exact .told (hterminate.request_of_mem (Delivery.isApart_terminate _ _ _)) hfailed hcause

theorem acknowledges_of_run {lastRank : Nat} {completion : Completion}
    (h : Run (acknowledge a lastRank completion) t outcome) :
    Acknowledges a.session t outcome := by
  obtain ⟨result, u, rfl, hrest⟩ := Run.ask_iff.1 h
  cases result with
  | error fault => exact .unsent (aborts_of_run hrest)
  | ok _ =>
      obtain ⟨_, v, rfl, hconclude⟩ := Run.ask_iff.1 hrest
      exact .sent (hconclude.request_of_mem (Delivery.isApart_conclude _ _))
        (succeeded_conclude hconclude)

theorem concludes_of_run (h : Run (conclude ctx a) t outcome) : Concludes a.session t outcome := by
  obtain ⟨result, u, rfl, hrest⟩ := Run.ask_iff.1 h
  cases result with
  | error fault => exact .unsent (aborts_of_run hrest)
  | ok _ =>
      obtain ⟨report, v, rfl, hreported⟩ := Run.ask_iff.1 hrest
      cases report with
      | error fault => exact .unreported (aborts_of_run hreported)
      | ok completion =>
          dsimp only at hreported
          split at hreported
          · next hsuccess => exact .acknowledged hsuccess (acknowledges_of_run hreported)
          · exact .failed (aborts_of_run hreported)

/-- A block is sent after the session has taken all before it, or not at all. -/
theorem sendBlock_cases {session : Session} {b : Block} {result : Except SessionFault Unit}
    (h : Run (sendBlock session b) t result) :
    (∃ fault, result = .error fault ∧ t = [⟨.writable session, .error fault⟩]) ∨
      t = [⟨.writable session, .ok ()⟩, ⟨.send session (.data b) true, result⟩] := by
  obtain ⟨taken, u, rfl, hrest⟩ := Run.ask_iff.1 h
  cases taken with
  | error fault =>
      obtain ⟨rfl, rfl⟩ := Run.done_iff.1 hrest
      exact Or.inl ⟨fault, rfl, rfl⟩
  | ok _ =>
      obtain ⟨answer, v, rfl, hdone⟩ := Run.step_iff.1 hrest
      obtain ⟨rfl, rfl⟩ := Run.done_iff.1 hdone
      exact Or.inr rfl

theorem ensureEnd_of_ended (h : a.ended = true) : ensureEnd a = .done (.ok a) := by
  rw [ensureEnd, if_pos h]
  rfl

/-- Ending a stream closes it. -/
theorem closes_of_run_finalize (hactive : s.active = some a)
    (h : Run (s.finalize ctx) t (outcome, s')) :
    Closes a t outcome ∧ s' = { s with active := none, finished := true } := by
  simp only [finalize, hactive] at h
  by_cases hended : a.ended = true
  · rw [ensureEnd_of_ended hended, done_bind] at h
    obtain ⟨u, outcome, v, rfl, hconclude, hdone⟩ := Run.bind_iff.1 h
    obtain ⟨rfl, heq⟩ := Run.done_iff.1 hdone
    obtain ⟨rfl, rfl⟩ := Prod.mk.inj heq
    rw [List.append_nil]
    exact ⟨.ended hended (concludes_of_run hconclude), rfl⟩
  · obtain ⟨u, result, v, rfl, hensure, hrest⟩ := Run.bind_iff.1 h
    rw [ensureEnd, if_neg hended] at hensure
    obtain ⟨w, sent, x, rfl, hsend, hdone⟩ := Run.bind_iff.1 hensure
    cases sent with
    | error fault =>
        obtain ⟨rfl, rfl⟩ := Run.done_iff.1 hdone
        obtain ⟨y, outcome, z, rfl, habort, hdone'⟩ := Run.bind_iff.1 hrest
        obtain ⟨rfl, heq⟩ := Run.done_iff.1 hdone'
        obtain ⟨rfl, rfl⟩ := Prod.mk.inj heq
        refine ⟨?_, rfl⟩
        rw [List.append_nil, List.append_nil]
        rcases sendBlock_cases hsend with ⟨_, -, rfl⟩ | rfl
        · exact .blocked (aborts_of_run habort)
        · exact .unsent (aborts_of_run habort)
    | ok _ =>
        obtain ⟨rfl, rfl⟩ := Run.done_iff.1 hdone
        obtain ⟨y, outcome, z, rfl, hconclude, hdone'⟩ := Run.bind_iff.1 hrest
        obtain ⟨rfl, heq⟩ := Run.done_iff.1 hdone'
        obtain ⟨rfl, rfl⟩ := Prod.mk.inj heq
        refine ⟨?_, rfl⟩
        have hconcludes := concludes_of_run hconclude
        rw [List.append_nil, List.append_nil]
        rcases sendBlock_cases hsend with ⟨_, hfault, -⟩ | rfl
        · exact nomatch hfault
        · exact .finished hconcludes

/-! ## Calls that open the stream -/

/-- A call to begin opens a session or leaves the sender without one. -/
theorem acts_of_run_initiate {result : Except Outcome Unit}
    (h : Run (s.initiate ctx) t (result, s')) : Acts s ⟨.initiate, .initiated result, t⟩ s' := by
  unfold initiate at h
  split at h
  · obtain ⟨rfl, heq⟩ := Run.done_iff.1 h
    obtain ⟨rfl, rfl⟩ := Prod.mk.inj heq
    exact .nothing (fun _ => rfl) (by simp)
  · next hfree =>
    have hinactive : s.active = none := by
      cases hactive : s.active with
      | none => rfl
      | some a => exact absurd (by simp [hactive]) hfree
    have hfresh : s.finished = false := by
      cases hfinished : s.finished with
      | false => rfl
      | true => exact absurd (by simp [hfinished]) hfree
    obtain ⟨u, prepared, v, rfl, hprepare, hrest⟩ := Run.bind_iff.1 h
    have hquiet := Trace.Opens.of_isApart
      (hprepare.request_of_mem (Preparation.isApart_prepare _ _ _))
    cases prepared with
    | error outcome =>
        obtain ⟨rfl, heq⟩ := Run.done_iff.1 hrest
        obtain ⟨rfl, rfl⟩ := Prod.mk.inj heq
        rw [List.append_nil]
        exact Acts.idle hquiet (fun hne => absurd hinactive hne) id (by simp)
    | ok p =>
        obtain ⟨w, connected, x, rfl, hconnect, hrest⟩ := Run.bind_iff.1 hrest
        have hopens := Delivery.opens_tryConnect hconnect
        cases connected with
        | error outcome =>
            obtain ⟨rfl, heq⟩ := Run.done_iff.1 hrest
            obtain ⟨rfl, rfl⟩ := Prod.mk.inj heq
            rw [List.append_nil]
            exact Acts.idle (hquiet.prepend hopens) (fun hne => absurd hinactive hne) (fun _ => rfl)
              (by simp)
        | ok opened =>
            obtain ⟨rfl, heq⟩ := Run.done_iff.1 hrest
            obtain ⟨rfl, rfl⟩ := Prod.mk.inj heq
            rw [List.append_nil]
            exact .opened hinactive hfresh (hquiet.prepend hopens) rfl

/-! ## All calls -/

/-- Every call acts so, in whatever state the sender is. -/
theorem acts_of_run {call : Call} {reply : Reply} (h : Run (answer ctx s call) t (reply, s')) :
    Acts s ⟨call, reply, t⟩ s' := by
  cases call with
  | run =>
      obtain ⟨rfl, heq⟩ := Run.done_iff.1 h
      obtain ⟨rfl, rfl⟩ := Prod.mk.inj heq
      exact .nothing (fun _ => rfl) (by simp)
  | initiate =>
      obtain ⟨u, result, v, rfl, hinitiate, hdone⟩ := Run.bind_iff.1 h
      obtain ⟨rfl, heq⟩ := Run.done_iff.1 hdone
      obtain ⟨rfl, rfl⟩ := Prod.mk.inj heq
      rw [List.append_nil]
      exact acts_of_run_initiate hinitiate
  | block data =>
      obtain ⟨rfl, heq⟩ := Run.done_iff.1 h
      obtain ⟨rfl, rfl⟩ := Prod.mk.inj heq
      cases hactive : s.active with
      | none =>
          simp only [block, hactive]
          exact .nothing (fun _ => rfl) (by simp)
      | some a =>
          simp only [block, hactive]
          exact .made hactive
  | write b =>
      obtain ⟨u, result, v, rfl, hwrite, hdone⟩ := Run.bind_iff.1 h
      obtain ⟨rfl, heq⟩ := Run.done_iff.1 hdone
      obtain ⟨rfl, rfl⟩ := Prod.mk.inj heq
      rw [List.append_nil]
      cases hactive : s.active with
      | none =>
          simp only [write, hactive] at hwrite
          obtain ⟨rfl, rfl⟩ := Run.done_iff.1 hwrite
          exact .nothing (fun _ => rfl) (by simp)
      | some a =>
          simp only [write, hactive] at hwrite
          obtain ⟨w, sent, x, rfl, hsend, hrest⟩ := Run.bind_iff.1 hwrite
          cases sent with
          | error fault =>
              obtain ⟨rfl, rfl⟩ := Run.done_iff.1 hrest
              rw [List.append_nil]
              rcases sendBlock_cases hsend with ⟨_, hfault, rfl⟩ | rfl
              · obtain rfl := Except.error.inj hfault
                exact .blocked hactive
              · exact .unsent hactive
          | ok _ =>
              obtain ⟨rfl, rfl⟩ := Run.done_iff.1 hrest
              rw [List.append_nil]
              rcases sendBlock_cases hsend with ⟨_, hfault, -⟩ | rfl
              · exact nomatch hfault
              · exact .sent hactive
  | finalize =>
      obtain ⟨u, result, v, rfl, hfinalize, hdone⟩ := Run.bind_iff.1 h
      obtain ⟨rfl, heq⟩ := Run.done_iff.1 hdone
      obtain ⟨rfl, rfl⟩ := Prod.mk.inj heq
      rw [List.append_nil]
      cases hactive : s.active with
      | none =>
          simp only [finalize, hactive] at hfinalize
          obtain ⟨rfl, rfl⟩ := Run.done_iff.1 hfinalize
          exact .nothing (fun hne => absurd hactive hne) (by simp)
      | some a =>
          obtain ⟨hcloses, hs'⟩ := closes_of_run_finalize hactive hfinalize
          rw [hs']
          exact .closed hactive rfl hcloses
  | giveUp cause =>
      obtain ⟨u, result, v, rfl, hgiveUp, hdone⟩ := Run.bind_iff.1 h
      obtain ⟨rfl, heq⟩ := Run.done_iff.1 hdone
      obtain ⟨rfl, rfl⟩ := Prod.mk.inj heq
      rw [List.append_nil]
      cases hactive : s.active with
      | none =>
          simp only [giveUp, hactive] at hgiveUp
          obtain ⟨rfl, rfl⟩ := Run.done_iff.1 hgiveUp
          exact .nothing (fun hne => absurd hactive hne) (by simp)
      | some a =>
          simp only [giveUp, hactive] at hgiveUp
          obtain ⟨w, outcome, x, rfl, habort, hdone⟩ := Run.bind_iff.1 hgiveUp
          obtain ⟨rfl, rfl⟩ := Run.done_iff.1 hdone
          rw [List.append_nil]
          exact .closed hactive rfl (.givenUp (aborts_of_run habort))

end Courier.Stream.Sender
