import Courier.Delivery.Transfer
import Courier.Proofs.Session.Runs

/-!
# One attempt to open a session

Everything that one round of the attempts to reach a partner can do, said once: how the
partner answers, what is noted in the record, how long the courier waits, and how it goes on.

Main definitions:

- `Connection.Opening` tells the runs of `Connection.tryOpen` with an attempt left.
- `Delivery.Attempt` tells the runs of `Delivery.tryConnect` with an attempt left.

Main statements:

- Every run with an attempt left is told so (`opening_of_run`, `attempt_of_run`).
- What holds of the attempts that are left holds of all of them (`tryConnect_induction`).
-/

namespace Courier

open Program

/-! ## Answers to attempts -/

namespace Connect.Result

/-- Whether the partner was not there yet. -/
def isPending : Connect.Result → Bool
  | pending _ => true
  | _ => false

/-- Whether the partner was too busy. -/
def isOverloaded : Connect.Result → Bool
  | overloaded => true
  | _ => false

/-- Whether the partner has decided, for or against a session. -/
def isSettled : Connect.Result → Bool
  | connected _ => true
  | fatal _ _ => true
  | _ => false

end Connect.Result

/-! ## Sessions for single requests -/

namespace Connection

/-- The runs of the attempts to open a session, when `left` attempts are left after the first
one. -/
inductive Opening (policy : Policy) (partner : Partner) (left : Nat) :
    Trace → Except SessionFault Session → Prop where
  | connected {c : Connect} {session : Session} :
      Opening policy partner left [⟨.connect c, .connected session⟩] (.ok session)
  | fatal {c : Connect} {code : ResultCode} {message : String} :
      Opening policy partner left [⟨.connect c, .fatal code message⟩]
        (.error (.connect code message))
  | exhausted {c : Connect} {r : Connect.Result} {reason : String} (hleft : left = 0)
      (hr : r.isSettled = false) :
      Opening policy partner left [⟨.connect c, r⟩]
        (.error (givenUp partner policy.attempts reason))
  | pending {c : Connect} {reason : String} {fraction : Nat} {t : Trace}
      {result : Except SessionFault Session} (hleft : left ≠ 0)
      (h : Run (tryOpen policy partner left reason) t result) :
      Opening policy partner left
        (⟨.connect c, .pending reason⟩ :: ⟨.clockFraction, fraction⟩ ::
          ⟨.sleep (policy.reconnect.delay (policy.attempts - left) fraction), ()⟩ :: t) result
  | overloaded {c : Connect} {reason : String} {t : Trace}
      {result : Except SessionFault Session} (hleft : left ≠ 0)
      (h : Run (tryOpen policy partner left reason) t result) :
      Opening policy partner left
        (⟨.connect c, .overloaded⟩ :: ⟨.sleep policy.overloadBackoff, ()⟩ :: t) result

variable {policy : Policy} {partner : Partner} {reason : String} {left : Nat} {t : Trace}
  {result : Except SessionFault Session}

/-- A run without an attempt left asks nothing more. -/
theorem run_tryOpen_zero (h : Run (tryOpen policy partner 0 reason) t result) :
    t = [] ∧ result = .error (givenUp partner policy.attempts reason) := by
  rw [tryOpen] at h
  exact Run.done_iff.1 h

/-- A run with an attempt left is that attempt and what comes of it. -/
theorem opening_of_run (h : Run (tryOpen policy partner (left + 1) reason) t result) :
    Opening policy partner left t result := by
  rw [tryOpen] at h
  obtain ⟨answer, u, rfl, hnext⟩ := Run.ask_iff.1 h
  cases answer with
  | connected session =>
      obtain ⟨rfl, rfl⟩ := Run.done_iff.1 hnext
      exact Opening.connected
  | fatal code message =>
      obtain ⟨rfl, rfl⟩ := Run.done_iff.1 hnext
      exact Opening.fatal
  | pending reason =>
      by_cases hleft : left = 0
      · simp only [hleft, ne_eq, not_true_eq_false, if_false] at hnext
        obtain ⟨rfl, rfl⟩ := run_tryOpen_zero hnext
        exact Opening.exhausted hleft rfl
      · simp only [ne_eq, hleft, not_false_eq_true, if_true] at hnext
        obtain ⟨v, delay, w, rfl, hdelay, hrest⟩ := Run.bind_iff.1 hnext
        obtain ⟨fraction, x, rfl, hdone⟩ := Run.ask_iff.1 hdelay
        obtain ⟨rfl, rfl⟩ := Run.done_iff.1 hdone
        obtain ⟨_, y, rfl, hagain⟩ := Run.ask_iff.1 hrest
        exact Opening.pending hleft hagain
  | overloaded =>
      by_cases hleft : left = 0
      · simp only [hleft, ne_eq, not_true_eq_false, if_false] at hnext
        obtain ⟨rfl, rfl⟩ := run_tryOpen_zero hnext
        exact Opening.exhausted hleft rfl
      · simp only [ne_eq, hleft, not_false_eq_true, if_true] at hnext
        obtain ⟨_, y, rfl, hagain⟩ := Run.ask_iff.1 hnext
        exact Opening.overloaded hleft hagain

end Connection

/-! ## Transfers -/

namespace Delivery

/-- The runs of the attempts of a transfer, when `left` attempts are left after the first one
and `overloads` more answers of a busy partner are waited for. -/
inductive Attempt (policy : Policy) (through : Through) (p : Prepared) (left overloads : Nat) :
    Trace → Except Outcome (Session × Prepared) → Prop where
  | connected {c : Connect} {session : Session} {started : Prepared} {t : Trace}
      (h : Run (Delivery.started p) t started) :
      Attempt policy through p left overloads
        (⟨.connect c, .connected session⟩ :: t) (.ok (session, started))
  | exhausted {c : Connect} {reason : String} {outcome : Outcome} {t : Trace} (hleft : left = 0)
      (h : Run (terminate p .connectionImpossible (unreachedCause policy reason)) t outcome) :
      Attempt policy through p left overloads
        (⟨.connect c, .pending reason⟩ :: t) (.error outcome)
  | pending {c : Connect} {reason : String} {fraction : Nat} {t : Trace}
      {result : Except Outcome (Session × Prepared)} (hleft : left ≠ 0)
      (h : Run (tryConnect policy through p reason left overloads) t result) :
      Attempt policy through p left overloads
        (⟨.connect c, .pending reason⟩ :: ⟨.clockFraction, fraction⟩ ::
          ⟨.sleep (policy.reconnect.delay (policy.attempts - left) fraction), ()⟩ :: t) result
  | givenUp {c : Connect} {noted : Prepared} {outcome : Outcome} {t u : Trace}
      (hoverloads : overloads = 0) (hnoted : Run (noteOverload p) t noted)
      (h : Run (terminate noted .connectionImpossible (overloadedCause policy)) u outcome) :
      Attempt policy through p left overloads
        (⟨.connect c, .overloaded⟩ :: (t ++ u)) (.error outcome)
  | overloaded {c : Connect} {reason : String} {noted : Prepared} {fewer : Nat} {t u : Trace}
      {result : Except Outcome (Session × Prepared)} (hoverloads : overloads = fewer + 1)
      (hnoted : Run (noteOverload p) t noted)
      (h : Run (tryConnect policy through noted reason (left + 1) fewer) u result) :
      Attempt policy through p left overloads
        (⟨.connect c, .overloaded⟩ :: (t ++ ⟨.sleep policy.overloadBackoff, ()⟩ :: u)) result
  | fatal {c : Connect} {code : ResultCode} {message : String} {outcome : Outcome} {t : Trace}
      (h : Run (terminate p code message) t outcome) :
      Attempt policy through p left overloads
        (⟨.connect c, .fatal code message⟩ :: t) (.error outcome)

variable {policy : Policy} {through : Through} {p : Prepared} {reason : String}
  {left overloads : Nat} {t : Trace} {result : Except Outcome (Session × Prepared)}

/-- Induction along the attempts of a transfer.  Each of them uses up either an attempt or some
patience with a busy partner, whichever way it goes on. -/
@[elab_as_elim]
theorem tryConnect_induction {motive : Prepared → String → Nat → Nat → Prop}
    (spent : ∀ p reason overloads, motive p reason 0 overloads)
    (attempt : ∀ p reason left overloads, (∀ reason, motive p reason left overloads) →
      (∀ noted reason fewer, overloads = fewer + 1 → motive noted reason (left + 1) fewer) →
      motive p reason (left + 1) overloads)
    (p : Prepared) (reason : String) (attempts overloads : Nat) :
    motive p reason attempts overloads := by
  induction hn : attempts + overloads using Nat.strongRecOn
    generalizing p reason attempts overloads with
  | ind n ih =>
    cases attempts with
    | zero => exact spent p reason overloads
    | succ left =>
        refine attempt p reason left overloads ?_ ?_
        · intro reason
          exact ih (left + overloads) (by omega) p reason left overloads rfl
        · rintro noted reason fewer rfl
          exact ih (left + 1 + fewer) (by omega) noted reason (left + 1) fewer rfl

/-- A run without an attempt left ends the transfer. -/
theorem run_tryConnect_zero (h : Run (tryConnect policy through p reason 0 overloads) t result) :
    ∃ outcome, Run (terminate p .connectionImpossible (unreachedCause policy reason)) t outcome ∧
      result = .error outcome := by
  rw [tryConnect] at h
  obtain ⟨u, outcome, v, rfl, hterminate, hdone⟩ := Run.bind_iff.1 h
  obtain ⟨rfl, rfl⟩ := Run.done_iff.1 hdone
  rw [List.append_nil]
  exact ⟨outcome, hterminate, rfl⟩

/-- A run with an attempt left is that attempt and what comes of it. -/
theorem attempt_of_run
    (h : Run (tryConnect policy through p reason (left + 1) overloads) t result) :
    Attempt policy through p left overloads t result := by
  rw [tryConnect] at h
  obtain ⟨answer, u, rfl, hnext⟩ := Run.ask_iff.1 h
  cases answer with
  | connected session =>
      obtain ⟨v, started, w, rfl, hstarted, hdone⟩ := Run.bind_iff.1 hnext
      obtain ⟨rfl, rfl⟩ := Run.done_iff.1 hdone
      rw [List.append_nil]
      exact Attempt.connected hstarted
  | pending reason =>
      by_cases hleft : left = 0
      · simp only [hleft, ne_eq, not_true_eq_false, if_false] at hnext
        obtain ⟨outcome, hterminate, rfl⟩ := run_tryConnect_zero hnext
        exact Attempt.exhausted hleft hterminate
      · simp only [ne_eq, hleft, not_false_eq_true, if_true] at hnext
        obtain ⟨v, delay, w, rfl, hdelay, hrest⟩ := Run.bind_iff.1 hnext
        obtain ⟨fraction, x, rfl, hdone⟩ := Run.ask_iff.1 hdelay
        obtain ⟨rfl, rfl⟩ := Run.done_iff.1 hdone
        obtain ⟨_, y, rfl, hagain⟩ := Run.ask_iff.1 hrest
        exact Attempt.pending hleft hagain
  | overloaded =>
      obtain ⟨v, noted, w, rfl, hnoted, hrest⟩ := Run.bind_iff.1 hnext
      cases overloads with
      | zero =>
          obtain ⟨x, outcome, y, rfl, hterminate, hdone⟩ := Run.bind_iff.1 hrest
          obtain ⟨rfl, rfl⟩ := Run.done_iff.1 hdone
          rw [List.append_nil]
          exact Attempt.givenUp rfl hnoted hterminate
      | succ fewer =>
          obtain ⟨_, x, rfl, hagain⟩ := Run.ask_iff.1 hrest
          exact Attempt.overloaded rfl hnoted hagain
  | fatal code message =>
      obtain ⟨v, outcome, w, rfl, hterminate, hdone⟩ := Run.bind_iff.1 hnext
      obtain ⟨rfl, rfl⟩ := Run.done_iff.1 hdone
      rw [List.append_nil]
      exact Attempt.fatal hterminate

end Delivery

end Courier
