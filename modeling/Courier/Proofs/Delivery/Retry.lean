import Courier.Proofs.Delivery.Attempt
import Courier.Proofs.Delivery.Requests
import Mathlib.Data.Nat.Count
import Mathlib.Order.Bounds.Defs

/-!
# Attempts to reach a partner

How often a partner is tried, how long the courier waits in between, and what comes of it,
whatever the partner answers to each attempt.  The answers are an infinite sequence, of which
a run takes as many as it needs.

Main definitions:

- `Event` is an attempt, a look at the clock or a wait, and `events` are those of a run.
- `Course` says that a run pauses once after every attempt but the last one.
- `IsLastAttempt` and `IsLastOpening` say which answer ends the attempts of a transfer, and of
  a session for single requests.
- `Obeys` is the law of attempts.
- `HasRoom` says that the answers of a busy partner can be counted in 32 bits.

Main statements:

- `Connection.openSession` and `Delivery.connect` obey the law of attempts, each with its own
  bound (`connect_obeys`).  The second one counts the answers of a busy partner, so it needs room
  for them; the largest limit of 32 bits leaves none when the partner is too busy for ever.
-/

namespace Courier

open Program Calendar

/-! ## Answers to attempts -/

namespace Connect.Result

/-- What comes of the attempts when this is the last answer: a session, or a code. -/
def verdict : Connect.Result → Except ResultCode Session
  | connected session => .ok session
  | fatal code _ => .error code
  | _ => .error .connectionImpossible

end Connect.Result

namespace Retry

variable {results : ℕ → Connect.Result} {policy : Policy} {i last : ℕ}

/-- Answer the attempts from a sequence of results, and all else from what happened before. -/
def onConnects (results : ℕ → Connect.Result) (answer : Trace → (r : Request) → r.Answer) :
    Trace → (r : Request) → r.Answer
  | t, .connect _ => results t.connects.length
  | t, r => answer t r

/-- Whether some results are those of the sequence from a place on. -/
def Drawn (results : ℕ → Connect.Result) (i : ℕ) (cs : List Connect.Result) : Prop :=
  cs = (List.range' i cs.length).map results

/-- Answers are drawn in order, each from the next place. -/
theorem drawn_cons {r : Connect.Result} {cs : List Connect.Result} :
    Drawn results i (r :: cs) ↔ r = results i ∧ Drawn results (i + 1) cs := by
  simp only [Drawn, List.length_cons, List.range'_succ, List.map_cons, List.cons.injEq]

/-- The answers of a run are drawn from the place that the trace before has come to. -/
theorem drawn_of_answered {answer : Trace → (r : Request) → r.Answer} {before t : Trace}
    (h : Answered (onConnects results answer) before t) :
    Drawn results before.connects.length t.connects := by
  induction t generalizing before with
  | nil => rfl
  | cons x t ih =>
      obtain ⟨hx, ht⟩ := h
      have hrest := ih ht
      simp only [Trace.connects, List.filterMap_append, List.filterMap_cons, List.filterMap_nil,
        List.length_append] at hrest ⊢
      rcases x with ⟨r, a⟩
      cases r with
      | connect c =>
          obtain rfl : a = results before.connects.length := hx
          exact drawn_cons.2 ⟨rfl, hrest⟩
      | _ => exact hrest

/-! ## Events -/

/-- What a run does about time and attempts. -/
inductive Event where
  | tried (result : Connect.Result)
  | clock (fraction : Nat)
  | slept (s : Span)

/-- The event of an exchange. -/
def event? : Exchange → Option Event
  | ⟨.connect _, result⟩ => some (.tried result)
  | ⟨.clockFraction, fraction⟩ => some (.clock fraction)
  | ⟨.sleep s, _⟩ => some (.slept s)
  | _ => none

/-- The events of a run. -/
def events (t : Trace) : List Event :=
  t.filterMap event?

@[simp] theorem events_append (t u : Trace) : events (t ++ u) = events t ++ events u :=
  List.filterMap_append

/-- The events of a run that tries a partner from a place in the results up to the last one.
After an answer of a partner that is not there yet it waits for the delay with its number,
varied by the clock; after one of a busy partner it waits for a fixed time. -/
inductive Course (policy : Policy) (results : ℕ → Connect.Result) (number : ℕ → ℕ) :
    ℕ → ℕ → List Event → Prop where
  | last (i : ℕ) : Course policy results number i i [.tried (results i)]
  | pending {i last : ℕ} {es : List Event} (fraction : ℕ) (h : (results i).isPending = true)
      (rest : Course policy results number (i + 1) last es) :
      Course policy results number i last (.tried (results i) :: .clock fraction ::
        .slept (policy.reconnect.delay (number i) fraction) :: es)
  | overloaded {i last : ℕ} {es : List Event} (h : (results i).isOverloaded = true)
      (rest : Course policy results number (i + 1) last es) :
      Course policy results number i last
        (.tried (results i) :: .slept policy.overloadBackoff :: es)

/-! ## The law -/

/-- How many of the first results are of a partner that was not there. -/
def pendings (results : ℕ → Connect.Result) (i : ℕ) : ℕ :=
  Nat.count (fun k => (results k).isPending = true) i

/-- How many of the first results are of a partner that was too busy. -/
def overloads (results : ℕ → Connect.Result) (i : ℕ) : ℕ :=
  Nat.count (fun k => (results k).isOverloaded = true) i

/-- Whether an answer is the last one that a transfer waits for. -/
inductive IsLastAttempt (policy : Policy) (results : ℕ → Connect.Result) (k : ℕ) : Prop where
  | settled (h : (results k).isSettled = true)
  | exhausted (h : (results k).isPending = true)
      (count : pendings results (k + 1) = policy.attempts)
  | overloaded (h : (results k).isOverloaded = true)
      (count : overloads results (k + 1) = policy.overloadRetryLimit + 1)

/-- Whether an answer is the last one that the opening of a session waits for: a busy partner
uses up attempts like one that is not there. -/
inductive IsLastOpening (policy : Policy) (results : ℕ → Connect.Result) (k : ℕ) : Prop where
  | settled (h : (results k).isSettled = true)
  | exhausted (h : (results k).isSettled = false)
      (count : pendings results (k + 1) + overloads results (k + 1) = policy.attempts)

/-- The law of attempts: the last attempt is the first one that ends them, there is one pause
after each of the others, and the last answer decides what comes of them.  Attempts are
counted from zero. -/
def Obeys (policy : Policy) (results : ℕ → Connect.Result) (IsLast : ℕ → Prop)
    (number : ℕ → ℕ) (t : Trace) (result : Except ResultCode Session) : Prop :=
  ∃ last, IsLeast {k | IsLast k} last ∧ t.connects.length = last + 1 ∧
    Course policy results number 0 last (events t) ∧ result = (results last).verdict

/-- Whether the answers of a busy partner can be counted in 32 bits: the limit ends the attempts
in time, or the partner is not as often too busy. -/
def HasRoom (policy : Policy) (results : ℕ → Connect.Result) : Prop :=
  policy.overloadRetryLimit + 1 < Json.wordValues 32 ∨
    ∀ k, overloads results k < Json.wordValues 32

/-! ## Attempts from a place on -/

/-- What the law says of the attempts from a place in the results on. -/
structure Attempts (policy : Policy) (results : ℕ → Connect.Result) (IsLast : ℕ → Prop)
    (number : ℕ → ℕ) (i last : ℕ) (es : List Event) : Prop where
  le : i ≤ last
  isLast : IsLast last
  not_isLast : ∀ k, i ≤ k → k < last → ¬ IsLast k
  course : Course policy results number i last es

namespace Attempts

variable {IsLast : ℕ → Prop} {number : ℕ → ℕ} {es : List Event}

/-- Attempts end with one that ends them and after which the run does not wait. -/
theorem ended {c : Connect} {r : Connect.Result} {t : Trace} (hr : r = results i)
    (hlast : IsLast i) (hsilent : events t = []) :
    Attempts policy results IsLast number i i (events (⟨.connect c, r⟩ :: t)) := by
  have hevents : events (⟨.connect c, r⟩ :: t) = [.tried (results i)] := by
    rw [← hr]
    exact congrArg (Event.tried r :: ·) hsilent
  rw [hevents]
  exact ⟨Nat.le_refl i, hlast, fun _ hle hlt => absurd hlt (Nat.not_lt.2 hle), Course.last i⟩

/-- No attempt before the last one is the last, this one included. -/
theorem not_isLast_of_succ (h : Attempts policy results IsLast number (i + 1) last es)
    (hi : ¬ IsLast i) : ∀ k, i ≤ k → k < last → ¬ IsLast k := by
  intro k hle hlt
  rcases Nat.eq_or_lt_of_le hle with rfl | hlt'
  · exact hi
  · exact h.not_isLast k hlt' hlt

/-- Attempts go on after a delay when the partner is not there yet. -/
theorem delayed {c : Connect} {reason : String} {fraction : ℕ} {t : Trace}
    (h : Attempts policy results IsLast number (i + 1) last (events t))
    (hr : .pending reason = results i) (hi : ¬ IsLast i) :
    Attempts policy results IsLast number i last (events (⟨.connect c, .pending reason⟩ ::
      ⟨.clockFraction, fraction⟩ ::
        ⟨.sleep (policy.reconnect.delay (number i) fraction), ()⟩ :: t)) := by
  have hpending : (results i).isPending = true := by
    rw [← hr]
    rfl
  have hcourse := Course.pending fraction hpending h.course
  rw [← hr] at hcourse
  exact ⟨Nat.le_of_succ_le h.le, h.isLast, h.not_isLast_of_succ hi, hcourse⟩

/-- Attempts go on after a fixed time when the partner is too busy. -/
theorem backedOff {c : Connect} {t u : Trace}
    (h : Attempts policy results IsLast number (i + 1) last (events u))
    (hr : .overloaded = results i) (hi : ¬ IsLast i) (hsilent : events t = []) :
    Attempts policy results IsLast number i last (events (⟨.connect c, .overloaded⟩ ::
      (t ++ ⟨.sleep policy.overloadBackoff, ()⟩ :: u))) := by
  have hoverloaded : (results i).isOverloaded = true := by
    rw [← hr]
    rfl
  have hcourse := Course.overloaded hoverloaded h.course
  rw [← hr] at hcourse
  have hevents : events (⟨.connect c, .overloaded⟩ ::
      (t ++ ⟨.sleep policy.overloadBackoff, ()⟩ :: u)) =
        .tried .overloaded :: .slept policy.overloadBackoff :: events u := by
    show Event.tried .overloaded :: events (t ++ _) = _
    rw [events_append, hsilent]
    rfl
  rw [hevents]
  exact ⟨Nat.le_of_succ_le h.le, h.isLast, h.not_isLast_of_succ hi, hcourse⟩

/-- The attempts from the first result on obey the law. -/
theorem isLeast (h : Attempts policy results IsLast number 0 last es) :
    IsLeast {k | IsLast k} last := by
  refine ⟨h.isLast, ?_⟩
  intro k hk
  by_contra hlt
  exact h.not_isLast k (Nat.zero_le k) (Nat.lt_of_not_le hlt) hk

end Attempts

/-! ## Attempts of a run -/

/-- The result of an attempt. -/
def Event.tried? : Event → Option Connect.Result
  | tried result => some result
  | _ => none

/-- The connects of a trace can be told from its events. -/
theorem connects_eq (t : Trace) : t.connects = (events t).filterMap Event.tried? := by
  rw [events, List.filterMap_filterMap]
  refine List.filterMap_congr ?_
  rintro ⟨r, answer⟩ -
  cases r <;> rfl

/-- A run makes as many attempts as its course has. -/
theorem length_connects {number : ℕ → ℕ} {t : Trace}
    (h : Course policy results number i last (events t)) :
    i + t.connects.length = last + 1 := by
  rw [connects_eq]
  generalize events t = es at h
  induction h with
  | last i => rfl
  | pending _ _ ih =>
      simp only [List.filterMap_cons, Event.tried?, List.length_cons]
      omega
  | overloaded _ _ ih =>
      simp only [List.filterMap_cons, Event.tried?, List.length_cons]
      omega

/-- One more answer counts where it is pending. -/
theorem pendings_succ {r : Connect.Result} (hr : r = results i) :
    pendings results (i + 1) = pendings results i + r.isPending.toNat := by
  rw [pendings, Nat.count_succ, hr]
  cases (results i).isPending <;> rfl

/-- One more answer counts where it is an overload. -/
theorem overloads_succ {r : Connect.Result} (hr : r = results i) :
    overloads results (i + 1) = overloads results i + r.isOverloaded.toNat := by
  rw [overloads, Nat.count_succ, hr]
  cases (results i).isOverloaded <;> rfl

/-- The answers of a busy partner among some results from a place on. -/
theorem countP_isOverloaded {cs : List Connect.Result} (h : Drawn results i cs) :
    overloads results i + cs.countP Connect.Result.isOverloaded =
      overloads results (i + cs.length) := by
  induction cs generalizing i with
  | nil => rfl
  | cons r cs ih =>
      obtain ⟨hr, hrest⟩ := drawn_cons.1 h
      have hcount := ih hrest
      have hsucc := overloads_succ hr
      have hlength : i + (r :: cs).length = i + 1 + cs.length := by
        rw [List.length_cons]
        omega
      rw [hlength, ← hcount, hsucc, List.countP_cons]
      cases r.isOverloaded with
      | false => rfl
      | true =>
          rw [if_pos rfl, Bool.toNat_true]
          omega

/-- A run that makes its attempts in order obeys the law. -/
theorem Attempts.obeys {IsLast : ℕ → Prop} {number : ℕ → ℕ} {t : Trace}
    {result : Except ResultCode Session}
    (h : Attempts policy results IsLast number 0 last (events t))
    (hresult : result = (results last).verdict) :
    Obeys policy results IsLast number t result := by
  refine ⟨last, h.isLeast, ?_, h.course, hresult⟩
  have hlength := length_connects h.course
  omega

/-! ## Silent programs -/

/-- What is done with a record is neither an attempt nor a wait. -/
theorem tends_silent (key : Record.Key) :
    Delivery.Tends key fun r => ∀ answer, event? ⟨r, answer⟩ = none :=
  ⟨fun _ => rfl, fun _ _ _ => rfl, fun _ => rfl, fun _ _ => rfl⟩

/-- A program that asks for nothing to see leaves no events. -/
theorem events_of_asks {α : Type} {p : Program α} {t : Trace} {a : α} (h : Run p t a)
    (hp : Asks (fun r => ∀ answer, event? ⟨r, answer⟩ = none) p) : events t = [] :=
  List.filterMap_eq_nil_iff.2 fun x hx => h.request_of_mem hp x hx x.answer

theorem events_started {p q : Prepared} {t : Trace} (h : Run (Delivery.started p) t q) :
    events t = [] :=
  events_of_asks h (Delivery.ensures_started (tends_silent _) rfl).asks

theorem events_noteOverload {p q : Prepared} {t : Trace} (h : Run (Delivery.noteOverload p) t q) :
    events t = [] :=
  events_of_asks h (Delivery.ensures_noteOverload (tends_silent _) rfl).asks

theorem events_terminate {p : Prepared} {code : ResultCode} {cause : String} {t : Trace}
    {outcome : Outcome} (h : Run (Delivery.terminate p code cause) t outcome) : events t = [] :=
  events_of_asks h (Delivery.ensures_terminate (tends_silent _) rfl code cause).asks

/-- A transfer that is terminated fails with the code that is given. -/
theorem code_terminate {p : Prepared} {code : ResultCode} {cause : String} {t : Trace}
    {outcome : Outcome} (h : Run (Delivery.terminate p code cause) t outcome) :
    outcome.code = code := by
  obtain ⟨u, record, v, rfl, -, hv⟩ := Run.bind_iff.1 h
  split at hv
  · obtain ⟨w, _, x, rfl, -, hx⟩ := Run.bind_iff.1 hv
    obtain ⟨-, rfl⟩ := Run.done_iff.1 hx
    rfl
  · obtain ⟨-, rfl⟩ := Run.done_iff.1 hv
    rfl

/-! ## Transfers -/

/-- A pending answer is the last one only when the attempts are used up. -/
theorem not_isLastAttempt_of_pending {reason : String} (hr : .pending reason = results i)
    (hne : pendings results (i + 1) ≠ policy.attempts) : ¬ IsLastAttempt policy results i := by
  rintro (h | ⟨-, hcount⟩ | ⟨h, -⟩)
  · simp [← hr, Connect.Result.isSettled] at h
  · exact hne hcount
  · simp [← hr, Connect.Result.isOverloaded] at h

/-- An overload is the last answer only when the overloads are used up. -/
theorem not_isLastAttempt_of_overloaded (hr : .overloaded = results i)
    (hne : overloads results (i + 1) ≠ policy.overloadRetryLimit + 1) :
    ¬ IsLastAttempt policy results i := by
  rintro (h | ⟨h, -⟩ | ⟨-, hcount⟩)
  · simp [← hr, Connect.Result.isSettled] at h
  · simp [← hr, Connect.Result.isPending] at h
  · exact hne hcount

/-- What has come of opening the session of a transfer. -/
def outcome (result : Except Outcome (Session × Prepared)) : Except ResultCode Session :=
  (result.mapError Outcome.code).map Prod.fst

/-- The attempts of a transfer from a place in the results on, when as many attempts and
overloads are left as the results before it have not used up.  They end at the latest when the
limit of overloads is passed. -/
theorem attempts_tryConnect {through : Through} {p : Prepared} {reason : String}
    {left patience : ℕ} {t : Trace} {result : Except Outcome (Session × Prepared)}
    (h : Run (Delivery.tryConnect policy through p reason left patience) t result)
    (hdrawn : Drawn results i t.connects) (hpos : 0 < left)
    (hleft : pendings results i + left = policy.attempts)
    (hpatience : overloads results i + patience = policy.overloadRetryLimit) :
    ∃ last, Attempts policy results (IsLastAttempt policy results)
        (fun k => pendings results (k + 1)) i last (events t) ∧
      outcome result = (results last).verdict ∧
      overloads results (last + 1) ≤ policy.overloadRetryLimit + 1 := by
  induction p, reason, left, patience using Delivery.tryConnect_induction
    generalizing t i with
  | spent p reason patience => exact absurd hpos (Nat.lt_irrefl 0)
  | attempt p reason left patience again patient =>
    cases Delivery.attempt_of_run h with
    | connected hstarted =>
        obtain ⟨hr, -⟩ := drawn_cons.1 hdrawn
        have hlast : IsLastAttempt policy results i := .settled (by rw [← hr]; rfl)
        have hsame : overloads results (i + 1) = overloads results i := overloads_succ hr
        refine ⟨i, Attempts.ended hr hlast (events_started hstarted), ?_, by omega⟩
        rw [← hr]
        rfl
    | exhausted hzero hterminate =>
        obtain ⟨hr, -⟩ := drawn_cons.1 hdrawn
        have hcount : pendings results (i + 1) = pendings results i + 1 := pendings_succ hr
        have hsame : overloads results (i + 1) = overloads results i := overloads_succ hr
        have hlast : IsLastAttempt policy results i :=
          .exhausted (by rw [← hr]; rfl) (by omega)
        refine ⟨i, Attempts.ended hr hlast (events_terminate hterminate), ?_, by omega⟩
        rw [← hr, outcome, Except.mapError, code_terminate hterminate]
        rfl
    | pending hne hagain =>
        obtain ⟨hr, hrest⟩ := drawn_cons.1 hdrawn
        have hcount : pendings results (i + 1) = pendings results i + 1 := pendings_succ hr
        have hsame : overloads results (i + 1) = overloads results i := overloads_succ hr
        obtain ⟨last, hattempts, hverdict, hbound⟩ :=
          again _ hagain hrest (Nat.pos_of_ne_zero hne) (by omega) (by omega)
        have hnumber : policy.attempts - left = pendings results (i + 1) := by omega
        have hgoes : ¬ IsLastAttempt policy results i :=
          not_isLastAttempt_of_pending hr (by omega)
        rw [hnumber]
        exact ⟨last, hattempts.delayed hr hgoes, hverdict, hbound⟩
    | givenUp hzero hnoted hterminate =>
        obtain ⟨hr, -⟩ := drawn_cons.1 hdrawn
        have hcount : overloads results (i + 1) = overloads results i + 1 := overloads_succ hr
        have hlast : IsLastAttempt policy results i :=
          .overloaded (by rw [← hr]; rfl) (by omega)
        refine ⟨i, Attempts.ended hr hlast ?_, ?_, by omega⟩
        · rw [events_append]
          exact List.append_eq_nil_iff.2
            ⟨events_noteOverload hnoted, events_terminate hterminate⟩
        · rw [← hr, outcome, Except.mapError, code_terminate hterminate]
          rfl
    | overloaded hsucc hnoted hagain =>
        have hquiet := events_noteOverload hnoted
        obtain ⟨hr, hrest⟩ := drawn_cons.1 hdrawn
        have hcount : overloads results (i + 1) = overloads results i + 1 := overloads_succ hr
        have hsame : pendings results (i + 1) = pendings results i := pendings_succ hr
        rw [List.filterMap_append, ← Trace.connects, connects_eq, hquiet] at hrest
        obtain ⟨last, hattempts, hverdict, hbound⟩ :=
          patient _ _ _ hsucc hagain hrest hpos (by omega) (by omega)
        have hgoes : ¬ IsLastAttempt policy results i :=
          not_isLastAttempt_of_overloaded hr (by omega)
        exact ⟨last, hattempts.backedOff hr hgoes hquiet, hverdict, hbound⟩
    | fatal hterminate =>
        obtain ⟨hr, -⟩ := drawn_cons.1 hdrawn
        have hlast : IsLastAttempt policy results i := .settled (by rw [← hr]; rfl)
        have hsame : overloads results (i + 1) = overloads results i := overloads_succ hr
        refine ⟨i, Attempts.ended hr hlast (events_terminate hterminate), ?_, by omega⟩
        rw [← hr, outcome, Except.mapError, code_terminate hterminate]
        rfl

/-! ## Sessions for single requests -/

/-- What has come of opening a session for single requests. -/
def opened (result : Except SessionFault Session) : Except ResultCode Session :=
  result.mapError SessionFault.code

/-- Any undecided answer uses up an attempt to open a session. -/
theorem tries_succ {r : Connect.Result} (hr : r = results i) (hsettled : r.isSettled = false) :
    pendings results (i + 1) + overloads results (i + 1) =
      pendings results i + overloads results i + 1 := by
  have hpendings := pendings_succ hr
  have hoverloads := overloads_succ hr
  cases r with
  | connected session => cases hsettled
  | fatal code message => cases hsettled
  | pending reason =>
      simp only [Connect.Result.isPending, Connect.Result.isOverloaded, Bool.toNat_true,
        Bool.toNat_false] at hpendings hoverloads
      omega
  | overloaded =>
      simp only [Connect.Result.isPending, Connect.Result.isOverloaded, Bool.toNat_true,
        Bool.toNat_false] at hpendings hoverloads
      omega

/-- Without a settled answer a partner is not reached. -/
theorem verdict_of_not_isSettled {r : Connect.Result} (h : r.isSettled = false) :
    r.verdict = .error .connectionImpossible := by
  cases r with
  | connected session => cases h
  | fatal code message => cases h
  | pending reason => rfl
  | overloaded => rfl

/-- For single requests, pending answers and overloads use up the same attempts. -/
theorem not_isLastOpening
    (hne : pendings results (i + 1) + overloads results (i + 1) ≠ policy.attempts)
    (hr : (results i).isSettled = false) : ¬ IsLastOpening policy results i := by
  rintro (h | ⟨-, hcount⟩)
  · rw [hr] at h
    cases h
  · exact hne hcount

/-- The attempts to open a session from a place in the results on, when as many are left as
the results before it have not used up. -/
theorem attempts_tryOpen {partner : Partner} {reason : String} {left : ℕ} {t : Trace}
    {result : Except SessionFault Session}
    (h : Run (Connection.tryOpen policy partner (left + 1) reason) t result)
    (hdrawn : Drawn results i t.connects)
    (hleft : pendings results i + overloads results i + (left + 1) = policy.attempts) :
    ∃ last, Attempts policy results (IsLastOpening policy results)
        (fun k => pendings results (k + 1) + overloads results (k + 1)) i last (events t) ∧
      opened result = (results last).verdict := by
  induction left using Nat.strong_induction_on generalizing reason t i with
  | _ left ih =>
    cases Connection.opening_of_run h with
    | connected =>
        obtain ⟨hr, -⟩ := drawn_cons.1 hdrawn
        have hlast : IsLastOpening policy results i := .settled (by rw [← hr]; rfl)
        refine ⟨i, Attempts.ended hr hlast rfl, ?_⟩
        rw [← hr]
        rfl
    | fatal =>
        obtain ⟨hr, -⟩ := drawn_cons.1 hdrawn
        have hlast : IsLastOpening policy results i := .settled (by rw [← hr]; rfl)
        refine ⟨i, Attempts.ended hr hlast rfl, ?_⟩
        rw [← hr]
        rfl
    | exhausted hzero hsettled =>
        obtain ⟨hr, -⟩ := drawn_cons.1 hdrawn
        have hcount := tries_succ hr hsettled
        have hlast : IsLastOpening policy results i :=
          .exhausted (by rw [← hr, hsettled]) (by omega)
        refine ⟨i, Attempts.ended hr hlast rfl, ?_⟩
        rw [← hr, verdict_of_not_isSettled hsettled]
        rfl
    | pending hne hagain =>
        obtain ⟨hr, hrest⟩ := drawn_cons.1 hdrawn
        obtain ⟨fewer, rfl⟩ := Nat.exists_eq_succ_of_ne_zero hne
        have hcount := tries_succ hr rfl
        obtain ⟨last, hattempts, hverdict⟩ := ih fewer (by omega) hagain hrest (by omega)
        have hnumber : policy.attempts - fewer.succ =
            pendings results (i + 1) + overloads results (i + 1) := by omega
        have hgoes : ¬ IsLastOpening policy results i :=
          not_isLastOpening (by omega) (by rw [← hr]; rfl)
        rw [hnumber]
        exact ⟨last, hattempts.delayed hr hgoes, hverdict⟩
    | overloaded hne hagain =>
        obtain ⟨hr, hrest⟩ := drawn_cons.1 hdrawn
        obtain ⟨fewer, rfl⟩ := Nat.exists_eq_succ_of_ne_zero hne
        have hcount := tries_succ hr rfl
        obtain ⟨last, hattempts, hverdict⟩ := ih fewer (by omega) hagain hrest (by omega)
        have hgoes : ¬ IsLastOpening policy results i :=
          not_isLastOpening (by omega) (by rw [← hr]; rfl)
        exact ⟨last, hattempts.backedOff (t := []) hr hgoes rfl, hverdict⟩

/-! ## All attempts -/

/-- All answers of a run are drawn from the first place on. -/
theorem drawn_play {α : Type} (results : ℕ → Connect.Result)
    (answer : Trace → (r : Request) → r.Answer) (p : Program α) :
    Drawn results 0 (play (onConnects results answer) p).2.connects :=
  drawn_of_answered (run_play (onConnects results answer) p).2

/-- A partner that is away at first and too busy from then on. -/
def sampleResults : ℕ → Connect.Result
  | 0 => .pending "away"
  | _ + 1 => .overloaded

/-- The clocks stand still, and nothing is kept. -/
def sampleAnswer : Trace → (r : Request) → r.Answer
  | _, .now => default
  | _, .clockFraction => 0
  | _, .files op => match op with
      | .metadata _ | .entries _ | .read _ | .write _ _ | .makeDirectories _ | .rename _ _
      | .remove _ => .error .notFound
  | _, .ledger op => ((Ledger.mk [] 0).perform op).1
  | _, .connect _ => .overloaded
  | _, .complete _ _ | _, .ask _ _ _ | _, .send _ _ _ | _, .writable _ => .error .closed
  | _, .reportFailure _ | _, .reportProgress _ | _, .tally _ | _, .sleep _ | _, .close _ => ()

end Retry

end Courier
