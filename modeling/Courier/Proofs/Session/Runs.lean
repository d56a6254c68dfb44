import Courier.Session.Program

/-!
# Runs of programs

A run of a program is told by its trace: the requests it made, each with the answer it got.
What a program does is proved of all its runs, by taking a run apart as the program is put
together.

Main definitions:

- `Exchange` is a request with its answer, and a `Trace` a list of them.
- `Program.Run` relates a program to its traces and to the values it ends with.
- `Program.play` runs a program against answers that may depend on all that happened before;
  `onLedger` answers what is asked of the ledger as a ledger does.
- `Kept` relates a trace to the ledger before and after it.

Main statements:

- A run of a request, of a value, and of two programs one after the other is taken apart
  (`Run.step_iff`, `Run.done_iff`, `Run.bind_iff`).
- Every program comes to an end against any answers, and this is a run (`run_play`).
-/

namespace Courier

/-! ## Traces -/

/-- A request with its answer. -/
structure Exchange where
  request : Request
  answer : request.Answer

/-- What a program has asked and learnt. -/
abbrev Trace := List Exchange

namespace Exchange

/-- What became of an attempt to open a session. -/
def connected? : Exchange → Option Connect.Result
  | ⟨.connect _, result⟩ => some result
  | _ => none

/-- The record whose failure was reported. -/
def failure? : Exchange → Option Record
  | ⟨.reportFailure r, _⟩ => some r
  | _ => none

/-- What the transport reported at the end. -/
def completion? : Exchange → Option (Except SessionFault Completion)
  | ⟨.complete _ _, completion⟩ => some completion
  | _ => none

/-- Whether an exchange takes a ledger to another one, answering as a ledger does. -/
def Keeps : Exchange → Ledger → Ledger → Prop
  | ⟨.ledger op, answer⟩, l, l' => l.perform op = (answer, l')
  | _, l, l' => l' = l

/-- The ledger after an exchange. -/
def ledgerAfter (l : Ledger) : Exchange → Ledger
  | ⟨.ledger op, _⟩ => (l.perform op).2
  | _ => l

end Exchange

namespace Trace

/-- The results of all attempts to open a session. -/
def connects (t : Trace) : List Connect.Result :=
  t.filterMap Exchange.connected?

/-- The records whose failure was reported. -/
def failures (t : Trace) : List Record :=
  t.filterMap Exchange.failure?

/-- All reports of the transport. -/
def completions (t : Trace) : List (Except SessionFault Completion) :=
  t.filterMap Exchange.completion?

@[simp] theorem connects_append (t u : Trace) :
    connects (t ++ u) = t.connects ++ u.connects :=
  List.filterMap_append

@[simp] theorem failures_append (t u : Trace) :
    failures (t ++ u) = t.failures ++ u.failures :=
  List.filterMap_append

@[simp] theorem completions_append (t u : Trace) :
    completions (t ++ u) = t.completions ++ u.completions :=
  List.filterMap_append

/-- The ledger after a trace. -/
def ledgerAfter (l : Ledger) (t : Trace) : Ledger :=
  t.foldl Exchange.ledgerAfter l

/-- The ledger after a trace is where the next one starts. -/
theorem ledgerAfter_append (l : Ledger) (t u : Trace) :
    (t ++ u).ledgerAfter l = u.ledgerAfter (t.ledgerAfter l) :=
  List.foldl_append

end Trace

/-- Whether a trace takes a ledger to another one, answering as a ledger does. -/
def Kept : Trace → Ledger → Ledger → Prop
  | [], l, l' => l' = l
  | x :: t, l, l' => ∃ m, x.Keeps l m ∧ Kept t m l'

/-- What a ledger has answered along two traces, it has answered along each of them. -/
theorem kept_append {t u : Trace} {l l' : Ledger} :
    Kept (t ++ u) l l' ↔ ∃ m, Kept t l m ∧ Kept u m l' := by
  induction t generalizing l with
  | nil => simp [Kept]
  | cons x t ih =>
      simp only [List.cons_append, Kept, ih]
      constructor
      · rintro ⟨m, hx, n, ht, hu⟩
        exact ⟨n, ⟨m, hx, ht⟩, hu⟩
      · rintro ⟨n, ⟨m, hx, ht⟩, hu⟩
        exact ⟨m, hx, n, ht, hu⟩

/-! ## Runs -/

namespace Program

variable {α β : Type}

/-- The runs of a program: its traces, each with the value that the program ends with. -/
inductive Run : Program α → Trace → α → Prop where
  | done (a : α) : Run (.done a) [] a
  | step {r : Request} {next : r.Answer → Program α} {answer : r.Answer} {t : Trace} {a : α}
      (h : Run (next answer) t a) : Run (.step r next) (⟨r, answer⟩ :: t) a

namespace Run

variable {t : Trace} {a b : α}

/-- A program that is done asks for nothing and has one value. -/
theorem done_iff : Run (.done a) t b ↔ t = [] ∧ b = a := by
  constructor
  · rintro ⟨⟩
    exact ⟨rfl, rfl⟩
  · rintro ⟨rfl, rfl⟩
    exact Run.done b

/-- A program that asks goes on with the answer. -/
theorem step_iff {r : Request} {next : r.Answer → Program α} :
    Run (.step r next) t a ↔ ∃ answer u, t = ⟨r, answer⟩ :: u ∧ Run (next answer) u a := by
  constructor
  · intro h
    cases h with
    | step h => exact ⟨_, _, rfl, h⟩
  · rintro ⟨answer, u, rfl, h⟩
    exact Run.step h

theorem ask_iff {r : Request} {f : r.Answer → Program α} :
    Run (perform r >>= f) t a ↔ ∃ answer u, t = ⟨r, answer⟩ :: u ∧ Run (f answer) u a :=
  step_iff

/-- A run of two programs is a run of the first one followed by one of the second. -/
theorem bind_iff {p : Program α} {f : α → Program β} {b : β} :
    Run (p >>= f) t b ↔ ∃ u a v, t = u ++ v ∧ Run p u a ∧ Run (f a) v b := by
  constructor
  · intro h
    induction p generalizing t with
    | done a => exact ⟨[], a, t, rfl, Run.done a, h⟩
    | step r next ih =>
        rw [step_bind] at h
        obtain ⟨answer, t', rfl, hnext⟩ := step_iff.1 h
        obtain ⟨u, a, v, rfl, hp, hf⟩ := ih answer hnext
        exact ⟨⟨r, answer⟩ :: u, a, v, rfl, Run.step hp, hf⟩
  · rintro ⟨u, a, v, rfl, hp, hf⟩
    induction hp with
    | done a => exact hf
    | step _ ih => exact Run.step (ih hf)

theorem append_done_iff {u : Trace} :
    (∃ v, t = u ++ v ∧ Run (.done a) v b) ↔ t = u ∧ b = a := by
  constructor
  · rintro ⟨v, rfl, hdone⟩
    obtain ⟨rfl, rfl⟩ := done_iff.1 hdone
    exact ⟨List.append_nil u, rfl⟩
  · rintro ⟨rfl, rfl⟩
    exact ⟨[], (List.append_nil t).symm, Run.done _⟩

/-- A program whose value is changed in the end has the same runs. -/
theorem map_iff {p : Program α} {f : α → β} {b : β} :
    Run (p >>= fun a => .done (f a)) t b ↔ ∃ a, b = f a ∧ Run p t a := by
  rw [bind_iff]
  constructor
  · rintro ⟨u, a, v, rfl, hp, hdone⟩
    obtain ⟨rfl, rfl⟩ := done_iff.1 hdone
    exact ⟨a, rfl, by rwa [List.append_nil]⟩
  · rintro ⟨a, rfl, hp⟩
    exact ⟨t, a, [], (List.append_nil t).symm, hp, Run.done _⟩

end Run

/-! ## Answers -/

/-- Answer a request from what happened before, and write the exchange down. -/
def recorded (answer : Trace → (r : Request) → r.Answer) (r : Request) :
    StateM Trace r.Answer :=
  fun t => (answer t r, t ++ [⟨r, answer t r⟩])

/-- Run a program against answers that may depend on what happened before: the value it ends
with, and the trace. -/
def play (answer : Trace → (r : Request) → r.Answer) (p : Program α) : α × Trace :=
  (p.runM (recorded answer)).run []

/-- Whether all answers in a trace are the given ones, after what happened before it. -/
def Answered (answer : Trace → (r : Request) → r.Answer) : Trace → Trace → Prop
  | _, [] => True
  | before, x :: t => x.answer = answer before x.request ∧ Answered answer (before ++ [x]) t

/-- What is so of every answer is so all along a trace. -/
theorem forall_of_answered {answer : Trace → (r : Request) → r.Answer} {A : Exchange → Prop}
    (h : ∀ before r, A ⟨r, answer before r⟩) {before t : Trace} (ht : Answered answer before t) :
    ∀ x ∈ t, A x := by
  induction t generalizing before with
  | nil => exact List.forall_mem_nil A
  | cons x t ih =>
      obtain ⟨hx, hrest⟩ := ht
      have hx' : x = ⟨x.request, answer before x.request⟩ := by rw [← hx]
      refine List.forall_mem_cons.2 ⟨?_, ih hrest⟩
      rw [hx']
      exact h before x.request

/-- The first answers of a trace are the given ones as well. -/
theorem answered_of_append {answer : Trace → (r : Request) → r.Answer} {before t u : Trace}
    (h : Answered answer before (t ++ u)) : Answered answer before t := by
  induction t generalizing before with
  | nil => trivial
  | cons x t ih => exact ⟨h.1, ih h.2⟩

/-- Whatever is answered, the recorded exchanges are those of a run. -/
theorem runM_recorded (answer : Trace → (r : Request) → r.Answer) (p : Program α)
    (before : Trace) :
    ∃ t, ((p.runM (recorded answer)).run before).2 = before ++ t ∧
      Run p t ((p.runM (recorded answer)).run before).1 ∧ Answered answer before t := by
  induction p generalizing before with
  | done a => exact ⟨[], (List.append_nil before).symm, Run.done a, trivial⟩
  | step r next ih =>
      obtain ⟨t, hstate, hrun, hanswered⟩ :=
        ih (answer before r) (before ++ [⟨r, answer before r⟩])
      refine ⟨⟨r, answer before r⟩ :: t, ?_, Run.step hrun, rfl, hanswered⟩
      rw [List.append_assoc] at hstate
      exact hstate

/-- Every program ends against any answers, and this is a run of it with these answers. -/
theorem run_play (answer : Trace → (r : Request) → r.Answer) (p : Program α) :
    Run p (play answer p).2 (play answer p).1 ∧ Answered answer [] (play answer p).2 := by
  obtain ⟨t, hstate, hrun, hanswered⟩ := runM_recorded answer p []
  have ht : (play answer p).2 = t := hstate
  rw [ht]
  exact ⟨hrun, hanswered⟩

/-- The only run with the given answers is the one that is played. -/
theorem runM_of_run {answer : Trace → (r : Request) → r.Answer} {p : Program α} {t : Trace}
    {a : α} (h : Run p t a) {before : Trace} (ht : Answered answer before t) :
    (p.runM (recorded answer)).run before = (a, before ++ t) := by
  induction h generalizing before with
  | done a =>
      rw [List.append_nil]
      rfl
  | @step r next given t a h ih =>
      obtain ⟨hgiven, hrest⟩ := ht
      obtain rfl : given = answer before r := hgiven
      have hnext := ih hrest
      rw [List.append_assoc] at hnext
      exact hnext

/-- A run that was answered so is the one that is played. -/
theorem play_of_run {answer : Trace → (r : Request) → r.Answer} {p : Program α} {t : Trace}
    {a : α} (h : Run p t a) (ht : Answered answer [] t) : play answer p = (a, t) :=
  runM_of_run h ht

/-- Answer what is asked of the ledger as one does that starts with a table and that nobody
else changes. -/
def onLedger (l : Ledger) (answer : Trace → (r : Request) → r.Answer) :
    Trace → (r : Request) → r.Answer
  | t, .ledger op => ((t.ledgerAfter l).perform op).1
  | t, r => answer t r

/-- After a trace, what is asked of the ledger is answered as by the ledger after it. -/
theorem onLedger_append (l : Ledger) (answer : Trace → (r : Request) → r.Answer)
    (before : Trace) :
    (fun t => onLedger l answer (before ++ t)) =
      onLedger (before.ledgerAfter l) fun t => answer (before ++ t) := by
  funext t r
  cases r with
  | ledger op => rw [onLedger, onLedger, Trace.ledgerAfter_append]
  | _ => rfl

/-- Answers on a ledger are those of the ledger. -/
theorem kept_of_answered {l : Ledger} {answer : Trace → (r : Request) → r.Answer}
    {before t : Trace} (h : Answered (onLedger l answer) before t) :
    Kept t (before.ledgerAfter l) ((before ++ t).ledgerAfter l) := by
  induction t generalizing before with
  | nil =>
      rw [List.append_nil]
      rfl
  | cons x t ih =>
      obtain ⟨hx, ht⟩ := h
      have hrest := ih ht
      rw [List.append_assoc, List.singleton_append] at hrest
      refine ⟨(before ++ [x]).ledgerAfter l, ?_, hrest⟩
      have hlast : (before ++ [x]).ledgerAfter l = x.ledgerAfter (before.ledgerAfter l) := by
        simp only [Trace.ledgerAfter, List.foldl_append, List.foldl_cons, List.foldl_nil]
      rw [hlast]
      rcases x with ⟨r, a⟩
      cases r with
      | ledger op =>
          obtain rfl : a = ((before.ledgerAfter l).perform op).1 := hx
          rfl
      | _ => rfl

/-! ## Runs on a ledger -/

/-- The runs of a program on a ledger that nobody else changes, with the ledger after them. -/
def RunOn (l : Ledger) (p : Program α) (t : Trace) (a : α) (l' : Ledger) : Prop :=
  Run p t a ∧ Kept t l l'

/-- Every program ends on a ledger, against any answers to its other requests. -/
theorem runOn_play (l : Ledger) (answer : Trace → (r : Request) → r.Answer) (p : Program α) :
    RunOn l p (play (onLedger l answer) p).2 (play (onLedger l answer) p).1
      ((play (onLedger l answer) p).2.ledgerAfter l) := by
  obtain ⟨hrun, hanswered⟩ := run_play (onLedger l answer) p
  exact ⟨hrun, kept_of_answered hanswered⟩

namespace RunOn

variable {l l' : Ledger} {t : Trace} {a b : α}

theorem of_done (h : RunOn l (.done a) t b l') : t = [] ∧ b = a ∧ l' = l := by
  obtain ⟨hrun, hkept⟩ := h
  obtain ⟨rfl, rfl⟩ := Run.done_iff.1 hrun
  exact ⟨rfl, rfl, hkept⟩

/-- A run of two programs has a ledger in between. -/
theorem of_bind {p : Program α} {f : α → Program β} {b : β} (h : RunOn l (p >>= f) t b l') :
    ∃ u a v m, t = u ++ v ∧ RunOn l p u a m ∧ RunOn m (f a) v b l' := by
  obtain ⟨hrun, hkept⟩ := h
  obtain ⟨u, a, v, rfl, hp, hf⟩ := Run.bind_iff.1 hrun
  obtain ⟨m, hu, hv⟩ := kept_append.1 hkept
  exact ⟨u, a, v, m, rfl, ⟨hp, hu⟩, hf, hv⟩

/-- A program whose value is changed in the end. -/
theorem of_map {p : Program α} {f : α → β} {b : β}
    (h : RunOn l (p >>= fun a => .done (f a)) t b l') : ∃ a, b = f a ∧ RunOn l p t a l' := by
  obtain ⟨u, a, v, m, rfl, hp, hdone⟩ := h.of_bind
  obtain ⟨rfl, hb, rfl⟩ := hdone.of_done
  rw [List.append_nil]
  exact ⟨a, hb, hp⟩

/-- A request that the ledger has no part in leaves it alone. -/
theorem of_ask {r : Request} {f : r.Answer → Program α} (h : RunOn l (perform r >>= f) t a l')
    (hr : ∀ answer m, Exchange.Keeps ⟨r, answer⟩ l m → m = l) :
    ∃ answer u, t = ⟨r, answer⟩ :: u ∧ RunOn l (f answer) u a l' := by
  obtain ⟨hrun, hkept⟩ := h
  obtain ⟨answer, u, rfl, hf⟩ := Run.ask_iff.1 hrun
  obtain ⟨m, hm, hu⟩ := hkept
  obtain rfl := hr answer m hm
  exact ⟨answer, u, rfl, hf, hu⟩

/-- An operation on the ledger is performed. -/
theorem of_ledger {op : Ledger.Op} {f : op.Answer → Program α}
    (h : RunOn l (ledger op >>= f) t a l') :
    ∃ u, t = ⟨.ledger op, (l.perform op).1⟩ :: u ∧
      RunOn (l.perform op).2 (f (l.perform op).1) u a l' := by
  obtain ⟨hrun, hkept⟩ := h
  obtain ⟨answer, u, rfl, hf⟩ := Run.ask_iff.1 hrun
  obtain ⟨m, hm, hu⟩ := hkept
  obtain ⟨rfl, rfl⟩ : (l.perform op).1 = answer ∧ (l.perform op).2 = m := by
    have hperform : l.perform op = (answer, m) := hm
    rw [hperform]
    exact ⟨rfl, rfl⟩
  exact ⟨u, rfl, hf, hu⟩

end RunOn

end Program

end Courier
