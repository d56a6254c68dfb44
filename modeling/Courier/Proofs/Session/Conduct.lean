import Courier.Proofs.Session.Runs

/-!
# How programs conduct sessions

A session is opened by an attempt that succeeds and closed by a request of its own, and every
other call on it belongs in between.  A program that keeps to one session at a time is followed
along its trace with the session that is open as the only state, and two such programs can be
put one after the other.

Main definitions:

- `Trace.Orderly` is the conduct that is wanted, said of the places in a trace.
- `Trace.Conducts` follows the session that is open along a trace.
- `Program.Conducts` says that all runs of a program are followed from one session to another.
- `Program.Asks` says that a program only makes requests of some kind.
- `Program.Yields` says what value a program ends with, given what every exchange is like.

Main statements:

- A trace that is followed from no session to no session is orderly (`Conducts.orderly`).
- Programs are composed along the session that is open in between (`conducts_bind`), and those
  that have nothing to do with sessions leave it alone (`conducts_of_asks`).
-/

namespace Courier

open Program

/-! ## Requests of a kind -/

namespace Program

variable {α β : Type} {P Q : Request → Prop}

/-- Whether a program only makes requests of some kind, whatever is answered. -/
def Asks (P : Request → Prop) : Program α → Prop
  | .done _ => True
  | .step r next => P r ∧ ∀ answer, Asks P (next answer)

theorem asks_done (a : α) : Asks P (.done a) :=
  trivial

theorem asks_perform {r : Request} (hr : P r) : Asks P (perform r) :=
  ⟨hr, fun _ => trivial⟩

/-- Two programs one after the other ask for what both of them ask for. -/
theorem asks_bind {p : Program α} {f : α → Program β} (hp : Asks P p)
    (hf : ∀ a, Asks P (f a)) : Asks P (p >>= f) := by
  induction p with
  | done a => exact hf a
  | step r next ih => exact ⟨hp.1, fun answer => ih answer (hp.2 answer)⟩

/-- All requests of a run are of the kind. -/
theorem Run.request_of_mem {p : Program α} {t : Trace} {a : α} (h : Run p t a) (hp : Asks P p) :
    ∀ x ∈ t, P x.request := by
  induction h with
  | done a => simp
  | step _ ih =>
      intro x hx
      rcases List.mem_cons.1 hx with rfl | hx
      · exact hp.1
      · exact ih (hp.2 _) x hx

/-- What a program asks for may be described more widely. -/
theorem Asks.imp {p : Program α} (h : Asks P p) (hPQ : ∀ r, P r → Q r) : Asks Q p := by
  induction p with
  | done a => exact asks_done a
  | step r next ih => exact ⟨hPQ r h.1, fun answer => ih answer (h.2 answer)⟩

/-- A program ends when everything that it asks can be answered in some way. -/
theorem exists_run_of_asks {p : Program α} {A : Exchange → Prop}
    (h : Asks (fun r => ∃ answer, A ⟨r, answer⟩) p) :
    ∃ t a, Run p t a ∧ ∀ x ∈ t, A x := by
  induction p with
  | done a => exact ⟨[], a, .done a, List.forall_mem_nil A⟩
  | step r next ih =>
      obtain ⟨⟨answer, hanswer⟩, hnext⟩ := h
      obtain ⟨t, a, hrun, ht⟩ := ih answer (hnext answer)
      exact ⟨⟨r, answer⟩ :: t, a, .step hrun, List.forall_mem_cons.2 ⟨hanswer, ht⟩⟩

end Program

/-! ## Values under conditions on the exchanges -/

namespace Program

variable {α β : Type} {A : Exchange → Prop} {Q : α → Prop} {R : β → Prop}

/-- Whether a program ends with a value of some kind when every exchange is of some kind. -/
def Yields (A : Exchange → Prop) (Q : α → Prop) : Program α → Prop
  | .done a => Q a
  | .step r next => ∀ answer, A ⟨r, answer⟩ → Yields A Q (next answer)

theorem yields_done {a : α} (h : Q a) : Yields A Q (.done a) :=
  h

theorem yields_ask {r : Request} {f : r.Answer → Program β}
    (hf : ∀ answer, A ⟨r, answer⟩ → Yields A R (f answer)) : Yields A R (perform r >>= f) :=
  hf

/-- What one program yields is what the next one can rely on. -/
theorem yields_bind {p : Program α} {f : α → Program β} (hp : Yields A Q p)
    (hf : ∀ a, Q a → Yields A R (f a)) : Yields A R (p >>= f) := by
  induction p with
  | done a => exact hf a hp
  | step r next ih => exact fun answer hanswer => ih answer (hp answer hanswer)

/-- What is yielded may be weakened. -/
theorem Yields.imp {Q' : α → Prop} {p : Program α} (h : Yields A Q p) (hQ : ∀ a, Q a → Q' a) :
    Yields A Q' p := by
  induction p with
  | done a => exact hQ a h
  | step r next ih => exact fun answer hanswer => ih answer (h answer hanswer)

/-- The condition on the exchanges may be strengthened. -/
theorem Yields.weaken {A' : Exchange → Prop} {p : Program α} (h : Yields A Q p)
    (hA : ∀ x, A' x → A x) : Yields A' Q p := by
  induction p with
  | done a => exact h
  | step r next ih => exact fun answer hanswer => ih answer (h answer (hA _ hanswer))

/-- A program whose value is changed in the end. -/
theorem yields_map {p : Program α} {f : α → β} (hp : Yields A Q p) (hf : ∀ a, Q a → R (f a)) :
    Yields A R (f <$> p) := by
  rw [map_eq_pure_bind]
  exact yields_bind hp fun a ha => yields_done (hf a ha)

/-- Every program ends with some value. -/
theorem yields_any (p : Program α) : Yields A (fun _ => True) p := by
  induction p with
  | done a => trivial
  | step r next ih => exact fun answer _ => ih answer

/-- A program whose value does not matter to the next one. -/
theorem yields_andThen {p : Program α} {f : α → Program β} (hf : ∀ a, Yields A R (f a)) :
    Yields A R (p >>= f) :=
  yields_bind (yields_any p) fun a _ => hf a

/-- A run whose exchanges meet the condition ends with such a value. -/
theorem Yields.value {p : Program α} {t : Trace} {a : α} (h : Yields A Q p) (hrun : Run p t a)
    (ht : ∀ x ∈ t, A x) : Q a := by
  induction hrun with
  | done a => exact h
  | step _ ih =>
      rw [List.forall_mem_cons] at ht
      exact ih (h _ ht.1) ht.2

/-- A program that yields some kind of value whatever is answered. -/
theorem Yields.value_of_run {p : Program α} {t : Trace} {a : α}
    (h : Yields (fun _ => True) Q p) (hrun : Run p t a) : Q a :=
  h.value hrun fun _ _ => trivial

end Program

/-! ## What an exchange does to sessions -/

namespace Request

/-- The session that a request makes use of. -/
def called? : Request → Option Session
  | send s _ _ => some s
  | writable s => some s
  | complete s _ => some s
  | ask s _ _ => some s
  | _ => none

/-- The session that a request closes. -/
def closed? : Request → Option Session
  | close s => some s
  | _ => none

/-- Whether a request is about no open session; it may be an attempt to open one. -/
def isFree (r : Request) : Bool :=
  r.called?.isNone && r.closed?.isNone

/-- Whether a request has nothing to do with sessions. -/
def isApart : Request → Bool
  | connect _ => false
  | r => r.isFree

/-- A free request neither calls in a session nor closes one. -/
theorem isFree_iff {r : Request} : r.isFree = true ↔ r.called? = none ∧ r.closed? = none := by
  simp [isFree]

theorem isFree_of_isApart {r : Request} (h : r.isApart = true) : r.isFree = true := by
  cases r with
  | connect c => rfl
  | _ => exact h

/-- A request that makes use of a session does not close one. -/
theorem closed?_of_called? {r : Request} {s : Session} (h : r.called? = some s) :
    r.closed? = none := by
  cases r with
  | close s => exact nomatch h
  | _ => rfl

end Request

namespace Exchange

/-- The session that an exchange opened. -/
def opened? : Exchange → Option Session
  | ⟨.connect _, .connected s⟩ => some s
  | _ => none

/-- A request that has nothing to do with sessions opens none. -/
theorem opened?_of_isApart {x : Exchange} (h : x.request.isApart = true) : x.opened? = none := by
  rcases x with ⟨r, answer⟩
  cases r with
  | connect c => exact nomatch h
  | _ => rfl

/-- A call in a session does not open another one. -/
theorem opened?_of_called? {x : Exchange} {s : Session} (h : x.request.called? = some s) :
    x.opened? = none := by
  rcases x with ⟨r, answer⟩
  cases r with
  | connect c => exact nomatch h
  | _ => rfl

/-- Sessions are opened by connecting. -/
theorem exists_connect_of_opened? {x : Exchange} {s : Session} (h : x.opened? = some s) :
    ∃ c, x = ⟨.connect c, .connected s⟩ := by
  rcases x with ⟨r, answer⟩
  cases r with
  | connect c =>
      cases answer with
      | connected s' =>
          obtain rfl : s' = s := Option.some.inj h
          exact ⟨c, rfl⟩
      | _ => exact nomatch h
  | _ => exact nomatch h

/-- What an exchange does to the session that is open: at most one is open at a time, and no
call is made on any other one. -/
inductive Conducts : Option Session → Exchange → Option Session → Prop where
  | free {o : Option Session} {x : Exchange} (opened : x.opened? = none)
      (hfree : x.request.isFree = true) : Conducts o x o
  | opens {s : Session} {x : Exchange} (opened : x.opened? = some s) : Conducts none x (some s)
  | calls {s : Session} {x : Exchange} (called : x.request.called? = some s) :
      Conducts (some s) x (some s)
  | closes {s : Session} : Conducts (some s) ⟨.close s, ()⟩ none

/-- A session that is called or closed was open. -/
theorem Conducts.open_of_called {o o' : Option Session} {x : Exchange} {s : Session}
    (h : x.Conducts o o') (hs : x.request.called? = some s ∨ x.request.closed? = some s) :
    o = some s := by
  cases h with
  | free opened hfree =>
      obtain ⟨hcalled, hclosed⟩ := Request.isFree_iff.1 hfree
      rw [hcalled, hclosed] at hs
      rcases hs with hs | hs <;> cases hs
  | opens opened =>
      obtain ⟨c, rfl⟩ := exists_connect_of_opened? opened
      rcases hs with hs | hs <;> cases hs
  | calls called =>
      rcases hs with hs | hs
      · exact called.symm.trans hs
      · cases (Request.closed?_of_called? called).symm.trans hs
  | closes =>
      rcases hs with hs | hs
      · cases hs
      · exact hs

end Exchange

/-! ## Traces -/

namespace Trace

/-- The sessions that a trace opened. -/
def openings (t : Trace) : List Session :=
  t.filterMap Exchange.opened?

@[simp] theorem openings_append (t u : Trace) : openings (t ++ u) = t.openings ++ u.openings :=
  List.filterMap_append

/-- Whether a trace leads from the session that is open before it to the one after it. -/
def Conducts : Option Session → Trace → Option Session → Prop
  | o, [], o' => o' = o
  | o, x :: t, o' => ∃ m, x.Conducts o m ∧ Conducts m t o'

/-- The conduct of sessions that is wanted: every session that is opened is closed, once, and
no other session is opened or called before that; and every call, the closing one too, is on a
session that was opened and has not been closed since. -/
structure Orderly (t : Trace) : Prop where
  closed : ∀ u x v s, t = u ++ x :: v → x.opened? = some s →
    ∃ w z, v = w ++ ⟨.close s, ()⟩ :: z ∧ ∀ y ∈ w, y.opened? = none ∧
      y.request.closed? = none ∧ ∀ s', y.request.called? = some s' → s' = s
  called : ∀ u x v s, t = u ++ x :: v →
    x.request.called? = some s ∨ x.request.closed? = some s →
      ∃ w y z, u = w ++ y :: z ∧ y.opened? = some s ∧
        ∀ c ∈ z, c.opened? = none ∧ c.request.closed? = none

variable {o o' m : Option Session} {s : Session} {t u : Trace}

/-- Conduct is passed on from one trace to the next with the session that is open between them. -/
theorem conducts_append :
    Conducts o (t ++ u) o' ↔ ∃ m, Conducts o t m ∧ Conducts m u o' := by
  induction t generalizing o with
  | nil => simp [Conducts]
  | cons x t ih =>
      simp only [List.cons_append, Conducts, ih]
      constructor
      · rintro ⟨m, hx, n, ht, hu⟩
        exact ⟨n, ⟨m, hx, ht⟩, hu⟩
      · rintro ⟨n, ⟨m, hx, ht⟩, hu⟩
        exact ⟨m, hx, n, ht, hu⟩

/-- A trace about no open session that opens none leaves the open one alone. -/
theorem conducts_of_free (hfree : ∀ x ∈ t, x.request.isFree = true) (hopened : t.openings = []) :
    Conducts o t o := by
  induction t with
  | nil => rfl
  | cons x t ih =>
      have hx : x.opened? = none := List.filterMap_eq_nil_iff.1 hopened x List.mem_cons_self
      have hrest : openings t = [] := List.filterMap_eq_nil_iff.2 fun y hy =>
        List.filterMap_eq_nil_iff.1 hopened y (List.mem_cons_of_mem x hy)
      exact ⟨o, .free hx (hfree x List.mem_cons_self),
        ih (fun y hy => hfree y (List.mem_cons_of_mem x hy)) hrest⟩

theorem openings_of_isApart (h : ∀ x ∈ t, x.request.isApart = true) : t.openings = [] :=
  List.filterMap_eq_nil_iff.2 fun x hx => Exchange.opened?_of_isApart (h x hx)

/-- Requests that have nothing to do with sessions leave the open one as it is. -/
theorem conducts_of_isApart (h : ∀ x ∈ t, x.request.isApart = true) : Conducts o t o :=
  conducts_of_free (fun x hx => Request.isFree_of_isApart (h x hx)) (openings_of_isApart h)

/-- An open session that is not open at the end was closed first. -/
theorem Conducts.exists_close (h : Conducts (some s) t none) :
    ∃ w z, t = w ++ ⟨.close s, ()⟩ :: z ∧ ∀ y ∈ w, y.opened? = none ∧
      y.request.closed? = none ∧ ∀ s', y.request.called? = some s' → s' = s := by
  induction t with
  | nil => exact nomatch (h : none = some s)
  | cons x t ih =>
      obtain ⟨m, hx, ht⟩ := h
      cases hx with
      | free opened hfree =>
          obtain ⟨w, z, rfl, hw⟩ := ih ht
          obtain ⟨hcalled, hclosed⟩ := Request.isFree_iff.1 hfree
          refine ⟨x :: w, z, rfl, List.forall_mem_cons.2 ⟨⟨opened, hclosed, ?_⟩, hw⟩⟩
          simp [hcalled]
      | calls called =>
          obtain ⟨w, z, rfl, hw⟩ := ih ht
          refine ⟨x :: w, z, rfl, List.forall_mem_cons.2
            ⟨⟨Exchange.opened?_of_called? called, Request.closed?_of_called? called, ?_⟩, hw⟩⟩
          intro s' hs'
          exact (Option.some.inj (called.symm.trans hs')).symm
      | closes => exact ⟨[], t, rfl, by simp⟩

/-- A session that is open at the end was open at the start, or opened after all others. -/
theorem Conducts.open_or_opened (h : Conducts o t (some s)) :
    (o = some s ∧ ∀ c ∈ t, c.opened? = none ∧ c.request.closed? = none) ∨
      ∃ w y z, t = w ++ y :: z ∧ y.opened? = some s ∧
        ∀ c ∈ z, c.opened? = none ∧ c.request.closed? = none := by
  induction t generalizing o with
  | nil => exact Or.inl ⟨h.symm, by simp⟩
  | cons x t ih =>
      obtain ⟨m, hx, ht⟩ := h
      rcases ih ht with ⟨rfl, hrest⟩ | ⟨w, y, z, rfl, hy, hz⟩
      · cases hx with
        | free opened hfree =>
            exact Or.inl ⟨rfl, List.forall_mem_cons.2
              ⟨⟨opened, (Request.isFree_iff.1 hfree).2⟩, hrest⟩⟩
        | opens opened => exact Or.inr ⟨[], x, t, rfl, opened, hrest⟩
        | calls called =>
            exact Or.inl ⟨rfl, List.forall_mem_cons.2
              ⟨⟨Exchange.opened?_of_called? called, Request.closed?_of_called? called⟩, hrest⟩⟩
      · exact Or.inr ⟨x :: w, y, z, rfl, hy, hz⟩

/-- A trace that is followed from no session to no session is orderly. -/
theorem Conducts.orderly (h : Conducts none t none) : t.Orderly where
  closed := by
    rintro u x v s rfl hx
    obtain ⟨m, hu, n, hxn, hv⟩ := conducts_append.1 h
    cases hxn with
    | free opened _ => exact nomatch opened.symm.trans hx
    | opens opened =>
        obtain rfl := Option.some.inj (opened.symm.trans hx)
        exact hv.exists_close
    | calls called => exact nomatch (Exchange.opened?_of_called? called).symm.trans hx
    | closes => exact nomatch hx
  called := by
    rintro u x v s rfl hx
    obtain ⟨m, hu, n, hxn, hv⟩ := conducts_append.1 h
    obtain rfl : m = some s := hxn.open_of_called hx
    rcases hu.open_or_opened with ⟨hnone, -⟩ | hopened
    · exact absurd hnone (by simp)
    · exact hopened

end Trace

/-! ## Programs -/

namespace Program

variable {α β : Type} {o : Option Session}

/-- Whether all runs of a program lead from the session that is open before it to the one that
is open after it, which its value tells. -/
def Conducts (o : Option Session) (p : Program α) (after : α → Option Session) : Prop :=
  ∀ t a, Run p t a → t.Conducts o (after a)

theorem conducts_done {after : α → Option Session} {a : α} (h : after a = o) :
    Conducts o (.done a) after := by
  intro t b hrun
  obtain ⟨rfl, rfl⟩ := Run.done_iff.1 hrun
  exact h

/-- Programs one after the other conduct themselves when each does from where the last one left the
session. -/
theorem conducts_bind {p : Program α} {f : α → Program β} {between : α → Option Session}
    {after : β → Option Session} (hp : Conducts o p between)
    (hf : ∀ a, Conducts (between a) (f a) after) : Conducts o (p >>= f) after := by
  intro t b hrun
  obtain ⟨u, a, v, rfl, hu, hv⟩ := Run.bind_iff.1 hrun
  exact Trace.conducts_append.2 ⟨between a, hp u a hu, hf a v b hv⟩

/-- A program that has nothing to do with sessions leaves the open one alone. -/
theorem conducts_of_asks {p : Program α} (h : Asks (fun r => r.isApart = true) p) :
    Conducts o p fun _ => o :=
  fun _ _ hrun => Trace.conducts_of_isApart (hrun.request_of_mem h)

/-- A call on the open session leaves it open. -/
theorem conducts_call {r : Request} {s : Session} (h : r.called? = some s) :
    Conducts (some s) (perform r) fun _ => some s := by
  intro t a hrun
  obtain ⟨answer, u, rfl, hu⟩ := Run.step_iff.1 hrun
  obtain ⟨rfl, -⟩ := Run.done_iff.1 hu
  exact ⟨some s, .calls h, rfl⟩

/-- A session that is open may be closed. -/
theorem conducts_close (s : Session) : Conducts (some s) (close s) fun _ => none := by
  intro t a hrun
  obtain ⟨answer, u, rfl, hu⟩ := Run.step_iff.1 hrun
  obtain ⟨rfl, -⟩ := Run.done_iff.1 hu
  exact ⟨none, .closes, rfl⟩

/-- Whatever is answered, a program that closes all sessions that it opens is orderly. -/
theorem orderly_play {p : Program α} (h : Conducts none p fun _ => none)
    (answer : Trace → (r : Request) → r.Answer) : (play answer p).2.Orderly :=
  (h _ _ (run_play answer p).1).orderly

end Program

end Courier
