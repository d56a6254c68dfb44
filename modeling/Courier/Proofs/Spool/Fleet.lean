import Courier.Proofs.Spool.Standing

/-!
# Spools on one lock

Any number of spools may share a status file and its lock.  They run beside each other and take
turns at any request, time passes between any two requests, and each of them may begin, end or be
killed at any moment.  Dispatches and messages run beside a watch and do not touch its lock, so
they are left out.

Main definitions:

- `Fleet` is any number of spools with the lock that they share, and `Fleet.Step` one step of one
  of them.
- `Fleet.Life` is a life in which those in their loop are prompt and newcomers come apart.
- `Fleet.drive` lets one spool make the requests of a program while nothing else happens.

Main statements:

- A life goes on when one spool changes that stays prompt and does not come too early
  (`Fleet.Life.change`), and so when one spool makes the requests of a program
  (`Fleet.Life.drive`).
-/

namespace Courier

open Program Calendar

/-! ## Spools beside each other -/

namespace Fleet

/-- Where a spool is. -/
inductive Place where
  | away
  /-- It claims the lock. -/
  | claiming
  /-- It is in its loop: it has claimed the lock, and has not given it back. -/
  | inside
deriving DecidableEq

/-- What a spool does. -/
inductive Doing where
  | nothing
  /-- It begins, or handles an event. -/
  | running (p : Program (Except Outcome Watch.Change))
  /-- It waits for an event since some time. -/
  | waiting (w : Watch) (since : Nat)

/-- One of several spools. -/
structure Instance where
  doing : Doing := .nothing
  place : Place := .away
  /-- When it wrote the lock last. -/
  wrote : Nat := 0

namespace Instance

/-- A spool that goes on after something was done to the lock at some time. -/
def goOn (a : Instance) (now : Nat) (rest : Program (Except Outcome Watch.Change)) :
    Option Touch → Instance
  | some (.wrote true) => ⟨.running rest, .inside, now⟩
  | some (.removed _) =>
      ⟨.running rest, if a.place = .inside then .away else a.place, a.wrote⟩
  | _ => ⟨.running rest, a.place, a.wrote⟩

/-- A spool that has come to the end of a program. -/
def finish (a : Instance) (now : Nat) : Except Outcome Watch.Change → Instance
  | .error _ => {}
  | .ok change =>
      match change.1.outcome? with
      | some _ => {}
      | none => { a with doing := .waiting change.1 now }

/-- Who comes to the end of a program leaves, or waits where it is. -/
theorem finish_cases (a : Instance) (now : Nat) (result : Except Outcome Watch.Change) :
    a.finish now result = {} ∨ ∃ w, a.finish now result = { a with doing := .waiting w now } := by
  unfold finish
  split
  · exact Or.inl rfl
  · split
    · exact Or.inl rfl
    · exact Or.inr ⟨_, rfl⟩

theorem finish_of_ended {a : Instance} {now : Nat} {change : Watch.Change} {outcome : Outcome}
    (h : change.1.outcome? = some outcome) : a.finish now (.ok change) = {} := by
  simp only [finish, h]

theorem finish_of_waiting {a : Instance} {now : Nat} {change : Watch.Change}
    (h : change.1.outcome? = none) :
    a.finish now (.ok change) = { a with doing := .waiting change.1 now } := by
  simp only [finish, h]

section GoOn

variable {a : Instance} {now : Nat} {rest : Program (Except Outcome Watch.Change)}
  {t : Option Touch}

@[simp] theorem doing_goOn : (a.goOn now rest t).doing = .running rest := by
  unfold goOn
  split <;> rfl

/-- Nobody comes to claim the lock by a request. -/
theorem claiming_of_goOn (h : (a.goOn now rest t).place = .claiming) : a.place = .claiming := by
  unfold goOn at h
  split at h
  · cases h
  · by_cases hi : a.place = .inside
    · simp [hi] at h
    · simpa [hi] using h
  · exact h

/-- Who is in its loop after a request has written the lock, or was there before. -/
theorem inside_of_goOn (h : (a.goOn now rest t).place = .inside) :
    (t = some (.wrote true) ∧ (a.goOn now rest t).wrote = now) ∨
      (a.place = .inside ∧ (a.goOn now rest t).wrote = a.wrote) := by
  unfold goOn at h ⊢
  split at h
  · exact Or.inl ⟨rfl, rfl⟩
  · by_cases hi : a.place = .inside
    · simp [hi] at h
    · simp [hi] at h
  · exact Or.inr ⟨h, rfl⟩

end GoOn

end Instance

end Fleet

/-- Several spools with the lock that they share. -/
structure Fleet (I : Type) where
  now : Nat
  /-- Whether the lock is there. -/
  locked : Bool
  /-- When the last claim was decided. -/
  decided : Nat
  instances : I → Fleet.Instance

/-- Whether the lock is there after something was done to it, and whether this can be. -/
def Touch.Takes (locked locked' : Bool) : Option Touch → Prop
  | some (.looked there) => there = locked ∧ locked' = locked
  | some (.wrote true) => locked' = true
  | some (.removed true) => locked' = false
  | some .renamed => True
  | _ => locked' = locked

/-- Whether an event may come.  While it claims the lock, a watch only waits for the time of the
next look, which is an interval after the last one, or for somebody who wants it to stop. -/
def Watch.Hears (w : Watch) (since now : Nat) (e : Event) : Prop :=
  match w.phase with
  | .claiming _ _ => e = .stop ∨ (e = .claimTime ∧ since + w.job.elapseMs ≤ now)
  | _ => True

namespace Fleet

variable {I : Type} [DecidableEq I]

/-- The spools after one of them has changed, and perhaps the lock. -/
def change (f : Fleet I) (i : I) (a : Instance) (locked : Bool) : Fleet I where
  now := f.now
  locked := locked
  decided :=
    if (f.instances i).place = .claiming ∧ a.place ≠ .claiming then f.now else f.decided
  instances := fun j => if j = i then a else f.instances j

/-- One step of several spools.  Nobody else touches the lock. -/
inductive Step (ctx : I → Context) (jobs : I → Job) (lock : Path) (f : Fleet I) :
    Fleet I → Prop where
  /-- Time passes. -/
  | wait (span : Nat) : Step ctx jobs lock f { f with now := f.now + span }
  /-- A spool begins. -/
  | begin {i : I} (time : Nat) (idle : (f.instances i).doing = .nothing) :
      Step ctx jobs lock f
        (f.change i ⟨.running (Watch.start (ctx i) (jobs i) time), .claiming, 0⟩ f.locked)
  /-- A spool makes a request. -/
  | request {i : I} {r : Request} {next : r.Answer → Program (Except Outcome Watch.Change)}
      {answer : r.Answer} {locked : Bool} (runs : (f.instances i).doing = .running (.step r next))
      (takes : Touch.Takes f.locked locked (Exchange.touch? lock ⟨r, answer⟩)) :
      Step ctx jobs lock f (f.change i
        ((f.instances i).goOn f.now (next answer) (Exchange.touch? lock ⟨r, answer⟩)) locked)
  /-- A spool comes to the end of a program. -/
  | finish {i : I} {result : Except Outcome Watch.Change}
      (runs : (f.instances i).doing = .running (.done result)) :
      Step ctx jobs lock f (f.change i ((f.instances i).finish f.now result) f.locked)
  /-- A spool begins to handle an event. -/
  | event {i : I} {w : Watch} {since : Nat} {e : Watch.Event} (time : Nat)
      (waits : (f.instances i).doing = .waiting w since) (hears : w.Hears since f.now e) :
      Step ctx jobs lock f (f.change i { f.instances i with
        doing := .running (w.handle time e >>= fun change => .done (.ok change)) } f.locked)
  /-- A spool is killed. -/
  | quit {i : I} : Step ctx jobs lock f (f.change i {} f.locked)

/-- Whether everybody in its loop wrote the lock not longer ago than a span. -/
def Prompt (f : Fleet I) (span : Nat) : Prop :=
  ∀ i, (f.instances i).place = .inside → f.now ≤ (f.instances i).wrote + span

/-- Whether nobody claims the lock, and the last claim was decided longer ago than a span if
anybody is in its loop. -/
def Settled (f : Fleet I) (span : Nat) : Prop :=
  (∀ i, (f.instances i).place ≠ .claiming) ∧
    ∀ i, (f.instances i).place = .inside → f.decided + span < f.now

/-- A life of several spools up to some moment, in which everybody in its loop writes the lock at
least once in a span, and nobody begins unless all claims were decided longer ago than that. -/
inductive Life (ctx : I → Context) (jobs : I → Job) (lock : Path) (span : Nat) :
    Fleet I → Prop where
  /-- At first nobody does anything. -/
  | start (now decided : Nat) (locked : Bool) :
      Life ctx jobs lock span { now, locked, decided, instances := fun _ => {} }
  | step {f f' : Fleet I} (life : Life ctx jobs lock span f)
      (step : Step ctx jobs lock f f') (prompt : f'.Prompt span)
      (apart : ∀ i, (f.instances i).place = .away → (f'.instances i).place = .claiming →
        f.Settled span) : Life ctx jobs lock span f'

/-- Whether a spool is in its loop. -/
def IsInside (f : Fleet I) (i : I) : Prop :=
  (f.instances i).place = .inside

/-! ## Changes -/

variable {f : Fleet I} {i j : I} {a : Instance} {locked : Bool}

@[simp] theorem instances_change_self : (f.change i a locked).instances i = a :=
  if_pos rfl

theorem instances_change_of_ne (h : j ≠ i) :
    (f.change i a locked).instances j = f.instances j :=
  if_neg h

/-- What is true of the spool that changes and of all others is true of all afterwards. -/
theorem forall_change {P : I → Instance → Prop} (hself : P i a)
    (hothers : ∀ j, j ≠ i → P j (f.instances j)) (j : I) :
    P j ((f.change i a locked).instances j) := by
  by_cases hji : j = i
  · subst hji
    rw [instances_change_self]
    exact hself
  · rw [instances_change_of_ne hji]
    exact hothers j hji

/-- What is true of one spool at most is so when one of them changes. -/
theorem unique_change {P : Instance → Prop}
    (h : ∀ j k, P (f.instances j) → P (f.instances k) → j = k)
    (ha : P a → P (f.instances i) ∨ ∀ j, ¬P (f.instances j)) :
    ∀ j k, P ((f.change i a locked).instances j) → P ((f.change i a locked).instances k) →
      j = k := by
  have hwith : ∀ j, j ≠ i → P a → ¬P (f.instances j) := by
    intro j hji hPa hj
    rcases ha hPa with hi | hnobody
    · exact hji (h j i hj hi)
    · exact hnobody j hj
  intro j k hj hk
  by_cases hji : j = i <;> by_cases hki : k = i
  · rw [hji, hki]
  · rw [hji, instances_change_self] at hj
    rw [instances_change_of_ne hki] at hk
    exact absurd hk (hwith k hki hj)
  · rw [instances_change_of_ne hji] at hj
    rw [hki, instances_change_self] at hk
    exact absurd hj (hwith j hji hk)
  · rw [instances_change_of_ne hji] at hj
    rw [instances_change_of_ne hki] at hk
    exact h j k hj hk

/-! ## Lives -/

section Life

variable {ctx : I → Context} {jobs : I → Job} {lock : Path} {span : Nat}

theorem Life.prompt (h : Life ctx jobs lock span f) : f.Prompt span := by
  cases h with
  | start => rintro i ⟨⟩
  | step life hstep hprompt hapart => exact hprompt

/-- A life goes on when one spool changes that stays prompt and does not come too early. -/
theorem Life.change (h : Life ctx jobs lock span f)
    (hstep : Step ctx jobs lock f (f.change i a locked))
    (hprompt : a.place = .inside → f.now ≤ a.wrote + span)
    (hapart : (f.instances i).place = .away → a.place = .claiming → f.Settled span) :
    Life ctx jobs lock span (f.change i a locked) := by
  refine h.step hstep ?_ ?_
  · exact forall_change (P := fun _ b => b.place = .inside → f.now ≤ b.wrote + span) hprompt
      fun j _ => h.prompt j
  · refine forall_change (P := fun j b => (f.instances j).place = .away → b.place = .claiming →
      f.Settled span) hapart fun j _ haway hclaiming => ?_
    rw [haway] at hclaiming
    cases hclaiming

/-- Whether the lock is there after something was done to it. -/
def lockedAfter (locked : Bool) : Option Touch → Bool
  | some (.wrote true) => true
  | some (.removed true) => false
  | _ => locked

/-- A spool makes the requests of a program and comes to its end while nothing else happens.  What
is answered depends on whether the lock is there. -/
def drive (lock : Path) (answer : Bool → (r : Request) → r.Answer) (i : I) :
    Program (Except Outcome Watch.Change) → Fleet I → Fleet I
  | .done result, f => f.change i ((f.instances i).finish f.now result) f.locked
  | .step r next, f =>
      drive lock answer i (next (answer f.locked r)) (f.change i
        ((f.instances i).goOn f.now (next (answer f.locked r))
          (Exchange.touch? lock ⟨r, answer f.locked r⟩))
        (lockedAfter f.locked (Exchange.touch? lock ⟨r, answer f.locked r⟩)))

theorem Life.drive {answer : Bool → (r : Request) → r.Answer}
    {p : Program (Except Outcome Watch.Change)} (h : Life ctx jobs lock span f)
    (hanswer : ∀ locked r, Touch.Takes locked
      (lockedAfter locked (Exchange.touch? lock ⟨r, answer locked r⟩))
      (Exchange.touch? lock ⟨r, answer locked r⟩))
    (hruns : (f.instances i).doing = .running p) :
    Life ctx jobs lock span (drive lock answer i p f) := by
  induction p generalizing f with
  | done result =>
      refine h.change (.finish hruns) ?_ ?_
      all_goals rcases (f.instances i).finish_cases f.now result with hfinish | ⟨w, hfinish⟩
      all_goals rw [hfinish]
      · rintro ⟨⟩
      · exact h.prompt i
      · rintro _ ⟨⟩
      · intro haway hclaiming
        rw [show (f.instances i).place = .claiming from hclaiming] at haway
        cases haway
  | step r next ih =>
      refine ih _ (h.change (.request hruns (hanswer f.locked r)) ?_ ?_) ?_
      · intro hinside
        rcases Instance.inside_of_goOn hinside with ⟨-, hwrote⟩ | ⟨hplace, hwrote⟩
        · rw [hwrote]
          exact Nat.le_add_right _ _
        · rw [hwrote]
          exact h.prompt i hplace
      · intro haway hclaiming
        rw [Instance.claiming_of_goOn hclaiming] at haway
        cases haway
      · rw [instances_change_self, Instance.doing_goOn]

end Life

end Fleet

end Courier
