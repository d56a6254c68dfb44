import Courier.Proofs.Delivery.Interruption
import Courier.Proofs.Delivery.Retiming
import Mathlib.Logic.Function.Basic

/-!
# Errands do not disturb each other

Several errands are under way on one ledger, each of them for a transfer of its own.  They take
turns, one request at a time, in any order.  Each of them ends as if it were alone, and the ledger
ends as if they had been done one after the other.

What a partner answers to a runner depends on what this runner has asked it, and on nothing that
another one has.  The time that a runner is told may be any.

Main definitions:

- `Runner` is an errand with what is fixed for it, and `Runner.Times` is what its clock tells.
- `Traffic` is what is under way, and `Traffic.step` a request of one runner.
- `Traffic.interleave` lets the runners take turns, `Traffic.inTurn` lets one after the other
  finish.
- `Traffic.endingOf` is how a runner would end, were it to go on alone, and `Traffic.Proceeds` the
  invariant: everybody would end as if nobody else had been there.

Main statements:

- Whatever one runner does, all of them proceed (`Proceeds.goOn`).
- Runners can always be brought to an end (`exists_interleave_ended`).
- In any order of their requests errands for different transfers end with the same outcomes, and
  leave the same records, as one after the other (`Traffic.runners_undisturbed`).
-/

namespace Courier

open Program

/-! ## Runners -/

/-- An errand, what is fixed for it, and what it is answered. -/
structure Runner where
  ctx : Context
  errand : Errand
  tree : (op : FileOp) → op.Answer
  transport : Transport

/-- What the clock of a runner tells. -/
structure Runner.Times where
  clock : Nat → Calendar.Moment
  fraction : Nat → Nat

namespace Runner

/-- What a runner can learn from. -/
def surroundings (r : Runner) (times : Times) : Surroundings :=
  ⟨times.clock, times.fraction, r.tree, r.transport⟩

/-- What a runner has to do. -/
def program (r : Runner) : Program Outcome :=
  r.errand.program r.ctx

/-- The key of the transfer that a runner is concerned with. -/
def key? (r : Runner) : Option Record.Key :=
  r.errand.key? r.ctx

/-- What a runner does when nobody else is there. -/
def alone (r : Runner) (times : Times) (l : Ledger) : Outcome × Scene :=
  runIn (r.surroundings times) r.program { ledger := l }

/-- A runner is concerned with one record at most. -/
theorem keepsTo_program (r : Runner) :
    KeepsTo (fun key => r.key? = some key) (fun _ => True) r.program :=
  r.errand.keepsTo_program r.ctx

/-- What its clock tells makes no difference to a runner, times aside. -/
theorem timeless_alone (r : Runner) (times times' : Times) (l : Ledger) :
    (r.alone times l).1.timeless = (r.alone times' l).1.timeless ∧
    ∀ key, ((r.alone times l).2.ledger.find? key).map Record.timeless =
      ((r.alone times' l).2.ledger.find? key).map Record.timeless := by
  have htree : (r.surroundings times).tree = (r.surroundings times').tree := rfl
  exact r.errand.timeless_runIn r.ctx htree rfl { ledger := l }

end Runner

/-! ## Traffic -/

/-- What is under way: the ledger, what each runner has still to do, and what it has seen.  The
ledger of a scene that a runner has seen is out of date. -/
structure Traffic (ι : Type) where
  ledger : Ledger
  rest : ι → Program Outcome
  seen : ι → Scene

namespace Traffic

variable {ι : Type}

/-- Nobody has begun. -/
def begin (runners : ι → Runner) (l : Ledger) : Traffic ι where
  ledger := l
  rest i := (runners i).program
  seen _ := { ledger := l }

/-- The scene of a runner. -/
def sceneOf (t : Traffic ι) (i : ι) : Scene :=
  { t.seen i with ledger := t.ledger }

/-- What each runner can learn from. -/
def surroundingsOf (runners : ι → Runner) (times : ι → Runner.Times) (i : ι) : Surroundings :=
  (runners i).surroundings (times i)

/-- How a runner would end, were it to go on alone. -/
def endingOf (e : ι → Surroundings) (t : Traffic ι) (i : ι) : Outcome × Scene :=
  runIn (e i) (t.rest i) (t.sceneOf i)

/-- How the errand of a runner ended. -/
def outcome? (t : Traffic ι) (i : ι) : Option Outcome :=
  match t.rest i with
  | .done outcome => some outcome
  | .step _ _ => none

variable [DecidableEq ι]

/-- A runner has gone on. -/
def goOn (t : Traffic ι) (i : ι) (rest : Program Outcome) (scene : Scene) : Traffic ι where
  ledger := scene.ledger
  rest := Function.update t.rest i rest
  seen := Function.update t.seen i scene

/-- A runner makes a request, unless it has ended. -/
def step (e : ι → Surroundings) (t : Traffic ι) (i : ι) : Traffic ι :=
  match t.rest i with
  | .done _ => t
  | .step r next =>
      let answered := (e i).answer r (t.sceneOf i)
      t.goOn i (next answered.1) answered.2

/-- Runners take turns. -/
def interleave (e : ι → Surroundings) (t : Traffic ι) (schedule : List ι) : Traffic ι :=
  schedule.foldl (step e) t

/-- A runner makes all its requests. -/
def finish (e : ι → Surroundings) (t : Traffic ι) (i : ι) : Traffic ι :=
  t.goOn i (.done (t.endingOf e i).1) (t.endingOf e i).2

/-- One runner after the other makes all its requests. -/
def inTurn (e : ι → Surroundings) (t : Traffic ι) (order : List ι) : Traffic ι :=
  order.foldl (finish e) t

variable {t : Traffic ι} {i j : ι} {rest : Program Outcome} {scene : Scene}

@[simp] theorem ledger_goOn : (t.goOn i rest scene).ledger = scene.ledger := rfl

@[simp] theorem rest_goOn_self : (t.goOn i rest scene).rest i = rest := by
  simp only [goOn, Function.update_self]

theorem rest_goOn_of_ne (h : j ≠ i) : (t.goOn i rest scene).rest j = t.rest j := by
  simp only [goOn, Function.update_of_ne h]

@[simp] theorem sceneOf_goOn_self : (t.goOn i rest scene).sceneOf i = scene := by
  simp only [sceneOf, goOn, Function.update_self]

theorem sceneOf_goOn_of_ne (h : j ≠ i) :
    (t.goOn i rest scene).sceneOf j = { t.sceneOf j with ledger := scene.ledger } := by
  simp only [sceneOf, goOn, Function.update_of_ne h]

/-! ## Ends -/

/-- A runner that has ended stays so. -/
theorem outcome?_step_ne_none (e : ι → Surroundings) (h : t.outcome? j ≠ none) :
    (t.step e i).outcome? j ≠ none := by
  unfold step
  cases hrest : t.rest i with
  | done outcome => exact h
  | step r next =>
      by_cases hsame : j = i
      · subst hsame
        simp only [outcome?, hrest] at h
        exact absurd rfl h
      · simpa only [outcome?, rest_goOn_of_ne hsame] using h

theorem outcome?_interleave_ne_none (e : ι → Surroundings) (schedule : List ι)
    (h : t.outcome? j ≠ none) : (t.interleave e schedule).outcome? j ≠ none := by
  induction schedule generalizing t with
  | nil => exact h
  | cons i rest ih => exact ih (outcome?_step_ne_none e h)

/-- A runner ends when it has had enough turns. -/
theorem exists_interleave_ended_one (e : ι → Surroundings) (t : Traffic ι) (i : ι) :
    ∃ schedule, (t.interleave e schedule).outcome? i ≠ none := by
  induction hrest : t.rest i generalizing t with
  | done outcome =>
      refine ⟨[], ?_⟩
      simp [interleave, outcome?, hrest]
  | step r next ih =>
      let answered := (e i).answer r (t.sceneOf i)
      have hstep : t.step e i = t.goOn i (next answered.1) answered.2 := by
        simp only [step, hrest]
        rfl
      obtain ⟨schedule, hended⟩ := ih answered.1 (t.step e i) (by rw [hstep, rest_goOn_self])
      exact ⟨i :: schedule, hended⟩

/-- Runners can always be brought to an end. -/
theorem exists_interleave_ended (e : ι → Surroundings) (t : Traffic ι) (runners : List ι) :
    ∃ schedule, ∀ i ∈ runners, (t.interleave e schedule).outcome? i ≠ none := by
  induction runners generalizing t with
  | nil => exact ⟨[], fun i hi => by cases hi⟩
  | cons i rest ih =>
      obtain ⟨first, hfirst⟩ := exists_interleave_ended_one e t i
      obtain ⟨others, hothers⟩ := ih (t.interleave e first)
      refine ⟨first ++ others, ?_⟩
      intro j hj
      have happend : t.interleave e (first ++ others) =
          (t.interleave e first).interleave e others := List.foldl_append
      rw [happend]
      rcases List.mem_cons.1 hj with rfl | hrest
      · exact outcome?_interleave_ne_none e others hfirst
      · exact hothers j hrest

/-- A runner that has made all its requests has ended, and others do not change that. -/
theorem outcome?_inTurn_ne_none (e : ι → Surroundings) (order : List ι)
    (h : j ∈ order ∨ t.outcome? j ≠ none) : (t.inTurn e order).outcome? j ≠ none := by
  induction order generalizing t with
  | nil =>
      rcases h with hj | hended
      · cases hj
      · exact hended
  | cons i rest ih =>
      refine ih ?_
      by_cases hsame : j = i
      · right
        simp [finish, outcome?, hsame]
      · rcases h with hj | hended
        · left
          exact (List.mem_cons.1 hj).resolve_left hsame
        · right
          simpa only [finish, outcome?, rest_goOn_of_ne hsame] using hended

/-! ## Proceeding -/

/-- Whether every runner, were it to go on alone, would end as if nobody else had been there, and
leave its record so; no other record has changed. -/
structure Proceeds (runners : ι → Runner) (times : ι → Runner.Times) (l : Ledger)
    (t : Traffic ι) : Prop where
  keeps : ∀ i, KeepsTo (fun key => (runners i).key? = some key) (fun _ => True) (t.rest i)
  outcome : ∀ i, (t.endingOf (surroundingsOf runners times) i).1 =
    ((runners i).alone (times i) l).1
  records : ∀ i key, (runners i).key? = some key →
    (t.endingOf (surroundingsOf runners times) i).2.ledger.find? key =
      ((runners i).alone (times i) l).2.ledger.find? key
  others : ∀ key, (∀ i, (runners i).key? ≠ some key) → t.ledger.find? key = l.find? key

variable {runners : ι → Runner} {times : ι → Runner.Times} {l : Ledger}

omit [DecidableEq ι] in
theorem proceeds_begin : Proceeds runners times l (begin runners l) where
  keeps i := (runners i).keepsTo_program
  outcome _ := rfl
  records _ _ _ := rfl
  others _ _ := rfl

/-- Whether no two runners are concerned with the same transfer. -/
def Apart (runners : ι → Runner) : Prop :=
  ∀ i j key, (runners i).key? = some key → (runners j).key? = some key → i = j

/-- What one runner does is a part of what it would do alone, and it is about its own record, so
that nobody would end otherwise. -/
theorem endingOf_goOn {e : ι → Surroundings} (hapart : Apart runners)
    (hkeeps : ∀ j, KeepsTo (fun key => (runners j).key? = some key) (fun _ => True) (t.rest j))
    (hgoes : runIn (e i) rest scene = t.endingOf e i)
    (hothers : ∀ key, (runners i).key? ≠ some key →
      scene.ledger.find? key = t.ledger.find? key) (j : ι) :
    ((t.goOn i rest scene).endingOf e j).1 = (t.endingOf e j).1 ∧
    ∀ key, (runners j).key? = some key →
      ((t.goOn i rest scene).endingOf e j).2.ledger.find? key =
        (t.endingOf e j).2.ledger.find? key := by
  by_cases hj : j = i
  · subst hj
    rw [endingOf, rest_goOn_self, sceneOf_goOn_self, hgoes]
    exact ⟨rfl, fun _ _ => rfl⟩
  · have hagree : ((t.goOn i rest scene).sceneOf j).AgreeOn
        (fun key => (runners j).key? = some key) (t.sceneOf j) := by
      rw [sceneOf_goOn_of_ne hj]
      refine ⟨rfl, rfl, rfl, ?_⟩
      intro key hkey
      refine hothers key ?_
      intro hown
      exact hj (hapart j i key hkey hown)
    obtain ⟨hvalue, hafter⟩ := agreeOn_runIn (e := e j) (hkeeps j) hagree
    rw [endingOf, rest_goOn_of_ne hj]
    exact ⟨hvalue, hafter.ledger⟩

namespace Proceeds

/-- Whatever one runner does, everybody proceeds. -/
theorem goOn (h : Proceeds runners times l t) (hapart : Apart runners)
    (hkeeps : KeepsTo (fun key => (runners i).key? = some key) (fun _ => True) rest)
    (hgoes : runIn (surroundingsOf runners times i) rest scene =
      t.endingOf (surroundingsOf runners times) i)
    (hothers : ∀ key, (runners i).key? ≠ some key →
      scene.ledger.find? key = t.ledger.find? key) :
    Proceeds runners times l (t.goOn i rest scene) := by
  have hending := endingOf_goOn hapart h.keeps hgoes hothers
  refine ⟨?_, ?_, ?_, ?_⟩
  · intro j
    by_cases hj : j = i
    · subst hj
      rw [rest_goOn_self]
      exact hkeeps
    · rw [rest_goOn_of_ne hj]
      exact h.keeps j
  · intro j
    exact (hending j).1.trans (h.outcome j)
  · intro j key hkey
    exact ((hending j).2 key hkey).trans (h.records j key hkey)
  · intro key hkey
    rw [ledger_goOn, hothers key (hkey i)]
    exact h.others key hkey

theorem step (h : Proceeds runners times l t) (hapart : Apart runners) (i : ι) :
    Proceeds runners times l (t.step (surroundingsOf runners times) i) := by
  have hkeeps := h.keeps i
  unfold Traffic.step
  cases hrest : t.rest i with
  | done outcome => exact h
  | step r next =>
      rw [hrest] at hkeeps
      obtain ⟨hrequest, hnext⟩ := hkeeps
      refine h.goOn hapart (hnext _ _ _ (Surroundings.keeps_answer _ r (t.sceneOf i))) ?_ ?_
      · rw [endingOf, hrest]
        rfl
      · intro key hkey
        exact Surroundings.find?_answer_of_not hrequest hkey

theorem finish (h : Proceeds runners times l t) (hapart : Apart runners) (i : ι) :
    Proceeds runners times l (t.finish (surroundingsOf runners times) i) := by
  refine h.goOn hapart (keepsTo_done trivial) rfl ?_
  intro key hkey
  exact find?_runIn_of_not (h.keeps i) hkey

theorem interleave (h : Proceeds runners times l t) (hapart : Apart runners)
    (schedule : List ι) :
    Proceeds runners times l
      (t.interleave (surroundingsOf runners times) schedule) := by
  induction schedule generalizing t with
  | nil => exact h
  | cons i rest ih => exact ih (h.step hapart i)

theorem inTurn (h : Proceeds runners times l t) (hapart : Apart runners) (order : List ι) :
    Proceeds runners times l (t.inTurn (surroundingsOf runners times) order) := by
  induction order generalizing t with
  | nil => exact h
  | cons i rest ih => exact ih (h.finish hapart i)

omit [DecidableEq ι] in
/-- A runner that has ended has done so as if nobody else had been there. -/
theorem ended (h : Proceeds runners times l t) (hended : t.outcome? i ≠ none) :
    t.outcome? i = some ((runners i).alone (times i) l).1 ∧
    ∀ key, (runners i).key? = some key →
      t.ledger.find? key = ((runners i).alone (times i) l).2.ledger.find? key := by
  have houtcome := h.outcome i
  have hrecords := h.records i
  unfold endingOf at houtcome hrecords
  unfold outcome? at hended ⊢
  cases hrest : t.rest i with
  | done outcome =>
      rw [hrest] at houtcome hrecords
      exact ⟨congrArg some houtcome, hrecords⟩
  | step r next =>
      rw [hrest] at hended
      exact absurd rfl hended

end Proceeds

/-! ## Different transfers -/

/-- Errands for different transfers take turns in any order until all of them have ended.  They
end with the same outcomes as if they had been done one after the other, in any order, and the
ledger holds the same records, times aside, whatever the clocks tell. -/
theorem runners_undisturbed (runners : ι → Runner) (hapart : Apart runners)
    (times times' : ι → Runner.Times) (l : Ledger) (schedule order : List ι)
    (hended : ∀ i,
      ((begin runners l).interleave (surroundingsOf runners times) schedule).outcome? i ≠ none)
    (horder : ∀ i, i ∈ order) :
    let mixed := (begin runners l).interleave (surroundingsOf runners times) schedule
    let serial := (begin runners l).inTurn (surroundingsOf runners times') order
    (∀ i, ∃ o o', mixed.outcome? i = some o ∧ serial.outcome? i = some o' ∧
      o.timeless = o'.timeless) ∧
    ∀ key, (mixed.ledger.find? key).map Record.timeless =
      (serial.ledger.find? key).map Record.timeless := by
  intro mixed serial
  have hmixed : Proceeds runners times l mixed := proceeds_begin.interleave hapart schedule
  have hserial : Proceeds runners times' l serial := proceeds_begin.inTurn hapart order
  have halone : ∀ i, _ := fun i => (runners i).timeless_alone (times i) (times' i) l
  have hserved : ∀ i, serial.outcome? i ≠ none := by
    intro i
    exact outcome?_inTurn_ne_none _ order (.inl (horder i))
  constructor
  · intro i
    exact ⟨_, _, (hmixed.ended (hended i)).1, (hserial.ended (hserved i)).1, (halone i).1⟩
  · intro key
    by_cases hkey : ∃ i, (runners i).key? = some key
    · obtain ⟨i, hi⟩ := hkey
      rw [(hmixed.ended (hended i)).2 key hi, (hserial.ended (hserved i)).2 key hi]
      exact (halone i).2 key
    · have hnone : ∀ i, (runners i).key? ≠ some key := by
        intro i hi
        exact hkey ⟨i, hi⟩
      rw [hmixed.others key hnone, hserial.others key hnone]

/-- A transport that reaches everybody, and on which all goes well. -/
def sampleTransport : Transport where
  connect _ _ _ := .connected ⟨0⟩
  reply _ _ r := match r with
    | .complete _ _ => .ok (.ok 0)
    | .ask _ _ _ => .ok { code := .completeOk }
    | r => Batch.answerNothing r

/-- One runner carries out a transfer, and the other one cancels another transfer. -/
def sampleRunners (cancels : Bool) : Runner where
  ctx := Intervention.sampleContext
  errand :=
    if cancels then .interrupt .cancel 8 "there" "here"
    else .run { (default : Order) with partner := "there" } 7
  tree op := Batch.answerNothing (.files op)
  transport := sampleTransport

/-- A clock that stands still. -/
def sampleTimes (_ : Bool) : Runner.Times where
  clock _ := default
  fraction _ := 0

/-- The records of the two transfers. -/
def sampleLedger : Ledger :=
  { records := [7, 8].map fun id =>
      { (default : Record) with key := ⟨id, "here", "there"⟩, status := .toSubmit } }

/-- The runners take turns, and one of them goes on when the other one has ended. -/
def sampleSchedule : List Bool :=
  List.flatten (List.replicate 12 [false, true])

theorem apart_sampleRunners : Apart sampleRunners := by
  have hrun : (sampleRunners false).key? = some ⟨7, "here", "there"⟩ := rfl
  have hcancel : (sampleRunners true).key? = some ⟨8, "here", "there"⟩ := rfl
  intro i j key hi hj
  have hsame := hi.trans hj.symm
  cases i <;> cases j
  · rfl
  · rw [hrun, hcancel] at hsame
    cases hsame
  · rw [hrun, hcancel] at hsame
    cases hsame
  · rfl

theorem runners_undisturbed_sample :
    Apart sampleRunners ∧
    (∀ i, ((begin sampleRunners sampleLedger).interleave
      (surroundingsOf sampleRunners sampleTimes) sampleSchedule).outcome? i ≠ none) ∧
    ∀ key, (((begin sampleRunners sampleLedger).interleave
        (surroundingsOf sampleRunners sampleTimes) sampleSchedule).ledger.find? key).map
          Record.timeless =
      (((begin sampleRunners sampleLedger).inTurn
        (surroundingsOf sampleRunners sampleTimes) [true, false]).ledger.find? key).map
          Record.timeless := by
  have hended : ∀ i, ((begin sampleRunners sampleLedger).interleave
      (surroundingsOf sampleRunners sampleTimes) sampleSchedule).outcome? i ≠ none := by
    decide +kernel
  exact ⟨apart_sampleRunners, hended,
    (runners_undisturbed sampleRunners apart_sampleRunners sampleTimes sampleTimes sampleLedger
      sampleSchedule [true, false] hended (by decide)).2⟩

end Traffic

end Courier
