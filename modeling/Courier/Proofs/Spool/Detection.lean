import Courier.Proofs.Spool.Life

/-!
# Versions that were delivered

A file that became ready is known as a used one from then on, and no look returns it while this
holds.  It ends when a look shows that the file changed or is gone, and when a dispatch of the
path fails.  A result does not tell which version of a file it belongs to: files that are
dispatched beside each other may be delivered in a new version already when the dispatch of an
old one fails, and then the new one is returned again.

Main definitions:

- `Survey.Alters` says that a look shows an item to be changed or gone.
- `Monitor.Holds` says that a monitor knows a version of a file as a used one.

Main statements:

- A version that was delivered is returned again only after a look showed that the file changed
  or is gone, or, with dispatches beside each other, after a dispatch failed of an item that was
  returned before (`Watch.altered_or_failed_of_delivered`).
- One file after the other, only after a look showed it (`Watch.altered_of_delivered`), in every
  life (`Watch.altered_of_delivered_of_life`).
-/

namespace Courier

open Program Calendar

/-! ## Versions -/

namespace Survey

/-- Whether a look shows that an item changed or is gone. -/
def Alters (s : Survey) (i : Item) : Prop :=
  (∃ f ∈ s.files, f.path.same i.path = true ∧ Monitor.isSteady i f = false) ∨
    (s.has i.path = false ∧ s.mayMiss i.path = false)

end Survey

namespace Monitor

variable {m : Monitor} {s : Survey} {digest : Path → Option String} {i j : Item}

/-- Whether the version of a file is known as a used one. -/
def Holds (m : Monitor) (i : Item) : Prop :=
  ∃ k, m.items.find? i.path = some k ∧ k.used = true ∧ k.lastModified = i.lastModified ∧
    k.size = i.size

/-- A file that became ready was found, and is known as it was returned. -/
theorem found_of_ready (hs : s.IsRow) (hi : i ∈ (m.absorb s digest).1) :
    ∃ f ∈ s.files, i.path.same f.path = true ∧ i.used = true ∧
      (m.absorb s digest).2.items.find? f.path = some i := by
  obtain ⟨f, hf, houtcome⟩ := (mem_ready_absorb hs).1 hi
  obtain ⟨k, hknown, hsteady, hunused, hdigest, hhash, rfl⟩ := outcome_ready_iff.1 houtcome
  have hpath := Items.path_of_find? hknown
  have hafter : (m.absorb s digest).2.items.find? f.path =
      some (outcome (digest f.path) (m.items.find? f.path) f).1 := find?_absorb_of_mem hs hf
  rw [houtcome] at hafter
  exact ⟨f, hf, hpath, rfl, hafter⟩

/-- A version that became ready is known as a used one. -/
theorem holds_of_ready (hs : s.IsRow) (hi : i ∈ (m.absorb s digest).1) :
    (m.absorb s digest).2.Holds i := by
  obtain ⟨f, hf, hsame, hused, hafter⟩ := found_of_ready hs hi
  rw [← Items.find?_congr _ hsame] at hafter
  exact ⟨i, hafter, hused, rfl, rfl⟩

/-- What is known as used is not returned. -/
theorem not_same_of_ready (hm : m.Holds i) (hs : s.IsRow) (hj : j ∈ (m.absorb s digest).1) :
    j.path.same i.path = false := by
  obtain ⟨k, hknown, hused, -, -⟩ := hm
  obtain ⟨f, hf, houtcome⟩ := (mem_ready_absorb hs).1 hj
  obtain ⟨k', hknown', hsteady, hunused, hdigest, hhash, rfl⟩ := outcome_ready_iff.1 houtcome
  rw [Bool.eq_false_iff]
  intro hsame
  have hpath := Path.same_trans (Path.same_symm (Items.path_of_find? hknown')) hsame
  rw [Items.find?_congr _ hpath, hknown] at hknown'
  cases hknown'
  exact nomatch hused.symm.trans hunused

/-- A look that does not show a version to be changed or gone leaves it alone. -/
theorem Holds.absorb (hm : m.Holds i) (hs : s.IsRow) (halters : ¬s.Alters i) :
    (m.absorb s digest).2.Holds i := by
  obtain ⟨k, hknown, hused, hmodified, hsize⟩ := hm
  cases hhas : s.has i.path with
  | true =>
      obtain ⟨f, hf, hsame⟩ := Survey.has_iff.1 hhas
      have hsteady : isSteady k f = true := by
        cases hfound : isSteady i f with
        | true =>
            rw [isSteady_iff] at hfound ⊢
            rw [hmodified, hsize]
            exact hfound
        | false => exact absurd (Or.inl ⟨f, hf, hsame, hfound⟩) halters
      have hafter : (m.absorb s digest).2.items.find? f.path =
          some (outcome (digest f.path) (m.items.find? f.path) f).1 := find?_absorb_of_mem hs hf
      rw [Items.find?_congr m.items hsame, hknown, outcome_of_used _ hsteady hused,
        Items.find?_congr _ hsame] at hafter
      exact ⟨k, hafter, hused, hmodified, hsize⟩
  | false =>
      have hafter : (m.absorb s digest).2.items.find? i.path =
          if s.mayMiss i.path then m.items.find? i.path else none := find?_absorb_of_not_has hhas
      cases hmissed : s.mayMiss i.path with
      | true =>
          rw [hmissed, if_pos rfl, hknown] at hafter
          exact ⟨k, hafter, hused, hmodified, hsize⟩
      | false => exact absurd (Or.inr ⟨hhas, hmissed⟩) halters

/-- A result leaves a version alone, unless it is the failure of a dispatch of its path. -/
theorem Holds.finalize (hm : m.Holds i) {p : Path} {success : Bool} (id : Option Int)
    (now : Moment) (hsuccess : p.same i.path = true → success = true) :
    (m.finalize p success id now).Holds i := by
  obtain ⟨k, hknown, hused, hmodified, hsize⟩ := hm
  refine ⟨_, by rw [find?_finalize, hknown, Option.map_some], ?_, ?_, ?_⟩
  · split
    · next hsame =>
        simp [settled, hused, hsuccess (Path.same_symm hsame)]
    · exact hused
  · split <;> exact hmodified
  · split <;> exact hsize

end Monitor

/-! ## Deeds and versions -/

namespace Watch

/-- Whether a deed shows that an item changed or is gone. -/
def Deed.Alters (i : Item) : Deed → Prop
  | looked s _ => s.Alters i
  | _ => False

/-- Whether a deed is the failure of the dispatch of an item. -/
def Deed.Fails (k : Item) : Deed → Prop
  | settled item result _ => item = k ∧ result.success = false
  | _ => False

theorem Deed.Fails.mem_ended {d : Deed} {k : Item} (h : d.Fails k) : k ∈ d.ended := by
  cases d with
  | settled item result now => exact List.mem_singleton.2 h.1.symm
  | _ => exact h.elim

variable {w w' : Watch} {d : Deed} {ds : List Deed} {i j : Item} {old : List Item}

/-- What is known as used is not returned. -/
theorem Does.not_same_of_ready (h : Does w d w') (hw : w.monitor.Holds i) :
    ∀ k ∈ d.ready, k.path.same i.path = false := by
  intro k hk
  cases h with
  | look row accepted idle => exact Monitor.not_same_of_ready hw row hk
  | _ => exact nomatch hk

/-- A deed leaves a version alone, unless it shows that the file changed or is gone, or that a
dispatch of the path failed. -/
theorem Does.holds (h : Does w d w') (hw : w.monitor.Holds i) (halters : ¬d.Alters i)
    (hfails : ∀ k, k.path.same i.path = true → ¬d.Fails k) : w'.monitor.Holds i := by
  cases h with
  | look row accepted idle => exact hw.absorb row halters
  | begin => exact hw
  | @settle task item result now mem path =>
      refine hw.finalize _ _ fun hsame => ?_
      rw [path] at hsame
      cases hsuccess : result.success with
      | true => rfl
      | false => exact absurd ⟨rfl, hsuccess⟩ (hfails item hsame)
  | save idle => exact hw
  | @note receipts =>
      simp only [Monitor.Holds, (apply_frame w.monitor receipts).2]
      exact hw

theorem Moves.holds (h : Moves w ds w') (hw : w.monitor.Holds i)
    (halters : ∀ d ∈ ds, ¬d.Alters i)
    (hfails : ∀ d ∈ ds, ∀ k, k.path.same i.path = true → ¬d.Fails k) : w'.monitor.Holds i := by
  induction h with
  | done => exact hw
  | turn moves turns ih =>
      rw [turns.monitor]
      exact ih halters hfails
  | move moves does ih =>
      simp only [List.forall_mem_append, List.forall_mem_singleton] at halters hfails
      exact does.holds (ih halters.1 hfails.1) halters.2 hfails.2

/-! ## Delivered versions -/

/-- A version of a file is known as a used one, and at most some old dispatches of the path
have not ended. -/
structure Delivered (i : Item) (old : List Item) (w : Watch) : Prop where
  holds : w.monitor.Holds i
  pending : ∀ k ∈ w.pending, k.path.same i.path = true → k ∈ old

/-- A delivered version stays delivered, unless the file changed or is gone, or an old dispatch
failed. -/
theorem Delivered.does (hw : w.Delivered i old) (hsound : w.Sound) (h : Does w d w')
    (halters : ¬d.Alters i)
    (hfails : ∀ k ∈ old, k.path.same i.path = true → ¬d.Fails k) : w'.Delivered i old := by
  have hready := h.not_same_of_ready hw.holds
  have hpending : ∀ k ∈ d.ended ++ w'.pending, k.path.same i.path = true → k ∈ old := by
    intro k hk hsame
    rcases List.mem_append.1 ((h.pending hsound).mem_iff.2 hk) with hk | hk
    · exact hw.pending k hk hsame
    · exact absurd (hsame.symm.trans (hready k hk)) (by decide)
  refine ⟨h.holds hw.holds halters fun k hsame hk => ?_, fun k hk => ?_⟩
  · exact hfails k (hpending k (List.mem_append_left _ hk.mem_ended) hsame) hsame hk
  · exact hpending k (List.mem_append_right _ hk)

theorem Delivered.moves (hw : w.Delivered i old) (hsound : w.Sound) (h : Moves w ds w')
    (halters : ∀ d ∈ ds, ¬d.Alters i)
    (hfails : ∀ d ∈ ds, ∀ k ∈ old, k.path.same i.path = true → ¬d.Fails k) :
    w'.Delivered i old := by
  induction h with
  | done => exact hw
  | turn moves turns ih =>
      obtain ⟨holds, pending⟩ := ih halters hfails
      rw [← turns.monitor] at holds
      rw [← turns.pending] at pending
      exact ⟨holds, pending⟩
  | move moves does ih =>
      simp only [List.forall_mem_append, List.forall_mem_singleton] at halters hfails
      exact (ih halters.1 hfails.1).does (hsound.moves moves) does halters.2 hfails.2

/-- When a version was returned and its dispatch has ended, all other dispatches of the path
were there before. -/
theorem mem_old_of_perm {ready returned others : List Item} (hrow : Items.IsRow ready)
    (hi : i ∈ ready) (hreturned : ∀ k ∈ returned, k.path.same i.path = false)
    (hperm : (old ++ ready ++ returned).Perm (i :: others)) {k : Item} (hk : k ∈ others)
    (hsame : k.path.same i.path = true) : k ∈ old := by
  obtain ⟨front, back, rfl⟩ := List.append_of_mem hi
  obtain ⟨-, hback, hfront⟩ := List.pairwise_append.1 hrow
  have hsplit : (old ++ (front ++ i :: back) ++ returned).Perm
      (i :: (old ++ (front ++ back) ++ returned)) :=
    ((List.perm_middle.append_left old).trans List.perm_middle).append_right returned
  have hothers := (hsplit.symm.trans hperm).cons_inv.mem_iff.2 hk
  have hne : k.path.same i.path ≠ false := by
    rw [hsame]
    exact Bool.noConfusion
  simp only [List.mem_append] at hothers
  rcases hothers with (hk | hk | hk) | hk
  · exact hk
  · exact absurd (Path.not_same_of_precedes (hfront k hk i List.mem_cons_self)) hne
  · have hother := Path.not_same_of_precedes ((List.pairwise_cons.1 hback).1 k hk)
    rw [Path.same_comm] at hother
    exact absurd hother hne
  · exact absurd (hreturned k hk) hne

variable {before mid between after : List Deed} {s s' : Survey} {ready ready' : List Item}
  {result : Dispatch.Result} {now : Moment}

/-- A version is delivered when it was returned and its dispatch has succeeded, unless meanwhile
a look showed that the file changed or is gone, or an old dispatch failed. -/
theorem delivered_of_settled {w₂ w₃ w₄ : Watch} (hw : w.Sound) (hlook : Does w (.looked s ready) w₂)
    (hmid : Moves w₂ mid w₃) (hsettle : Does w₃ (.settled i result now) w₄) (hi : i ∈ ready)
    (hlast : ∀ d ∈ mid, ∀ k ∈ d.ready, k.path.same i.path = false)
    (hsuccess : result.success = true) (halters : ∀ d ∈ mid, ¬d.Alters i)
    (hfails : ∀ d ∈ mid, ∀ k ∈ w.pending, k.path.same i.path = true → ¬d.Fails k) :
    w₄.Delivered i w.pending := by
  have hw₂ := hw.does hlook
  have hw₃ := hw₂.moves hmid
  have hready : Items.IsRow ready ∧ w₂.monitor.Holds i := by
    cases hlook with
    | look row accepted idle =>
        exact ⟨Monitor.isRow_ready_absorb row, Monitor.holds_of_ready row hi⟩
  obtain ⟨hrow, hholds⟩ := hready
  have hperm : (w.pending ++ ready ++ mid.flatMap Deed.ready).Perm
      (i :: (mid.flatMap Deed.ended ++ w₄.pending)) := by
    have hlook' : (w.pending ++ ready).Perm w₂.pending := hlook.pending hw
    have hsettle' : (w₃.pending ++ []).Perm (i :: w₄.pending) := hsettle.pending hw₃
    rw [List.append_nil] at hsettle'
    refine (hlook'.append_right _).trans ((hmid.pending hw₂).trans ?_)
    exact (hsettle'.append_left _).trans List.perm_middle
  have hreturned : ∀ k ∈ mid.flatMap Deed.ready, k.path.same i.path = false := by
    intro k hk
    obtain ⟨d, hd, hk⟩ := List.mem_flatMap.1 hk
    exact hlast d hd k hk
  have hold : ∀ k ∈ mid.flatMap Deed.ended ++ w₄.pending, k.path.same i.path = true →
      k ∈ w.pending :=
    fun k hk => mem_old_of_perm hrow hi hreturned hperm hk
  have hmidHolds : w₃.monitor.Holds i := by
    refine hmid.holds hholds halters fun d hd k hsame hk => ?_
    have hended := List.mem_flatMap.2 ⟨d, hd, hk.mem_ended⟩
    exact hfails d hd k (hold k (List.mem_append_left _ hended) hsame) hsame hk
  refine ⟨hsettle.holds hmidHolds id fun k _ hk => ?_, fun k hk => ?_⟩
  · exact nomatch hk.2.symm.trans hsuccess
  · exact hold k (List.mem_append_right _ hk)

/-- A version that was delivered is returned again only after a look showed that the file
changed or is gone, or after a dispatch failed that had not ended when it was returned first. -/
theorem altered_or_failed (hw : w.Sound) (h : Moves w (.looked s ready ::
      (mid ++ .settled i result now :: (between ++ .looked s' ready' :: after))) w')
    (hi : i ∈ ready) (hlast : ∀ d ∈ mid, ∀ k ∈ d.ready, k.path.same i.path = false)
    (hsuccess : result.success = true) (hj : j ∈ ready') (hsame : j.path.same i.path = true) :
    (∃ d ∈ mid ++ between, d.Alters i) ∨
      ∃ k ∈ w.pending, k.path.same i.path = true ∧ ∃ d ∈ mid ++ between, d.Fails k := by
  obtain ⟨w₁, w₂, hturns, hlook, hrest⟩ := h.of_cons
  obtain ⟨w₃, w₄, hmid, hsettle, hrest⟩ := hrest.of_append_cons
  obtain ⟨w₅, w₆, hbetween, hagain, -⟩ := hrest.of_append_cons
  have hw₁ := hw.moves hturns
  have hw₄ := ((hw₁.does hlook).moves hmid).does hsettle
  by_cases halters : ∃ d ∈ mid ++ between, d.Alters i
  · exact Or.inl halters
  by_cases hfails : ∃ k ∈ w₁.pending, k.path.same i.path = true ∧ ∃ d ∈ mid ++ between, d.Fails k
  · obtain ⟨k, hk, hfailed⟩ := hfails
    have hpending : (w.pending ++ []).Perm w₁.pending := hturns.pending hw
    rw [List.append_nil] at hpending
    exact Or.inr ⟨k, hpending.mem_iff.2 hk, hfailed⟩
  · -- nothing shows that the file changed or is gone, and no old dispatch fails
    exfalso
    simp only [not_exists, not_and, List.mem_append] at halters hfails
    have hdelivered := delivered_of_settled hw₁ hlook hmid hsettle hi hlast hsuccess
      (fun d hd => halters d (Or.inl hd)) fun d hd k hk hsame => hfails k hk hsame d (Or.inl hd)
    have hstill := hdelivered.moves hw₄ hbetween (fun d hd => halters d (Or.inr hd))
      fun d hd k hk hsame => hfails k hk hsame d (Or.inr hd)
    exact nomatch hsame.symm.trans (hagain.not_same_of_ready hstill.holds j hj)

/-- One file after the other, no dispatch is under way when a look returns files. -/
theorem Does.pending_eq_nil_of_looked (h : Does w (.looked s ready) w')
    (hsequential : w.job.isParallel = false) : w.pending = [] := by
  cases h with
  | look row accepted idle => exact (idle hsequential).pending

/-- One file after the other, a version that was delivered is returned again only after a look
showed that the file changed or is gone. -/
theorem altered_of_delivered (hw : w.Sound) (hsequential : w.job.isParallel = false)
    (h : Moves w (.looked s ready ::
      (mid ++ .settled i result now :: (between ++ .looked s' ready' :: after))) w')
    (hi : i ∈ ready) (hlast : ∀ d ∈ mid, ∀ k ∈ d.ready, k.path.same i.path = false)
    (hsuccess : result.success = true) (hj : j ∈ ready') (hsame : j.path.same i.path = true) :
    ∃ d ∈ mid ++ between, d.Alters i := by
  obtain ⟨w₁, w₂, hturns, hlook, hrest⟩ := h.of_cons
  rw [← hturns.job] at hsequential
  have hall := (Moves.of_does hlook).append hrest
  refine (altered_or_failed (hw.moves hturns) hall hi hlast hsuccess hj hsame).resolve_right ?_
  rintro ⟨k, hk, -⟩
  rw [hlook.pending_eq_nil_of_looked hsequential] at hk
  exact nomatch hk

/-- From the beginning of a watch, a version that was delivered is returned again only after a
look showed that the file changed or is gone, or, with dispatches beside each other, after a
dispatch failed of an item that was returned before. -/
theorem altered_or_failed_of_delivered (hw : w.Sound) (hidle : w.Idle)
    (h : Moves w (before ++ .looked s ready ::
      (mid ++ .settled i result now :: (between ++ .looked s' ready' :: after))) w')
    (hi : i ∈ ready) (hlast : ∀ d ∈ mid, ∀ k ∈ d.ready, k.path.same i.path = false)
    (hsuccess : result.success = true) (hj : j ∈ ready') (hsame : j.path.same i.path = true) :
    (∃ d ∈ mid ++ between, d.Alters i) ∨
      w.job.isParallel = true ∧ ∃ k ∈ before.flatMap Deed.ready, k.path.same i.path = true ∧
        ∃ d ∈ mid ++ between, d.Fails k := by
  obtain ⟨w₁, w₂, hbefore, hlook, hrest⟩ := h.of_append_cons
  have hall := (Moves.of_does hlook).append hrest
  rcases altered_or_failed (hw.moves hbefore) hall hi hlast hsuccess hj hsame with
    halters | ⟨k, hk, hfailed⟩
  · exact Or.inl halters
  · refine Or.inr ⟨?_, k, ?_, hfailed⟩
    · cases hparallel : w.job.isParallel with
      | true => rfl
      | false =>
          rw [← hbefore.job] at hparallel
          rw [hlook.pending_eq_nil_of_looked hparallel] at hk
          exact nomatch hk
    · have hreturned := hbefore.pending hw
      rw [hidle.pending, List.nil_append] at hreturned
      exact hreturned.mem_iff.2 (List.mem_append_right _ hk)

/-- In a life of a spool that dispatches one file after the other, a version that was delivered
is returned again only after a look showed that the file changed or is gone. -/
theorem altered_of_delivered_of_life {ctx : Context} {job : Job} {change : Change}
    {log : List Spool.Happening} {spool : Spool} (hbegins : Begins job change)
    (hsequential : job.isParallel = false) (life : Spool.Life ctx ⟨change.1, none⟩ log spool)
    (hlog : Spool.deeds log = before ++ .looked s ready ::
      (mid ++ .settled i result now :: (between ++ .looked s' ready' :: after)))
    (hi : i ∈ ready) (hlast : ∀ d ∈ mid, ∀ k ∈ d.ready, k.path.same i.path = false)
    (hsuccess : result.success = true) (hj : j ∈ ready') (hsame : j.path.same i.path = true) :
    ∃ d ∈ mid ++ between, d.Alters i := by
  have hmoves := life.moves
  rw [hlog] at hmoves
  obtain ⟨w₁, w₂, hbefore, hlook, hrest⟩ := hmoves.of_append_cons
  have hjob : w₁.job.isParallel = false := by
    rw [hbefore.job, hbegins.job]
    exact hsequential
  exact altered_of_delivered (hbegins.steady.sound.moves hbefore) hjob
    ((Moves.of_does hlook).append hrest) hi hlast hsuccess hj hsame

/-! ### A sample -/

/-- A job that dispatches files beside each other. -/
def sampleJob : Job where
  name := "outbox"
  directories := [⟨"in"⟩]
  statusFile := ⟨"status"⟩
  stopFile := ⟨"stop"⟩
  rule := "out"
  hosts := ["hosta"]

/-- A watch that knows the digest of one file. -/
def sampleWatch : Watch where
  job := sampleJob
  monitor :=
    { Monitor.ofJob sampleJob none default with
      items := [{ path := ⟨"a"⟩, hash := some "1", lastModified := 1, size := 3 }] }
  phase := .watching

/-- What a look finds that finds one version of the file. -/
def sampleSurvey (version : Nat) : Survey where
  files := [⟨⟨"a"⟩, version, 3⟩]

/-- One version of the file, as it is returned. -/
def sampleReady (version : Nat) (timeUsed : Option Moment) : Item where
  path := ⟨"a"⟩
  hash := some (toString version)
  lastModified := version
  size := 3
  used := true
  timeUsed := timeUsed

theorem sound_sampleWatch : sampleWatch.Sound :=
  ⟨rfl, List.pairwise_singleton _ _, List.nodup_nil, fun _ ht => nomatch ht⟩

/-- The watch after a look that finds one version of the file. -/
def sampleLook (w : Watch) (version : Nat) : Watch :=
  { w with
    monitor := (w.monitor.absorb (sampleSurvey version) fun _ => some (toString version)).2
    waiting := w.waiting ++
      (w.monitor.absorb (sampleSurvey version) fun _ => some (toString version)).1 }

theorem Moves.sampleLook (h : Moves w ds w') (version : Nat)
    (hparallel : w'.job.isParallel = true)
    (haccepted : ∀ f ∈ (sampleSurvey version).files, w'.monitor.accepts f)
    (hready : (w'.monitor.absorb (sampleSurvey version) fun _ => some (toString version)).1 =
      ready) :
    Moves w (ds ++ [.looked (sampleSurvey version) ready]) (sampleLook w' version) := by
  rw [← hready]
  refine h.move (.look (List.pairwise_singleton _ _) haccepted fun hsequential => ?_)
  exact nomatch hsequential.symm.trans hparallel

/-- The old version is returned, and the file changes while the dispatch of it is under way. -/
def sampleBefore : List Deed := [
  .looked (sampleSurvey 1) [sampleReady 1 none], .begun [(0, sampleReady 1 none)],
  .looked (sampleSurvey 2) [], .looked (sampleSurvey 2) []]

/-- The dispatch of the new version is begun. -/
def sampleMid : List Deed := [.begun [(1, sampleReady 2 none)]]

/-- When the new version was delivered, the dispatch of the old one fails. -/
def sampleBetween : List Deed := [
  .settled (sampleReady 1 none) ⟨⟨"a"⟩, false, none⟩ default, .looked (sampleSurvey 2) []]

theorem moves_sample :
    ∃ w', Moves sampleWatch (sampleBefore ++ .looked (sampleSurvey 2) [sampleReady 2 none] ::
      (sampleMid ++ .settled (sampleReady 2 none) ⟨⟨"a"⟩, true, none⟩ default ::
        (sampleBetween ++ [.looked (sampleSurvey 2) [sampleReady 2 (some default)]]))) w' := by
  have hold := ((Moves.done sampleWatch).sampleLook 1 rfl (by decide) rfl).move .begin
  have hchanged := (hold.sampleLook 2 rfl (by decide) rfl).sampleLook 2 rfl (by decide) rfl
  have hnew := (hchanged.sampleLook 2 rfl (by decide) rfl).move .begin
  have hdelivered := hnew.move (@Does.settle _ 1 (sampleReady 2 none) ⟨⟨"a"⟩, true, none⟩ default
    (by decide) rfl)
  have hfailed := hdelivered.move (@Does.settle _ 0 (sampleReady 1 none) ⟨⟨"a"⟩, false, none⟩
    default (by decide) rfl)
  exact ⟨_, (hfailed.sampleLook 2 rfl (by decide) rfl).sampleLook 2 rfl (by decide) rfl⟩

/-- With dispatches beside each other, the late failure of an old version brings the delivered
version back, though the file has not changed. -/
theorem returned_again_sample :
    (¬∃ d ∈ sampleMid ++ sampleBetween, d.Alters (sampleReady 2 none)) ∧
      ∃ k ∈ sampleBefore.flatMap Deed.ready, k.path.same (sampleReady 2 none).path = true ∧
        ∃ d ∈ sampleMid ++ sampleBetween, d.Fails k := by
  obtain ⟨w', h⟩ := moves_sample
  have hunaltered : ¬∃ d ∈ sampleMid ++ sampleBetween, d.Alters (sampleReady 2 none) := by
    simp [Deed.Alters, Survey.Alters, sampleMid, sampleBetween, sampleSurvey, sampleReady,
      Survey.has, Monitor.isSteady]
  have hidle : sampleWatch.Idle := ⟨rfl, rfl⟩
  have hlast : ∀ d ∈ sampleMid, ∀ k ∈ d.ready, k.path.same (sampleReady 2 none).path = false := by
    simp [sampleMid, Deed.ready]
  have hall := altered_or_failed_of_delivered sound_sampleWatch hidle h List.mem_cons_self hlast
    rfl List.mem_cons_self (Path.same_refl ⟨"a"⟩)
  exact ⟨hunaltered, (hall.resolve_left hunaltered).2⟩

end Watch

end Courier
