import Courier.Proofs.Spool.Detection

/-!
# What the status file shows

A look marks a file used before anything of it is sent, and the status file is written at its
own times.  One file after the other, it is only written when every dispatch has ended, so a
file that it shows as used was delivered.  With dispatches beside each other it is written while
dispatches are under way, and shows their files as used as well: a spool that begins anew from
it does not return them.

Main definitions:

- `Item.SameVersion` relates items of one version of a file.
- `Watch.Accounts` says why a watch knows files as used ones.

Main statements:

- A status file shows a version as used only when it was so at first, or was returned and its
  dispatch has succeeded or has not ended (`Watch.accounted_of_saved`); one file after the other,
  the dispatch has succeeded (`Watch.succeeded_of_saved`), in every life
  (`Watch.succeeded_of_saved_of_life`).
- Any other version that is on disk unchanged is returned by one of the first three looks of a
  spool that begins anew from this status file (`Watch.returned_of_saved`).
-/

namespace Courier

open Program Calendar

/-! ## Versions -/

/-- Whether two items are of one version of a file. -/
structure Item.SameVersion (i k : Item) : Prop where
  path : i.path.same k.path = true
  modified : i.lastModified = k.lastModified
  size : i.size = k.size
  hash : i.hash = k.hash

theorem Item.SameVersion.refl (i : Item) : i.SameVersion i :=
  ⟨Path.same_refl i.path, rfl, rfl, rfl⟩

namespace Watch

/-- Whether a deed is the success of the dispatch of an item. -/
def Deed.Succeeds (i : Item) : Deed → Prop
  | settled item result _ => item = i ∧ result.success = true
  | _ => False

variable {w w' start : Watch} {d : Deed} {ds before after : List Deed} {p : Path} {i k v : Item}

/-! ## Files that are known as used -/

/-- Whether it is accounted for that a version is known as a used one: it was so at first, or
it was returned and its dispatch has succeeded or has not ended. -/
def Accounted (first : Items) (ds : List Deed) (pending : List Item) (k : Item) : Prop :=
  (∃ i ∈ first, i.used = true ∧ i.SameVersion k) ∨
    ∃ i ∈ ds.flatMap Deed.ready, i.SameVersion k ∧ (i ∈ pending ∨ ∃ d ∈ ds, d.Succeeds i)

/-- Whether it is accounted for that a watch knows files as used ones. -/
def Accounts (first : Items) (ds : List Deed) (w : Watch) : Prop :=
  ∀ p k, w.monitor.items.find? p = some k → k.used = true → Accounted first ds w.pending k

/-- What is accounted for stays so, unless the dispatch of it ended and failed. -/
theorem Accounted.does {first : Items} (hw : w.Sound) (h : Does w d w')
    (hk : Accounted first ds w.pending k)
    (hsucceeds : ∀ i ∈ d.ended, i.SameVersion k → d.Succeeds i) :
    Accounted first (ds ++ [d]) w'.pending k := by
  rcases hk with hfirst | ⟨i, hi, hversion, hdispatch⟩
  · exact Or.inl hfirst
  · refine Or.inr ⟨i, ?_, hversion, ?_⟩
    · rw [List.flatMap_append]
      exact List.mem_append_left _ hi
    · rcases hdispatch with hpending | ⟨d', hd', hsucceeded⟩
      · have hboth := (h.pending hw).mem_iff.1 (List.mem_append_left _ hpending)
        rcases List.mem_append.1 hboth with hended | hstill
        · exact Or.inr ⟨d, by simp, hsucceeds i hended hversion⟩
        · exact Or.inl hstill
      · exact Or.inr ⟨d', List.mem_append_left _ hd', hsucceeded⟩

/-- A look knows a file as used when it did so before, or when it has just returned it. -/
theorem used_of_absorb {m : Monitor} {s : Survey} {digest : Path → Option String}
    (hs : s.IsRow) (hk : (m.absorb s digest).2.items.find? p = some k) (hused : k.used = true) :
    m.items.find? p = some k ∨ k ∈ (m.absorb s digest).1 := by
  cases hhas : s.has p with
  | false =>
      rw [Monitor.find?_absorb_of_not_has hhas] at hk
      split at hk
      · exact Or.inl hk
      · exact nomatch hk
  | true =>
      obtain ⟨f, hf, hsame⟩ := Survey.has_iff.1 hhas
      rw [← Items.find?_congr _ hsame, Monitor.find?_absorb_of_mem hs hf] at hk
      cases houtcome : Monitor.outcome (digest f.path) (m.items.find? f.path) f with
      | mk item ready =>
          rw [houtcome] at hk
          cases hk
          cases ready with
          | true => exact Or.inr ((Monitor.mem_ready_absorb hs).2 ⟨f, hf, houtcome⟩)
          | false =>
              rw [← Items.find?_congr _ hsame]
              exact Or.inl (Monitor.used_of_outcome houtcome hused)

/-- Every deed keeps account of the files that are known as used. -/
theorem Accounts.does {first : Items} (hw : w.Sound) (h : Does w d w')
    (haccounts : Accounts first ds w) : Accounts first (ds ++ [d]) w' := by
  intro p k hk hused
  have hpending := h.pending hw
  cases h with
  | @look s digest row accepted idle =>
      rcases used_of_absorb row hk hused with hbefore | hready
      · exact (haccounts p k hbefore hused).does hw (.look row accepted idle)
          (by rintro i ⟨⟩)
      · refine Or.inr ⟨k, ?_, .refl k, Or.inl ?_⟩
        · rw [List.flatMap_append]
          exact List.mem_append_right _ (by simpa [Deed.ready] using hready)
        · exact hpending.mem_iff.1 (List.mem_append_right _ hready)
  | begin => exact (haccounts p k hk hused).does hw .begin (by rintro i ⟨⟩)
  | @settle task item result now mem path =>
      have hsettle : Does w (.settled item result now) _ := .settle mem path
      have hbefore := Monitor.find?_finalize w.monitor result.path result.success
        result.specialId now p
      have hk' := hbefore.symm.trans hk
      obtain ⟨k₀, hk₀, hsettled⟩ := Option.map_eq_some_iff.1 hk'
      cases hsame : p.same result.path with
      | true =>
          rw [hsame, if_pos rfl] at hsettled
          subst hsettled
          obtain ⟨hused₀, hsuccess⟩ : k₀.used = true ∧ result.success = true := by
            simpa [Monitor.settled] using hused
          have hversion : ∀ i : Item, i.SameVersion k₀ ↔
              i.SameVersion (Monitor.settled k₀ result.success result.specialId now) := by
            intro i
            rw [hsuccess]
            exact ⟨fun h => ⟨h.path, h.modified, h.size, h.hash⟩,
              fun h => ⟨h.path, h.modified, h.size, h.hash⟩⟩
          have haccounted := (haccounts p k₀ hk₀ hused₀).does hw hsettle
            fun i hi _ => ⟨(List.mem_singleton.1 hi).symm, hsuccess⟩
          simpa only [Accounted, hversion] using haccounted
      | false =>
          rw [hsame, if_neg Bool.false_ne_true] at hsettled
          subst hsettled
          refine (haccounts p k₀ hk₀ hused).does hw hsettle ?_
          intro i hi hversion
          rw [List.mem_singleton.1 hi] at hversion
          have hpath := Path.same_trans hversion.path (Items.path_of_find? hk₀)
          rw [← path, Path.same_comm, hsame] at hpath
          exact absurd hpath Bool.false_ne_true
  | save idle => exact (haccounts p k hk hused).does hw (.save idle) (by rintro i ⟨⟩)
  | @note receipts =>
      have hk' : (Bulletin.apply w.monitor receipts).items.find? p = some k := hk
      rw [(apply_frame w.monitor receipts).2] at hk'
      exact (haccounts p k hk' hused).does hw .note (by rintro i ⟨⟩)

/-- Whatever a watch does, it keeps account of the files that it knows as used. -/
theorem Moves.accounts (hw : w.Sound) (h : Moves w ds w') :
    Accounts w.monitor.items ds w' := by
  induction h with
  | done =>
      intro p k hk hused
      exact Or.inl ⟨k, Items.mem_of_find? hk, hused, .refl k⟩
  | turn moves turns ih =>
      intro p k hk hused
      rw [turns.monitor] at hk
      rw [turns.pending]
      exact ih p k hk hused
  | move moves does ih => exact ih.does (hw.moves moves) does

/-! ## What is saved -/

variable {state : StatusFile} {pending : List Item}

/-- The status file shows what the watch knew when it was written, and names the dispatches that
had not ended. -/
theorem of_saved (h : Moves w (before ++ .saved state pending :: after) w') :
    ∃ w₁, Moves w before w₁ ∧ state.items = w₁.monitor.items ∧ pending = w₁.pending ∧
      (w.job.isParallel = false → pending = []) := by
  obtain ⟨w₁, w₂, hbefore, hsave, -⟩ := h.of_append_cons
  cases hsave with
  | save idle =>
      refine ⟨w₁, hbefore, rfl, rfl, fun hsequential => ?_⟩
      rw [← hbefore.job] at hsequential
      exact (idle hsequential).pending

/-- A status file shows a version as used only when it was so at first, or was returned and its
dispatch has succeeded or has not ended. -/
theorem accounted_of_saved (hw : w.Sound)
    (h : Moves w (before ++ .saved state pending :: after) w') (hk : k ∈ state.items)
    (hused : k.used = true) : Accounted w.monitor.items before pending k := by
  obtain ⟨w₁, hbefore, hitems, rfl, -⟩ := of_saved h
  rw [hitems] at hk
  have hfind := Items.find?_of_mem (hw.moves hbefore).row hk (Path.same_refl k.path)
  exact hbefore.accounts hw k.path k hfind hused

/-- One file after the other, a status file shows a version as used only when it was so at
first, or its dispatch has succeeded. -/
theorem succeeded_of_saved (hw : w.Sound) (hsequential : w.job.isParallel = false)
    (h : Moves w (before ++ .saved state pending :: after) w') (hk : k ∈ state.items)
    (hused : k.used = true) :
    (∃ i ∈ w.monitor.items, i.used = true ∧ i.SameVersion k) ∨
      ∃ i, i.SameVersion k ∧ ∃ d ∈ before, d.Succeeds i := by
  obtain ⟨w₁, -, -, -, hidle⟩ := of_saved h
  rcases accounted_of_saved hw h hk hused with hfirst | ⟨i, -, hversion, hdispatch⟩
  · exact Or.inl hfirst
  · rw [hidle hsequential] at hdispatch
    exact Or.inr ⟨i, hversion, hdispatch.resolve_left fun hi => nomatch hi⟩

/-- In a life of a spool that dispatches one file after the other, every status file shows a
version as used only when it was so at first, or its dispatch has succeeded. -/
theorem succeeded_of_saved_of_life {ctx : Context} {job : Job} {change : Change}
    {log : List Spool.Happening} {spool : Spool} (hbegins : Begins job change)
    (hsequential : job.isParallel = false) (life : Spool.Life ctx ⟨change.1, none⟩ log spool)
    (hlog : Spool.deeds log = before ++ .saved state pending :: after) (hk : k ∈ state.items)
    (hused : k.used = true) :
    (∃ i ∈ change.1.monitor.items, i.used = true ∧ i.SameVersion k) ∨
      ∃ i, i.SameVersion k ∧ ∃ d ∈ before, d.Succeeds i := by
  have hmoves := life.moves
  rw [hlog] at hmoves
  refine succeeded_of_saved hbegins.steady.sound ?_ hmoves hk hused
  show change.1.job.isParallel = false
  rw [hbegins.job]
  exact hsequential

end Watch

/-! ## Beginning anew -/

namespace Monitor

variable {m : Monitor} {s s₁ s₂ s₃ : Survey} {digest d₁ d₂ d₃ : Path → Option String}
  {v k : Item}

/-- Whether a look finds a version of a file, and takes its digest when that is wanted. -/
def Sees (m : Monitor) (s : Survey) (digest : Path → Option String) (v : Item) : Prop :=
  s.IsRow ∧ ∃ f ∈ s.files, f.path.same v.path = true ∧ isSteady v f = true ∧
    (m.wantsDigest f = true → digest f.path = v.hash)

/-- Whether a version of a file is known, and not as a used one, by some item. -/
structure Knows (m : Monitor) (v k : Item) : Prop where
  found : m.items.find? v.path = some k
  unused : k.used = false
  modified : k.lastModified = v.lastModified
  size : k.size = v.size

/-- What a look makes of a version that it finds. -/
theorem Sees.outcome (h : m.Sees s digest v) :
    ∃ f, isSteady v f = true ∧ (m.wantsDigest f = true → digest f.path = v.hash) ∧
      m.items.find? f.path = m.items.find? v.path ∧
      (m.absorb s digest).2.items.find? v.path =
        some (outcome (digest f.path) (m.items.find? v.path) f).1 ∧
      ∀ i, Monitor.outcome (digest f.path) (m.items.find? v.path) f = (i, true) →
        i ∈ (m.absorb s digest).1 := by
  obtain ⟨hs, f, hf, hsame, hsteady, hdigest⟩ := h
  have hknown := Items.find?_congr m.items hsame
  refine ⟨f, hsteady, hdigest, hknown, ?_, fun i hi => ?_⟩
  · rw [← Items.find?_congr _ hsame, find?_absorb_of_mem hs hf, hknown]
  · rw [← hknown] at hi
    exact (mem_ready_absorb hs).2 ⟨f, hf, hi⟩

/-- A version that is known, and not as a used one, is returned by a look or has its digest
noted. -/
theorem Knows.look (hk : m.Knows v k) (h : m.Sees s digest v) (hhash : v.hash.isSome = true) :
    (∃ i ∈ (m.absorb s digest).1, i.SameVersion v) ∨
      (k.hash ≠ v.hash ∧ (m.absorb s digest).2.Knows v { k with hash := v.hash }) := by
  obtain ⟨f, hsteady, hdigest, hknown, hafter, hready⟩ := h.outcome
  obtain ⟨found, unused, modified, size⟩ := hk
  obtain ⟨hash, hv⟩ := Option.isSome_iff_exists.1 hhash
  have hsteady' : isSteady k f = true := by
    rw [isSteady_iff] at hsteady ⊢
    rw [modified, size]
    exact hsteady
  have htaken : digest f.path = some hash := by
    rw [hdigest, hv]
    simp [wantsDigest, hknown, found, hsteady', unused]
  rw [found, htaken, outcome_of_unused hash hsteady' unused] at hafter hready
  have hpath := Items.path_of_find? found
  by_cases hheld : k.hash = some hash
  · rw [if_pos hheld] at hready
    refine Or.inl ⟨_, hready _ rfl, hpath, modified, size, ?_⟩
    rw [hv]
    exact hheld
  · rw [if_neg hheld] at hafter
    rw [hv]
    exact Or.inr ⟨hheld, hafter, unused, modified, size⟩

/-- A version that is not known as a used one is returned by a look or noted. -/
theorem Sees.look (h : m.Sees s digest v) (hm : ¬m.Holds v) (hhash : v.hash.isSome = true) :
    (∃ i ∈ (m.absorb s digest).1, i.SameVersion v) ∨
      ∃ k, (m.absorb s digest).2.Knows v k := by
  obtain ⟨f, hsteady, -, -, hafter, -⟩ := h.outcome
  obtain ⟨hmodified, hsize⟩ := isSteady_iff.1 hsteady
  cases hknown : m.items.find? v.path with
  | none =>
      rw [hknown] at hafter
      exact Or.inr ⟨_, hafter, rfl, hmodified.symm, hsize.symm⟩
  | some k =>
      cases hheld : isSteady k f with
      | false =>
          rw [hknown] at hafter
          simp only [Monitor.outcome, hheld, Bool.not_false, if_true] at hafter
          exact Or.inr ⟨_, hafter, rfl, hmodified.symm, hsize.symm⟩
      | true =>
          obtain ⟨hmodified', hsize'⟩ := isSteady_iff.1 hheld
          have hk : k.lastModified = v.lastModified ∧ k.size = v.size :=
            ⟨hmodified'.trans hmodified.symm, hsize'.trans hsize.symm⟩
          have hunused : k.used = false := by
            cases hused : k.used with
            | false => rfl
            | true => exact absurd ⟨k, hknown, hused, hk.1, hk.2⟩ hm
          rcases (Knows.mk hknown hunused hk.1 hk.2).look h hhash with hready | ⟨-, hnoted⟩
          · exact Or.inl hready
          · exact Or.inr ⟨_, hnoted⟩

/-- A version that is on disk unchanged and is not known as a used one is returned by one of
three looks: the first one notes it, the second one its digest. -/
theorem ready_of_three_looks (hm : ¬m.Holds v) (hhash : v.hash.isSome = true)
    (h₁ : m.Sees s₁ d₁ v) (h₂ : (m.absorb s₁ d₁).2.Sees s₂ d₂ v)
    (h₃ : ((m.absorb s₁ d₁).2.absorb s₂ d₂).2.Sees s₃ d₃ v) :
    ∃ i, i.SameVersion v ∧ (i ∈ (m.absorb s₁ d₁).1 ∨ i ∈ ((m.absorb s₁ d₁).2.absorb s₂ d₂).1 ∨
      i ∈ (((m.absorb s₁ d₁).2.absorb s₂ d₂).2.absorb s₃ d₃).1) := by
  rcases h₁.look hm hhash with ⟨i, hi, hversion⟩ | ⟨k, hk⟩
  · exact ⟨i, hversion, Or.inl hi⟩
  rcases hk.look h₂ hhash with ⟨i, hi, hversion⟩ | ⟨-, hk'⟩
  · exact ⟨i, hversion, Or.inr (Or.inl hi)⟩
  rcases hk'.look h₃ hhash with ⟨i, hi, hversion⟩ | ⟨hne, -⟩
  · exact ⟨i, hversion, Or.inr (Or.inr hi)⟩
  · exact absurd rfl hne

end Monitor

/-- A spool begins anew from a status file.  A version that is on disk unchanged is returned by
one of the first three looks, unless the file is shown as used with this time and size, and that
is accounted for. -/
theorem Watch.returned_of_saved {w w' : Watch} {before after : List Deed} {state : StatusFile}
    {pending : List Item} {m : Monitor} {v : Item} {s₁ s₂ s₃ : Survey}
    {d₁ d₂ d₃ : Path → Option String} (hw : w.Sound)
    (h : Moves w (before ++ .saved state pending :: after) w') (hm : m.items = state.items)
    (hhash : v.hash.isSome = true) (h₁ : m.Sees s₁ d₁ v) (h₂ : (m.absorb s₁ d₁).2.Sees s₂ d₂ v)
    (h₃ : ((m.absorb s₁ d₁).2.absorb s₂ d₂).2.Sees s₃ d₃ v) :
    (∃ i, i.SameVersion v ∧ (i ∈ (m.absorb s₁ d₁).1 ∨ i ∈ ((m.absorb s₁ d₁).2.absorb s₂ d₂).1 ∨
      i ∈ (((m.absorb s₁ d₁).2.absorb s₂ d₂).2.absorb s₃ d₃).1)) ∨
    ∃ k, k.path.same v.path = true ∧ k.lastModified = v.lastModified ∧ k.size = v.size ∧
      Accounted w.monitor.items before pending k := by
  by_cases hheld : m.Holds v
  · obtain ⟨k, hk, hused, hmodified, hsize⟩ := hheld
    rw [hm] at hk
    exact Or.inr ⟨k, Items.path_of_find? hk, hmodified, hsize,
      accounted_of_saved hw h (Items.mem_of_find? hk) hused⟩
  · exact Or.inl (Monitor.ready_of_three_looks hheld hhash h₁ h₂ h₃)

/-! ### A sample -/

namespace Watch

/-- The status file that is written while the dispatch of a file is under way. -/
def sampleState : StatusFile where
  items := [sampleReady 1 none]
  counters := sampleWatch.monitor.counters

/-- The monitor of a spool that begins anew from it. -/
def sampleAnew : Monitor :=
  { sampleWatch.monitor with items := sampleState.items }

theorem moves_saved_sample :
    ∃ w', Moves sampleWatch ([.looked (sampleSurvey 1) [sampleReady 1 none]] ++
      [.saved sampleState [sampleReady 1 none]]) w' := by
  have hlooked := (Moves.done sampleWatch).sampleLook 1 rfl (by decide) rfl
  exact ⟨_, hlooked.move (.save fun hsequential => nomatch hsequential)⟩

/-- With dispatches beside each other, a spool that begins anew does not return a file whose
dispatch was under way, though it is on disk unchanged. -/
theorem not_returned_sample :
    (sampleAnew.absorb (sampleSurvey 1) fun _ => some "1") = ([], sampleAnew) ∧
      ∃ k, k.path.same ⟨"a"⟩ = true ∧ k.lastModified = 1 ∧ k.size = 3 ∧
        Accounted sampleWatch.monitor.items [.looked (sampleSurvey 1) [sampleReady 1 none]]
          [sampleReady 1 none] k := by
  obtain ⟨w', h⟩ := moves_saved_sample
  have hlook : (sampleAnew.absorb (sampleSurvey 1) fun _ => some "1") = ([], sampleAnew) := rfl
  have hsees : sampleAnew.Sees (sampleSurvey 1) (fun _ => some "1") (sampleReady 1 none) :=
    ⟨List.pairwise_singleton _ _, _, List.mem_cons_self, Path.same_refl ⟨"a"⟩, rfl, fun _ => rfl⟩
  have hall := returned_of_saved (m := sampleAnew) sound_sampleWatch h rfl rfl hsees
    (by rw [hlook]; exact hsees) (by rw [hlook, hlook]; exact hsees)
  rw [hlook, hlook] at hall
  refine ⟨hlook, hall.resolve_left ?_⟩
  rintro ⟨i, -, hi | hi | hi⟩ <;> exact nomatch hi

end Watch

end Courier
