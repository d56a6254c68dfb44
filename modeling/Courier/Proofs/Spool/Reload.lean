import Courier.Proofs.Spool.Course
import Courier.Proofs.Spool.StoredStatus

/-!
# Monitors that are loaded again

Everything that changes the items or the counts of a monitor notes that there is something to save.
So while there is nothing to save, the status file holds what it held when the monitor was loaded,
with nothing changed since, or the status as it is.  Either way a monitor that is loaded anew is the
same as this one, and goes on in the same way.

Main definitions:

- `Monitor.contentAfter` is what the status file holds after a course that nobody else writes in.
- `Monitor.Input` is what may differ when two monitors that are the same go on.
- `Monitor.Continues` says that one monitor goes on as another one would.

Main statements:

- An act leaves a monitor as it is, or notes that there is something to save
  (`Looks.eq_or_dirty`), so the status file is up to date (`Course.stored`).
- A monitor that is loaded anew continues the one that was saved (`Monitor.reloads_saved`).
-/

namespace Courier

open Program Calendar

namespace Monitor

variable {m m₁ m' : Monitor} {S : Snapshot} {s : Survey} {t : Trace} {ready : List Item} {p : Path}
  {i : Item} {stages : List Stage} {act : Act} {digest : Path → Option String}

/-! ## What there is to save -/

/-- Items that are dropped are noted. -/
theorem eq_or_dirty_keep (m : Monitor) (s : Survey) :
    m.keep s = m ∨ (m.keep s).dirty = true := by
  by_cases hall : ∀ i ∈ m.items, (s.has i.path || s.mayMiss i.path) = true
  · left
    have hitems : (m.items.filter fun i => s.has i.path || s.mayMiss i.path) = m.items :=
      List.filter_eq_self.2 hall
    simp [keep, hitems]
  · right
    have hlength : (m.items.filter fun i => s.has i.path || s.mayMiss i.path).length ≠
        m.items.length := by
      rw [Ne, List.length_filter_eq_length_iff]
      exact hall
    simp [keep, hlength]

/-- What a look makes of a file is noted, unless it is what was known. -/
theorem eq_or_dirty_absorbFile (digest : Path → Option String) (m : Monitor) (f : Survey.Found) :
    (m.absorbFile digest f).2 = m ∨ (m.absorbFile digest f).2.dirty = true := by
  simp only [absorbFile]
  split
  · exact Or.inr rfl
  · split
    · exact Or.inr rfl
    · split
      · exact Or.inl rfl
      · split
        · exact Or.inl rfl
        · split
          · exact Or.inr rfl
          · exact Or.inr rfl

theorem eq_or_dirty_absorbFiles (digest : Path → Option String) (files : List Survey.Found)
    (m : Monitor) :
    (absorbFiles digest files m).2 = m ∨ (absorbFiles digest files m).2.dirty = true := by
  induction files generalizing m with
  | nil => exact Or.inl rfl
  | cons f rest ih =>
      rw [absorbFiles_cons]
      rcases ih (m.absorbFile digest f).2 with heq | hdirty
      · simp only [heq]
        exact eq_or_dirty_absorbFile digest m f
      · exact Or.inr hdirty

/-- A look leaves a monitor as it is, or notes that there is something to save. -/
theorem Looks.eq_or_dirty (h : m.Looks S t ready m') : m' = m ∨ m'.dirty = true := by
  obtain ⟨s, digest, -, habsorb⟩ := h.takes
  have hafter : (absorbFiles digest s.files (m.keep s)).2 = m' := congrArg Prod.snd habsorb
  rw [← hafter]
  rcases eq_or_dirty_absorbFiles digest s.files (m.keep s) with heq | hdirty
  · rw [heq]
    exact eq_or_dirty_keep m s
  · exact Or.inr hdirty

/-! ## The status file -/

/-- The contents that an act has written to a file. -/
def Act.writes (p : Path) : Act → List ByteArray
  | saved t _ => t.writes p
  | _ => []

/-- What a file holds after a course in which nobody else writes to it; a write that failed has
not touched it. -/
def contentAfter (p : Path) (content : Option ByteArray) (stages : List Stage) :
    Option ByteArray :=
  stages.foldl (fun content s => (s.act.writes p).getLast?.or content) content

theorem contentAfter_append (p : Path) (content : Option ByteArray) (stages : List Stage)
    (s : Stage) : contentAfter p content (stages ++ [s]) =
      (s.act.writes p).getLast?.or (contentAfter p content stages) := by
  rw [contentAfter, List.foldl_append]
  rfl

/-- A file that no act has written to holds what it held. -/
theorem contentAfter_of_unwritten {content : Option ByteArray}
    (h : ∀ s ∈ stages, s.act.writes p = []) : contentAfter p content stages = content := by
  induction stages generalizing content with
  | nil => rfl
  | cons s rest ih =>
      obtain ⟨hfirst, hrest⟩ := List.forall_mem_cons.1 h
      rw [contentAfter, List.foldl_cons, hfirst]
      exact ih hrest

/-- A course changes the items and the counts, and what there is to save. -/
theorem Course.frame (h : m.Course stages m') :
    m' = { m with items := m'.items, counters := m'.counters, dirty := m'.dirty } := by
  induction h with
  | start => rfl
  | @go stages m₁ m' act course does ih =>
      cases does with
      | look looks =>
          have hlook := looks.frame
          rw [ih] at hlook
          rw [hlook]
      | settle =>
          rw [ih]
          rfl
      | save run =>
          rcases saveStatus_cases run with ⟨hsaved, -⟩ | ⟨hsame, -⟩
          · obtain rfl := hsaved
            rw [ih]
          · obtain rfl := hsame
            exact ih

/-- While there is nothing to save, nothing has been written to the status file and nothing has
changed, or it holds the status as it is. -/
theorem Course.stored (h : m.Course stages m') (hclean : m'.dirty = false)
    (content : Option ByteArray) :
    (m' = m ∧ ∀ s ∈ stages, s.act.writes m.statusFile = []) ∨
      contentAfter m.statusFile content stages = some m'.status.toJson.indented.toUTF8 := by
  induction h with
  | start => exact Or.inl ⟨rfl, List.forall_mem_nil _⟩
  | @go stages m₁ m' act course does ih =>
      have hkeep : m' = m₁ → act.writes m.statusFile = [] →
          (m' = m ∧ ∀ s ∈ stages ++ [⟨m₁, act, m'⟩], s.act.writes m.statusFile = []) ∨
            contentAfter m.statusFile content (stages ++ [⟨m₁, act, m'⟩]) =
              some m'.status.toJson.indented.toUTF8 := by
        rintro rfl hwrites
        rw [contentAfter_append, hwrites]
        rcases ih hclean with ⟨hsame, hbefore⟩ | hcontent
        · left
          constructor
          · exact hsame
          · exact List.forall_mem_append.2 ⟨hbefore, List.forall_mem_singleton.2 hwrites⟩
        · exact Or.inr hcontent
      cases does with
      | look looks =>
          rcases looks.eq_or_dirty with hsame | hdirty
          · exact hkeep hsame rfl
          · exact nomatch hclean.symm.trans hdirty
      | settle => exact nomatch hclean
      | save run =>
          have hfile : m₁.statusFile = m.statusFile := by rw [course.frame]
          rcases saveStatus_cases run with ⟨hsaved, hwrites⟩ | ⟨hsame, hwrites⟩
          · obtain rfl := hsaved
            rw [contentAfter_append, Act.writes, ← hfile, hwrites]
            exact Or.inr rfl
          · rw [hfile] at hwrites
            exact hkeep hsame hwrites

/-! ## What is stored without loss -/

/-- Whether the number that comes with an act has its width, and the moment a text of its own.  The
clock gives no other moments: of the leap seconds it knows those at the end of a minute. -/
def Act.Fits : Act → Prop
  | settled _ _ id now => (∀ n ∈ id, Json.FitsInt64 n) ∧ now.IsRegular
  | _ => True

/-- Whether all items are stored without loss. -/
def ItemsFit (m : Monitor) : Prop :=
  ∀ p i, m.items.find? p = some i → i.Keeps

/-- Times and sizes that a snapshot shows have their widths. -/
theorem Tracks.fits {info : Metadata} (h : m.Tracks S p info) :
    Json.FitsInt64 (max 0 info.modified) ∧ info.size < Json.wordValues 64 := by
  obtain ⟨hmodified, hsize⟩ := S.fits h.stands
  constructor
  · have hpos : 0 < Json.wordValues 63 := by decide
    unfold Json.FitsInt64
    omega
  · exact hsize

theorem Looks.itemsFit (h : m.Looks S t ready m') (hm : m.ItemsFit) : m'.ItemsFit := by
  intro p i hi
  rcases h.meets_or_lacks p with ⟨f, digest, hmeets⟩ | hlacks
  · obtain ⟨info, htracks, hmodified, hsize⟩ := hmeets.tracks
    obtain ⟨hfits, hfits'⟩ := htracks.fits
    obtain ⟨hmodified', hsize'⟩ := version_outcome digest (m.items.find? p) f
    have hid := specialId_outcome digest (m.items.find? p) f
    have hused := timeUsed_outcome digest (m.items.find? p) f
    obtain rfl : (outcome digest (m.items.find? p) f).1 = i :=
      Option.some.inj (hmeets.after.symm.trans hi)
    refine ⟨⟨?_, ?_, ?_⟩, ?_⟩
    · rw [hmodified', hmodified]
      exact hfits
    · rw [hsize', hsize]
      exact hfits'
    · rw [hid]
      intro n hn
      obtain ⟨j, hj, hn⟩ := Option.bind_eq_some_iff.1 hn
      exact (hm p j hj).fits.specialId n hn
    · intro moment hmoment
      obtain ⟨j, hj, hmoment⟩ := Option.bind_eq_some_iff.1 (hused moment hmoment)
      exact (hm p j hj).regular moment hmoment
  · exact hm p i (hlacks.known hi).2

theorem Does.itemsFit (h : Does m act m') (hact : act.Fits) (hm : m.ItemsFit) : m'.ItemsFit := by
  cases h with
  | look looks => exact looks.itemsFit hm
  | @settle q success id now =>
      intro p i hi
      rw [find?_finalize] at hi
      obtain ⟨j, hj, rfl⟩ := Option.map_eq_some_iff.1 hi
      obtain ⟨hfits, hregular⟩ := hm p j hj
      obtain ⟨hnumber, hnow⟩ := hact
      split
      · refine ⟨⟨hfits.lastModified, hfits.size, ?_⟩, ?_⟩
        · intro n hn
          rcases Option.or_eq_some_iff.1 hn with hid | ⟨-, hid⟩
          · exact hnumber n hid
          · exact hfits.specialId n hid
        · rintro moment ⟨⟩
          exact hnow
      · exact ⟨hfits, hregular⟩
  | save run =>
      intro p i hi
      rw [items_of_run_saveStatus run] at hi
      exact hm p i hi

theorem Course.itemsFit (h : m.Course stages m') (hstages : ∀ s ∈ stages, s.act.Fits)
    (hm : m.ItemsFit) : m'.ItemsFit := by
  induction h with
  | start => exact hm
  | go course does ih =>
      obtain ⟨hbefore, hlast⟩ := List.forall_mem_append.1 hstages
      exact does.itemsFit (hlast _ List.mem_cons_self) (ih hbefore)

theorem Course.isRow (h : m.Course stages m') (hm : m.items.IsRow) : m'.items.IsRow := by
  induction h with
  | start => exact hm
  | go course does ih =>
      cases does with
      | look looks => exact looks.isRow ih
      | settle => exact isRow_finalize _ _ _ _ ih
      | save run =>
          rw [items_of_run_saveStatus run]
          exact ih

/-! ## Going on -/

/-- What is looked at, or what is told. -/
inductive Input where
  | look (S : Snapshot)
  | settle (p : Path) (success : Bool) (specialId : Option Int) (now : Moment)

/-- The input of an act; saving has none. -/
def Act.input? : Act → Option Input
  | looked S _ _ => some (.look S)
  | settled p success id now => some (.settle p success id now)
  | saved _ _ => none

/-- The items that an act returned. -/
def Act.returned : Act → List Item
  | looked _ _ ready => ready
  | _ => []

/-- Whether a course has some inputs, one after the other, and nothing is saved in it. -/
def Obeys (stages : List Stage) (inputs : List Input) : Prop :=
  stages.map (fun s => s.act.input?) = inputs.map some

theorem obeys_snoc {stage : Stage} {inputs : List Input} :
    Obeys (stages ++ [stage]) inputs ↔ ∃ front input, inputs = front ++ [input] ∧
      Obeys stages front ∧ stage.act.input? = some input := by
  unfold Obeys
  rw [List.map_append, List.map_singleton]
  constructor
  · intro h
    obtain ⟨front, last, rfl, hfront, hlast⟩ := List.map_eq_append_iff.1 h.symm
    obtain ⟨input, rfl, hinput⟩ := List.map_eq_singleton_iff.1 hlast
    exact ⟨front, input, rfl, hfront.symm, hinput.symm⟩
  · rintro ⟨front, input, rfl, hfront, hinput⟩
    rw [List.map_append, List.map_singleton, hfront, hinput]

/-- Every input can be obeyed. -/
theorem exists_does (m : Monitor) (input : Input) :
    ∃ act m', Does m act m' ∧ act.input? = some input := by
  cases input with
  | look S =>
      obtain ⟨t, ready, m', hlooks⟩ := exists_looks m S
      exact ⟨.looked S t ready, m', .look hlooks, rfl⟩
  | settle p success id now => exact ⟨.settled p success id now, _, .settle, rfl⟩

/-- With the same input the same is done. -/
theorem Does.unique {act' : Act} {m'' : Monitor} {input : Input} (h : Does m act m')
    (k : Does m act' m'') (hact : act.input? = some input) (hact' : act'.input? = some input) :
    act = act' ∧ m' = m'' := by
  cases h with
  | look looks =>
      obtain rfl := Option.some.inj hact
      cases k with
      | look looks' =>
          obtain rfl := Input.look.inj (Option.some.inj hact')
          have hasks : Asks (fun r => r.isInspection = true) m.scan :=
            asks_scan (fun _ => rfl) (fun _ => rfl) m
          obtain ⟨rfl, hsame⟩ := Snapshot.eq_of_run hasks looks.1 looks.2 looks'.1 looks'.2
          obtain ⟨rfl, rfl⟩ := Prod.mk.inj hsame
          exact ⟨rfl, rfl⟩
      | settle => exact nomatch hact'
      | save run => exact nomatch hact'
  | settle =>
      obtain rfl := Option.some.inj hact
      cases k with
      | look looks => exact nomatch hact'
      | settle =>
          obtain ⟨rfl, rfl, rfl, rfl⟩ := Input.settle.inj (Option.some.inj hact')
          exact ⟨rfl, rfl⟩
      | save run => exact nomatch hact'
  | save run => exact nomatch hact

/-- All inputs can be obeyed one after the other. -/
theorem exists_course (m : Monitor) (inputs : List Input) :
    ∃ stages m', m.Course stages m' ∧ Obeys stages inputs := by
  have hmore : ∀ (inputs : List Input) {stages : List Stage} {m₁ : Monitor},
      m.Course stages m₁ → ∃ more m', m.Course (stages ++ more) m' ∧ Obeys more inputs := by
    intro inputs
    induction inputs with
    | nil =>
        intro stages m₁ hcourse
        refine ⟨[], m₁, ?_, rfl⟩
        rw [List.append_nil]
        exact hcourse
    | cons input rest ih =>
        intro stages m₁ hcourse
        obtain ⟨act, m₂, hdoes, hact⟩ := exists_does m₁ input
        obtain ⟨more, m', hlater, hobeys⟩ := ih (hcourse.go hdoes)
        refine ⟨⟨m₁, act, m₂⟩ :: more, m', ?_, ?_⟩
        · rw [List.append_assoc] at hlater
          exact hlater
        · exact List.cons_eq_cons.2 ⟨hact, hobeys⟩
  exact hmore inputs .start

/-- With the same inputs a monitor takes the same course. -/
theorem Course.unique {stages' : List Stage} {m'' : Monitor} {inputs : List Input}
    (h : m.Course stages m') (k : m.Course stages' m'') (hinputs : Obeys stages inputs)
    (hinputs' : Obeys stages' inputs) : stages = stages' ∧ m' = m'' := by
  induction h generalizing stages' m'' inputs with
  | start =>
      obtain rfl : inputs = [] := List.map_eq_nil_iff.1 hinputs.symm
      obtain rfl : stages' = [] := List.map_eq_nil_iff.1 hinputs'
      generalize hnone : ([] : List Stage) = none at k
      cases k with
      | start => exact ⟨hnone, rfl⟩
      | go course does => simp at hnone
  | @go stages m₁ m' act course does ih =>
      obtain ⟨front, input, rfl, hfront, hact⟩ := obeys_snoc.1 hinputs
      rcases List.eq_nil_or_concat stages' with rfl | ⟨stages', last, rfl⟩
      · simp [Obeys] at hinputs'
      · rw [List.concat_eq_append] at k hinputs' ⊢
        obtain ⟨front', input', hsplit, hfront', hlast⟩ := obeys_snoc.1 hinputs'
        obtain ⟨rfl, hinput⟩ := List.append_inj' hsplit rfl
        obtain rfl := (List.cons_eq_cons.1 hinput).1
        obtain ⟨hcourse, hdoes, rfl⟩ := k.of_snoc
        obtain ⟨rfl, rfl⟩ := ih hcourse hfront hfront'
        obtain ⟨rfl, rfl⟩ := does.unique hdoes hact hlast
        exact ⟨rfl, rfl⟩

/-- Whether a monitor goes on as another one would. -/
structure Continues (m n : Monitor) : Prop where
  items : n.items = m.items
  counters : n.counters = m.counters
  /-- It can be given any inputs. -/
  goes : ∀ inputs, ∃ later n', n.Course later n' ∧ Obeys later inputs
  /-- With the same inputs it returns the same, and comes to the same items. -/
  alike : ∀ inputs later later' m' n', m.Course later m' → n.Course later' n' →
    Obeys later inputs → Obeys later' inputs →
      later'.map (fun s => s.act.returned) = later.map (fun s => s.act.returned) ∧
        n'.items = m'.items

theorem continues_self (m : Monitor) : m.Continues m where
  items := rfl
  counters := rfl
  goes := exists_course m
  alike := by
    intro inputs later later' m' n' hcourse hcourse' hobeys hobeys'
    obtain ⟨rfl, rfl⟩ := hcourse.unique hcourse' hobeys hobeys'
    exact ⟨rfl, rfl⟩

/-! ## Loading again -/

section Loading

variable {job : Job} {today day : Date} {zone : Zone} {content : Option ByteArray}

/-- While there is nothing to save, the monitor that is told by the status file is the one that
there is, on the same day, and on every day when the status has been written. -/
theorem loaded_contentAfter (hload : loaded job today zone content = .ok m)
    (h : m.Course stages m') (hstages : ∀ s ∈ stages, s.act.Fits) (hcounters : m'.counters.Fits)
    (hclean : m'.dirty = false)
    (hday : day = today ∨ ∃ s ∈ stages, s.act.writes job.statusFile ≠ []) :
    loaded job day zone (contentAfter job.statusFile content stages) = .ok m' := by
  obtain ⟨filter, hfilter, hfirst, hrow, hfits⟩ := loaded_eq_ok hload
  have hfile : m.statusFile = job.statusFile := by
    rw [hfirst]
    rfl
  rcases h.stored hclean content with ⟨hsame, hwrites⟩ | hcontent
  · rw [hfile] at hwrites
    rcases hday with rfl | ⟨s, hs, hwritten⟩
    · rw [contentAfter_of_unwritten hwrites, hsame]
      exact hload
    · exact absurd (hwrites s hs) hwritten
  · have hitems : ∀ i ∈ m'.items, i.Keeps := by
      intro i hi
      have hfirstFit : m.ItemsFit := fun p i hi => hfits i (Items.mem_of_find? hi)
      have hfind := Items.find?_of_mem (h.isRow hrow) hi (Path.same_refl i.path)
      exact h.itemsFit hstages hfirstFit i.path i hfind
    have hstored : loaded job day zone (some m'.status.toJson.indented.toUTF8) = _ :=
      loaded_of_stored hfilter ⟨hitems, hcounters⟩ (h.isRow hrow)
    have hframe := h.frame
    rw [hclean, hfirst] at hframe
    rw [← hfile, hcontent, hstored]
    exact congrArg Except.ok hframe.symm

/-- After a save that went well, and whenever there is nothing to save, a monitor that is loaded
anew from a status file that nobody else has written continues this one.  As the counts of a day
begin with the day of the first loading, that is on the same day, or when the status has been
written.  Numbers that do not have the width they are stored with are left out, and so are the
moments that no clock gives. -/
theorem reloads_saved (hload : Run (load job today zone) t (.ok m))
    (hfound : t.Finds job.statusFile content) (h : m.Course stages m')
    (hstages : ∀ s ∈ stages, s.act.Fits) (hcounters : m'.counters.Fits)
    (hsaved : m'.dirty = false ∨
      ∃ earlier s u, stages = earlier ++ [s] ∧ s.act = .saved u (.ok ()))
    (hday : day = today ∨ ∃ s ∈ stages, s.act.writes job.statusFile ≠ []) :
    (∃ u result, Run (load job day zone) u result ∧
        u.Finds job.statusFile (contentAfter job.statusFile content stages)) ∧
      ∀ u result, Run (load job day zone) u result →
        u.Finds job.statusFile (contentAfter job.statusFile content stages) →
        ∃ n, result = .ok n ∧ m'.Continues n := by
  have hclean : m'.dirty = false := by
    rcases hsaved with hclean | ⟨earlier, s, u, rfl, hact⟩
    · exact hclean
    · obtain ⟨-, hdoes, rfl⟩ := h.of_snoc
      rw [hact] at hdoes
      cases hdoes with
      | save run => exact dirty_of_run_saveStatus run
  constructor
  · obtain ⟨u, hrun, hu⟩ :=
      exists_run_load job day zone (contentAfter job.statusFile content stages)
    exact ⟨u, _, hrun, hu⟩
  · intro u result hrun hu
    have hfirst := (eq_of_run_load hload hfound).symm
    rw [eq_of_run_load hrun hu, loaded_contentAfter hfirst h hstages hcounters hclean hday]
    exact ⟨m', rfl, continues_self m'⟩

end Loading

/-! ### A sample -/

/-- The job of the monitor of the sample. -/
def sampleJob : Job where
  name := "outbox"
  directories := [⟨"in"⟩]
  statusFile := ⟨"status"⟩
  rule := "out"
  hosts := ["hosta"]

/-- A look finds the file of the sample, the status is saved, and a monitor that is loaded then
knows the file. -/
theorem reloads_saved_sample : ∃ looked saved ready n i,
    sample.Looks Snapshot.sample looked ready n ∧
      Run n.saveStatus saved (.ok (), { n with dirty := false }) ∧
      n.items.find? ⟨"in/a"⟩ = some i ∧
      ∃ u reloaded, Run (load sampleJob default) u (.ok reloaded) ∧
        u.Finds ⟨"status"⟩ (saved.writes ⟨"status"⟩).getLast? ∧
        reloaded.items.find? ⟨"in/a"⟩ = some i := by
  obtain ⟨t, hload, hfound⟩ := exists_run_load sampleJob default .utc none
  have hsample : loaded sampleJob default .utc none = .ok sample := rfl
  rw [hsample] at hload
  obtain ⟨looked, ready, n, hlooks⟩ := exists_looks sample Snapshot.sample
  obtain ⟨i, hi, -⟩ := (hlooks.leaves Items.isRow_nil).tracked _ _ tracks_sample
  have hdirty : n.dirty = true := by
    rcases hlooks.eq_or_dirty with rfl | hdirty
    · exact nomatch hi
    · exact hdirty
  obtain ⟨saved, hsave⟩ := exists_run_saveStatus hdirty
  have hcourse := (Course.start.go (.look hlooks)).go (.save hsave)
  have hfirst : sample.counters.Fits := by constructor <;> decide
  have hcounters : n.counters.Fits := by
    rw [hlooks.frame]
    exact hfirst
  obtain ⟨⟨u, result, hrun, hu⟩, hall⟩ := reloads_saved hload hfound hcourse
    (by simp [Act.Fits]) hcounters (Or.inl rfl) (Or.inl rfl)
  obtain ⟨reloaded, rfl, hcontinues⟩ := hall u result hrun hu
  refine ⟨looked, saved, ready, n, i, hlooks, hsave, hi, u, reloaded, hrun, ?_, ?_⟩
  · have hcontent : contentAfter ⟨"status"⟩ none [⟨sample, .looked Snapshot.sample looked ready, n⟩,
        ⟨n, .saved saved (.ok ()), { n with dirty := false }⟩] =
          (saved.writes ⟨"status"⟩).getLast? := Option.or_none
    rw [← hcontent]
    exact hu
  · rw [hcontinues.items]
    exact hi

end Monitor

end Courier
