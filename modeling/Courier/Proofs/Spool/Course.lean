import Courier.Proofs.Spool.Tracking

/-!
# Courses of a monitor

A monitor is looked with, is told the results of dispatches, and is saved, in any order.  A look
leaves it with just the files that the snapshot shows, and with what it knew of the paths that
could not be read.  It never changes the number of the last transfer of a file, so this is the one
that came with the last result of a dispatch of the path, since the path was added.

Main definitions:

- `Monitor.Act` is something that is done with a monitor and `Monitor.Does` what it changes; a
  `Monitor.Course` is made of several acts, each in a `Monitor.Stage`.
- `Monitor.Leaves` says what a look leaves of the items.

Main statements:

- A look follows the snapshot, and numbers follow the results (`Monitor.follows_snapshot`).
-/

namespace Courier

open Program Calendar

namespace Monitor

variable {m m₁ m' : Monitor} {S : Snapshot} {t : Trace} {ready : List Item} {p : Path} {i : Item}

/-! ## What a look leaves -/

/-- The item of a file has its time and size. -/
theorem version_outcome (digest : Option String) (known : Option Item) (f : Survey.Found) :
    (outcome digest known f).1.lastModified = f.modified ∧
      (outcome digest known f).1.size = f.size := by
  cases known with
  | none => exact ⟨rfl, rfl⟩
  | some i =>
      by_cases hsteady : isSteady i f = true
      · have hkept := isSteady_iff.1 hsteady
        cases hused : i.used with
        | true =>
            rw [outcome_of_used digest hsteady hused]
            exact hkept
        | false =>
            cases digest with
            | none =>
                simp only [outcome, hsteady, hused]
                exact hkept
            | some hash =>
                rw [outcome_of_unused hash hsteady hused]
                split
                · exact hkept
                · exact hkept
      · simp only [outcome, hsteady]
        exact ⟨rfl, rfl⟩

/-- A look leaves the number of the last transfer alone. -/
theorem specialId_outcome (digest : Option String) (known : Option Item) (f : Survey.Found) :
    (outcome digest known f).1.specialId = known.bind Item.specialId := by
  cases known with
  | none => rfl
  | some i =>
      simp only [outcome]
      split
      · rfl
      · split
        · rfl
        · split
          · rfl
          · split
            · rfl
            · rfl

/-- A look notes no use of a file. -/
theorem timeUsed_outcome (digest : Option String) (known : Option Item) (f : Survey.Found) :
    ∀ now ∈ (outcome digest known f).1.timeUsed, known.bind Item.timeUsed = some now := by
  intro now hnow
  cases known with
  | none => cases hnow
  | some i =>
      simp only [outcome] at hnow
      split at hnow
      · cases hnow
      · split at hnow
        · exact hnow
        · split at hnow
          · exact hnow
          · split at hnow
            · exact hnow
            · exact hnow

/-- What a look at a snapshot leaves of the items. -/
structure Leaves (m : Monitor) (S : Snapshot) (m' : Monitor) : Prop where
  row : m'.items.IsRow
  /-- A file that the monitor cares for has an item, with the time and size that are shown, and
  with the number that it had. -/
  tracked : ∀ p info, m.Tracks S p info → ∃ i, m'.items.find? p = some i ∧
    i.lastModified = max 0 info.modified ∧ i.size = info.size ∧
    i.specialId = (m.items.find? p).bind Item.specialId
  /-- What may be there, but could not be read, is left alone. -/
  missed : ∀ p, (∀ info, ¬m.Tracks S p info) → m.Misses S p →
    m'.items.find? p = m.items.find? p
  /-- There are no other items. -/
  gone : ∀ p, (∀ info, ¬m.Tracks S p info) → ¬m.Misses S p → m'.items.find? p = none

theorem Looks.leaves (h : m.Looks S t ready m') (hm : m.items.IsRow) : m.Leaves S m' := by
  constructor
  · exact h.isRow hm
  · intro p info htracks
    rcases h.meets_or_lacks p with ⟨f, digest, hmeets⟩ | hlacks
    · obtain ⟨info', htracks', hmodified, hsize⟩ := hmeets.tracks
      obtain rfl : info = info' := htracks.unique htracks'
      obtain ⟨hmodified', hsize'⟩ := version_outcome digest (m.items.find? p) f
      exact ⟨_, hmeets.after, hmodified'.trans hmodified, hsize'.trans hsize,
        specialId_outcome digest (m.items.find? p) f⟩
    · exact absurd htracks (hlacks.absent info)
  · intro p habsent hmisses
    rcases h.meets_or_lacks p with ⟨f, digest, hmeets⟩ | hlacks
    · obtain ⟨info, htracks, -, -⟩ := hmeets.tracks
      exact absurd htracks (habsent info)
    · exact hlacks.kept hmisses
  · intro p habsent hmisses
    rcases h.meets_or_lacks p with ⟨f, digest, hmeets⟩ | hlacks
    · obtain ⟨info, htracks, -, -⟩ := hmeets.tracks
      exact absurd htracks (habsent info)
    · exact hlacks.gone hmisses

/-! ## Acts -/

/-- Something that is done with a monitor. -/
inductive Act where
  /-- It looked at a snapshot, and some items became ready. -/
  | looked (S : Snapshot) (t : Trace) (ready : List Item)
  /-- It noted the result of a dispatch. -/
  | settled (p : Path) (success : Bool) (specialId : Option Int) (now : Moment)
  /-- It was to write the status file. -/
  | saved (t : Trace) (result : Except FileFault Unit)

/-- What an act changes. -/
inductive Does : Monitor → Act → Monitor → Prop where
  | look {m m' : Monitor} {S : Snapshot} {t : Trace} {ready : List Item}
      (looks : m.Looks S t ready m') : Does m (.looked S t ready) m'
  | settle {m : Monitor} {p : Path} {success : Bool} {id : Option Int} {now : Moment} :
      Does m (.settled p success id now) (m.finalize p success id now)
  | save {m m' : Monitor} {t : Trace} {result : Except FileFault Unit}
      (run : Run m.saveStatus t (result, m')) : Does m (.saved t result) m'

/-- An act, with the monitor before and after it. -/
structure Stage where
  before : Monitor
  act : Act
  after : Monitor

/-- Several acts, one after the other. -/
inductive Course (m : Monitor) : List Stage → Monitor → Prop where
  | start : Course m [] m
  | go {stages : List Stage} {m₁ m' : Monitor} {act : Act} (course : Course m stages m₁)
      (does : Does m₁ act m') : Course m (stages ++ [⟨m₁, act, m'⟩]) m'

/-- The last stage of a course, and what came before it. -/
theorem Course.of_snoc {stages : List Stage} {s : Stage} (h : m.Course (stages ++ [s]) m') :
    m.Course stages s.before ∧ Does s.before s.act s.after ∧ m' = s.after := by
  generalize hall : stages ++ [s] = all at h
  cases h with
  | start => simp at hall
  | go course does =>
      obtain ⟨rfl, hlast⟩ := List.append_inj' hall rfl
      obtain rfl := (List.cons_eq_cons.1 hlast).1
      exact ⟨course, does, rfl⟩

/-- A stage of a course, and what came before it. -/
theorem Course.of_append_cons {earlier later : List Stage} {s : Stage}
    (h : m.Course (earlier ++ s :: later) m') :
    m.Course earlier s.before ∧ Does s.before s.act s.after := by
  generalize hall : earlier ++ s :: later = all at h
  induction h generalizing later with
  | start => simp at hall
  | @go stages m₁ m' act course does ih =>
      rcases List.eq_nil_or_concat later with rfl | ⟨rest, last, rfl⟩
      · obtain ⟨rfl, hlast⟩ := List.append_inj' hall rfl
        obtain rfl := (List.cons_eq_cons.1 hlast).1
        exact ⟨course, does⟩
      · rw [List.concat_eq_append, ← List.cons_append, ← List.append_assoc] at hall
        exact ih (List.append_inj' hall rfl).1

/-- Saving leaves the items alone. -/
theorem items_of_run_saveStatus {result : Except FileFault Unit × Monitor}
    (h : Run m.saveStatus t result) : result.2.items = m.items := by
  rcases saveStatus_cases h with ⟨hsaved, -⟩ | ⟨hsame, -⟩
  · rw [hsaved]
  · rw [hsame]

/-! ## Numbers of transfers -/

/-- The number that came with the result of a dispatch of a path. -/
def Act.id? (p : Path) : Act → Option Int
  | settled q _ id _ => if q.same p then id else none
  | _ => none

/-- Whether a look added a path. -/
structure Stage.Adds (p : Path) (s : Stage) : Prop where
  looked : ∃ S t ready, s.act = .looked S t ready
  fresh : s.before.items.find? p = none
  listed : (s.after.items.find? p).isSome = true

/-- The last number that came with a result of a dispatch of a path. -/
def lastId (p : Path) (stages : List Stage) : Option Int :=
  (stages.filterMap fun s => s.act.id? p).getLast?

theorem lastId_append (p : Path) (stages : List Stage) (s : Stage) :
    lastId p (stages ++ [s]) = (s.act.id? p).or (lastId p stages) := by
  simp only [lastId, List.filterMap_append, List.filterMap_cons, List.filterMap_nil]
  cases s.act.id? p with
  | none => simp
  | some id => simp

/-- After an act the number of an item is none, if the act added it, and else the one that came
with the act, or the one before. -/
theorem Does.specialId {act : Act} (h : Does m act m') (hi : m'.items.find? p = some i) :
    (Stage.Adds p ⟨m, act, m'⟩ ∧ i.specialId = none) ∨
      ∃ j, m.items.find? p = some j ∧ i.specialId = (act.id? p).or j.specialId := by
  cases h with
  | look looks =>
      rcases looks.meets_or_lacks p with ⟨f, digest, hmeets⟩ | hlacks
      · obtain rfl : (outcome digest (m.items.find? p) f).1 = i :=
          Option.some.inj (hmeets.after.symm.trans hi)
        have hid := specialId_outcome digest (m.items.find? p) f
        cases hknown : m.items.find? p with
        | none =>
            rw [hknown] at hid
            refine Or.inl ⟨?_, hid⟩
            constructor
            · exact ⟨_, _, _, rfl⟩
            · exact hknown
            · rw [hi]
              rfl
        | some j =>
            rw [hknown] at hid
            exact Or.inr ⟨j, rfl, hid⟩
      · obtain ⟨-, hknown⟩ := hlacks.known hi
        exact Or.inr ⟨i, hknown, rfl⟩
  | @settle q success id now =>
      rw [find?_finalize] at hi
      obtain ⟨j, hknown, rfl⟩ := Option.map_eq_some_iff.1 hi
      refine Or.inr ⟨j, hknown, ?_⟩
      rw [Act.id?, Path.same_comm q p]
      split
      · rfl
      · rfl
  | save run =>
      have hitems := items_of_run_saveStatus run
      rw [hitems] at hi
      exact Or.inr ⟨i, hi, rfl⟩

/-- From no items on, the number of an item is the last one that came with a result since a look
added it, or none. -/
theorem Course.specialId {stages : List Stage} (h : Course m stages m') (hm : m.items = [])
    (hi : m'.items.find? p = some i) :
    ∃ front s back, stages = front ++ s :: back ∧ s.Adds p ∧ (∀ x ∈ back, ¬x.Adds p) ∧
      i.specialId = lastId p back := by
  induction h generalizing i with
  | start =>
      rw [hm] at hi
      exact nomatch hi
  | @go stages m₁ m' act course does ih =>
      by_cases hadds : Stage.Adds p ⟨m₁, act, m'⟩
      · have hid : i.specialId = none := by
          rcases does.specialId hi with ⟨-, hid⟩ | ⟨j, hknown, -⟩
          · exact hid
          · exact nomatch hknown.symm.trans hadds.fresh
        exact ⟨stages, ⟨m₁, act, m'⟩, [], rfl, hadds, List.forall_mem_nil _, hid⟩
      · rcases does.specialId hi with ⟨hadded, -⟩ | ⟨j, hknown, hid⟩
        · exact absurd hadded hadds
        · obtain ⟨front, s, back, rfl, hs, hback, hlast⟩ := ih hknown
          refine ⟨front, s, back ++ [⟨m₁, act, m'⟩], ?_, hs, ?_, ?_⟩
          · rw [List.append_assoc, List.cons_append]
          · intro x hx
            rcases List.mem_append.1 hx with hx | hx
            · exact hback x hx
            · rw [List.mem_singleton.1 hx]
              exact hadds
          · rw [hid, hlast, lastId_append]

/-- A look leaves the files that the snapshot shows, with their times and sizes and with the
numbers that they had, and what it could not read; and from no items on, the number of an item is
the last one that came with a result since a look added it.  The times of a snapshot have the width
that an item has for them (`Snapshot.fits`), so that none of them is wrapped. -/
theorem follows_snapshot :
    (∀ (m : Monitor) (S : Snapshot), m.items.IsRow →
      (∃ t ready m', m.Looks S t ready m') ∧
        ∀ t ready m', m.Looks S t ready m' → m.Leaves S m') ∧
    ∀ (m m' : Monitor) (stages : List Stage), m.items = [] → m.Course stages m' →
      ∀ p i, m'.items.find? p = some i →
        ∃ front s back, stages = front ++ s :: back ∧ s.Adds p ∧ (∀ x ∈ back, ¬x.Adds p) ∧
          i.specialId = lastId p back := by
  constructor
  · intro m S hm
    constructor
    · exact exists_looks m S
    · intro t ready m' hlooks
      exact hlooks.leaves hm
  · intro m m' stages hm hcourse p i hi
    exact hcourse.specialId hm hi

/-! ### A sample -/

end Monitor

/-- A snapshot with one file in one directory. -/
def Snapshot.sample : Snapshot where
  names cs := if cs = [.name "in"] then .ok ["a"] else .error .notFound
  breaksOff _ := false
  metadata cs := if cs = [.name "in", .name "a"] then .ok ⟨.file, 3, 1⟩ else .error .notFound
  content _ := .ok "abc".toUTF8
  isName := by
    intro cs ns h n hn
    split at h
    · cases h
      obtain rfl := List.mem_singleton.1 hn
      decide
    · exact nomatch h
  fits := by
    intro cs info h
    split at h
    · cases h
      decide
    · exact nomatch h

namespace Monitor

/-- A monitor of the directory. -/
def sample : Monitor where
  name := "outbox"
  directories := [⟨"in"⟩]
  statusFile := ⟨"status"⟩
  filter := none
  minimalSize := 0
  recursive := false
  counters := { today := default }

theorem tracks_sample : sample.Tracks Snapshot.sample ⟨"in/a"⟩ ⟨.file, 3, 1⟩ := by
  have hfound : Snapshot.sample.metadata (Path.mk "in/a").components = .ok ⟨.file, 3, 1⟩ := by
    rfl
  constructor
  · have hlist : Snapshot.sample.list ⟨"in"⟩ = .ok ["a"] := by rfl
    have hinside : Snapshot.sample.Inside ⟨"in"⟩ ⟨"in/a"⟩ :=
      ⟨["a"], hlist, "a", List.mem_singleton_self "a", by decide⟩
    have hfile : Snapshot.sample.HasFile false ⟨"in"⟩ ⟨"in/a"⟩ :=
      ⟨⟨"in"⟩, .here _, hinside, ⟨.file, 3, 1⟩, hfound, rfl⟩
    exact ⟨⟨"in"⟩, List.mem_singleton_self _, ⟨"in/a"⟩, hfile, Path.same_refl _⟩
  · exact hfound
  · exact Nat.zero_le 3
  · intro filter hfilter
    exact nomatch hfilter

/-- A look finds the file, and its item has the number of its last transfer. -/
theorem follows_snapshot_sample : ∃ t ready m' i,
    sample.Looks Snapshot.sample t ready m' ∧
      (m'.finalize ⟨"in/a"⟩ true (some 7) default).items.find? ⟨"in/a"⟩ = some i ∧
      i.lastModified = 1 ∧ i.size = 3 ∧ i.specialId = some 7 := by
  obtain ⟨hlook, hids⟩ := follows_snapshot
  obtain ⟨⟨t, ready, m', hlooks⟩, hleaves⟩ := hlook sample Snapshot.sample Items.isRow_nil
  obtain ⟨j, hj, hmodified, hsize, -⟩ := (hleaves t ready m' hlooks).tracked _ _ tracks_sample
  have hfind : (m'.finalize ⟨"in/a"⟩ true (some 7) default).items.find? ⟨"in/a"⟩ =
      some (settled j true (some 7) default) := by
    rw [find?_finalize, hj, Path.same_refl]
    rfl
  have hcourse := (Course.start.go (.look hlooks)).go
    (@Does.settle m' ⟨"in/a"⟩ true (some 7) default)
  obtain ⟨front, s, back, hstages, hadds, -, hid⟩ := hids _ _ _ rfl hcourse _ _ hfind
  refine ⟨t, ready, m', _, hlooks, hfind, hmodified, hsize, ?_⟩
  cases front with
  | nil =>
      obtain ⟨-, rfl⟩ := List.cons_eq_cons.1 hstages
      exact hid
  | cons x front =>
      obtain ⟨-, hrest⟩ := List.cons_eq_cons.1 hstages
      cases front with
      | nil =>
          obtain ⟨rfl, -⟩ := List.cons_eq_cons.1 hrest
          obtain ⟨S, t', ready', hlooked⟩ := hadds.looked
          exact nomatch hlooked
      | cons y front => simp at hrest

end Monitor

end Courier
