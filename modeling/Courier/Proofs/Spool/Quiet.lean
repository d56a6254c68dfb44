import Courier.Proofs.Spool.Course
import Mathlib.Tactic.Choose

/-!
# Quiet directories

While nothing changes in the directories, every look brings each file one step nearer to being
ready, wherever it was when this began: a file that is new, or has another time or size than it had,
is noted by the first look, its digest by the second one, and the third one returns it.  After that
nothing is left to do.

Main definitions:

- `Monitor.looksLeft` is how many looks it takes until a file is returned.
- `Monitor.Repeats` are looks at one snapshot, without end.
- `Monitor.Detects` says what such looks return.

Main statements:

- Each look leaves one look less (`Repeats.looksLeft_eq`), so looks at one snapshot detect all of
  its files and then come to rest (`Monitor.detects_quiet`).
-/

namespace Courier

open Program

namespace Monitor

/-! ## How far a file is from being ready -/

/-- How many looks it takes until a file with some digest is returned; none, if it was used. -/
def looksLeft (hash : String) (known : Option Item) (f : Survey.Found) : Nat :=
  match known with
  | none => 3
  | some i =>
      if isSteady i f then
        if i.used then 0
        else if i.hash = some hash then 1
        else 2
      else 3

theorem looksLeft_le (hash : String) (known : Option Item) (f : Survey.Found) :
    looksLeft hash known f ≤ 3 := by
  unfold looksLeft
  split
  · omega
  · split_ifs <;> omega

variable {hash : String} {known : Option Item} {f : Survey.Found} {digest : Option String}

/-- No look is left when a file was used with its time and size. -/
theorem looksLeft_eq_zero_iff :
    looksLeft hash known f = 0 ↔ ∃ i, known = some i ∧ isSteady i f = true ∧ i.used = true := by
  unfold looksLeft
  split
  · simp
  · next i =>
      simp only [Option.some.injEq, exists_eq_left']
      split_ifs <;> simp_all

/-- A look at a file leaves one look less, and returns the file when it was the last one. -/
theorem looksLeft_outcome
    (hdigest : ∀ i, known = some i → isSteady i f = true → i.used = false → digest = some hash) :
    looksLeft hash (some (outcome digest known f).1) f = looksLeft hash known f - 1 ∧
      ((outcome digest known f).2 = true ↔ looksLeft hash known f = 1) ∧
      (looksLeft hash known f = 0 → some (outcome digest known f).1 = known) := by
  cases known with
  | none => simp [outcome, looksLeft, isSteady]
  | some i =>
      cases hsteady : isSteady i f with
      | false =>
          have hchanged : outcome digest (some i) f = (changed i f, false) := by
            simp [outcome, hsteady]
          have hsteady' : isSteady (changed i f) f = true := by simp [isSteady, changed]
          have hfresh : (changed i f).used = false ∧ (changed i f).hash = none := ⟨rfl, rfl⟩
          rw [hchanged]
          simp [looksLeft, hsteady, hsteady', hfresh]
      | true =>
          cases hused : i.used with
          | true =>
              rw [outcome_of_used digest hsteady hused]
              simp [looksLeft, hsteady, hused]
          | false =>
              rw [hdigest i rfl hsteady hused, outcome_of_unused hash hsteady hused]
              have hsteady' := hsteady
              simp only [isSteady] at hsteady'
              by_cases hheld : i.hash = some hash
              · simp [looksLeft, isSteady, hsteady', hused, hheld]
              · simp [looksLeft, isSteady, hsteady', hused, hheld]

variable {m m' : Monitor} {S : Snapshot} {s : Survey} {t : Trace} {ready : List Item} {p : Path}

/-- A look that meets a file leaves one look less, and returns the file when it was the last one. -/
theorem Meets.looksLeft (h : m.Meets S t ready m' p f digest)
    (hhash : S.hash f.path = some hash) :
    looksLeft hash (m'.items.find? p) f = looksLeft hash (m.items.find? p) f - 1 ∧
      ((∃ i ∈ ready, i.path.same p = true) ↔ looksLeft hash (m.items.find? p) f = 1) ∧
      (looksLeft hash (m.items.find? p) f = 0 → m'.items.find? p = m.items.find? p) := by
  have hdigest : ∀ i, m.items.find? p = some i → isSteady i f = true → i.used = false →
      digest = some hash := by
    intro i hi hsteady hunused
    rw [h.digest_of_known hi, hsteady, hunused]
    exact hhash
  obtain ⟨hleft, hready, hrest⟩ := looksLeft_outcome hdigest
  rw [← h.after] at hleft hrest
  refine ⟨hleft, ?_, hrest⟩
  rw [← hready]
  constructor
  · rintro ⟨i, hi, hsame⟩
    rw [(h.ready_iff hsame).1 hi]
  · intro hreturned
    have hpath : (outcome digest (m.items.find? p) f).1.path.same p = true := by
      rw [← Items.find?_congr m.items h.path]
      exact Path.same_trans (path_outcome digest fun _ => Items.path_of_find?) h.path
    exact ⟨_, (h.ready_iff hpath).2 (Prod.ext rfl hreturned), hpath⟩

/-! ## Looks at one snapshot -/

/-- Looks at one snapshot, one after the other, without end. -/
def Repeats (S : Snapshot) (m : Nat → Monitor) (t : Nat → Trace) (ready : Nat → List Item) :
    Prop :=
  ∀ k, (m k).Looks S (t k) (ready k) (m (k + 1))

/-- A snapshot can be looked at again and again. -/
theorem exists_repeats (m : Monitor) (S : Snapshot) :
    ∃ ms t ready, ms 0 = m ∧ Repeats S ms t ready := by
  choose t ready next hlooks using fun m => exists_looks m S
  let ms : Nat → Monitor := Nat.rec m fun _ m => next m
  refine ⟨ms, fun k => t (ms k), fun k => ready (ms k), rfl, ?_⟩
  intro k
  exact hlooks (ms k)

/-- What a look takes in is up to the directories, the size and the filter only. -/
theorem surveys_frame {items : Items} {dirty : Bool} :
    Surveys { m with items := items, dirty := dirty } S s ↔ m.Surveys S s :=
  Iff.rfl

section Repeats

variable {ms : Nat → Monitor} {t : Nat → Trace} {ready : Nat → List Item}

theorem Repeats.frame (h : Repeats S ms t ready) (k : Nat) :
    ms k = { ms 0 with items := (ms k).items, dirty := (ms k).dirty } := by
  induction k with
  | zero => rfl
  | succ k ih =>
      have hstep := (h k).frame
      rw [ih] at hstep
      exact hstep

theorem Repeats.isRow (h : Repeats S ms t ready) (hrow : (ms 0).items.IsRow) (k : Nat) :
    (ms k).items.IsRow := by
  induction k with
  | zero => exact hrow
  | succ k ih => exact (h k).isRow ih

/-- All looks take in the same. -/
theorem Repeats.takes (h : Repeats S ms t ready) (hs : (ms 0).Surveys S s) (k : Nat) :
    ∃ digest, (ms k).Takes S (t k) s digest ∧
      (ms k).absorb s digest = (ready k, ms (k + 1)) := by
  obtain ⟨s', digest, htakes, habsorb⟩ := (h k).takes
  have hs' : (ms 0).Surveys S s' := by
    have hsurveys := htakes.surveys
    rw [h.frame k] at hsurveys
    exact surveys_frame.1 hsurveys
  obtain rfl : s = s' := hs.unique hs'
  exact ⟨digest, htakes, habsorb⟩

/-- All looks meet a file that is taken in. -/
theorem Repeats.meets (h : Repeats S ms t ready) (hs : (ms 0).Surveys S s) (hf : f ∈ s.files)
    (hsame : f.path.same p = true) (k : Nat) :
    ∃ digest, (ms k).Meets S (t k) (ready k) (ms (k + 1)) p f digest := by
  obtain ⟨digest, htakes, habsorb⟩ := h.takes hs k
  exact ⟨digest f.path, htakes.meets habsorb hf hsame⟩

theorem Repeats.lacks (h : Repeats S ms t ready) (hs : (ms 0).Surveys S s)
    (hhas : s.has p = false) (k : Nat) :
    (ms k).Lacks S (t k) (ready k) (ms (k + 1)) p := by
  obtain ⟨digest, htakes, habsorb⟩ := h.takes hs k
  exact htakes.lacks habsorb hhas

/-- After some looks there are as many looks less left. -/
theorem Repeats.looksLeft_eq (h : Repeats S ms t ready) (hs : (ms 0).Surveys S s)
    (hf : f ∈ s.files) (hsame : f.path.same p = true) (hhash : S.hash f.path = some hash)
    (k : Nat) :
    looksLeft hash ((ms k).items.find? p) f = looksLeft hash ((ms 0).items.find? p) f - k := by
  induction k with
  | zero => rfl
  | succ k ih =>
      obtain ⟨digest, hmeets⟩ := h.meets hs hf hsame k
      rw [(hmeets.looksLeft hhash).1, ih]
      omega

/-- A file is returned by the last of the looks that it takes. -/
theorem Repeats.returned_iff (h : Repeats S ms t ready) (hs : (ms 0).Surveys S s)
    (hf : f ∈ s.files) (hsame : f.path.same p = true) (hhash : S.hash f.path = some hash)
    (k : Nat) :
    (∃ i ∈ ready k, i.path.same p = true) ↔
      looksLeft hash ((ms 0).items.find? p) f = k + 1 := by
  obtain ⟨digest, hmeets⟩ := h.meets hs hf hsame k
  rw [(hmeets.looksLeft hhash).2.1, h.looksLeft_eq hs hf hsame hhash k]
  omega

end Repeats

/-! ## Detection -/

/-- Whether the content of every file that a monitor cares for can be read. -/
def Readable (m : Monitor) (S : Snapshot) : Prop :=
  ∀ d ∈ m.directories, ∀ p info, S.HasFile m.recursive d p → m.Tracks S p info →
    ∃ content, S.content p = .ok content

/-- The content of a file that is taken in can be read. -/
theorem Readable.exists_hash (h : m.Readable S) (hs : m.Surveys S s) (hf : f ∈ s.files) :
    ∃ hash, S.hash f.path = some hash := by
  obtain ⟨d, hd, hfile⟩ := hs.shown hf
  obtain ⟨info, htracks, -, -⟩ := hs.tracks hf
  obtain ⟨content, hcontent⟩ := h d hd f.path info hfile htracks
  rw [Snapshot.hash, hcontent]
  exact ⟨_, rfl⟩

/-- Whether a file is known as used with the time and size that it has. -/
def Spent (m : Monitor) (p : Path) (info : Metadata) : Prop :=
  ∃ i, m.items.find? p = some i ∧ i.used = true ∧ i.lastModified = max 0 info.modified ∧
    i.size = info.size

/-- What looks at one snapshot return, from a monitor on. -/
structure Detects (m : Monitor) (S : Snapshot) (ms : Nat → Monitor) (ready : Nat → List Item) :
    Prop where
  /-- A file that was not used as it is now is returned by one of the first three looks, and by no
  other look. -/
  once : ∀ p info, m.Tracks S p info → ¬m.Spent p info →
    ∃ k < 3, ∀ k', (∃ i ∈ ready k', i.path.same p = true) ↔ k' = k
  /-- A file that was used as it is now is never returned. -/
  never : ∀ p info, m.Tracks S p info → m.Spent p info →
    ∀ k, ∀ i ∈ ready k, i.path.same p = false
  /-- What is returned are files of the snapshot, each once in a look, with their times and
  sizes. -/
  sound : ∀ k, Items.IsRow (ready k) ∧ ∀ i ∈ ready k, ∃ info, m.Tracks S i.path info ∧
    i.lastModified = max 0 info.modified ∧ i.size = info.size
  /-- From the fourth look on nothing is returned, and nothing changes. -/
  still : ∀ k, 3 ≤ k → ready k = [] ∧ (ms (k + 1)).items = (ms k).items

/-- A file that is met was spent when no look is left. -/
theorem spent_iff {info : Metadata} (hs : m.Surveys S s) (hf : f ∈ s.files)
    (hsame : f.path.same p = true) (htracks : m.Tracks S p info) :
    m.Spent p info ↔ looksLeft hash (m.items.find? p) f = 0 := by
  obtain ⟨info', htracks', hmodified, hsize⟩ := hs.tracks hf
  obtain rfl : info = info' := htracks.unique (htracks'.congr hsame)
  rw [looksLeft_eq_zero_iff, Spent]
  apply exists_congr
  intro i
  rw [isSteady_iff, hmodified, hsize]
  exact and_congr_right fun _ => and_comm

section Detection

variable {ms : Nat → Monitor} {t : Nat → Trace} {ready : Nat → List Item}

/-- A file that the monitor cares for is taken in. -/
theorem Surveys.exists_file {info : Metadata} (hs : m.Surveys S s) (h : m.Tracks S p info) :
    ∃ f ∈ s.files, f.path.same p = true :=
  Survey.has_iff.1 (hs.has_iff.2 ⟨info, h⟩)

/-- A file that was not used as it is now is returned by one of the first three looks, and by no
other look. -/
theorem Repeats.once {info : Metadata} (h : Repeats S ms t ready) (hs : (ms 0).Surveys S s)
    (hread : (ms 0).Readable S) (htracks : (ms 0).Tracks S p info)
    (hspent : ¬(ms 0).Spent p info) :
    ∃ k < 3, ∀ k', (∃ i ∈ ready k', i.path.same p = true) ↔ k' = k := by
  obtain ⟨f, hf, hsame⟩ := hs.exists_file htracks
  obtain ⟨hash, hhash⟩ := hread.exists_hash hs hf
  have hle := looksLeft_le hash ((ms 0).items.find? p) f
  have hpos : looksLeft hash ((ms 0).items.find? p) f ≠ 0 := by
    intro hzero
    exact hspent ((spent_iff hs hf hsame htracks).2 hzero)
  refine ⟨looksLeft hash ((ms 0).items.find? p) f - 1, by omega, ?_⟩
  intro k'
  rw [h.returned_iff hs hf hsame hhash k']
  omega

/-- A file that was used as it is now is never returned. -/
theorem Repeats.never {info : Metadata} (h : Repeats S ms t ready) (hs : (ms 0).Surveys S s)
    (hread : (ms 0).Readable S) (htracks : (ms 0).Tracks S p info) (hspent : (ms 0).Spent p info)
    (k : Nat) : ∀ i ∈ ready k, i.path.same p = false := by
  obtain ⟨f, hf, hsame⟩ := hs.exists_file htracks
  obtain ⟨hash, hhash⟩ := hread.exists_hash hs hf
  have hzero : looksLeft hash ((ms 0).items.find? p) f = 0 :=
    (spent_iff hs hf hsame htracks).1 hspent
  intro i hi
  rw [Bool.eq_false_iff]
  intro hpath
  have hreturned := (h.returned_iff hs hf hsame hhash k).1 ⟨i, hi, hpath⟩
  omega

/-- What is returned is a file of the snapshot, with its time and size. -/
theorem Repeats.sound (h : Repeats S ms t ready) (hs : (ms 0).Surveys S s) (k : Nat) {i : Item}
    (hi : i ∈ ready k) : ∃ info, (ms 0).Tracks S i.path info ∧
      i.lastModified = max 0 info.modified ∧ i.size = info.size := by
  have hself := Path.same_refl i.path
  cases hhas : s.has i.path with
  | true =>
      obtain ⟨f, hf, hsame⟩ := Survey.has_iff.1 hhas
      obtain ⟨digest, hmeets⟩ := h.meets hs hf hsame k
      obtain ⟨info, htracks, hmodified, hsize⟩ := hs.tracks hf
      obtain ⟨hmodified', hsize'⟩ := version_outcome digest ((ms k).items.find? i.path) f
      rw [(hmeets.ready_iff hself).1 hi] at hmodified' hsize'
      exact ⟨info, htracks.congr hsame, hmodified'.trans hmodified, hsize'.trans hsize⟩
  | false => exact absurd hself (Bool.eq_false_iff.1 ((h.lacks hs hhas k).unready i hi))

/-- From the fourth look on nothing is returned, and nothing changes. -/
theorem Repeats.still (h : Repeats S ms t ready) (hs : (ms 0).Surveys S s)
    (hrow : (ms 0).items.IsRow) (hread : (ms 0).Readable S) {k : Nat} (hk : 3 ≤ k) :
    ready k = [] ∧ (ms (k + 1)).items = (ms k).items := by
  constructor
  · apply List.eq_nil_iff_forall_not_mem.2
    intro i hi
    cases hhas : s.has i.path with
    | true =>
        obtain ⟨f, hf, hsame⟩ := Survey.has_iff.1 hhas
        obtain ⟨hash, hhash⟩ := hread.exists_hash hs hf
        have hreturned := (h.returned_iff hs hf hsame hhash k).1 ⟨i, hi, Path.same_refl i.path⟩
        have hle := looksLeft_le hash ((ms 0).items.find? i.path) f
        omega
    | false =>
        have hother := (h.lacks hs hhas k).unready i hi
        rw [Path.same_refl] at hother
        exact nomatch hother
  · apply Items.eq_of_find?_eq (h.isRow hrow (k + 1)) (h.isRow hrow k)
    intro p
    cases hhas : s.has p with
    | true =>
        obtain ⟨f, hf, hsame⟩ := Survey.has_iff.1 hhas
        obtain ⟨hash, hhash⟩ := hread.exists_hash hs hf
        obtain ⟨digest, hmeets⟩ := h.meets hs hf hsame k
        have hle := looksLeft_le hash ((ms 0).items.find? p) f
        apply (hmeets.looksLeft hhash).2.2
        rw [h.looksLeft_eq hs hf hsame hhash k]
        omega
    | false =>
        obtain ⟨j, rfl⟩ : ∃ j, k = j + 1 := ⟨k - 1, by omega⟩
        -- what is not found was dropped by the look before, unless it may have been missed
        have hbefore := h.lacks hs hhas j
        have hafter := h.lacks hs hhas (j + 1)
        have hmisses : (ms (j + 1)).Misses S p ↔ (ms j).Misses S p := by
          rw [(h j).frame]
          exact Iff.rfl
        by_cases hmiss : (ms j).Misses S p
        · exact hafter.kept (hmisses.2 hmiss)
        · rw [hbefore.gone hmiss, hafter.gone fun hm => hmiss (hmisses.1 hm)]

/-- Looks at a snapshot whose files can be read detect each of them in time, and come to rest. -/
theorem detects_quiet (m : Monitor) (S : Snapshot) (hrow : m.items.IsRow) (hread : m.Readable S) :
    (∃ ms t ready, ms 0 = m ∧ Repeats S ms t ready) ∧
      ∀ ms t ready, ms 0 = m → Repeats S ms t ready → m.Detects S ms ready := by
  constructor
  · exact exists_repeats m S
  · rintro ms t ready rfl h
    obtain ⟨s, digest, htakes, -⟩ := (h 0).takes
    have hs := htakes.surveys
    constructor
    · intro p info htracks hspent
      exact h.once hs hread htracks hspent
    · intro p info htracks hspent k
      exact h.never hs hread htracks hspent k
    · intro k
      constructor
      · exact (h k).isRow_ready
      · intro i hi
        exact h.sound hs k hi
    · intro k hk
      exact h.still hs hrow hread hk

end Detection

/-- The file of the sample is returned by one of the first three looks, and never again. -/
theorem detects_quiet_sample : ∃ ms t ready,
    Repeats Snapshot.sample ms t ready ∧ ms 0 = sample ∧
      (∃ k < 3, ∀ k', (∃ i ∈ ready k', i.path.same ⟨"in/a"⟩ = true) ↔ k' = k) ∧
      ∀ k, 3 ≤ k → ready k = [] ∧ (ms (k + 1)).items = (ms k).items := by
  have hread : sample.Readable Snapshot.sample := fun _ _ _ _ _ _ => ⟨_, rfl⟩
  obtain ⟨⟨ms, t, ready, hfirst, hrepeats⟩, hdetects⟩ :=
    detects_quiet sample Snapshot.sample Items.isRow_nil hread
  have hall := hdetects ms t ready hfirst hrepeats
  have hspent : ¬sample.Spent ⟨"in/a"⟩ ⟨.file, 3, 1⟩ := by
    rintro ⟨i, hi, -⟩
    exact nomatch hi
  exact ⟨ms, t, ready, hrepeats, hfirst, hall.once _ _ tracks_sample hspent, hall.still⟩

end Monitor

end Courier
