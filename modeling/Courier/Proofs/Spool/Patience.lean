import Courier.Proofs.Spool.Quiet

/-!
# Patience

A file becomes ready only after it was waited for.  Some look saw it with its time and size, and
from then on no look showed that it changed or is gone; and two looks took its digest, with none
between them that took another one.

Main definitions:

- `Stage.Shows`, `Stage.Alters` and `Stage.Hashes` say what a look showed of a file.
- `Grounded` says what was seen in a course of the version and the digest that an item has.
- `Waited` says how long an item was waited for that becomes ready.

Main statements:

- Every item of a monitor is grounded in what was seen (`Course.grounded`), so a file is waited for
  until it becomes ready (`Monitor.never_premature`).
-/

namespace Courier

open Program

namespace Monitor

/-! ## What a look showed -/

/-- Whether a look showed a file with a time and a size. -/
def Stage.Shows (p : Path) (modified : Int) (size : Nat) (s : Stage) : Prop :=
  ∃ S t ready info, s.act = .looked S t ready ∧ s.before.Tracks S p info ∧
    modified = max 0 info.modified ∧ size = info.size

/-- Whether a look showed a file with another time or size, or showed that it is gone. -/
def Stage.Alters (p : Path) (modified : Int) (size : Nat) (s : Stage) : Prop :=
  ∃ S t ready, s.act = .looked S t ready ∧
    ((∃ info, s.before.Tracks S p info ∧ ¬(modified = max 0 info.modified ∧ size = info.size)) ∨
      ((∀ info, ¬s.before.Tracks S p info) ∧ ¬s.before.Misses S p))

/-- Whether a look took the digest of a file. -/
def Stage.Hashes (p : Path) (hash : String) (s : Stage) : Prop :=
  ∃ S t ready, s.act = .looked S t ready ∧ ∃ q, q.same p = true ∧ (q, hash) ∈ t.hashes

variable {m m₁ m' : Monitor} {S : Snapshot} {t : Trace} {ready : List Item} {p : Path} {i : Item}
  {stages : List Stage} {s : Stage} {modified : Int} {size : Nat} {known : Option String}
  {hash : String}

/-- A look that showed a file as it was did not show that it changed or is gone. -/
theorem Stage.Shows.not_alters (h : s.Shows p modified size) : ¬s.Alters p modified size := by
  obtain ⟨S, t, ready, info, hact, htracks, hversion⟩ := h
  rintro ⟨S', t', ready', hact', halters⟩
  obtain ⟨rfl, -, -⟩ := Act.looked.inj (hact.symm.trans hact')
  rcases halters with ⟨info', htracks', hother⟩ | ⟨habsent, -⟩
  · obtain rfl : info = info' := htracks.unique htracks'
    exact hother hversion
  · exact habsent info htracks

/-! ## What an item is grounded in -/

/-- Whether a version of a file was shown in a course, and not altered since, and whether its
digest was taken since then, and no other one after it. -/
def Grounded (stages : List Stage) (p : Path) (modified : Int) (size : Nat)
    (known : Option String) : Prop :=
  ∃ before first rest, stages = before ++ first :: rest ∧ first.Shows p modified size ∧
    (∀ x ∈ first :: rest, ¬x.Alters p modified size) ∧
    ∀ hash, known = some hash → ∃ mid second between, rest = mid ++ second :: between ∧
      second.Hashes p hash ∧ ∀ x ∈ between, ∀ other, ¬x.Hashes p other

/-- A version is grounded in the look that shows it. -/
theorem grounded_of_shows (stages : List Stage) (h : s.Shows p modified size) :
    Grounded (stages ++ [s]) p modified size none := by
  refine ⟨stages, s, [], rfl, h, ?_, ?_⟩
  · intro x hx
    rw [List.mem_singleton.1 hx]
    exact h.not_alters
  · intro hash hknown
    exact nomatch hknown

/-- What is grounded stays so when nothing new is learnt of it, also when the digest is
forgotten. -/
theorem Grounded.keep {known' : Option String} (h : Grounded stages p modified size known)
    (halters : ¬s.Alters p modified size) (hhashes : ∀ hash, ¬s.Hashes p hash)
    (hknown : ∀ hash, known' = some hash → known = some hash) :
    Grounded (stages ++ [s]) p modified size known' := by
  obtain ⟨before, first, rest, rfl, hfirst, hrest, hhash⟩ := h
  refine ⟨before, first, rest ++ [s], ?_, hfirst, ?_, ?_⟩
  · rw [List.append_assoc, List.cons_append]
  · rw [← List.cons_append, List.forall_mem_append]
    exact ⟨hrest, List.forall_mem_singleton.2 halters⟩
  · intro hash hsome
    obtain ⟨mid, second, between, rfl, hsecond, hbetween⟩ := hhash hash (hknown hash hsome)
    refine ⟨mid, second, between ++ [s], ?_, hsecond, ?_⟩
    · rw [List.append_assoc, List.cons_append]
    · rw [List.forall_mem_append]
      exact ⟨hbetween, List.forall_mem_singleton.2 hhashes⟩

/-- A digest is grounded in the look that takes it. -/
theorem Grounded.take (h : Grounded stages p modified size known)
    (halters : ¬s.Alters p modified size) (hhashes : s.Hashes p hash) :
    Grounded (stages ++ [s]) p modified size (some hash) := by
  obtain ⟨before, first, rest, rfl, hfirst, hrest, -⟩ := h
  refine ⟨before, first, rest ++ [s], ?_, hfirst, ?_, ?_⟩
  · rw [List.append_assoc, List.cons_append]
  · rw [← List.cons_append, List.forall_mem_append]
    exact ⟨hrest, List.forall_mem_singleton.2 halters⟩
  · intro hash' hsome
    obtain rfl := Option.some.inj hsome
    exact ⟨rest, s, [], rfl, hhashes, List.forall_mem_nil _⟩

/-! ## Looks -/

/-- A look shows what it meets, and takes a digest of it when there is one. -/
theorem Meets.shows {f : Survey.Found} {digest : Option String}
    (h : m.Meets S t ready m' p f digest) :
    Stage.Shows p f.modified f.size ⟨m, .looked S t ready, m'⟩ ∧
      ∀ hash, Stage.Hashes p hash ⟨m, .looked S t ready, m'⟩ ↔ digest = some hash := by
  constructor
  · obtain ⟨info, htracks, hmodified, hsize⟩ := h.tracks
    exact ⟨S, t, ready, info, rfl, htracks, hmodified, hsize⟩
  · intro hash
    rw [← h.hashed_iff]
    constructor
    · rintro ⟨S', t', ready', hact, hhashed⟩
      obtain ⟨-, rfl, -⟩ := Act.looked.inj hact
      exact hhashed
    · intro hhashed
      exact ⟨S, t, ready, rfl, hhashed⟩

/-- A look at a path that is not met, and may be missed, shows nothing of it. -/
theorem Lacks.shows_nothing (h : m.Lacks S t ready m' p) (hmisses : m.Misses S p) :
    ¬Stage.Alters p modified size ⟨m, .looked S t ready, m'⟩ ∧
      ∀ hash, ¬Stage.Hashes p hash ⟨m, .looked S t ready, m'⟩ := by
  constructor
  · rintro ⟨S', t', ready', hact, halters⟩
    obtain ⟨rfl, -, -⟩ := Act.looked.inj hact
    rcases halters with ⟨info, htracks, -⟩ | ⟨-, hnone⟩
    · exact h.absent info htracks
    · exact hnone hmisses
  · rintro hash ⟨S', t', ready', hact, q, hq, hmem⟩
    obtain ⟨-, rfl, -⟩ := Act.looked.inj hact
    rw [h.unhashed q hash hmem] at hq
    exact nomatch hq

/-- The digest of an item that a look leaves is none, or the one that it had when no digest was
taken, or the one that was taken. -/
theorem Meets.hash_cases {f : Survey.Found} {digest : Option String}
    (h : m.Meets S t ready m' p f digest) :
    (outcome digest (m.items.find? p) f).1.hash = none ∨
      ∃ j, m.items.find? p = some j ∧ isSteady j f = true ∧
        (digest = none ∧ (outcome digest (m.items.find? p) f).1.hash = j.hash ∨
          ∃ hash, digest = some hash ∧
            (outcome digest (m.items.find? p) f).1.hash = some hash) := by
  cases hknown : m.items.find? p with
  | none => exact Or.inl rfl
  | some j =>
      cases hsteady : isSteady j f with
      | false =>
          left
          simp [outcome, hsteady, changed]
      | true =>
          refine Or.inr ⟨j, rfl, hsteady, ?_⟩
          cases hused : j.used with
          | true =>
              have hnone : digest = none := by
                rw [h.digest_of_known hknown]
                simp [hused]
              rw [outcome_of_used digest hsteady hused]
              exact Or.inl ⟨hnone, rfl⟩
          | false =>
              cases digest with
              | none =>
                  left
                  simp [outcome, hsteady, hused]
              | some hash =>
                  rw [outcome_of_unused hash hsteady hused]
                  refine Or.inr ⟨hash, rfl, ?_⟩
                  split
                  · next hheld => exact hheld
                  · rfl

/-! ## Courses -/

/-- Whether all items of a monitor are grounded in what was seen. -/
def IsGrounded (stages : List Stage) (m : Monitor) : Prop :=
  ∀ p i, m.items.find? p = some i → Grounded stages p i.lastModified i.size i.hash

/-- A look leaves items that are grounded in it and in what was seen before. -/
theorem Looks.grounded (h : m.Looks S t ready m') (hm : IsGrounded stages m) :
    IsGrounded (stages ++ [⟨m, .looked S t ready, m'⟩]) m' := by
  intro p i hi
  rcases h.meets_or_lacks p with ⟨f, digest, hmeets⟩ | hlacks
  · obtain ⟨hshows, hhashes⟩ := hmeets.shows
    obtain rfl : (outcome digest (m.items.find? p) f).1 = i :=
      Option.some.inj (hmeets.after.symm.trans hi)
    obtain ⟨hmodified, hsize⟩ := version_outcome digest (m.items.find? p) f
    rw [hmodified, hsize]
    rcases hmeets.hash_cases with hnone | ⟨j, hj, hsteady, hhash⟩
    · rw [hnone]
      exact grounded_of_shows stages hshows
    · obtain ⟨hmodified', hsize'⟩ := isSteady_iff.1 hsteady
      have hgrounded := hm p j hj
      rw [hmodified', hsize'] at hgrounded
      rcases hhash with ⟨hnone, hkept⟩ | ⟨hash, hsome, htaken⟩
      · rw [hkept]
        apply hgrounded.keep hshows.not_alters
        · intro hash hhash
          exact nomatch hnone.symm.trans ((hhashes hash).1 hhash)
        · exact fun _ => id
      · rw [htaken]
        exact hgrounded.take hshows.not_alters ((hhashes hash).2 hsome)
  · obtain ⟨hmisses, hknown⟩ := hlacks.known hi
    obtain ⟨halters, hhashes⟩ := hlacks.shows_nothing hmisses
    exact (hm p i hknown).keep halters hhashes fun _ => id

theorem Does.grounded {act : Act} (h : Does m act m') (hm : IsGrounded stages m) :
    IsGrounded (stages ++ [⟨m, act, m'⟩]) m' := by
  have hkeep : (∀ S t ready, act ≠ .looked S t ready) → ∀ {p : Path} {i j : Item},
      m.items.find? p = some j → i.lastModified = j.lastModified → i.size = j.size →
      (∀ hash, i.hash = some hash → j.hash = some hash) →
      Grounded (stages ++ [⟨m, act, m'⟩]) p i.lastModified i.size i.hash := by
    intro hact p i j hj hmodified hsize hhash
    rw [hmodified, hsize]
    apply (hm p j hj).keep
    · rintro ⟨S, t, ready, hlooked, -⟩
      exact hact S t ready hlooked
    · rintro hash ⟨S, t, ready, hlooked, -⟩
      exact hact S t ready hlooked
    · exact hhash
  cases h with
  | look looks => exact looks.grounded hm
  | @settle q success id now =>
      intro p i hi
      rw [find?_finalize] at hi
      obtain ⟨j, hj, rfl⟩ := Option.map_eq_some_iff.1 hi
      apply hkeep (fun _ _ _ => nofun) hj
      · split <;> rfl
      · split <;> rfl
      · intro hash hhash
        cases success with
        | true =>
            split at hhash
            · exact hhash
            · exact hhash
        | false =>
            split at hhash
            · exact nomatch hhash
            · exact hhash
  | save run =>
      intro p i hi
      rw [items_of_run_saveStatus run] at hi
      exact hkeep (fun _ _ _ => nofun) hi rfl rfl fun _ => id

/-- From no items on, every item is grounded in what was seen. -/
theorem Course.grounded (h : m.Course stages m') (hm : m.items = []) : IsGrounded stages m' := by
  induction h with
  | start =>
      intro p i hi
      rw [hm] at hi
      exact nomatch hi
  | go course does ih => exact does.grounded ih

/-! ## Files that become ready -/

/-- How an item was waited for that a look returns. -/
structure Waited (i : Item) (earlier : List Stage) (look : Stage) (before mid between : List Stage)
    (first second : Stage) (hash : String) : Prop where
  split : earlier = before ++ first :: (mid ++ second :: between)
  /-- A look saw the file with the time and size of the item. -/
  shown : first.Shows i.path i.lastModified i.size
  /-- From then on no look showed that it changed or is gone. -/
  unaltered : ∀ x ∈ first :: (mid ++ second :: between) ++ [look],
    ¬x.Alters i.path i.lastModified i.size
  digest : i.hash = some hash
  /-- A later look took the digest of the item, and so did the one that returns it. -/
  hashed : second.Hashes i.path hash
  hashedAgain : look.Hashes i.path hash
  /-- Between these two no look took a digest of the file. -/
  unhashed : ∀ x ∈ between, ∀ other, ¬x.Hashes i.path other

/-- An item that a look returns is marked as used, and was waited for. -/
theorem Looks.waited (h : m.Looks S t ready m') (hm : IsGrounded stages m) (hi : i ∈ ready) :
    i.used = true ∧ ∃ before mid between first second hash,
      Waited i stages ⟨m, .looked S t ready, m'⟩ before mid between first second hash := by
  have hsame := Path.same_refl i.path
  rcases h.meets_or_lacks i.path with ⟨f, digest, hmeets⟩ | hlacks
  · obtain ⟨hshows, hhashes⟩ := hmeets.shows
    obtain ⟨j, hknown, hsteady, -, hsome, hheld, hij⟩ :=
      outcome_ready_iff.1 ((hmeets.ready_iff hsame).1 hi)
    obtain ⟨hash, rfl⟩ := Option.isSome_iff_exists.1 hsome
    obtain ⟨hmodified, hsize⟩ := isSteady_iff.1 hsteady
    have hversion : i.lastModified = j.lastModified ∧ i.size = j.size ∧ i.hash = j.hash ∧
        i.used = true := by
      rw [hij]
      exact ⟨rfl, rfl, rfl, rfl⟩
    obtain ⟨hmodified', hsize', hhash', hused⟩ := hversion
    rw [← hmodified, ← hsize, ← hmodified', ← hsize'] at hshows
    obtain ⟨before, first, rest, hsplit, hfirst, hrest, hgrounds⟩ := hm i.path j hknown
    rw [← hmodified', ← hsize'] at hfirst hrest
    obtain ⟨mid, second, between, rfl, hsecond, hbetween⟩ := hgrounds hash hheld
    refine ⟨hused, before, mid, between, first, second, hash, ?_⟩
    constructor
    · exact hsplit
    · exact hfirst
    · rw [List.forall_mem_append]
      exact ⟨hrest, List.forall_mem_singleton.2 hshows.not_alters⟩
    · exact hhash'.trans hheld
    · exact hsecond
    · exact (hhashes hash).2 rfl
    · exact hbetween
  · exact absurd hsame (Bool.eq_false_iff.1 (hlacks.unready i hi))

/-- From no items on, a look returns items in the order of their paths, which are marked as used
and were waited for. -/
theorem never_premature {earlier later : List Stage} {look : Stage} (hm : m.items = [])
    (h : m.Course (earlier ++ look :: later) m') (hlook : look.act = .looked S t ready) :
    Items.IsRow ready ∧ ∀ i ∈ ready, i.used = true ∧
      ∃ before mid between first second hash,
        Waited i earlier look before mid between first second hash := by
  obtain ⟨hearlier, hdoes⟩ := h.of_append_cons
  obtain ⟨m₁, act, m₂⟩ := look
  obtain rfl : act = .looked S t ready := hlook
  have hgrounded := hearlier.grounded hm
  cases hdoes with
  | look looks =>
      constructor
      · exact looks.isRow_ready
      · intro i hi
        exact looks.waited hgrounded hi

/-- The file of the sample is returned by the third look, and was waited for. -/
theorem never_premature_sample :
    ∃ (looks : Nat → Stage) (ready : List Item) (i : Item) (before mid between : List Stage)
      (first second : Stage) (hash : String),
      sample.Course [looks 0, looks 1, looks 2] (looks 2).after ∧
        (∃ t, (looks 2).act = .looked Snapshot.sample t ready) ∧ Items.IsRow ready ∧ i ∈ ready ∧
        i.path.same ⟨"in/a"⟩ = true ∧ i.used = true ∧
        Waited i [looks 0, looks 1] (looks 2) before mid between first second hash := by
  obtain ⟨ms, t, ready, hfirst, hrepeats⟩ := exists_repeats sample Snapshot.sample
  let looks : Nat → Stage := fun k => ⟨ms k, .looked Snapshot.sample (t k) (ready k), ms (k + 1)⟩
  have hcourse : sample.Course ([looks 0, looks 1] ++ looks 2 :: []) (ms 3) := by
    rw [← hfirst]
    exact ((Course.start.go (.look (hrepeats 0))).go (.look (hrepeats 1))).go
      (.look (hrepeats 2))
  obtain ⟨s, digest, htakes, -⟩ := (hrepeats 0).takes
  have htracks : (ms 0).Tracks Snapshot.sample ⟨"in/a"⟩ ⟨.file, 3, 1⟩ := by
    rw [hfirst]
    exact tracks_sample
  obtain ⟨f, hf, hsame⟩ := htakes.surveys.exists_file htracks
  obtain ⟨i, hi, hpath⟩ := (hrepeats.returned_iff htakes.surveys hf hsame rfl 2).2 (by
    rw [hfirst]
    rfl)
  obtain ⟨hrow, hall⟩ := never_premature rfl hcourse rfl
  obtain ⟨hused, before, mid, between, first, second, hash, hwaited⟩ := hall i hi
  exact ⟨looks, ready 2, i, before, mid, between, first, second, hash, hcourse, ⟨t 2, rfl⟩, hrow,
    hi, hpath, hused, hwaited⟩

end Monitor

end Courier
