import Courier.Proofs.Spool.Snapshots

/-!
# What a look makes of a snapshot

A look at a snapshot is told path by path.  Under the path of a file that the monitor cares for it
leaves what it makes of this file, with the digest that it took of the content; every other path is
left alone when it may have been missed, and dropped otherwise.

Main definitions:

- `Monitor.Tracks` says that a monitor cares for a file that a snapshot shows, and
  `Monitor.Misses` that a path is at or below one that could not be read.
- `Monitor.Looks` are the looks at a snapshot.
- `Monitor.Meets` and `Monitor.Lacks` say what a look does under a path that it finds, and under
  one that it does not find.

Main statements:

- What a look takes in are just the files that the monitor cares for (`Surveys.has_iff`,
  `Surveys.mayMiss_iff`).
- Under every path a look does one of the two things (`Looks.meets_or_lacks`).
-/

namespace Courier

open Program

/-! ## Digests -/

/-- The digest of the content of a file, if it can be read. -/
def Snapshot.hash (S : Snapshot) (p : Path) : Option String :=
  (S.content p).toOption.map Digest.Sha256.hexDigest

/-- The file that an exchange has read, with the digest of its content. -/
def Exchange.hashed? : Exchange → Option (Path × String)
  | ⟨.files (.read p), .ok content⟩ => some (p, Digest.Sha256.hexDigest content)
  | _ => none

/-- The files whose digests were taken in a trace, each with its digest. -/
def Trace.hashes (t : Trace) : List (Path × String) :=
  t.filterMap Exchange.hashed?

@[simp] theorem Trace.hashes_append (t u : Trace) :
    Trace.hashes (t ++ u) = t.hashes ++ u.hashes :=
  List.filterMap_append

/-- Whether a request does not read a file. -/
def Request.readsNone : Request → Bool
  | .files (.read _) => false
  | _ => true

/-- A program that reads no file takes no digest. -/
theorem Program.Run.hashes_of_asks {α : Type} {p : Program α} {t : Trace} {a : α} (h : Run p t a)
    (hp : p.Asks fun r => r.readsNone = true) : t.hashes = [] := by
  apply List.filterMap_eq_nil_iff.2
  rintro ⟨r, answer⟩ hx
  have hreads := h.request_of_mem hp _ hx
  cases r with
  | files op =>
      cases op with
      | read p => exact nomatch hreads
      | _ => rfl
  | _ => rfl

namespace Monitor

/-- The digests that are taken of files are those of their contents. -/
theorem digestsOf_of_shows {S : Snapshot} {files : List Survey.Found} {t : Trace}
    {digests : List (Path × Option String)} (h : Run (digestsOf files) t digests)
    (ht : S.Shows t) :
    digests = files.map (fun f => (f.path, S.hash f.path)) ∧
      t.hashes = files.filterMap fun f => (S.hash f.path).map fun hash => (f.path, hash) := by
  induction files generalizing t digests with
  | nil =>
      obtain ⟨rfl, rfl⟩ := Run.done_iff.1 h
      exact ⟨rfl, rfl⟩
  | cons f rest ih =>
      obtain ⟨u, digest, v, rfl, hfirst, hothers⟩ := Run.bind_iff.1 h
      obtain ⟨v, others, w, rfl, hrest, hend⟩ := Run.bind_iff.1 hothers
      obtain ⟨rfl, rfl⟩ := Run.done_iff.1 hend
      rw [List.append_nil] at ht ⊢
      obtain ⟨hu, hv⟩ := Snapshot.shows_append.1 ht
      obtain ⟨rfl, hhashes⟩ := ih hrest hv
      obtain ⟨content, w, rfl, hcontent⟩ := Run.ask_iff.1 hfirst
      obtain rfl : content = S.content f.path := (List.forall_mem_cons.1 hu).1
      rw [Trace.hashes_append, hhashes, List.map_cons, List.filterMap_cons]
      cases hread : S.content f.path with
      | error fault =>
          rw [hread] at hcontent
          obtain ⟨rfl, rfl⟩ := Run.done_iff.1 hcontent
          simp [Snapshot.hash, hread, Except.toOption, Trace.hashes, Exchange.hashed?]
      | ok bytes =>
          rw [hread] at hcontent
          obtain ⟨rfl, rfl⟩ := Run.done_iff.1 hcontent
          simp [Snapshot.hash, hread, Except.toOption, Trace.hashes, Exchange.hashed?]

/-- The digest that is looked up for a path is taken when the path is that of a file. -/
theorem lookup_digests {digest : Path → Option String} {files : List Survey.Found} {p : Path} :
    ((files.map fun f => (f.path, digest f.path)).lookup p).join =
      if ∃ f ∈ files, f.path = p then digest p else none := by
  induction files with
  | nil => simp
  | cons f rest ih =>
      rw [List.map_cons, List.lookup_cons]
      by_cases hp : p = f.path
      · subst hp
        simp
      · have hne : (p == f.path) = false := beq_false_of_ne hp
        rw [hne, ih]
        simp [Ne.symm hp]

/-! ## What a monitor cares for -/

/-- Whether a monitor cares for a file that a snapshot shows. -/
structure Tracks (m : Monitor) (S : Snapshot) (p : Path) (info : Metadata) : Prop where
  /-- The file stands in one of the directories, or below it when these are followed. -/
  lies : ∃ d ∈ m.directories, ∃ q, S.HasFile m.recursive d q ∧ q.same p = true
  stands : S.metadata p.components = .ok info
  large : m.minimalSize ≤ info.size
  named : ∀ filter, m.filter = some filter →
    ∃ name, p.fileName? = some name ∧ filter.isMatch name = true

/-- Whether a path is at or below one that a look cannot read. -/
def Misses (m : Monitor) (S : Snapshot) (p : Path) : Prop :=
  ∃ d ∈ m.directories, ∃ q, S.HasFault m.recursive d q ∧ p.startsWith q = true

variable {m m' : Monitor} {S : Snapshot} {s : Survey} {p q : Path} {info info' : Metadata}

theorem fileName?_congr (h : p.same q = true) : p.fileName? = q.fileName? := by
  simp only [Path.fileName?, Path.same_iff.1 h]

theorem Tracks.congr (h : m.Tracks S p info) (hsame : p.same q = true) : m.Tracks S q info where
  lies := by
    obtain ⟨d, hd, r, hfile, hr⟩ := h.lies
    exact ⟨d, hd, r, hfile, Path.same_trans hr hsame⟩
  stands := by
    rw [← Path.same_iff.1 hsame]
    exact h.stands
  large := h.large
  named := by
    rw [← fileName?_congr hsame]
    exact h.named

/-- A file has one time and size. -/
theorem Tracks.unique (h : m.Tracks S p info) (k : m.Tracks S p info') : info = info' :=
  Except.ok.inj (h.stands.symm.trans k.stands)

theorem accepts_iff {f : Survey.Found} :
    m.accepts f = true ↔ m.minimalSize ≤ f.size ∧ ∀ filter, m.filter = some filter →
      ∃ name, f.path.fileName? = some name ∧ filter.isMatch name = true := by
  unfold accepts
  cases m.filter with
  | none => simp
  | some filter =>
      cases f.path.fileName? with
      | none => simp
      | some name => simp

/-! ## What is taken in -/

/-- What a look takes in of a snapshot. -/
def Surveys (m : Monitor) (S : Snapshot) (s : Survey) : Prop :=
  ∃ u found, Run (Survey.addDirectories m.recursive m.directories {}) u found ∧ S.Shows u ∧
    s = m.relevant found

theorem Surveys.isRow (h : m.Surveys S s) : s.IsRow := by
  obtain ⟨u, found, hrun, -, rfl⟩ := h
  exact List.Pairwise.filter _ (Survey.isRow_of_run_addDirectories hrun Survey.isRow_empty)

/-- A snapshot is taken in in one way. -/
theorem Surveys.unique {s' : Survey} (h : m.Surveys S s) (k : m.Surveys S s') : s = s' := by
  obtain ⟨u, found, hrun, hu, rfl⟩ := h
  obtain ⟨v, found', hrun', hv, rfl⟩ := k
  have hasks : Asks (fun r => r.isInspection = true)
      (Survey.addDirectories m.recursive m.directories {}) :=
    Survey.asks_addDirectories (fun _ => rfl) _ _ _
  obtain ⟨-, rfl⟩ := Snapshot.eq_of_run hasks hrun hu hrun' hv
  rfl

/-- A file that is taken in has the path under which it is shown. -/
theorem Surveys.shown (h : m.Surveys S s) {f : Survey.Found} (hf : f ∈ s.files) :
    ∃ d ∈ m.directories, S.HasFile m.recursive d f.path := by
  obtain ⟨u, found, hrun, hu, rfl⟩ := h
  have hgains := Snapshot.gains_of_run_addDirectories hrun hu
  rcases hgains.spelled f (List.mem_filter.1 hf).1 with hfile | ⟨g, hg, -⟩
  · exact hfile
  · exact nomatch hg

/-- A file that is taken in is one that the monitor cares for, with its time and size. -/
theorem Surveys.tracks (h : m.Surveys S s) {f : Survey.Found} (hf : f ∈ s.files) :
    ∃ info, m.Tracks S f.path info ∧ f.modified = max 0 info.modified ∧ f.size = info.size := by
  have hshown := h.shown hf
  obtain ⟨u, found, hrun, hu, rfl⟩ := h
  have hgains := Snapshot.gains_of_run_addDirectories hrun hu
  obtain ⟨hfound, haccepts⟩ := List.mem_filter.1 hf
  obtain ⟨hlarge, hnamed⟩ := accepts_iff.1 haccepts
  obtain ⟨info, hinfo, -, hmodified, hsize⟩ := hgains.tells (Snapshot.tells_empty S) f hfound
  refine ⟨info, ?_, hmodified, hsize⟩
  constructor
  · obtain ⟨d, hd, hfile⟩ := hshown
    exact ⟨d, hd, f.path, hfile, Path.same_refl f.path⟩
  · exact hinfo
  · rw [← hsize]
    exact hlarge
  · exact hnamed

/-- The files that the monitor cares for are taken in, and no others. -/
theorem Surveys.has_iff (h : m.Surveys S s) : s.has p = true ↔ ∃ info, m.Tracks S p info := by
  constructor
  · intro hhas
    obtain ⟨f, hf, hsame⟩ := Survey.has_iff.1 hhas
    obtain ⟨info, htracks, -, -⟩ := h.tracks hf
    exact ⟨info, htracks.congr hsame⟩
  · rintro ⟨info, htracks⟩
    obtain ⟨u, found, hrun, hu, rfl⟩ := h
    have hgains := Snapshot.gains_of_run_addDirectories hrun hu
    have hhas : found.has p = true := by
      obtain ⟨d, hd, q, hfile, hsame⟩ := htracks.lies
      exact (hgains.has p).2 (Or.inr ⟨q, ⟨d, hd, hfile⟩, hsame⟩)
    obtain ⟨f, hf, hsame⟩ := Survey.has_iff.1 hhas
    obtain ⟨info', hinfo', -, -, hsize⟩ := hgains.tells (Snapshot.tells_empty S) f hf
    have haccepts : m.accepts f = true := by
      rw [Path.same_iff.1 hsame, htracks.stands] at hinfo'
      obtain rfl : info = info' := Except.ok.inj hinfo'
      rw [accepts_iff, hsize, fileName?_congr hsame]
      exact ⟨htracks.large, htracks.named⟩
    exact Survey.has_iff.2 ⟨f, List.mem_filter.2 ⟨hf, haccepts⟩, hsame⟩

/-- The paths that may be missed are those at or below one that cannot be read. -/
theorem Surveys.mayMiss_iff (h : m.Surveys S s) : s.mayMiss p = true ↔ m.Misses S p := by
  obtain ⟨u, found, hrun, hu, rfl⟩ := h
  have hgains := Snapshot.gains_of_run_addDirectories hrun hu
  refine (hgains.mayMiss p).trans ?_
  constructor
  · rintro (hmiss | ⟨q, ⟨d, hd, hfault⟩, hq⟩)
    · exact nomatch hmiss
    · exact ⟨d, hd, q, hfault, hq⟩
  · rintro ⟨d, hd, q, hfault, hq⟩
    exact Or.inr ⟨q, ⟨d, hd, hfault⟩, hq⟩

/-! ## Looks at a snapshot -/

/-- The looks at a snapshot: what was asked and answered, what became ready, and the monitor
after it. -/
def Looks (m : Monitor) (S : Snapshot) (t : Trace) (ready : List Item) (m' : Monitor) : Prop :=
  Run m.scan t (ready, m') ∧ S.Shows t

/-- A look at a snapshot ends. -/
theorem exists_looks (m : Monitor) (S : Snapshot) : ∃ t ready m', m.Looks S t ready m' := by
  have hasks : Asks (fun r => r.isInspection = true) m.scan :=
    asks_scan (fun _ => rfl) (fun _ => rfl) m
  obtain ⟨t, ⟨ready, m'⟩, hrun, ht⟩ := Snapshot.exists_run S hasks
  exact ⟨t, ready, m', hrun, ht⟩

/-- What a look takes in: the files, and the digests of those whose time and size held. -/
structure Takes (m : Monitor) (S : Snapshot) (t : Trace) (s : Survey)
    (digest : Path → Option String) : Prop where
  surveys : m.Surveys S s
  digest_eq : ∀ p, digest p =
    if ∃ f ∈ s.files, m.wantsDigest f = true ∧ f.path = p then S.hash p else none
  hashes_iff : ∀ p hash, (p, hash) ∈ t.hashes ↔ digest p = some hash

variable {t : Trace} {ready : List Item}

/-- A look takes in the snapshot and absorbs it. -/
theorem Looks.takes (h : m.Looks S t ready m') :
    ∃ s digest, m.Takes S t s digest ∧ m.absorb s digest = (ready, m') := by
  obtain ⟨hrun, ht⟩ := h
  obtain ⟨u, found, v, rfl, hfound, hrest⟩ := Run.bind_iff.1 hrun
  obtain ⟨v, digests, w, rfl, hdigests, hend⟩ := Run.bind_iff.1 hrest
  obtain ⟨rfl, hresult⟩ := Run.done_iff.1 hend
  rw [List.append_nil] at ht ⊢
  obtain ⟨hu, hv⟩ := Snapshot.shows_append.1 ht
  obtain ⟨rfl, hhashes⟩ := digestsOf_of_shows hdigests hv
  have hdigest : ∀ p, ((((m.relevant found).files.filter m.wantsDigest).map
      fun f => (f.path, S.hash f.path)).lookup p).join =
        if ∃ f ∈ (m.relevant found).files, m.wantsDigest f = true ∧ f.path = p then S.hash p
        else none := by
    intro p
    rw [lookup_digests]
    simp only [List.mem_filter, and_assoc]
  refine ⟨m.relevant found, _, ?_, hresult.symm⟩
  constructor
  · exact ⟨u, found, hfound, hu, rfl⟩
  · exact hdigest
  · intro p hash
    have hnone : Trace.hashes u = [] :=
      hfound.hashes_of_asks (Survey.asks_addDirectories (fun _ => rfl) _ _ _)
    rw [hdigest p, Trace.hashes_append, hnone, List.nil_append, hhashes, List.mem_filterMap]
    constructor
    · rintro ⟨f, hf, hread⟩
      obtain ⟨hash', hhash', heq⟩ := Option.map_eq_some_iff.1 hread
      obtain ⟨rfl, rfl⟩ := Prod.mk.inj heq
      obtain ⟨hmem, hwants⟩ := List.mem_filter.1 hf
      rw [if_pos ⟨f, hmem, hwants, rfl⟩]
      exact hhash'
    · intro hread
      split at hread
      · next hwanted =>
          obtain ⟨f, hmem, hwants, rfl⟩ := hwanted
          exact ⟨f, List.mem_filter.2 ⟨hmem, hwants⟩, by rw [hread, Option.map_some]⟩
      · exact nomatch hread

/-- A look changes the items, and notes that it did. -/
theorem Looks.frame (h : m.Looks S t ready m') :
    m' = { m with items := m'.items, dirty := m'.dirty } := by
  obtain ⟨s, digest, -, habsorb⟩ := h.takes
  have hframe := absorb_frame m s digest
  rw [habsorb] at hframe
  exact hframe

theorem Looks.isRow (h : m.Looks S t ready m') (hm : m.items.IsRow) : m'.items.IsRow := by
  obtain ⟨s, digest, -, habsorb⟩ := h.takes
  have hrow := isRow_absorb s digest hm
  rw [habsorb] at hrow
  exact hrow

/-- What becomes ready is in order, one item for each path. -/
theorem Looks.isRow_ready (h : m.Looks S t ready m') : Items.IsRow ready := by
  obtain ⟨s, digest, htakes, habsorb⟩ := h.takes
  have hrow : Items.IsRow (m.absorb s digest).1 := isRow_ready_absorb htakes.surveys.isRow
  rw [habsorb] at hrow
  exact hrow

/-! ## Path by path -/

/-- What a look does under a path when it meets a file there, with a digest that it took. -/
structure Meets (m : Monitor) (S : Snapshot) (t : Trace) (ready : List Item) (m' : Monitor)
    (p : Path) (f : Survey.Found) (digest : Option String) : Prop where
  found : ∃ s, m.Surveys S s ∧ f ∈ s.files
  path : f.path.same p = true
  /-- The digest is taken when the time and size held and the file was not used. -/
  digest_eq : digest = if m.wantsDigest f = true then S.hash f.path else none
  after : m'.items.find? p = some (outcome digest (m.items.find? p) f).1
  ready_iff : ∀ {i : Item}, i.path.same p = true →
    (i ∈ ready ↔ outcome digest (m.items.find? p) f = (i, true))
  hashed_iff : ∀ {hash : String},
    (∃ q, q.same p = true ∧ (q, hash) ∈ t.hashes) ↔ digest = some hash

/-- What a look does under a path where it meets no file. -/
structure Lacks (m : Monitor) (S : Snapshot) (t : Trace) (ready : List Item) (m' : Monitor)
    (p : Path) : Prop where
  absent : ∀ info, ¬m.Tracks S p info
  kept : m.Misses S p → m'.items.find? p = m.items.find? p
  gone : ¬m.Misses S p → m'.items.find? p = none
  unready : ∀ i ∈ ready, i.path.same p = false
  unhashed : ∀ q hash, (q, hash) ∈ t.hashes → q.same p = false

/-- A file that is met is one that the monitor cares for, with its time and size. -/
theorem Meets.tracks {f : Survey.Found} {digest : Option String}
    (h : m.Meets S t ready m' p f digest) :
    ∃ info, m.Tracks S p info ∧ f.modified = max 0 info.modified ∧ f.size = info.size := by
  obtain ⟨s, hs, hf⟩ := h.found
  obtain ⟨info, htracks, htold⟩ := hs.tracks hf
  exact ⟨info, htracks.congr h.path, htold⟩

/-- The digest of a file that is met is taken when its time and size held and it was not used. -/
theorem Meets.digest_of_known {f : Survey.Found} {digest : Option String}
    (h : m.Meets S t ready m' p f digest) {i : Item} (hi : m.items.find? p = some i) :
    digest = if isSteady i f && !i.used then S.hash f.path else none := by
  have hwants : m.wantsDigest f = (isSteady i f && !i.used) := by
    rw [← Items.find?_congr m.items h.path] at hi
    rw [wantsDigest, hi]
  rw [h.digest_eq, hwants]

/-- What is known of a path that is not met was known before. -/
theorem Lacks.known (h : m.Lacks S t ready m' p) {i : Item} (hi : m'.items.find? p = some i) :
    m.Misses S p ∧ m.items.find? p = some i := by
  by_cases hmisses : m.Misses S p
  · rw [h.kept hmisses] at hi
    exact ⟨hmisses, hi⟩
  · rw [h.gone hmisses] at hi
    exact nomatch hi

section Taken

variable {digest : Path → Option String}

/-- An item becomes ready under the path of a file that was taken in. -/
theorem Takes.exists_of_ready (h : m.Takes S t s digest)
    (habsorb : m.absorb s digest = (ready, m')) {i : Item} (hi : i ∈ ready) :
    ∃ f ∈ s.files, i.path.same f.path = true ∧
      outcome (digest f.path) (m.items.find? f.path) f = (i, true) := by
  have hmem : i ∈ (m.absorb s digest).1 := by
    rw [habsorb]
    exact hi
  obtain ⟨f, hf, houtcome⟩ := (mem_ready_absorb h.surveys.isRow).1 hmem
  obtain ⟨j, hknown, -, -, -, -, hij⟩ := outcome_ready_iff.1 houtcome
  have hpath : i.path.same f.path = true := by
    have hj := Items.path_of_find? hknown
    rw [hij]
    exact hj
  exact ⟨f, hf, hpath, houtcome⟩

/-- A digest is taken under the path of a file that was taken in. -/
theorem Takes.exists_of_digest (h : m.Takes S t s digest) {hash : String}
    (hdigest : digest p = some hash) : ∃ f ∈ s.files, f.path = p := by
  rw [h.digest_eq] at hdigest
  split at hdigest
  · next hwanted =>
      obtain ⟨f, hf, -, hpath⟩ := hwanted
      exact ⟨f, hf, hpath⟩
  · exact nomatch hdigest

/-- A look meets the files that it takes in. -/
theorem Takes.meets (h : m.Takes S t s digest) (habsorb : m.absorb s digest = (ready, m'))
    {f : Survey.Found} (hf : f ∈ s.files) (hsame : f.path.same p = true) :
    m.Meets S t ready m' p f (digest f.path) := by
  have hrow := h.surveys.isRow
  have hunique : ∀ g ∈ s.files, g.path.same p = true → g = f := by
    intro g hg hgp
    exact hrow.eq_of_same hg hf (Path.same_trans hgp (Path.same_symm hsame))
  have hknown : m.items.find? f.path = m.items.find? p := Items.find?_congr m.items hsame
  constructor
  · exact ⟨s, h.surveys, hf⟩
  · exact hsame
  · rw [h.digest_eq]
    by_cases hwants : m.wantsDigest f = true
    · rw [if_pos hwants, if_pos ⟨f, hf, hwants, rfl⟩]
    · have hnone : ¬∃ g ∈ s.files, m.wantsDigest g = true ∧ g.path = f.path := by
        rintro ⟨g, hg, hwants', hpath⟩
        rw [hunique g hg (by rw [hpath]; exact hsame)] at hwants'
        exact hwants hwants'
      rw [if_neg hwants, if_neg hnone]
  · have hafter : (m.absorb s digest).2.items.find? f.path =
        some (outcome (digest f.path) (m.items.find? f.path) f).1 := find?_absorb_of_mem hrow hf
    rw [habsorb, hknown, Items.find?_congr _ hsame] at hafter
    exact hafter
  · intro i hi
    constructor
    · intro hready
      obtain ⟨g, hg, hpath, houtcome⟩ := h.exists_of_ready habsorb hready
      rw [hunique g hg (Path.same_trans (Path.same_symm hpath) hi), hknown] at houtcome
      exact houtcome
    · intro houtcome
      rw [← hknown] at houtcome
      have hmem := (mem_ready_absorb (m := m) hrow).2 ⟨f, hf, houtcome⟩
      rw [habsorb] at hmem
      exact hmem
  · intro hash
    constructor
    · rintro ⟨q, hq, hmem⟩
      have hdigest := (h.hashes_iff q hash).1 hmem
      obtain ⟨g, hg, rfl⟩ := h.exists_of_digest hdigest
      rw [← hunique g hg hq]
      exact hdigest
    · intro hdigest
      exact ⟨f.path, hsame, (h.hashes_iff f.path hash).2 hdigest⟩

/-- A look meets no file under a path that it does not take in. -/
theorem Takes.lacks (h : m.Takes S t s digest) (habsorb : m.absorb s digest = (ready, m'))
    (hhas : s.has p = false) : m.Lacks S t ready m' p := by
  have hne : ∀ f ∈ s.files, f.path.same p = false := by
    intro f hf
    rw [Bool.eq_false_iff]
    intro hsame
    rw [Survey.has_iff.2 ⟨f, hf, hsame⟩] at hhas
    exact nomatch hhas
  have hfind : (m.absorb s digest).2.items.find? p =
      if s.mayMiss p then m.items.find? p else none := find?_absorb_of_not_has hhas
  rw [habsorb] at hfind
  constructor
  · intro info htracks
    rw [h.surveys.has_iff.2 ⟨info, htracks⟩] at hhas
    exact nomatch hhas
  · intro hmisses
    rw [hfind, if_pos (h.surveys.mayMiss_iff.2 hmisses)]
  · intro hmisses
    rw [hfind, if_neg fun hmiss => hmisses (h.surveys.mayMiss_iff.1 hmiss)]
  · intro i hi
    obtain ⟨f, hf, hpath, -⟩ := h.exists_of_ready habsorb hi
    rw [Path.same_congr hpath]
    exact hne f hf
  · intro q hash hmem
    obtain ⟨f, hf, rfl⟩ := h.exists_of_digest ((h.hashes_iff q hash).1 hmem)
    exact hne f hf

end Taken

/-- Under every path a look meets a file that the monitor cares for, or meets none. -/
theorem Looks.meets_or_lacks (h : m.Looks S t ready m') (p : Path) :
    (∃ f digest, m.Meets S t ready m' p f digest) ∨ m.Lacks S t ready m' p := by
  obtain ⟨s, digest, htakes, habsorb⟩ := h.takes
  cases hhas : s.has p with
  | true =>
      obtain ⟨f, hf, hsame⟩ := Survey.has_iff.1 hhas
      exact Or.inl ⟨f, digest f.path, htakes.meets habsorb hf hsame⟩
  | false => exact Or.inr (htakes.lacks habsorb hhas)

end Monitor

end Courier
