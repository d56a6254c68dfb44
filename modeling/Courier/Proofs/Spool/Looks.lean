import Courier.Proofs.Session.Runs
import Courier.Proofs.Spool.Rows

/-!
# Looks and results, path by path

What a look at the directories makes of a file depends on the file, on its digest and on what
was known of it, and on no other file.  So the items after a look, and those that became
ready, are told path by path; and so are the items after the result of a dispatch.

Main definitions:

- `Monitor.outcome` is what a look makes of one file.

Main statements:

- A look takes in a survey whose files are in order (`Monitor.absorb_of_run_scan`).
- What a look leaves under each path (`Monitor.find?_absorb_of_mem`,
  `Monitor.find?_absorb_of_not_has`), and what it finds ready (`Monitor.mem_ready_absorb`).
- What the result of a dispatch leaves under each path (`Monitor.find?_finalize`).
-/

namespace Courier

open Program Calendar

/-! ## Surveys are in order -/

namespace Survey

/-- Look at one entry of a directory. -/
def addEntry (inner : Path → Survey → Program Survey) (recursive : Bool) (directory : Path)
    (entry : DirectoryEntry) (s : Survey) : Program Survey :=
  let path := directory.join ⟨entry.name⟩
  match entry.metadata with
  | .error .notFound => pure s
  | .error _ => pure (s.addUnreadable path)
  | .ok info =>
      match info.kind with
      | .directory => if recursive then inner path s else pure s
      | .file => pure (s.addFile ⟨path, max 0 info.modified, info.size⟩)
      | _ => pure s

/-- The entries of a directory are looked at one after the other. -/
theorem addEntries_cons (inner : Path → Survey → Program Survey) (recursive : Bool)
    (directory : Path) (entry : DirectoryEntry) (rest : List DirectoryEntry) (s : Survey) :
    addEntries inner recursive directory (entry :: rest) s =
      addEntry inner recursive directory entry s >>=
        addEntries inner recursive directory rest := by
  rw [addEntries, addEntry]
  generalize entry.metadata = found
  cases found with
  | error fault => cases fault <;> rfl
  | ok info =>
      obtain ⟨kind, size, modified⟩ := info
      cases kind with
      | directory => cases recursive <;> rfl
      | _ => rfl

/-- What keeps the files in order in inner directories does so in every entry. -/
theorem isRow_of_run_addEntry {inner : Path → Survey → Program Survey} {recursive : Bool}
    {directory : Path} {entry : DirectoryEntry} {s s' : Survey} {t : Trace}
    (hinner : ∀ {p : Path} {s s' : Survey} {t : Trace}, Run (inner p s) t s' → s.IsRow → s'.IsRow)
    (h : Run (addEntry inner recursive directory entry s) t s') (hs : s.IsRow) : s'.IsRow := by
  have hkeeps : ∀ {r : Survey}, Run (.done r) t s' → r.IsRow → s'.IsRow := by
    intro r hdone hr
    obtain ⟨-, rfl⟩ := Run.done_iff.1 hdone
    exact hr
  simp only [addEntry] at h
  split at h
  · exact hkeeps h hs
  · exact hkeeps h (isRow_addUnreadable hs _)
  · split at h
    · split at h
      · exact hinner h hs
      · exact hkeeps h hs
    · exact hkeeps h (isRow_addFile hs _)
    · exact hkeeps h hs

theorem isRow_of_run_addEntries {inner : Path → Survey → Program Survey} {recursive : Bool}
    {directory : Path}
    (hinner : ∀ {p : Path} {s s' : Survey} {t : Trace}, Run (inner p s) t s' → s.IsRow → s'.IsRow)
    {entries : List DirectoryEntry} {s s' : Survey} {t : Trace}
    (h : Run (addEntries inner recursive directory entries s) t s') (hs : s.IsRow) :
    s'.IsRow := by
  induction entries generalizing s t with
  | nil =>
      obtain ⟨-, rfl⟩ := Run.done_iff.1 h
      exact hs
  | cons entry rest ih =>
      rw [addEntries_cons] at h
      obtain ⟨u, middle, v, -, hentry, hrest⟩ := Run.bind_iff.1 h
      exact ih hrest (isRow_of_run_addEntry hinner hentry hs)

theorem isRow_of_run_addDirectory {recursive : Bool} {depth : Nat} {p : Path} {s s' : Survey}
    {t : Trace} (h : Run (addDirectory recursive depth p s) t s') (hs : s.IsRow) :
    s'.IsRow := by
  induction depth generalizing p s s' t with
  | zero =>
      obtain ⟨-, rfl⟩ := Run.done_iff.1 h
      exact isRow_addUnreadable hs p
  | succ depth ih =>
      obtain ⟨u, listed, v, -, -, hlisted⟩ := Run.bind_iff.1 h
      cases listed with
      | error fault =>
          obtain ⟨-, rfl⟩ := Run.done_iff.1 hlisted
          exact isRow_addUnreadable hs p
      | ok entries => exact isRow_of_run_addEntries ih hlisted hs

theorem isRow_of_run_addDirectories {recursive : Bool} {directories : List Path}
    {s s' : Survey} {t : Trace} (h : Run (addDirectories recursive directories s) t s')
    (hs : s.IsRow) : s'.IsRow := by
  induction directories generalizing s t with
  | nil =>
      obtain ⟨-, rfl⟩ := Run.done_iff.1 h
      exact hs
  | cons directory rest ih =>
      obtain ⟨u, middle, v, -, hfirst, hrest⟩ := Run.bind_iff.1 h
      exact ih hrest (isRow_of_run_addDirectory hfirst hs)

end Survey

namespace Monitor

variable {m : Monitor} {s : Survey} {digest : Path → Option String} {p q : Path} {i : Item}

/-- A look takes in a survey of files that the monitor cares for, in order. -/
theorem absorb_of_run_scan {t : Trace} {result : List Item × Monitor} (h : Run m.scan t result) :
    ∃ (s : Survey) (digest : Path → Option String), s.IsRow ∧ (∀ f ∈ s.files, m.accepts f) ∧
      result = m.absorb s digest := by
  obtain ⟨u, found, v, -, hfound, hdigests⟩ := Run.bind_iff.1 h
  obtain ⟨u', digests, v', -, -, hend⟩ := Run.bind_iff.1 hdigests
  obtain ⟨-, rfl⟩ := Run.done_iff.1 hend
  have hrow := Survey.isRow_of_run_addDirectories hfound Survey.isRow_empty
  exact ⟨m.relevant found, _, List.Pairwise.filter _ hrow,
    fun f hf => (List.mem_filter.1 hf).2, rfl⟩

/-! ## One file -/

/-- What a look makes of a file: the item of it, and whether it became ready. -/
def outcome (digest : Option String) (known : Option Item) (f : Survey.Found) : Item × Bool :=
  match known with
  | none => ({ path := f.path, lastModified := f.modified, size := f.size }, false)
  | some i =>
      if !isSteady i f then (changed i f, false)
      else if i.used then (i, false)
      else
        match digest with
        | none => (i, false)
        | some hash =>
            if i.hash = some hash then ({ i with used := true }, true)
            else ({ i with hash := some hash }, false)

/-- A file is steady when its item has its time and its size. -/
theorem isSteady_iff {f : Survey.Found} :
    isSteady i f = true ↔ i.lastModified = f.modified ∧ i.size = f.size := by
  simp [isSteady]

/-- The item of a file has its path. -/
theorem path_outcome {known : Option Item} {f : Survey.Found} (d : Option String)
    (h : ∀ i, known = some i → i.path.same f.path = true) :
    (outcome d known f).1.path.same f.path = true := by
  cases known with
  | none => exact Path.same_refl f.path
  | some i =>
      have hi := h i rfl
      simp only [outcome]
      split
      · exact hi
      · split
        · exact hi
        · split
          · exact hi
          · split <;> exact hi

/-- A steady file that was used stays as it is. -/
theorem outcome_of_used {f : Survey.Found} (d : Option String) (hsteady : isSteady i f = true)
    (hused : i.used = true) : outcome d (some i) f = (i, false) := by
  simp [outcome, hsteady, hused]

/-- A steady file that was not used is ready when its digest held, which is noted otherwise. -/
theorem outcome_of_unused {f : Survey.Found} (hash : String) (hsteady : isSteady i f = true)
    (hunused : i.used = false) :
    outcome (some hash) (some i) f =
      if i.hash = some hash then ({ i with used := true }, true)
      else ({ i with hash := some hash }, false) := by
  simp [outcome, hsteady, hunused]

/-- A file is ready when it was steady and not used and its digest held. -/
theorem outcome_ready_iff {d : Option String} {known : Option Item} {f : Survey.Found} :
    outcome d known f = (i, true) ↔
      ∃ j, known = some j ∧ isSteady j f = true ∧ j.used = false ∧ d.isSome = true ∧
        j.hash = d ∧ i = { j with used := true } := by
  cases known with
  | none => simp [outcome]
  | some j =>
      simp only [outcome, Option.some.injEq, exists_eq_left']
      cases hsteady : isSteady j f with
      | false => simp
      | true =>
          cases hused : j.used with
          | true => simp
          | false =>
              cases d with
              | none => simp
              | some hash =>
                  by_cases hhash : j.hash = some hash
                  · simp [hhash, eq_comm]
                  · simp [hhash]

/-- A file that is known as used without being ready was so before. -/
theorem used_of_outcome {d : Option String} {known : Option Item} {f : Survey.Found}
    (h : outcome d known f = (i, false)) (hused : i.used = true) : known = some i := by
  cases known with
  | none =>
      simp only [outcome, Prod.mk.injEq] at h
      rw [← h.1] at hused
      exact nomatch hused
  | some j =>
      simp only [outcome] at h
      split at h
      · cases h
        exact nomatch hused
      · split at h
        · cases h
          rfl
        · next hunused =>
            split at h
            · cases h
              rfl
            · split at h
              · exact nomatch h
              · cases h
                exact absurd hused hunused

/-! ## Looks -/

/-- What is known after a look that kept some items. -/
theorem find?_keep (m : Monitor) (s : Survey) (p : Path) :
    (m.keep s).items.find? p = if s.has p || s.mayMiss p then m.items.find? p else none := by
  have hcongr : ∀ p q : Path, p.same q = true →
      (s.has p || s.mayMiss p) = (s.has q || s.mayMiss q) := by
    intro p q hsame
    rw [Survey.has_congr hsame, Survey.mayMiss_congr hsame]
  exact Items.find?_filter hcongr m.items p

/-- A look changes the items, and notes that it did. -/
theorem absorbFile_frame (digest : Path → Option String) (m : Monitor) (f : Survey.Found) :
    (m.absorbFile digest f).2 =
      { m with
        items := (m.absorbFile digest f).2.items
        dirty := (m.absorbFile digest f).2.dirty } := by
  simp only [absorbFile]
  split
  · rfl
  · split
    · rfl
    · split
      · rfl
      · split
        · rfl
        · split <;> rfl

/-- What a look makes of a file is told by its outcome. -/
theorem absorbFile_spec (digest : Path → Option String) (m : Monitor) (f : Survey.Found) :
    (m.absorbFile digest f).1 =
        (if (outcome (digest f.path) (m.items.find? f.path) f).2 then
          some (outcome (digest f.path) (m.items.find? f.path) f).1 else none) ∧
      ∀ p, (m.absorbFile digest f).2.items.find? p =
        if f.path.same p then some (outcome (digest f.path) (m.items.find? f.path) f).1
        else m.items.find? p := by
  have hput : ∀ i : Item, i.path.same f.path = true → ∀ p, (m.note i).items.find? p =
      if f.path.same p then some i else m.items.find? p := by
    intro i hi p
    rw [← Path.same_congr hi p]
    exact Items.find?_put m.items i p
  cases hknown : m.items.find? f.path with
  | none =>
      simp only [absorbFile, outcome, hknown]
      exact ⟨rfl, hput _ (Path.same_refl f.path)⟩
  | some i =>
      have hi := Items.path_of_find? hknown
      have hkept : ∀ p, m.items.find? p =
          if f.path.same p then some i else m.items.find? p := by
        intro p
        split
        · next hp => rw [← Items.find?_congr m.items hp, hknown]
        · rfl
      simp only [absorbFile, outcome, hknown]
      split
      · exact ⟨rfl, hput _ hi⟩
      · split
        · exact ⟨rfl, hkept⟩
        · cases digest f.path with
          | none => exact ⟨rfl, hkept⟩
          | some hash =>
              simp only
              split
              · exact ⟨rfl, hput _ hi⟩
              · exact ⟨rfl, hput _ hi⟩

/-- The item of a file became ready when that is its outcome. -/
theorem mem_absorbFile_iff (digest : Path → Option String) (m : Monitor) (f : Survey.Found) :
    i ∈ (m.absorbFile digest f).1.toList ↔
      outcome (digest f.path) (m.items.find? f.path) f = (i, true) := by
  rw [(absorbFile_spec digest m f).1]
  generalize outcome (digest f.path) (m.items.find? f.path) f = o
  obtain ⟨j, ready⟩ := o
  cases ready <;> simp [eq_comm]

/-- A file that is taken in leaves one item for each path. -/
theorem isRow_absorbFile (digest : Path → Option String) (f : Survey.Found)
    (h : m.items.IsRow) : (m.absorbFile digest f).2.items.IsRow := by
  simp only [absorbFile]
  split
  · exact Items.isRow_put h _
  · split
    · exact Items.isRow_put h _
    · split
      · exact h
      · split
        · exact h
        · split <;> exact Items.isRow_put h _

section Files

variable {files : List Survey.Found}

/-- Files are taken in one after the other. -/
theorem absorbFiles_cons (digest : Path → Option String) (f : Survey.Found)
    (rest : List Survey.Found) (m : Monitor) :
    absorbFiles digest (f :: rest) m =
      ((m.absorbFile digest f).1.toList ++
          (absorbFiles digest rest (m.absorbFile digest f).2).1,
        (absorbFiles digest rest (m.absorbFile digest f).2).2) :=
  rfl

/-- Only the items change. -/
theorem absorbFiles_frame (digest : Path → Option String) (files : List Survey.Found)
    (m : Monitor) :
    (absorbFiles digest files m).2 =
      { m with
        items := (absorbFiles digest files m).2.items
        dirty := (absorbFiles digest files m).2.dirty } := by
  induction files generalizing m with
  | nil => rfl
  | cons f rest ih =>
      rw [absorbFiles_cons]
      refine (ih (m.absorbFile digest f).2).trans ?_
      rw [absorbFile_frame digest m f]

theorem isRow_absorbFiles (digest : Path → Option String) (files : List Survey.Found)
    (h : m.items.IsRow) : (absorbFiles digest files m).2.items.IsRow := by
  induction files generalizing m with
  | nil => exact h
  | cons f rest ih => exact ih (isRow_absorbFile digest f h)

/-- A look at some files leaves the items of others alone. -/
theorem find?_absorbFiles_of_ne (h : ∀ f ∈ files, f.path.same p = false) :
    (absorbFiles digest files m).2.items.find? p = m.items.find? p := by
  induction files generalizing m with
  | nil => rfl
  | cons f rest ih =>
      have hf := h f List.mem_cons_self
      rw [absorbFiles_cons, ih fun g hg => h g (List.mem_cons_of_mem f hg),
        (absorbFile_spec digest m f).2 p, hf, if_neg Bool.false_ne_true]

/-- The files after the first one of a row have other paths. -/
theorem not_same_of_mem_tail {f : Survey.Found} {rest : List Survey.Found}
    (h : Ordered.Ascending Survey.Found.before (f :: rest)) {g : Survey.Found} (hg : g ∈ rest) :
    f.path.same g.path = false :=
  Path.not_same_of_precedes ((List.pairwise_cons.1 h).1 g hg)

/-- A look at some files leaves for each of them what it makes of that file. -/
theorem find?_absorbFiles_of_mem (h : Ordered.Ascending Survey.Found.before files)
    {f : Survey.Found} (hf : f ∈ files) :
    (absorbFiles digest files m).2.items.find? f.path =
      some (outcome (digest f.path) (m.items.find? f.path) f).1 := by
  induction files generalizing m with
  | nil => simp at hf
  | cons g rest ih =>
      rw [absorbFiles_cons]
      rcases List.mem_cons.1 hf with rfl | hf
      · have hne : ∀ g ∈ rest, g.path.same f.path = false := by
          intro g hg
          rw [Path.same_comm]
          exact not_same_of_mem_tail h hg
        rw [find?_absorbFiles_of_ne hne, (absorbFile_spec digest m f).2, Path.same_refl, if_pos rfl]
      · rw [ih (List.pairwise_cons.1 h).2 hf, (absorbFile_spec digest m g).2,
          not_same_of_mem_tail h hf, if_neg Bool.false_ne_true]

/-- The files that a look finds ready. -/
theorem mem_ready_absorbFiles (h : Ordered.Ascending Survey.Found.before files) :
    i ∈ (absorbFiles digest files m).1 ↔
      ∃ f ∈ files, outcome (digest f.path) (m.items.find? f.path) f = (i, true) := by
  induction files generalizing m with
  | nil => simp [absorbFiles]
  | cons g rest ih =>
      have hrest : ∀ f ∈ rest, (m.absorbFile digest g).2.items.find? f.path =
          m.items.find? f.path := by
        intro f hf
        rw [(absorbFile_spec digest m g).2, not_same_of_mem_tail h hf, if_neg Bool.false_ne_true]
      rw [absorbFiles_cons, List.mem_append, mem_absorbFile_iff, ih (List.pairwise_cons.1 h).2]
      simp only [List.mem_cons, exists_eq_or_imp]
      refine or_congr Iff.rfl (exists_congr fun f => and_congr_right fun hf => ?_)
      rw [hrest f hf]

/-- The files that a look finds ready are in order, one for each path. -/
theorem isRow_ready_absorbFiles (h : Ordered.Ascending Survey.Found.before files) :
    Items.IsRow (absorbFiles digest files m).1 := by
  have hpath : ∀ (m : Monitor) (f : Survey.Found) (i : Item),
      outcome (digest f.path) (m.items.find? f.path) f = (i, true) →
        i.path.same f.path = true := by
    intro m f i houtcome
    have hsame : (outcome (digest f.path) (m.items.find? f.path) f).1.path.same f.path = true :=
      path_outcome _ fun _ => Items.path_of_find?
    rw [houtcome] at hsame
    exact hsame
  induction files generalizing m with
  | nil => exact Items.isRow_nil
  | cons f rest ih =>
      obtain ⟨hfirst, hrest⟩ := List.pairwise_cons.1 h
      rw [absorbFiles_cons]
      refine List.pairwise_append.2 ⟨?_, ih hrest, ?_⟩
      · cases (m.absorbFile digest f).1 with
        | none => exact List.Pairwise.nil
        | some i => exact List.pairwise_singleton _ _
      · intro i hi j hj
        obtain ⟨g, hg, hgj⟩ := (mem_ready_absorbFiles hrest).1 hj
        have hfi := (mem_absorbFile_iff digest m f).1 hi
        show i.path.precedes j.path = true
        rw [Path.precedes_congr (hpath _ _ _ hfi) (hpath _ _ _ hgj)]
        exact hfirst g hg

end Files

/-- A look changes the items, and notes that it did. -/
theorem absorb_frame (m : Monitor) (s : Survey) (digest : Path → Option String) :
    (m.absorb s digest).2 =
      { m with items := (m.absorb s digest).2.items, dirty := (m.absorb s digest).2.dirty } :=
  absorbFiles_frame digest s.files (m.keep s)

theorem isRow_absorb (s : Survey) (digest : Path → Option String) (h : m.items.IsRow) :
    (m.absorb s digest).2.items.IsRow :=
  isRow_absorbFiles digest s.files (Items.isRow_filter h _)

/-- What is known of a file that is found, after the items of others are dropped. -/
theorem find?_keep_of_mem {f : Survey.Found} (hf : f ∈ s.files) :
    (m.keep s).items.find? f.path = m.items.find? f.path := by
  have hhas : s.has f.path = true := Survey.has_iff.2 ⟨f, hf, Path.same_refl f.path⟩
  rw [find?_keep, hhas, Bool.true_or, if_pos rfl]

/-- The item of a file that was found. -/
theorem find?_absorb_of_mem (hs : s.IsRow) {f : Survey.Found} (hf : f ∈ s.files) :
    (m.absorb s digest).2.items.find? f.path =
      some (outcome (digest f.path) (m.items.find? f.path) f).1 := by
  rw [absorb, find?_absorbFiles_of_mem hs hf, find?_keep_of_mem hf]

/-- What is left of a file that was not found. -/
theorem find?_absorb_of_not_has (h : s.has p = false) :
    (m.absorb s digest).2.items.find? p = if s.mayMiss p then m.items.find? p else none := by
  have hne : ∀ f ∈ s.files, f.path.same p = false := by
    intro f hf
    rw [Bool.eq_false_iff]
    intro hsame
    rw [Survey.has_iff.2 ⟨f, hf, hsame⟩] at h
    exact Bool.false_ne_true h.symm
  rw [absorb, find?_absorbFiles_of_ne hne, find?_keep, h, Bool.false_or]

/-- The files that a look finds ready. -/
theorem mem_ready_absorb (hs : s.IsRow) :
    i ∈ (m.absorb s digest).1 ↔
      ∃ f ∈ s.files, outcome (digest f.path) (m.items.find? f.path) f = (i, true) := by
  rw [absorb, mem_ready_absorbFiles hs]
  refine exists_congr fun f => and_congr_right fun hf => ?_
  rw [find?_keep_of_mem hf]

/-- No path is ready twice. -/
theorem isRow_ready_absorb (hs : s.IsRow) : Items.IsRow (m.absorb s digest).1 :=
  isRow_ready_absorbFiles hs

/-! ## Results -/

/-- What is known after the result of a dispatch. -/
theorem find?_finalize (m : Monitor) (p : Path) (success : Bool) (id : Option Int)
    (now : Moment) (q : Path) :
    (m.finalize p success id now).items.find? q =
      (m.items.find? q).map fun i => if q.same p then settled i success id now else i := by
  have hpath : ∀ i : Item, (if i.path.same p then settled i success id now else i).path =
      i.path := by
    intro i
    split <;> rfl
  rw [finalize, Items.find?_map hpath]
  cases hfind : m.items.find? q with
  | none => rfl
  | some i =>
      have hi := Path.same_congr (Items.path_of_find? hfind) p
      simp only [Option.map_some, hi]

/-- A result leaves one item for each path. -/
theorem isRow_finalize (p : Path) (success : Bool) (id : Option Int) (now : Moment)
    (h : m.items.IsRow) : (m.finalize p success id now).items.IsRow := by
  refine Items.isRow_map ?_ h
  intro i
  split <;> rfl

end Monitor

end Courier
