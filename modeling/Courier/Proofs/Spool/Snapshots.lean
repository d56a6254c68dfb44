import Courier.Files.Tree
import Courier.Proofs.Files.Joining
import Courier.Proofs.Json.Typed
import Courier.Proofs.Spool.Writing

/-!
# What a look finds

A look walks through directories that may lie in each other, and that may be unreadable as a whole
or from some entry on.  While nothing changes, what it finds is told by what stands in the
directories: the regular files, and the paths that could not be read.

Main definitions:

- `Snapshot` is a file system at one moment, as far as a look can tell, and `Snapshot.Shows` says
  that everything in a trace was answered as it was at this moment.
- `Snapshot.Reaches` are the directories that a look walks through, `Snapshot.Inside` what stands
  in them, and `Snapshot.Fails` what cannot be read of them.

Main statements:

- Against a snapshot a look ends, in one way (`Snapshot.exists_run`, `Snapshot.eq_of_run`).
- It finds just the files that stand in the directories, with their times and sizes, and just the
  paths that cannot be read (`Snapshot.gains_of_run_addDirectories`).
-/

namespace Courier

open Program

/-! ## Snapshots -/

/-- A file system at one moment, as far as a look at directories can tell. -/
structure Snapshot where
  /-- The names in a directory, in any order; a link to a directory is followed. -/
  names : List Path.Component → Except FileFault (List String)
  /-- Whether the names of a directory cannot be read to their end. -/
  breaksOff : List Path.Component → Bool
  /-- What stands at a path; a link is not followed. -/
  metadata : List Path.Component → Except FileFault Metadata
  /-- The content of a file. -/
  content : Path → Except FileFault ByteArray
  /-- A name is not empty and has no slash. -/
  isName : ∀ {cs : List Path.Component} {ns : List String}, names cs = .ok ns →
    ∀ n ∈ ns, n ≠ "" ∧ '/' ∉ n.toList
  /-- Times and sizes have their widths.  A time is stored in a signed number of 64 bits: a larger one
  would be wrapped there, and is left out. -/
  fits : ∀ {cs : List Path.Component} {info : Metadata}, metadata cs = .ok info →
    info.modified < Json.wordValues 63 ∧ info.size < Json.wordValues 64

namespace Snapshot

/-- The names in a directory.  An empty path leads nowhere, and too long ones are refused. -/
def list (S : Snapshot) (p : Path) : Except FileFault (List String) :=
  if p.text.toList = [] then .error .notFound
  else if FileTree.maxPathBytes < p.text.utf8ByteSize then .error .nameTooLong
  else S.names p.components

/-- The entry of a directory whose other entries could not be read: the directory itself, of which
nothing could be learnt. -/
def remainder : DirectoryEntry :=
  ⟨".", .error (.other "the directory cannot be read to its end")⟩

/-- The entry of a directory with some name. -/
def entry (S : Snapshot) (directory : Path) (n : String) : DirectoryEntry :=
  ⟨n, S.metadata (directory.join ⟨n⟩).components⟩

/-- The entries of a directory. -/
def entries (S : Snapshot) (p : Path) : Except FileFault (List DirectoryEntry) :=
  (S.list p).map fun ns =>
    ns.map (S.entry p) ++ if S.breaksOff p.components then [remainder] else []

/-- Whether an answer is what the snapshot shows. -/
def Answers (S : Snapshot) : Exchange → Prop
  | ⟨.files (.entries p), answer⟩ => answer = S.entries p
  | ⟨.files (.read p), answer⟩ => answer = S.content p
  | _ => True

/-- Whether everything was answered as the snapshot shows it. -/
def Shows (S : Snapshot) (t : Trace) : Prop :=
  ∀ x ∈ t, S.Answers x

theorem shows_append {S : Snapshot} {t u : Trace} : S.Shows (t ++ u) ↔ S.Shows t ∧ S.Shows u :=
  List.forall_mem_append

end Snapshot

/-- Whether a request only lists a directory or reads a file. -/
def Request.isInspection : Request → Bool
  | .files (.entries _) => true
  | .files (.read _) => true
  | _ => false

/-! ## Runs against snapshots -/

namespace Snapshot

section Runs

variable {S : Snapshot} {α : Type} {p : Program α} {t u : Trace} {a b : α}

/-- A program that only lists directories and reads files ends against a snapshot. -/
theorem exists_run (S : Snapshot) (hp : p.Asks fun r => r.isInspection = true) :
    ∃ t a, Run p t a ∧ S.Shows t := by
  apply exists_run_of_asks
  apply hp.imp
  intro r hr
  cases r with
  | files op =>
      cases op with
      | entries q => exact ⟨_, rfl⟩
      | read q => exact ⟨_, rfl⟩
      | _ => exact nomatch hr
  | _ => exact nomatch hr

/-- It ends in one way only. -/
theorem eq_of_run (hp : p.Asks fun r => r.isInspection = true) (h : Run p t a) (ht : S.Shows t)
    (k : Run p u b) (hu : S.Shows u) : t = u ∧ a = b := by
  induction h generalizing u with
  | done a =>
      obtain ⟨rfl, rfl⟩ := Run.done_iff.1 k
      exact ⟨rfl, rfl⟩
  | @step r next answer t a h ih =>
      obtain ⟨answer', v, rfl, hnext'⟩ := Run.step_iff.1 k
      obtain ⟨hr, hnext⟩ := hp
      obtain ⟨hfirst, hrest⟩ := List.forall_mem_cons.1 ht
      obtain ⟨hfirst', hrest'⟩ := List.forall_mem_cons.1 hu
      have hsame : answer = answer' := by
        cases r with
        | files op =>
            cases op with
            | entries q => exact Eq.trans hfirst (Eq.symm hfirst')
            | read q => exact Eq.trans hfirst (Eq.symm hfirst')
            | _ => exact nomatch hr
        | _ => exact nomatch hr
      subst hsame
      obtain ⟨rfl, rfl⟩ := ih (hnext answer) hrest hnext' hrest'
      exact ⟨rfl, rfl⟩

end Runs

/-! ## What stands in directories -/

/-- Whether something of a kind stands at a path. -/
def HasKind (S : Snapshot) (p : Path) (kind : FileKind) : Prop :=
  ∃ info, S.metadata p.components = .ok info ∧ info.kind = kind

/-- Whether a path is shown in a directory. -/
def Inside (S : Snapshot) (directory p : Path) : Prop :=
  ∃ ns, S.list directory = .ok ns ∧ ∃ n ∈ ns, p = directory.join ⟨n⟩

/-- The directories that a look walks through, from one on. -/
inductive Reaches (S : Snapshot) (recursive : Bool) : Path → Path → Prop where
  | here (directory : Path) : Reaches S recursive directory directory
  | into {directory inner p : Path} (deep : recursive = true) (inside : S.Inside directory inner)
      (kind : S.HasKind inner .directory) (rest : Reaches S recursive inner p) :
      Reaches S recursive directory p

/-- What of a directory cannot be read: the directory, the end of it, or one of its entries,
unless this was just removed. -/
inductive Fails (S : Snapshot) (directory : Path) : Path → Prop where
  | listing {fault : FileFault} (h : S.list directory = .error fault) : Fails S directory directory
  | remainder {ns : List String} (h : S.list directory = .ok ns)
      (breaks : S.breaksOff directory.components = true) : Fails S directory directory
  | entry {p : Path} {fault : FileFault} (inside : S.Inside directory p)
      (h : S.metadata p.components = .error fault) (present : fault ≠ .notFound) :
      Fails S directory p

/-- The files that a look finds from a directory on. -/
def HasFile (S : Snapshot) (recursive : Bool) (directory p : Path) : Prop :=
  ∃ d, S.Reaches recursive directory d ∧ S.Inside d p ∧ S.HasKind p .file

/-- The paths that a look cannot read from a directory on. -/
def HasFault (S : Snapshot) (recursive : Bool) (directory p : Path) : Prop :=
  ∃ d, S.Reaches recursive directory d ∧ S.Fails d p

/-- The files that a look finds at an entry of a directory. -/
def EntryFile (S : Snapshot) (recursive : Bool) (e p : Path) : Prop :=
  (S.HasKind e .file ∧ p = e) ∨
    (recursive = true ∧ S.HasKind e .directory ∧ S.HasFile recursive e p)

/-- The paths that a look cannot read at an entry of a directory. -/
def EntryFault (S : Snapshot) (recursive : Bool) (e p : Path) : Prop :=
  (∃ fault, S.metadata e.components = .error fault ∧ fault ≠ .notFound ∧ p = e) ∨
    (recursive = true ∧ S.HasKind e .directory ∧ S.HasFault recursive e p)

variable {S : Snapshot} {recursive : Bool} {directory p : Path}

/-- What is shown in a directory that is listed is told by its names. -/
theorem exists_inside_iff {ns : List String} (h : S.list directory = .ok ns) {P : Path → Prop} :
    (∃ e, S.Inside directory e ∧ P e) ↔ ∃ n ∈ ns, P (directory.join ⟨n⟩) := by
  constructor
  · rintro ⟨e, ⟨ns', hns', n, hn, rfl⟩, hP⟩
    obtain rfl : ns = ns' := Except.ok.inj (h.symm.trans hns')
    exact ⟨n, hn, hP⟩
  · rintro ⟨n, hn, hP⟩
    exact ⟨directory.join ⟨n⟩, ⟨ns, h, n, hn, rfl⟩, hP⟩

/-- What is found from a directory on is found at its entries. -/
theorem hasFile_iff :
    S.HasFile recursive directory p ↔ ∃ e, S.Inside directory e ∧ S.EntryFile recursive e p := by
  constructor
  · rintro ⟨d, hreaches, hinside, hkind⟩
    cases hreaches with
    | here => exact ⟨p, hinside, Or.inl ⟨hkind, rfl⟩⟩
    | into deep inside kind rest =>
        exact ⟨_, inside, Or.inr ⟨deep, kind, d, rest, hinside, hkind⟩⟩
  · rintro ⟨e, hinside, ⟨hkind, rfl⟩ | ⟨hdeep, hkind, d, hreaches, hfile⟩⟩
    · exact ⟨directory, .here directory, hinside, hkind⟩
    · exact ⟨d, .into hdeep hinside hkind hreaches, hfile⟩

/-- What cannot be read from a directory on is the directory or its end, or is found at an
entry. -/
theorem hasFault_iff :
    S.HasFault recursive directory p ↔
      ((∃ fault, S.list directory = .error fault) ∧ p = directory) ∨
      ((∃ ns, S.list directory = .ok ns) ∧ S.breaksOff directory.components = true ∧
        p = directory) ∨
      ∃ e, S.Inside directory e ∧ S.EntryFault recursive e p := by
  constructor
  · rintro ⟨d, hreaches, hfails⟩
    cases hreaches with
    | here =>
        cases hfails with
        | listing h => exact Or.inl ⟨⟨_, h⟩, rfl⟩
        | remainder h breaks => exact Or.inr (Or.inl ⟨⟨_, h⟩, breaks, rfl⟩)
        | entry inside h present =>
            exact Or.inr (Or.inr ⟨p, inside, Or.inl ⟨_, h, present, rfl⟩⟩)
    | into deep inside kind rest =>
        exact Or.inr (Or.inr ⟨_, inside, Or.inr ⟨deep, kind, d, rest, hfails⟩⟩)
  · rintro (⟨⟨fault, h⟩, rfl⟩ | ⟨⟨ns, h⟩, hbreaks, rfl⟩ | ⟨e, hinside, hentry⟩)
    · exact ⟨p, .here p, .listing h⟩
    · exact ⟨p, .here p, .remainder h hbreaks⟩
    · rcases hentry with ⟨fault, h, hpresent, rfl⟩ | ⟨hdeep, hkind, d, hreaches, hfails⟩
      · exact ⟨directory, .here directory, .entry hinside h hpresent⟩
      · exact ⟨d, .into hdeep hinside hkind hreaches, hfails⟩

section Entries

variable {e : Path} {fault : FileFault} {info : Metadata}

/-- Nothing is found at an entry of which nothing can be learnt. -/
theorem entryFile_of_error (h : S.metadata e.components = .error fault) :
    ¬S.EntryFile recursive e p := by
  simp [EntryFile, HasKind, h]

/-- It cannot be read, unless it was just removed. -/
theorem entryFault_of_error (h : S.metadata e.components = .error fault) :
    S.EntryFault recursive e p ↔ fault ≠ .notFound ∧ p = e := by
  simp [EntryFault, HasKind, h]

theorem entryFile_of_ok (h : S.metadata e.components = .ok info) :
    S.EntryFile recursive e p ↔ (info.kind = .file ∧ p = e) ∨
      (recursive = true ∧ info.kind = .directory ∧ S.HasFile recursive e p) := by
  simp [EntryFile, HasKind, h]

theorem entryFault_of_ok (h : S.metadata e.components = .ok info) :
    S.EntryFault recursive e p ↔
      recursive = true ∧ info.kind = .directory ∧ S.HasFault recursive e p := by
  simp [EntryFault, HasKind, h]

end Entries

/-- What stands in a directory has a longer path. -/
theorem size_lt_of_inside (h : S.Inside directory p) :
    directory.text.utf8ByteSize < p.text.utf8ByteSize := by
  obtain ⟨ns, hlist, n, hn, rfl⟩ := h
  have hnames : S.names directory.components = .ok ns := by
    unfold list at hlist
    split_ifs at hlist
    exact hlist
  obtain ⟨hne, hslash⟩ := S.isName hnames n hn
  exact Path.size_lt_join directory hne hslash

/-- A directory whose path is too long is not listed. -/
theorem list_of_size_lt (h : FileTree.maxPathBytes < p.text.utf8ByteSize) :
    ∃ fault, S.list p = .error fault := by
  unfold list
  split_ifs
  · exact ⟨_, rfl⟩
  · exact ⟨_, rfl⟩

/-! ## Surveys -/

/-- Whether the files of a survey have the times and sizes that the snapshot shows. -/
def Tells (S : Snapshot) (s : Survey) : Prop :=
  ∀ f ∈ s.files, ∃ info, S.metadata f.path.components = .ok info ∧ info.kind = .file ∧
    f.modified = max 0 info.modified ∧ f.size = info.size

theorem tells_empty (S : Snapshot) : S.Tells {} :=
  fun _ hf => nomatch hf

/-- Whether a survey gained files with some paths, and some paths that cannot be read. -/
structure Gains (S : Snapshot) (files faults : Path → Prop) (s s' : Survey) : Prop where
  has : ∀ p, s'.has p = true ↔ s.has p = true ∨ ∃ q, files q ∧ q.same p = true
  spelled : ∀ f ∈ s'.files, files f.path ∨ ∃ g ∈ s.files, g.path = f.path
  tells : S.Tells s → S.Tells s'
  mayMiss : ∀ p, s'.mayMiss p = true ↔
    s.mayMiss p = true ∨ ∃ q, faults q ∧ p.startsWith q = true

namespace Gains

variable {files files' faults faults' : Path → Prop} {s s₁ s' : Survey}

theorem refl (S : Snapshot) (s : Survey) : S.Gains (fun _ => False) (fun _ => False) s s where
  has p := by simp
  spelled f hf := Or.inr ⟨f, hf, rfl⟩
  tells := id
  mayMiss p := by simp

theorem trans (h : S.Gains files faults s s₁) (k : S.Gains files' faults' s₁ s') :
    S.Gains (fun p => files p ∨ files' p) (fun p => faults p ∨ faults' p) s s' where
  has p := by simp only [k.has, h.has, or_and_right, exists_or, or_assoc]
  spelled f hf := by
    rcases k.spelled f hf with hfile | ⟨g, hg, hpath⟩
    · exact Or.inl (Or.inr hfile)
    · rw [← hpath]
      exact (h.spelled g hg).imp_left Or.inl
  tells := k.tells ∘ h.tells
  mayMiss p := by simp only [k.mayMiss, h.mayMiss, or_and_right, exists_or, or_assoc]

theorem congr (h : S.Gains files faults s s') (hfiles : ∀ p, files p ↔ files' p)
    (hfaults : ∀ p, faults p ↔ faults' p) : S.Gains files' faults' s s' := by
  obtain rfl : files = files' := funext fun p => propext (hfiles p)
  obtain rfl : faults = faults' := funext fun p => propext (hfaults p)
  exact h

end Gains

/-- A file that is noted is gained. -/
theorem gains_addFile {info : Metadata} (s : Survey) (hfound : S.metadata p.components = .ok info)
    (hkind : info.kind = .file) :
    S.Gains (· = p) (fun _ => False) s (s.addFile ⟨p, max 0 info.modified, info.size⟩) := by
  obtain ⟨f, hadd, hsame, hmodified, hsize, hspelled⟩ : ∃ f : Survey.Found,
      s.addFile ⟨p, max 0 info.modified, info.size⟩ =
        { s with files := Ordered.put Survey.Found.before f s.files } ∧
      f.path.same p = true ∧ f.modified = max 0 info.modified ∧ f.size = info.size ∧
      (f.path = p ∨ ∃ g ∈ s.files, g.path = f.path) := by
    unfold Survey.addFile
    split
    · next g hg =>
        have hpath := List.find?_some hg
        exact ⟨_, rfl, hpath, rfl, rfl, Or.inr ⟨g, List.mem_of_find?_eq_some hg, rfl⟩⟩
    · exact ⟨_, rfl, Path.same_refl p, rfl, rfl, Or.inl rfl⟩
  rw [hadd]
  constructor
  · intro q
    have hfind := Row.find?_put Survey.Found.path f s.files q
    have hany : ∀ files : List Survey.Found, (files.any fun g => g.path.same q) =
        (files.find? fun g => g.path.same q).isSome := fun _ => List.isSome_find?.symm
    change (Ordered.put (Row.before Survey.Found.path) f s.files).any _ = true ↔
      s.files.any _ = true ∨ _
    rw [hany, hany, hfind, Path.same_congr hsame]
    by_cases hq : p.same q = true
    · simp [hq]
    · simp [hq]
  · intro g hg
    rcases Ordered.mem_put hg with rfl | hg
    · exact hspelled
    · exact Or.inr ⟨g, hg, rfl⟩
  · intro htells g hg
    rcases Ordered.mem_put hg with rfl | hg
    · rw [Path.same_iff.1 hsame]
      exact ⟨info, hfound, hkind, hmodified, hsize⟩
    · exact htells g hg
  · simp [Survey.mayMiss]

/-- A path that is noted as unreadable is gained. -/
theorem gains_addUnreadable {q : Path} (S : Snapshot) (s : Survey)
    (hq : q.components = p.components) :
    S.Gains (fun _ => False) (· = p) s (s.addUnreadable q) where
  has p := by simp [Survey.has, Survey.addUnreadable]
  spelled f hf := Or.inr ⟨f, hf, rfl⟩
  tells := id
  mayMiss r := by simp [Survey.mayMiss, Survey.addUnreadable, Path.startsWith, hq]

/-! ## Walks -/

section Walks

variable {inner : Path → Survey → Program Survey} {s s' : Survey} {t : Trace}

/-- What is gained at one entry, when a walk into an inner directory gains what is found from there
on. -/
theorem gains_of_run_addEntry {n : String}
    (hinner : S.HasKind (directory.join ⟨n⟩) .directory →
      ∀ {s s' : Survey} {t : Trace}, Run (inner (directory.join ⟨n⟩) s) t s' → S.Shows t →
        S.Gains (S.HasFile recursive (directory.join ⟨n⟩))
          (S.HasFault recursive (directory.join ⟨n⟩)) s s')
    (h : Run (Survey.addEntry inner recursive directory (S.entry directory n) s) t s')
    (ht : S.Shows t) :
    S.Gains (S.EntryFile recursive (directory.join ⟨n⟩))
      (S.EntryFault recursive (directory.join ⟨n⟩)) s s' := by
  simp only [Survey.addEntry, entry] at h
  generalize directory.join ⟨n⟩ = e at hinner h ⊢
  cases hfound : S.metadata e.components with
  | error fault =>
      rw [hfound] at h
      by_cases hgone : fault = .notFound
      · subst hgone
        obtain ⟨-, rfl⟩ := Run.done_iff.1 h
        apply (Gains.refl S s').congr
        · simp [entryFile_of_error hfound]
        · simp [entryFault_of_error hfound]
      · have hrun : Run (pure (s.addUnreadable e)) t s' := by
          split at h
          · next heq => exact absurd (Except.error.inj heq) hgone
          · exact h
          · next heq => cases heq
        obtain ⟨-, rfl⟩ := Run.done_iff.1 hrun
        apply (gains_addUnreadable S s rfl).congr
        · simp [entryFile_of_error hfound]
        · simp [entryFault_of_error hfound, hgone]
  | ok info =>
      simp only [hfound] at h
      split at h
      · next hdirectory =>
          by_cases hdeep : recursive = true
          · rw [if_pos hdeep] at h
            apply (hinner ⟨info, hfound, hdirectory⟩ h ht).congr
            · simp [entryFile_of_ok hfound, hdirectory, hdeep]
            · simp [entryFault_of_ok hfound, hdirectory, hdeep]
          · rw [if_neg hdeep] at h
            obtain ⟨-, rfl⟩ := Run.done_iff.1 h
            apply (Gains.refl S s').congr
            · simp [entryFile_of_ok hfound, hdirectory, hdeep]
            · simp [entryFault_of_ok hfound, hdeep]
      · next hfile =>
          obtain ⟨-, rfl⟩ := Run.done_iff.1 h
          apply (gains_addFile s hfound hfile).congr
          · simp [entryFile_of_ok hfound, hfile]
          · simp [entryFault_of_ok hfound, hfile]
      · next hnodirectory hnofile =>
          have hdirectory : info.kind ≠ .directory := hnodirectory
          have hfile : info.kind ≠ .file := hnofile
          obtain ⟨-, rfl⟩ := Run.done_iff.1 h
          apply (Gains.refl S s').congr
          · simp [entryFile_of_ok hfound, hdirectory, hfile]
          · simp [entryFault_of_ok hfound, hdirectory]

/-- What is gained at the entries of a directory is gained at one of them, or is the end of the
directory that cannot be read. -/
theorem gains_of_run_addEntries {ns : List String} (hp : directory.text.toList ≠ [])
    (hinner : ∀ n ∈ ns, S.HasKind (directory.join ⟨n⟩) .directory →
      ∀ {s s' : Survey} {t : Trace}, Run (inner (directory.join ⟨n⟩) s) t s' → S.Shows t →
        S.Gains (S.HasFile recursive (directory.join ⟨n⟩))
          (S.HasFault recursive (directory.join ⟨n⟩)) s s')
    (h : Run (Survey.addEntries inner recursive directory (ns.map (S.entry directory) ++
      if S.breaksOff directory.components then [remainder] else []) s) t s')
    (ht : S.Shows t) :
    S.Gains (fun p => ∃ n ∈ ns, S.EntryFile recursive (directory.join ⟨n⟩) p)
      (fun p => (S.breaksOff directory.components = true ∧ p = directory) ∨
        ∃ n ∈ ns, S.EntryFault recursive (directory.join ⟨n⟩) p) s s' := by
  induction ns generalizing s t with
  | nil =>
      rw [List.map_nil, List.nil_append] at h
      by_cases hbreaks : S.breaksOff directory.components = true
      · rw [if_pos hbreaks] at h
        obtain ⟨-, rfl⟩ := Run.done_iff.1 h
        apply (gains_addUnreadable S s (Path.components_join_dot hp)).congr
        · simp
        · simp [hbreaks]
      · rw [if_neg hbreaks] at h
        obtain ⟨-, rfl⟩ := Run.done_iff.1 h
        apply (Gains.refl S s').congr
        · simp
        · simp [hbreaks]
  | cons n ns ih =>
      rw [List.map_cons, List.cons_append, Survey.addEntries_cons] at h
      obtain ⟨u, middle, v, rfl, hfirst, hrest⟩ := Run.bind_iff.1 h
      obtain ⟨hu, hv⟩ := shows_append.1 ht
      have hgain := gains_of_run_addEntry (hinner n List.mem_cons_self) hfirst hu
      have hgains := ih (fun n' hn' => hinner n' (List.mem_cons_of_mem n hn')) hrest hv
      apply (hgain.trans hgains).congr
      · intro p
        simp only [List.mem_cons, exists_eq_or_imp]
      · intro p
        simp only [List.mem_cons, exists_eq_or_imp]
        exact or_left_comm

/-- A directory that is not listed is noted as unreadable, and nothing else is gained from it. -/
theorem gains_of_list_error {fault : FileFault} (h : S.list p = .error fault) (s : Survey) :
    S.Gains (S.HasFile recursive p) (S.HasFault recursive p) s (s.addUnreadable p) := by
  have hinside : ∀ e, ¬S.Inside p e := by
    rintro e ⟨ns, hlist, -⟩
    rw [h] at hlist
    exact nomatch hlist
  apply (gains_addUnreadable S s rfl).congr
  · intro q
    simp [hasFile_iff, hinside]
  · intro q
    simp [hasFault_iff, hinside, h]

/-- A walk through a directory gains what is found from it on.  The depth is never used up: every
name makes the path longer, until it is too long to be listed. -/
theorem gains_of_run_addDirectory {depth : Nat}
    (hdepth : FileTree.maxPathBytes < p.text.utf8ByteSize + depth)
    (h : Run (Survey.addDirectory recursive depth p s) t s') (ht : S.Shows t) :
    S.Gains (S.HasFile recursive p) (S.HasFault recursive p) s s' := by
  induction depth generalizing p s s' t with
  | zero =>
      obtain ⟨fault, hlist⟩ := list_of_size_lt (S := S) hdepth
      obtain ⟨-, rfl⟩ := Run.done_iff.1 h
      exact gains_of_list_error hlist s
  | succ depth ih =>
      obtain ⟨answer, u, rfl, hnext⟩ := Run.ask_iff.1 h
      obtain ⟨hanswer, hu⟩ := List.forall_mem_cons.1 ht
      obtain rfl : answer = S.entries p := hanswer
      cases hlist : S.list p with
      | error fault =>
          have hentries : S.entries p = .error fault := by rw [entries, hlist]; rfl
          rw [hentries] at hnext
          obtain ⟨-, rfl⟩ := Run.done_iff.1 hnext
          exact gains_of_list_error hlist s
      | ok ns =>
          have hentries : S.entries p = .ok (ns.map (S.entry p) ++
              if S.breaksOff p.components then [remainder] else []) := by
            rw [entries, hlist]
            rfl
          rw [hentries] at hnext
          have hp : p.text.toList ≠ [] := by
            intro hempty
            rw [list, if_pos hempty] at hlist
            exact nomatch hlist
          have hinner : ∀ n ∈ ns, S.HasKind (p.join ⟨n⟩) .directory →
              ∀ {s s' : Survey} {t : Trace},
                Run (Survey.addDirectory recursive depth (p.join ⟨n⟩) s) t s' → S.Shows t →
                S.Gains (S.HasFile recursive (p.join ⟨n⟩)) (S.HasFault recursive (p.join ⟨n⟩))
                  s s' := by
            intro n hn _ s s' t hrun hshows
            have hlonger := size_lt_of_inside ⟨ns, hlist, n, hn, rfl⟩
            exact ih (by omega) hrun hshows
          apply (gains_of_run_addEntries hp hinner hnext hu).congr
          · intro q
            rw [hasFile_iff, exists_inside_iff hlist]
          · intro q
            rw [hasFault_iff, exists_inside_iff hlist]
            simp [hlist]

/-- A look at directories finds the files that stand in them, with their times and sizes, and the
paths that cannot be read of them. -/
theorem gains_of_run_addDirectories {directories : List Path}
    (h : Run (Survey.addDirectories recursive directories s) t s') (ht : S.Shows t) :
    S.Gains (fun p => ∃ d ∈ directories, S.HasFile recursive d p)
      (fun p => ∃ d ∈ directories, S.HasFault recursive d p) s s' := by
  induction directories generalizing s t with
  | nil =>
      obtain ⟨-, rfl⟩ := Run.done_iff.1 h
      apply (Gains.refl S s').congr
      · simp
      · simp
  | cons directory rest ih =>
      obtain ⟨u, middle, v, rfl, hfirst, hrest⟩ := Run.bind_iff.1 h
      obtain ⟨hu, hv⟩ := shows_append.1 ht
      have hdepth : FileTree.maxPathBytes < directory.text.utf8ByteSize + Survey.maxDepth := by
        have hmax : FileTree.maxPathBytes < Survey.maxDepth := by decide
        omega
      have hgain := gains_of_run_addDirectory hdepth hfirst hu
      apply (hgain.trans (ih hrest hv)).congr
      · intro p
        simp only [List.mem_cons, exists_eq_or_imp]
      · intro p
        simp only [List.mem_cons, exists_eq_or_imp]

end Walks

end Snapshot

end Courier
