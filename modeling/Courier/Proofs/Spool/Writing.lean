import Courier.Proofs.Session.Conduct
import Courier.Proofs.Spool.Looks
import Courier.Spool.Lock

/-!
# What is written to a file

A watch writes its status file as a whole, and nothing else that it does writes to that file.

Main definitions:

- `Trace.writes` are the contents that a trace has written to a file.
- `Program.Spares` says that a program never writes to a file.

Main statements:

- A look at the directories spares every file (`Monitor.spares_scan`), and a lock all files
  but its own (`Lock.spares_refresh`, `Lock.spares_poll`).
- Saving the status of a monitor writes all that it knows, or nothing
  (`Monitor.saveStatus_cases`).
-/

namespace Courier

open Program Calendar

/-! ## Writes -/

/-- What an exchange has written to a file. -/
def Exchange.written? (p : Path) : Exchange → Option ByteArray
  | ⟨.files (.write q content), result⟩ => if q = p ∧ result.isOk = true then some content else none
  | _ => none

/-- The contents that a trace has written to a file, one after the other. -/
def Trace.writes (p : Path) (t : Trace) : List ByteArray :=
  t.filterMap (Exchange.written? p)

@[simp] theorem Trace.writes_append (p : Path) (t u : Trace) :
    Trace.writes p (t ++ u) = t.writes p ++ u.writes p :=
  List.filterMap_append

/-- Whether a request does not write to a file. -/
def Request.spares (p : Path) : Request → Bool
  | .files (.write q _) => decide (q ≠ p)
  | _ => true

/-- A request that spares a file does not write it. -/
theorem Exchange.written?_of_spares {p : Path} {x : Exchange} (h : x.request.spares p = true) :
    x.written? p = none := by
  rcases x with ⟨r, answer⟩
  cases r with
  | files op =>
      cases op with
      | write q content =>
          have hne : q ≠ p := of_decide_eq_true h
          exact if_neg fun hq => hne hq.1
      | _ => rfl
  | _ => rfl

namespace Program

variable {α : Type} {path : Path}

/-- Whether a program never writes to a file. -/
abbrev Spares (path : Path) (p : Program α) : Prop :=
  p.Asks fun r => r.spares path = true

/-- Nor does a program of such requests. -/
theorem Run.writes_of_spares {p : Program α} {t : Trace} {a : α} (h : Run p t a)
    (hp : p.Spares path) : t.writes path = [] := by
  have hspares := h.request_of_mem hp
  exact List.filterMap_eq_nil_iff.2 fun x hx => Exchange.written?_of_spares (hspares x hx)

theorem spares_pathExists (path p : Path) : Spares path (Files.pathExists p) :=
  asks_bind (asks_perform rfl) fun _ => asks_done _

theorem spares_makeParent (path p : Path) : Spares path (Files.makeParent p) := by
  unfold Files.makeParent
  cases p.parent? with
  | none => exact asks_done _
  | some parent => exact asks_perform rfl

/-- Writing a file writes its whole content, or nothing. -/
theorem writes_of_run_save {text : String} {t : Trace} {result : Except FileFault Unit}
    (h : Run (Files.save path text) t result) :
    (result = .ok () ∧ t.writes path = [text.toUTF8]) ∨
      ∃ fault, result = .error fault ∧ t.writes path = [] := by
  obtain ⟨u, made, v, rfl, hmade, hwrite⟩ := Run.bind_iff.1 h
  have hu := hmade.writes_of_spares (spares_makeParent path path)
  cases made with
  | error fault =>
      obtain ⟨rfl, rfl⟩ := Run.done_iff.1 hwrite
      exact Or.inr ⟨fault, rfl, by simp [hu]⟩
  | ok _ =>
      obtain ⟨answer, w, rfl, hw⟩ := Run.step_iff.1 hwrite
      obtain ⟨rfl, rfl⟩ := Run.done_iff.1 hw
      cases result with
      | error fault =>
          refine Or.inr ⟨fault, rfl, ?_⟩
          rw [Trace.writes_append, hu]
          simp [Trace.writes, Exchange.written?, Except.isOk, Except.toBool]
      | ok _ =>
          refine Or.inl ⟨rfl, ?_⟩
          rw [Trace.writes_append, hu]
          simp [Trace.writes, Exchange.written?, Except.isOk, Except.toBool]

/-- Two programs that can run can run one after the other. -/
theorem exists_run_bind {α β : Type} {p : Program α} {f : α → Program β} (a : α) {b : β}
    (hp : ∃ t, Run p t a) (hf : ∃ t, Run (f a) t b) : ∃ t, Run (p >>= f) t b := by
  obtain ⟨t, hp⟩ := hp
  obtain ⟨u, hf⟩ := hf
  exact ⟨t ++ u, Run.bind_iff.2 ⟨t, a, u, rfl, hp, hf⟩⟩

/-- Writing a file can succeed. -/
theorem exists_run_save (p : Path) (text : String) :
    ∃ t, Run (Files.save p text : Program _) t (.ok ()) := by
  refine exists_run_bind (Except.ok ()) ?_
    ⟨[⟨.files (.write p text.toUTF8), .ok ()⟩], .step (.done _)⟩
  rw [Files.makeParent]
  split
  · exact ⟨[], .done _⟩
  · exact ⟨[⟨.files (.makeDirectories _), .ok ()⟩], .step (.done _)⟩

/-- Writing a file spares all others. -/
theorem spares_save {p : Path} (h : p ≠ path) (text : String) :
    Spares path (Files.save p text) := by
  refine asks_bind (spares_makeParent path p) fun made => ?_
  cases made with
  | error fault => exact asks_done _
  | ok _ => exact asks_perform (decide_eq_true h)

end Program

/-! ## Looks -/

section Looks

variable {P : Request → Prop}

namespace Survey

variable {inner : Path → Survey → Program Survey}

/-- A survey of an entry asks for what is below it. -/
theorem asks_addEntry (hinner : ∀ p s, Asks P (inner p s)) (recursive : Bool) (directory : Path)
    (entry : DirectoryEntry) (s : Survey) :
    Asks P (addEntry inner recursive directory entry s) := by
  simp only [addEntry]
  split
  · exact asks_done _
  · exact asks_done _
  · split
    · split
      · exact hinner _ _
      · exact asks_done _
    · exact asks_done _
    · exact asks_done _

theorem asks_addEntries (hinner : ∀ p s, Asks P (inner p s)) (recursive : Bool)
    (directory : Path) (entries : List DirectoryEntry) (s : Survey) :
    Asks P (addEntries inner recursive directory entries s) := by
  induction entries generalizing s with
  | nil => exact asks_done _
  | cons entry rest ih =>
      rw [addEntries_cons]
      exact asks_bind (asks_addEntry hinner recursive directory entry s) ih

theorem asks_addDirectory (hP : ∀ p, P (.files (.entries p))) (recursive : Bool) (depth : Nat)
    (p : Path) (s : Survey) : Asks P (addDirectory recursive depth p s) := by
  induction depth generalizing p s with
  | zero => exact asks_done _
  | succ depth ih =>
      refine asks_bind (asks_perform (hP p)) fun listed => ?_
      cases listed with
      | error fault => exact asks_done _
      | ok entries => exact asks_addEntries ih recursive p entries s

/-- A survey asks for the entries of directories only. -/
theorem asks_addDirectories (hP : ∀ p, P (.files (.entries p))) (recursive : Bool)
    (directories : List Path) (s : Survey) : Asks P (addDirectories recursive directories s) := by
  induction directories generalizing s with
  | nil => exact asks_done _
  | cons directory rest ih => exact asks_bind (asks_addDirectory hP _ _ _ s) ih

end Survey

namespace Monitor

/-- Digests are taken by reading the files. -/
theorem asks_digestsOf (hP : ∀ p, P (.files (.read p))) (files : List Survey.Found) :
    Asks P (digestsOf files) := by
  induction files with
  | nil => exact asks_done _
  | cons f rest ih =>
      have hdigest : Asks P (Digest.ofFile f.path) := by
        refine asks_bind (asks_perform (hP f.path)) fun bytes => ?_
        cases bytes <;> exact asks_done _
      exact asks_bind hdigest fun _ => asks_bind ih fun _ => asks_done _

/-- A look at the directories only lists directories and reads files. -/
theorem asks_scan (hentries : ∀ p, P (.files (.entries p))) (hread : ∀ p, P (.files (.read p)))
    (m : Monitor) : Asks P m.scan :=
  asks_bind (Survey.asks_addDirectories hentries _ _ _) fun _ =>
    asks_bind (asks_digestsOf hread _) fun _ => asks_done _

end Monitor

end Looks

namespace Monitor

/-- A look at the directories writes no file. -/
theorem spares_scan (path : Path) (m : Monitor) : Spares path m.scan :=
  asks_scan (fun _ => rfl) (fun _ => rfl) m

/-- What a status file holds. -/
def status (m : Monitor) : StatusFile :=
  ⟨m.items, m.counters⟩

/-- Saving the status of a monitor writes all that it knows, or nothing. -/
theorem saveStatus_cases {m : Monitor} {t : Trace} {result : Except FileFault Unit × Monitor}
    (h : Run m.saveStatus t result) :
    (result.2 = { m with dirty := false } ∧
        t.writes m.statusFile = [m.status.toJson.indented.toUTF8]) ∨
      (result.2 = m ∧ t.writes m.statusFile = []) := by
  simp only [saveStatus] at h
  split at h
  · obtain ⟨u, saved, v, rfl, hsave, hend⟩ := Run.bind_iff.1 h
    rcases writes_of_run_save hsave with ⟨rfl, hu⟩ | ⟨fault, rfl, hu⟩
    · obtain ⟨rfl, rfl⟩ := Run.done_iff.1 hend
      exact Or.inl ⟨rfl, by rw [Trace.writes_append, hu]; rfl⟩
    · obtain ⟨rfl, rfl⟩ := Run.done_iff.1 hend
      exact Or.inr ⟨rfl, by rw [Trace.writes_append, hu]; rfl⟩
  · obtain ⟨rfl, rfl⟩ := Run.done_iff.1 h
    exact Or.inr ⟨rfl, rfl⟩

/-- Saving the status of a monitor that has something to save can succeed. -/
theorem exists_run_saveStatus {m : Monitor} (h : m.dirty = true) :
    ∃ t, Run (m.saveStatus : Program _) t (.ok (), { m with dirty := false }) := by
  rw [saveStatus, if_pos h]
  exact exists_run_bind (Except.ok ()) (exists_run_save _ _) ⟨[], .done _⟩

/-- When saving the status of a monitor went well, nothing is left to save. -/
theorem dirty_of_run_saveStatus {m m' : Monitor} {t : Trace}
    (h : Run m.saveStatus t (.ok (), m')) : m'.dirty = false := by
  simp only [saveStatus] at h
  split at h
  · obtain ⟨u, saved, v, rfl, -, hend⟩ := Run.bind_iff.1 h
    cases saved with
    | error fault => exact nomatch (Run.done_iff.1 hend).2
    | ok _ =>
        cases (Run.done_iff.1 hend).2
        rfl
  · next hclean =>
      cases (Run.done_iff.1 h).2
      exact Bool.eq_false_iff.2 hclean

end Monitor

/-! ## Locks -/

namespace Lock

variable {path : Path} {l : Lock}

/-- A lock that is elsewhere is written elsewhere. -/
theorem spares_refresh (h : l.file ≠ path) (now : Moment) : Spares path (l.refresh now) :=
  spares_save h _

theorem spares_release (path : Path) (l : Lock) : Spares path l.release :=
  asks_bind (asks_perform rfl) fun _ => asks_done _

theorem spares_take (h : l.file ≠ path) (now : Moment) : Spares path (l.take now) := by
  refine asks_bind (spares_refresh h now) fun result => ?_
  cases result <;> exact asks_done _

theorem spares_poll (h : l.file ≠ path) (left : Nat) (now : Moment) :
    Spares path (l.poll left now) := by
  refine asks_bind (spares_pathExists path l.stopFile) fun stopped => ?_
  split
  · exact asks_done _
  · refine asks_bind (spares_pathExists path l.file) fun found => ?_
    split
    · exact asks_done _
    · split
      · exact spares_take h now
      · exact asks_done _

end Lock

end Courier
