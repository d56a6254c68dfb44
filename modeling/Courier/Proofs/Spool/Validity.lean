import Courier.Proofs.Session.Conduct
import Courier.Spool.Configuration

/-!
# What makes jobs valid

A job is checked field by field, and a configuration job by job, before anything is watched.  All
that is asked of the file system is what the status files and stop files lead to, so the verdict is
told by the fields and by these answers.

Main definitions:

- `Exchange.Sees` says that an exchange tells what a path leads to as it is.
- `Job.IsValid` and `Configuration.IsValid` say what is wanted of a job and of a configuration.

Main statements:

- A job is accepted exactly when it is valid (`Job.yields_check`), and so is a configuration
  (`Configuration.yields_check`).
-/

namespace Courier

open Program

variable {info : Path → Except FileFault Metadata}

/-! ## What paths lead to -/

/-- Whether an exchange tells what a path leads to as it is. -/
def Exchange.Sees (info : Path → Except FileFault Metadata) : Exchange → Prop
  | ⟨.files (.metadata p), answer⟩ => answer = info p
  | _ => True

/-- Whether a path leads to a directory. -/
def LeadsToDirectory (info : Path → Except FileFault Metadata) (p : Path) : Prop :=
  ∃ found, info p = .ok found ∧ found.kind = .directory

/-- Whether a path can be the name of a file. -/
structure IsFileName (info : Path → Except FileFault Metadata) (p : Path) : Prop where
  isEmpty : p.isEmpty = false
  not_directory : ¬ LeadsToDirectory info p

/-- The answer to whether a path leads to a directory is right. -/
theorem yields_isDirectory (info : Path → Except FileFault Metadata) (p : Path) :
    Yields (Exchange.Sees info) (fun b => b = true ↔ LeadsToDirectory info p)
      (Files.isDirectory p) := by
  apply yields_ask
  intro answer hanswer
  have hinfo : answer = info p := hanswer
  unfold LeadsToDirectory
  rw [← hinfo]
  cases answer with
  | error fault =>
      apply yields_done
      simp
  | ok found =>
      apply yields_done
      simp

/-- A check that comes first and refuses what is not wanted anyway. -/
theorem yields_guard {c Wanted : Prop} [Decidable c] {A : Exchange → Prop} {fault : SpoolFault}
    {p : Program (Except SpoolFault Unit)} (hbad : c → ¬ Wanted)
    (hrest : ¬ c → Yields A (fun r => r = .ok () ↔ Wanted) p) :
    Yields A (fun r => r = .ok () ↔ Wanted) (if c then .done (.error fault) else p) := by
  by_cases hc : c
  · rw [if_pos hc]
    apply yields_done
    have hnot := hbad hc
    simp [hnot]
  · rw [if_neg hc]
    exact hrest hc

/-! ## Jobs -/

namespace Job

/-- Whether a job makes sense, given what paths lead to. -/
structure IsValid (info : Path → Except FileFault Metadata) (j : Job) : Prop where
  directories : j.directories ≠ []
  hosts : j.hosts ≠ []
  rule : j.rule ≠ ""
  elapse : j.elapseMs ≠ 0
  elapseObserver : j.elapseObserverMs ≠ 0
  statusFile : IsFileName info j.statusFile
  stopFile : IsFileName info j.stopFile
  filter : j.checkFilter = .ok ()

/-- A path is bad exactly when it cannot be the name of a file. -/
theorem yields_isBadFile (info : Path → Except FileFault Metadata) (p : Path) :
    Yields (Exchange.Sees info) (fun b => b = false ↔ IsFileName info p) (isBadFile p) := by
  unfold isBadFile
  by_cases hempty : p.isEmpty = true
  · rw [if_pos hempty]
    apply yields_done
    constructor
    · intro hfalse
      cases hfalse
    · intro hname
      rw [hname.isEmpty] at hempty
      cases hempty
  · rw [if_neg hempty]
    have hnonempty : p.isEmpty = false := by simpa using hempty
    refine Yields.imp (yields_isDirectory info p) ?_
    intro b hb
    constructor
    · intro hfalse
      refine ⟨hnonempty, ?_⟩
      rw [← hb, hfalse]
      exact Bool.false_ne_true
    · intro hname
      rw [← Bool.not_eq_true, hb]
      exact hname.not_directory

/-- The files of a job and its filter are accepted exactly when they are fine. -/
theorem yields_checkFiles (info : Path → Except FileFault Metadata) (j : Job) :
    Yields (Exchange.Sees info)
      (fun r => r = .ok () ↔
        IsFileName info j.statusFile ∧ IsFileName info j.stopFile ∧ j.checkFilter = .ok ())
      j.checkFiles := by
  apply yields_bind (yields_isBadFile info j.statusFile)
  intro badStatus hstatus
  cases badStatus with
  | true =>
      apply yields_done
      simp [← hstatus]
  | false =>
      apply yields_bind (yields_isBadFile info j.stopFile)
      intro badStop hstop
      cases badStop with
      | true =>
          apply yields_done
          simp [← hstop]
      | false =>
          apply yields_done
          simp [hstatus.1 rfl, hstop.1 rfl]

/-- A job is accepted exactly when it is valid. -/
theorem yields_check (info : Path → Except FileFault Metadata) (j : Job) :
    Yields (Exchange.Sees info) (fun r => r = .ok () ↔ j.IsValid info) j.check := by
  unfold check
  apply yields_guard
  · intro hempty hvalid
    exact hvalid.directories (List.isEmpty_iff.1 hempty)
  intro hdirectories
  apply yields_guard
  · intro hempty hvalid
    exact hvalid.hosts (List.isEmpty_iff.1 hempty)
  intro hhosts
  apply yields_guard
  · intro hempty hvalid
    exact hvalid.rule (eq_of_beq hempty)
  intro hrule
  apply yields_guard
  · intro hzero hvalid
    rw [Bool.or_eq_true, beq_iff_eq, beq_iff_eq] at hzero
    exact hzero.elim hvalid.elapse hvalid.elapseObserver
  intro hintervals
  apply Yields.imp (yields_checkFiles info j)
  intro r hr
  rw [hr]
  constructor
  · rintro ⟨hstatus, hstop, hfilter⟩
    rw [Bool.or_eq_true, beq_iff_eq, beq_iff_eq, not_or] at hintervals
    exact
      { directories := fun hnil => hdirectories (List.isEmpty_iff.2 hnil)
        hosts := fun hnil => hhosts (List.isEmpty_iff.2 hnil)
        rule := fun hnil => hrule (beq_iff_eq.2 hnil)
        elapse := hintervals.1
        elapseObserver := hintervals.2
        statusFile := hstatus
        stopFile := hstop
        filter := hfilter }
  · intro hvalid
    exact ⟨hvalid.statusFile, hvalid.stopFile, hvalid.filter⟩

/-- To check the files of a job, nothing but what they lead to is asked. -/
theorem asks_checkFiles {P : Request → Prop} (hP : ∀ p, P (.files (.metadata p))) (j : Job) :
    Asks P j.checkFiles := by
  have hbad : ∀ p, Asks P (isBadFile p) := by
    intro p
    unfold isBadFile
    split
    · exact asks_done _
    · apply asks_bind (asks_perform (hP p))
      intro answer
      cases answer <;> exact asks_done _
  apply asks_bind (hbad j.statusFile)
  intro badStatus
  split
  · exact asks_done _
  apply asks_bind (hbad j.stopFile)
  intro badStop
  split <;> exact asks_done _

theorem asks_check {P : Request → Prop} (hP : ∀ p, P (.files (.metadata p))) (j : Job) :
    Asks P j.check := by
  unfold check
  split
  · exact asks_done _
  split
  · exact asks_done _
  split
  · exact asks_done _
  split
  · exact asks_done _
  · exact j.asks_checkFiles hP

end Job

/-! ## Configurations -/

namespace Configuration

/-- Whether a configuration makes sense, given what paths lead to. -/
structure IsValid (info : Path → Except FileFault Metadata) (c : Configuration) : Prop where
  jobs : c.jobs ≠ []
  valid : ∀ j ∈ c.jobs, j.IsValid info
  /-- No two jobs name the same status file. -/
  apart : c.jobs.Pairwise fun i j => i.statusFile.same j.statusFile = false

/-- Jobs are accepted exactly when each of them is valid and their status files are new. -/
theorem yields_checkJobs (info : Path → Except FileFault Metadata) (used : List Path)
    (jobs : List Job) :
    Yields (Exchange.Sees info)
      (fun r => r = .ok () ↔
        (∀ j ∈ jobs, j.IsValid info) ∧
          (∀ p ∈ used, ∀ j ∈ jobs, p.same j.statusFile = false) ∧
            jobs.Pairwise fun i j => i.statusFile.same j.statusFile = false)
      (checkJobs used jobs) := by
  induction jobs generalizing used with
  | nil =>
      apply yields_done
      simp
  | cons j jobs ih =>
      apply yields_bind (j.yields_check info)
      intro checked hchecked
      cases checked with
      | error fault =>
          apply yields_done
          have hinvalid : ¬ j.IsValid info := by
            rw [← hchecked]
            rintro ⟨⟩
          simp [hinvalid]
      | ok _ =>
          have hvalid : j.IsValid info := hchecked.1 rfl
          apply yields_guard
          · intro hused
            obtain ⟨p, hp, hsame⟩ := List.any_eq_true.1 hused
            rintro ⟨-, hnew, -⟩
            have hother := hnew p hp j List.mem_cons_self
            rw [hsame] at hother
            cases hother
          · intro hused
            have hnew : ∀ p ∈ used, p.same j.statusFile = false := by
              simpa using hused
            apply Yields.imp (ih (j.statusFile :: used))
            intro r hr
            rw [hr]
            simp only [List.forall_mem_cons, List.pairwise_cons]
            constructor
            · rintro ⟨hvalids, ⟨hfirst, hrest⟩, hpairs⟩
              exact ⟨⟨hvalid, hvalids⟩, fun p hp => ⟨hnew p hp, hrest p hp⟩, hfirst, hpairs⟩
            · rintro ⟨⟨-, hvalids⟩, hrest, hfirst, hpairs⟩
              exact ⟨hvalids, ⟨hfirst, fun p hp => (hrest p hp).2⟩, hpairs⟩

/-- A configuration is accepted exactly when it is valid. -/
theorem yields_check (info : Path → Except FileFault Metadata) (c : Configuration) :
    Yields (Exchange.Sees info) (fun r => r = .ok () ↔ c.IsValid info) c.check := by
  unfold check
  apply yields_guard
  · intro hempty hvalid
    exact hvalid.jobs (List.isEmpty_iff.1 hempty)
  intro hjobs
  apply Yields.imp (yields_checkJobs info [] c.jobs)
  intro r hr
  rw [hr]
  constructor
  · rintro ⟨hvalid, -, hapart⟩
    exact ⟨fun hnil => hjobs (List.isEmpty_iff.2 hnil), hvalid, hapart⟩
  · intro hvalid
    exact ⟨hvalid.valid, List.forall_mem_nil _, hvalid.apart⟩

/-- To check a configuration, nothing but what paths lead to is asked. -/
theorem asks_check {P : Request → Prop} (hP : ∀ p, P (.files (.metadata p)))
    (c : Configuration) : Asks P c.check := by
  have hjobs : ∀ (jobs : List Job) (used : List Path), Asks P (checkJobs used jobs) := by
    intro jobs
    induction jobs with
    | nil => exact fun _ => asks_done _
    | cons j jobs ih =>
        intro used
        apply asks_bind (j.asks_check hP)
        intro checked
        cases checked with
        | error fault => exact asks_done _
        | ok _ =>
            dsimp only
            split
            · exact asks_done _
            · exact ih _
  unfold check
  split
  · exact asks_done _
  · exact hjobs c.jobs []

end Configuration

end Courier
