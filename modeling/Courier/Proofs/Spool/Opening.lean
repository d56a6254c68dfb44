import Courier.Proofs.Spool.Deeds
import Courier.Proofs.Spool.Standing
import Courier.Proofs.Spool.Validity

/-!
# How a watch begins

Six checks come before a watch looks at its directories, in a fixed order: the job, its rule, the
stop file, the directories, the status file and the lock.  The last of them may take a while, and it
is the only one that touches a file.

Main definitions:

- `Watch.Admissible` says that a job makes sense and that its rule can send, `Watch.Passes` that
  nothing keeps it from claiming the lock.
- `Trace.changes` are the exchanges of a trace that do not only look, and `Trace.Acquires` says that
  one of them has written the lock.
- `Lock.Begins` and `Lock.Polls` list what may come of a claim and of a look for the lock.
- `Watch.Opening` lists the ways in which a watch may begin.

Main statements:

- A claim and a look come to one of these (`Lock.begins_of_run`, `Lock.polls_of_run`).
- A watch begins in one of these ways (`Watch.opening_of_run_start`).
-/

namespace Courier

open Program Calendar

/-! ## Changes -/

namespace Trace

/-- The exchanges of a trace that do not only look. -/
def changes (t : Trace) : Trace :=
  t.filter fun x => !x.request.isLook

@[simp] theorem changes_append (t u : Trace) : changes (t ++ u) = changes t ++ changes u :=
  List.filter_append t u

theorem changes_eq_nil_iff {t : Trace} :
    t.changes = [] ↔ ∀ x ∈ t, x.request.isLook = true := by
  simp [changes, List.filter_eq_nil_iff]

/-- Whether a trace has written a lock. -/
def Acquires (lock : Path) (t : Trace) : Prop :=
  ∃ x ∈ t, x.touch? lock = some (.wrote true)

theorem acquires_append {lock : Path} {t u : Trace} :
    Acquires lock (t ++ u) ↔ t.Acquires lock ∨ u.Acquires lock := by
  simp only [Acquires, List.mem_append, or_and_right, exists_or]

/-- Only a change writes a lock. -/
theorem Acquires.changes {lock : Path} {t : Trace} (h : t.Acquires lock) :
    t.changes.Acquires lock := by
  obtain ⟨x, hx, htouch⟩ := h
  refine ⟨x, List.mem_filter.2 ⟨hx, ?_⟩, htouch⟩
  cases hlook : x.request.isLook with
  | false => rfl
  | true =>
      rcases Exchange.touch?_of_isLook lock hlook with hnone | ⟨found, hlooked⟩
      · rw [hnone] at htouch
        cases htouch
      · rw [hlooked] at htouch
        cases htouch

/-- Whether a trace looks for a file first, but for the time, and finds it. -/
def FindsFirst (file : Path) : Trace → Prop
  | ⟨.now, _⟩ :: t => FindsFirst file t
  | ⟨.files (.metadata p), answer⟩ :: _ => p = file ∧ answer.isOk = true
  | _ => False

end Trace

/-- Whether an exchange is part of a failed attempt to write a lock. -/
def Exchange.FailsToWrite (lock : Path) (x : Exchange) : Prop :=
  (∃ p, lock.parent? = some p ∧ x.request = .files (.makeDirectories p)) ∨
    ∃ content fault, x = ⟨.files (.write lock content), .error fault⟩

/-! ## Claims -/

namespace Lock

variable {l : Lock} {now : Moment} {t : Trace} {c : Claim}

/-- What may come of an attempt to write a lock that nobody else holds. -/
inductive Takes (l : Lock) (t : Trace) : Claim → Prop where
  | written (wrote : t.Acquires l.file) : Takes l t .held
  | unwritable {fault : FileFault} (fails : ∀ x ∈ t.changes, x.FailsToWrite l.file) :
      Takes l t (.refused (.io fault))

/-- What may come of a claim. -/
inductive Begins (l : Lock) : Trace → Claim → Prop where
  /-- A lock was found and removed. -/
  | removed {found : Metadata} :
      Begins l [⟨.files (.metadata l.file), .ok found⟩, ⟨.files (.remove l.file), .ok ()⟩]
        (.waiting looks)
  /-- A lock was found that cannot be removed. -/
  | stuck {found : Metadata} {fault : FileFault} :
      Begins l [⟨.files (.metadata l.file), .ok found⟩, ⟨.files (.remove l.file), .error fault⟩]
        (.refused (.io fault))
  /-- No lock was found. -/
  | free {missing : FileFault} {t : Trace} {c : Claim} (takes : Takes l t c) :
      Begins l (⟨.files (.metadata l.file), .error missing⟩ :: t) c

/-- What may come of a look for the lock, with so many looks left. -/
inductive Polls (l : Lock) (left : Nat) : Trace → Claim → Prop where
  /-- The stop file was found. -/
  | yielded {found : Metadata} :
      Polls l left [⟨.files (.metadata l.stopFile), .ok found⟩] .yielded
  /-- The lock has come back. -/
  | returned {missing : FileFault} {found : Metadata} :
      Polls l left [⟨.files (.metadata l.stopFile), .error missing⟩,
        ⟨.files (.metadata l.file), .ok found⟩] (.refused (.alreadyRunning l.file))
  /-- There is no lock, and no look is left. -/
  | last {missing missing' : FileFault} {t : Trace} {c : Claim} (takes : Takes l t c) :
      Polls l left (⟨.files (.metadata l.stopFile), .error missing⟩ ::
        ⟨.files (.metadata l.file), .error missing'⟩ :: t) c
  /-- There is no lock yet. -/
  | again {missing missing' : FileFault} (more : 1 < left) :
      Polls l left [⟨.files (.metadata l.stopFile), .error missing⟩,
        ⟨.files (.metadata l.file), .error missing'⟩] (.waiting (left - 1))

/-- An attempt to write a file makes the directories above it first. -/
theorem takes_of_run (h : Run (l.take now) t c) : Takes l t c := by
  obtain ⟨t', written, v, rfl, hsave, hend⟩ := Run.bind_iff.1 h
  obtain ⟨u, made, w, rfl, hmade, hwrite⟩ := Run.bind_iff.1 hsave
  have hbefore : ∀ x ∈ u, ∃ p, l.file.parent? = some p ∧
      x.request = .files (.makeDirectories p) := by
    unfold Files.makeParent at hmade
    split at hmade
    · obtain ⟨rfl, -⟩ := Run.done_iff.1 hmade
      exact List.forall_mem_nil _
    · next parent hparent =>
        obtain ⟨answer, rest, rfl, hdone⟩ := Run.step_iff.1 hmade
        obtain ⟨rfl, -⟩ := Run.done_iff.1 hdone
        intro x hx
        obtain rfl := List.mem_singleton.1 hx
        exact ⟨parent, hparent, rfl⟩
  cases made with
  | error fault =>
      obtain ⟨rfl, rfl⟩ := Run.done_iff.1 hwrite
      obtain ⟨rfl, rfl⟩ := Run.done_iff.1 hend
      apply Takes.unwritable
      intro x hx
      rw [List.append_nil, List.append_nil] at hx
      exact Or.inl (hbefore x (List.mem_filter.1 hx).1)
  | ok _ =>
      obtain ⟨answer, rest, rfl, hdone⟩ := Run.step_iff.1 hwrite
      obtain ⟨rfl, rfl⟩ := Run.done_iff.1 hdone
      cases written with
      | ok _ =>
          obtain ⟨rfl, rfl⟩ := Run.done_iff.1 hend
          apply Takes.written
          have htouch : ∀ content, Exchange.touch? l.file
              ⟨.files (.write l.file content), .ok ()⟩ = some (.wrote true) :=
            fun _ => Exchange.touch?_write rfl
          exact ⟨_, List.mem_append_left _ (List.mem_append_right u List.mem_cons_self), htouch _⟩
      | error fault =>
          obtain ⟨rfl, rfl⟩ := Run.done_iff.1 hend
          apply Takes.unwritable
          intro x hx
          have hmem := (List.mem_filter.1 hx).1
          rw [List.append_nil, List.mem_append, List.mem_singleton] at hmem
          rcases hmem with hmem | rfl
          · exact Or.inl (hbefore x hmem)
          · exact Or.inr ⟨_, fault, rfl⟩

/-- A claim comes to one of its ends. -/
theorem begins_of_run (h : Run (l.begin now) t c) : Begins l t c := by
  obtain ⟨u, found, v, rfl, hexists, hrest⟩ := Run.bind_iff.1 h
  obtain ⟨answer, w, rfl, hdone⟩ := Run.ask_iff.1 hexists
  obtain ⟨rfl, rfl⟩ := Run.done_iff.1 hdone
  cases answer with
  | error missing => exact .free (takes_of_run hrest)
  | ok found =>
      obtain ⟨u, removed, v, rfl, hremove, hend⟩ := Run.bind_iff.1 hrest
      obtain ⟨answer, w, rfl, hdone⟩ := Run.step_iff.1 hremove
      obtain ⟨rfl, rfl⟩ := Run.done_iff.1 hdone
      cases removed with
      | error fault =>
          obtain ⟨rfl, rfl⟩ := Run.done_iff.1 hend
          exact .stuck
      | ok _ =>
          obtain ⟨rfl, rfl⟩ := Run.done_iff.1 hend
          exact .removed

/-- A look for the lock comes to one of its ends. -/
theorem polls_of_run {left : Nat} (h : Run (l.poll left now) t c) : Polls l left t c := by
  obtain ⟨u, stopped, v, rfl, hstop, hrest⟩ := Run.bind_iff.1 h
  obtain ⟨answer, w, rfl, hdone⟩ := Run.ask_iff.1 hstop
  obtain ⟨rfl, rfl⟩ := Run.done_iff.1 hdone
  cases answer with
  | ok found =>
      obtain ⟨rfl, rfl⟩ := Run.done_iff.1 hrest
      exact .yielded
  | error missing =>
      obtain ⟨u, found, v, rfl, hexists, hlooked⟩ := Run.bind_iff.1 hrest
      obtain ⟨answer, w, rfl, hdone⟩ := Run.ask_iff.1 hexists
      obtain ⟨rfl, rfl⟩ := Run.done_iff.1 hdone
      cases answer with
      | ok found =>
          obtain ⟨rfl, rfl⟩ := Run.done_iff.1 hlooked
          exact .returned
      | error missing' =>
          by_cases hlast : left ≤ 1
          · simp only [Except.isOk, Except.toBool, Bool.false_eq_true, if_false,
              if_pos hlast] at hlooked
            exact .last (takes_of_run hlooked)
          · simp only [Except.isOk, Except.toBool, Bool.false_eq_true, if_false,
              if_neg hlast] at hlooked
            obtain ⟨rfl, rfl⟩ := Run.done_iff.1 hlooked
            exact .again (Nat.lt_of_not_le hlast)

end Lock

namespace Watch

variable {info : Path → Except FileFault Metadata} {ctx : Context} {job : Job} {now : Nat}

/-! ## What is checked before -/

/-- Whether a job makes sense and its rule can send. -/
structure Admissible (info : Path → Except FileFault Metadata) (ctx : Context) (job : Job) :
    Prop where
  valid : job.IsValid info
  rule : ∃ rule, ctx.rules.resolve job.rule = .ok rule ∧ rule.canSend = true

/-- Whether nothing keeps a watch from claiming its lock. -/
structure Passes (info : Path → Except FileFault Metadata) (ctx : Context) (job : Job) :
    Prop where
  admissible : Admissible info ctx job
  stopFile : (info job.stopFile).isOk = false
  directories : ∀ d ∈ job.directories, LeadsToDirectory info d

/-- A job is accepted with its rule exactly when it is admissible. -/
theorem yields_check (info : Path → Except FileFault Metadata) (ctx : Context) (job : Job) :
    Yields (Exchange.Sees info) (fun r => r = .ok () ↔ Admissible info ctx job)
      (check ctx job) := by
  apply yields_bind (job.yields_check info)
  intro checked hchecked
  cases checked with
  | error fault =>
      apply yields_done
      constructor
      · intro hok
        cases hok
      · intro hadmissible
        cases hchecked.2 hadmissible.valid
  | ok _ =>
      have hvalid := hchecked.1 rfl
      dsimp only
      split
      · next fault hresolve =>
          apply yields_done
          constructor
          · intro hok
            cases hok
          · intro hadmissible
            obtain ⟨rule, hrule, -⟩ := hadmissible.rule
            cases hresolve.symm.trans hrule
      · next rule hresolve =>
          by_cases hsends : rule.canSend = true
          · rw [if_pos hsends]
            apply yields_done
            exact ⟨fun _ => ⟨hvalid, rule, hresolve, hsends⟩, fun _ => rfl⟩
          · rw [if_neg hsends]
            apply yields_done
            constructor
            · intro hok
              cases hok
            · intro hadmissible
              obtain ⟨other, hrule, hother⟩ := hadmissible.rule
              cases hresolve.symm.trans hrule
              exact absurd hother hsends

theorem yields_pathExists (info : Path → Except FileFault Metadata) (p : Path) :
    Yields (Exchange.Sees info) (fun found => found = (info p).isOk) (Files.pathExists p) := by
  apply yields_ask
  intro answer hanswer
  have hinfo : answer = info p := hanswer
  rw [← hinfo]
  exact yields_done rfl

/-- No directory is missing exactly when all of them are there. -/
theorem yields_firstMissing (info : Path → Except FileFault Metadata) (directories : List Path) :
    Yields (Exchange.Sees info)
      (fun missing => missing = none ↔ ∀ d ∈ directories, LeadsToDirectory info d)
      (firstMissing directories) := by
  induction directories with
  | nil =>
      apply yields_done
      simp
  | cons d rest ih =>
      apply yields_bind (yields_isDirectory info d)
      intro found hfound
      cases found with
      | true =>
          apply Yields.imp ih
          intro missing hmissing
          rw [hmissing, List.forall_mem_cons]
          exact ⟨fun hrest => ⟨hfound.1 rfl, hrest⟩, And.right⟩
      | false =>
          apply yields_done
          constructor
          · intro hnone
            cases hnone
          · intro hall
            cases hfound.2 (hall d List.mem_cons_self)

/-- The monitor of a job whose filter can be read is loaded, whatever its status file holds. -/
theorem exists_of_run_load {today : Date} {zone : Zone} {t : Trace} {r : Except SpoolFault Monitor}
    (hfilter : job.checkFilter = .ok ()) (h : Run (Monitor.load job today zone) t r) :
    ∃ m, r = .ok m := by
  have hparsed : ∃ filter, job.filter.mapM Regex.parse = .ok filter := by
    unfold Job.checkFilter at hfilter
    cases hpattern : job.filter with
    | none => exact ⟨none, rfl⟩
    | some pattern =>
        rw [hpattern] at hfilter
        cases hparse : Regex.parse pattern with
        | error fault =>
            simp [hparse] at hfilter
        | ok regex =>
            refine ⟨some regex, ?_⟩
            rw [Option.mapM_some, hparse]
            rfl
  obtain ⟨filter, hfilter⟩ := hparsed
  simp only [Monitor.load, hfilter] at h
  obtain ⟨u, state, v, -, -, hend⟩ := Run.bind_iff.1 h
  cases state with
  | none => exact ⟨_, (Run.done_iff.1 hend).2⟩
  | some state => exact ⟨_, (Run.done_iff.1 hend).2⟩

/-! ## After a look for the lock -/

/-- What a watch is at after a claim, or a look for the lock. -/
def phaseAfter (job : Job) (now : Nat) : Lock.Claim → Phase
  | .held => .watching
  | .waiting looks => .claiming looks (now + job.elapseMs)
  | .yielded => .ended success
  | .refused fault => .ended (failure fault.message)

/-- Nobody has wanted the watch to stop, so it goes on by the claim alone. -/
theorem eq_of_run_claim {w : Watch} {c : Lock.Claim} {t : Trace} {change : Change}
    (hw : w.stopWanted = false) (h : Run (w.claim c now) t change) :
    t = [] ∧ ∃ nextLook nextInform,
      change = ({ w with phase := phaseAfter w.job now c, nextLook, nextInform }, []) := by
  cases c with
  | held =>
      simp only [claim, resume, hw, Bool.false_eq_true, if_false] at h
      obtain ⟨rfl, rfl⟩ := Run.done_iff.1 h
      refine ⟨rfl, now, now, ?_⟩
      rw [hw]
      rfl
  | _ =>
      obtain ⟨rfl, rfl⟩ := Run.done_iff.1 h
      exact ⟨rfl, w.nextLook, w.nextInform, rfl⟩

/-! ## Beginnings -/

/-- The ways in which a watch may begin, given what paths lead to. -/
inductive Opening (info : Path → Except FileFault Metadata) (ctx : Context) (job : Job)
    (now : Nat) : Trace → Except Outcome Change → Prop where
  /-- The job makes no sense, or its rule cannot send. -/
  | invalid {t : Trace} {cause : String} (looks : t.changes = [])
      (inadmissible : ¬ Admissible info ctx job) :
      Opening info ctx job now t (.error (failure cause))
  | stopped {t : Trace} (looks : t.changes = []) (admissible : Admissible info ctx job)
      (found : (info job.stopFile).isOk = true) : Opening info ctx job now t (.error success)
  /-- A directory is missing. -/
  | missing {t : Trace} {cause : String} (looks : t.changes = [])
      (admissible : Admissible info ctx job) (unstopped : (info job.stopFile).isOk = false)
      (missing : ¬ ∀ d ∈ job.directories, LeadsToDirectory info d) :
      Opening info ctx job now t (.error (failure cause))
  | claimed {u v : Trace} {w : Watch} {c : Lock.Claim} (looks : u.changes = [])
      (passes : Passes info ctx job) (begins : (lockOf job).Begins v c)
      (sees : ∀ x ∈ v, x.Sees info) (job_eq : w.job = job) (unwanted : w.stopWanted = false)
      (idle : w.Idle) (phase : w.phase = phaseAfter job now c) :
      Opening info ctx job now (u ++ v) (.ok (w, []))

/-- Looks that come before make no difference. -/
theorem Opening.after_looks {t u : Trace} {result : Except Outcome Change}
    (hu : u.changes = []) (h : Opening info ctx job now t result) :
    Opening info ctx job now (u ++ t) result := by
  have hlooks : ∀ t : Trace, t.changes = [] → (u ++ t).changes = [] := by
    intro t ht
    rw [Trace.changes_append, hu, ht, List.append_nil]
  cases h with
  | invalid looks inadmissible => exact .invalid (hlooks _ looks) inadmissible
  | stopped looks admissible found => exact .stopped (hlooks _ looks) admissible found
  | missing looks admissible unstopped missing =>
      exact .missing (hlooks _ looks) admissible unstopped missing
  | claimed looks passes begins sees job_eq unwanted idle phase =>
      rw [← List.append_assoc]
      exact .claimed (hlooks _ looks) passes begins sees job_eq unwanted idle phase

theorem changes_of_looks {α : Type} {p : Program α} {t : Trace} {a : α} (h : Run p t a)
    (hp : Asks (fun r => r.isLook = true) p) : t.changes = [] :=
  Trace.changes_eq_nil_iff.2 (h.request_of_mem hp)

theorem opening_of_run_begin {zone : Zone} {t : Trace} {result : Except Outcome Change}
    (hpasses : Passes info ctx job) (h : Run (begin zone job now) t result)
    (ht : ∀ x ∈ t, x.Sees info) : Opening info ctx job now t result := by
  obtain ⟨moment, u, rfl, hloading⟩ := Run.ask_iff.1 h
  obtain ⟨u, loaded, v, rfl, hload, hrest⟩ := Run.bind_iff.1 hloading
  obtain ⟨m, rfl⟩ := exists_of_run_load hpasses.admissible.valid.filter hload
  obtain ⟨moment', v, rfl, hlocking⟩ := Run.ask_iff.1 hrest
  obtain ⟨v, c, v', rfl, hbegin, hclaiming⟩ := Run.bind_iff.1 hlocking
  obtain ⟨v', change, x, rfl, hclaim, hend⟩ := Run.bind_iff.1 hclaiming
  obtain ⟨rfl, rfl⟩ := Run.done_iff.1 hend
  obtain ⟨rfl, nextLook, nextInform, rfl⟩ := eq_of_run_claim rfl hclaim
  have hlooks : Trace.changes (⟨.now, moment⟩ :: u ++ [⟨.now, moment'⟩]) = [] := by
    have hu := changes_of_looks hload (isLook_load job _ _)
    rw [Trace.changes_eq_nil_iff] at hu ⊢
    intro x hx
    rcases List.mem_append.1 hx with hx | hx
    · rcases List.mem_cons.1 hx with rfl | hx
      · rfl
      · exact hu x hx
    · obtain rfl := List.mem_singleton.1 hx
      rfl
  have hsplit : (⟨.now, moment⟩ : Exchange) :: (u ++ ⟨.now, moment'⟩ :: (v ++ ([] ++ []))) =
      (⟨.now, moment⟩ :: u ++ [⟨.now, moment'⟩]) ++ v := by
    simp
  rw [hsplit] at ht ⊢
  refine .claimed hlooks hpasses (Lock.begins_of_run hbegin) ?_ rfl rfl ⟨rfl, rfl⟩ rfl
  exact fun x hx => ht x (List.mem_append_right _ hx)

/-- A watch begins in one of these ways. -/
theorem opening_of_run_start {t : Trace} {result : Except Outcome Change}
    (h : Run (start ctx job now) t result) (ht : ∀ x ∈ t, x.Sees info) :
    Opening info ctx job now t result := by
  obtain ⟨u, checked, v, rfl, hcheck, hrest⟩ := Run.bind_iff.1 h
  rw [List.forall_mem_append] at ht
  have hu := changes_of_looks hcheck (isLook_check ctx job)
  have hchecked := (yields_check info ctx job).value hcheck ht.1
  cases checked with
  | error fault =>
      obtain ⟨rfl, rfl⟩ := Run.done_iff.1 hrest
      rw [List.append_nil]
      refine .invalid hu ?_
      rw [← hchecked]
      rintro ⟨⟩
  | ok _ =>
      have hadmissible := hchecked.1 rfl
      obtain ⟨v, stopped, v', rfl, hstop, hlooking⟩ := Run.bind_iff.1 hrest
      rw [List.forall_mem_append] at ht
      have hv := changes_of_looks hstop (isLook_pathExists _)
      have hstopped := (yields_pathExists info job.stopFile).value hstop ht.2.1
      cases stopped with
      | true =>
          obtain ⟨rfl, rfl⟩ := Run.done_iff.1 hlooking
          rw [List.append_nil]
          refine .stopped ?_ hadmissible hstopped.symm
          rw [Trace.changes_append, hu, hv, List.append_nil]
      | false =>
          obtain ⟨v', missing, z, rfl, hdirectories, hbegin⟩ := Run.bind_iff.1 hlooking
          rw [List.forall_mem_append] at ht
          have hv' := changes_of_looks hdirectories (isLook_firstMissing _)
          have hmissing := (yields_firstMissing info job.directories).value hdirectories ht.2.2.1
          have hlooks : (u ++ (v ++ v')).changes = [] := by
            rw [Trace.changes_append, Trace.changes_append, hu, hv, hv']
            rfl
          cases missing with
          | some p =>
              obtain ⟨rfl, rfl⟩ := Run.done_iff.1 hbegin
              rw [List.append_nil]
              refine .missing hlooks hadmissible hstopped.symm ?_
              rw [← hmissing]
              rintro ⟨⟩
          | none =>
              have hpasses : Passes info ctx job := ⟨hadmissible, hstopped.symm, hmissing.1 rfl⟩
              have hopening := opening_of_run_begin hpasses hbegin ht.2.2.2
              have hafter := hopening.after_looks hlooks
              rw [List.append_assoc, List.append_assoc] at hafter
              exact hafter

end Watch

end Courier
