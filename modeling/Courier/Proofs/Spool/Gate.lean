import Courier.Files.Tree
import Courier.Proofs.Spool.Ending
import Courier.Proofs.Spool.Exclusion
import Courier.Proofs.Spool.Winding

/-!
# The gate of a watch

A watch passes six checks before it looks at its directories.  Either it is turned away by one of
them, and then it has done nothing but to remove the lock that it found, or to try in vain to write
its own; or it has the lock, and then it runs until somebody stops it, ends well and removes the
lock.

Main definitions:

- `Watch.Chapter` is a stretch in the life of a watch, and `Watch.Lives` its life up to any moment.
- `Watch.TurnedAway` is what is true of a watch that was turned away or waits for the lock, and
  `Watch.RunsThrough` what is true of one that has the lock.

Main statements:

- A watch is turned away when a check fails, and runs through when none does
  (`Watch.turnedAway_or_runsThrough`).
- A lock that cannot be written may leave directories behind
  (`Watch.directory_left_behind`).
-/

namespace Courier

open Program Calendar

namespace Watch

/-! ## Lives -/

/-- A stretch in the life of a watch: its beginning, or what came of an event. -/
structure Chapter where
  event : Option Event
  trace : Trace
  started : List (Nat × Task)

/-- All that a watch has asked for. -/
def story (chapters : List Chapter) : Trace :=
  chapters.flatMap Chapter.trace

/-- Whether the event of a chapter makes the watch halt. -/
def Chapter.Halts (stopFile : Path) (c : Chapter) : Prop :=
  ∃ e, c.event = some e ∧ e.Halts stopFile c.trace

/-- The life of a watch up to some moment: it was refused at once, or it has begun and handled
events until it ended. -/
inductive Lives (ctx : Context) (job : Job) : List Chapter → Except Outcome Watch → Prop where
  | refused {now : Nat} {t : Trace} {o : Outcome} (run : Run (start ctx job now) t (.error o)) :
      Lives ctx job [⟨none, t, []⟩] (.error o)
  | begun {now : Nat} {t : Trace} {change : Change} (run : Run (start ctx job now) t (.ok change)) :
      Lives ctx job [⟨none, t, change.2⟩] (.ok change.1)
  | handled {chapters : List Chapter} {w : Watch} {now : Nat} {e : Event} {t : Trace}
      {change : Change} (before : Lives ctx job chapters (.ok w)) (going : w.outcome? = none)
      (run : Run (w.handle now e) t change) :
      Lives ctx job (chapters ++ [⟨some e, t, change.2⟩]) (.ok change.1)

/-- How a life has ended, if it has. -/
def ending? : Except Outcome Watch → Option Outcome
  | .error o => some o
  | .ok w => w.outcome?

/-! ## Two kinds of lives -/

/-- Whether a trace changes nothing, or only removes a file that was there. -/
def RemovesFound (info : Path → Except FileFault Metadata) (file : Path) (t : Trace) : Prop :=
  t = [] ∨ ∃ found answer, info file = .ok found ∧ t = [⟨.files (.remove file), answer⟩]

/-- What is true of a watch that was turned away, or still waits for its lock. -/
structure TurnedAway (info : Path → Except FileFault Metadata) (ctx : Context) (job : Job)
    (chapters : List Chapter) (result : Except Outcome Watch) : Prop where
  /-- It has neither dispatched a file nor informed an observer. -/
  idle : ∀ c ∈ chapters, c.started = []
  /-- It has only looked at files, but for the removal of a lock that was there, and for a failed
  attempt to write the lock. -/
  changes : ∃ removal attempt, (story chapters).changes = removal ++ attempt ∧
    RemovesFound info job.lockFile removal ∧
    (attempt = [] ∨ ((∀ x ∈ attempt, x.FailsToWrite job.lockFile) ∧
      ∃ fault, ending? result = some (failure (SpoolFault.io fault).message)))
  /-- It ends well just when it was told to stop in time and nothing is wrong with the job. -/
  verdict : ∀ o, ending? result = some o → IsVerdict o ∧ (o = success ↔ Admissible info ctx job ∧
    ((info job.stopFile).isOk = true ∨ ∃ c ∈ chapters, c.Halts job.stopFile))
  /-- It does not wait for long. -/
  patience : ending? result = none → ∃ w looks next, result = .ok w ∧
    w.phase = .claiming looks next ∧ 0 < looks ∧
    looks + (chapters.map Chapter.event).count (some .claimTime) = Lock.looks

/-- What is true of a watch that has got its lock. -/
structure RunsThrough (job : Job) (chapters : List Chapter) (w : Watch) : Prop where
  /-- It is in its loop, or has come to an orderly end and removed its lock last. -/
  lasts : w.Lasts job.lockFile (story chapters)
  /-- It goes on until it is told to stop. -/
  halting : w.Halting ↔ ∃ c ∈ chapters, c.Halts job.stopFile
  /-- Then it ends well after finitely many of the events that it awaits. -/
  ends : w.Halting → ∃ bound, ∀ n w', w.Winds n w' →
    n ≤ bound ∧ (w'.phase = .ended success ∨ ∃ e, w'.Awaits e)

section Gate

variable {info : Path → Except FileFault Metadata} {ctx : Context} {job : Job}
  {chapters : List Chapter} {result : Except Outcome Watch} {w : Watch} {now : Nat} {t : Trace}

/-- Nobody who was turned away has written the lock. -/
theorem TurnedAway.not_acquires (h : TurnedAway info ctx job chapters result) :
    ¬ (story chapters).Acquires job.lockFile := by
  intro hacquires
  obtain ⟨x, hx, htouch⟩ := hacquires.changes
  obtain ⟨removal, attempt, hchanges, hremoval, hattempt⟩ := h.changes
  rw [hchanges, List.mem_append] at hx
  rcases hx with hx | hx
  · rcases hremoval with rfl | ⟨found, answer, -, rfl⟩
    · cases hx
    · obtain rfl := List.mem_singleton.1 hx
      rw [Exchange.touch?_remove rfl] at htouch
      cases htouch
  · rcases hattempt with rfl | ⟨hfails, -⟩
    · cases hx
    · rcases hfails x hx with ⟨p, -, hmakes⟩ | ⟨content, fault, rfl⟩
      · obtain ⟨request, answer⟩ := x
        obtain rfl : request = _ := hmakes
        cases htouch
      · rw [Exchange.touch?_write rfl] at htouch
        cases htouch

/-! ## Chapters -/

@[simp] theorem story_append (chapters others : List Chapter) :
    story (chapters ++ others) = story chapters ++ story others :=
  List.flatMap_append

@[simp] theorem story_singleton (c : Chapter) : story [c] = c.trace :=
  List.append_nil c.trace

theorem exists_halts_append {stopFile : Path} {c : Chapter} :
    (∃ d ∈ chapters ++ [c], d.Halts stopFile) ↔
      (∃ d ∈ chapters, d.Halts stopFile) ∨ c.Halts stopFile := by
  simp only [List.mem_append, List.mem_singleton, or_and_right, exists_or, exists_eq_left]

/-- An event halts its chapter just when it halts the watch. -/
theorem halts_event_iff {stopFile : Path} {e : Event} {started : List (Nat × Task)} :
    Chapter.Halts stopFile ⟨some e, t, started⟩ ↔ e.Halts stopFile t := by
  constructor
  · rintro ⟨e', he, hhalts⟩
    cases he
    exact hhalts
  · intro hhalts
    exact ⟨e, rfl, hhalts⟩

/-! ## Before the lock is written -/

/-- What is true of a watch before it has written its lock or was refused it. -/
structure Quiet (info : Path → Except FileFault Metadata) (ctx : Context) (job : Job)
    (chapters : List Chapter) (w : Watch) : Prop where
  passes : Passes info ctx job
  job_eq : w.job = job
  unwanted : w.stopWanted = false
  idle : w.Idle
  started : ∀ c ∈ chapters, c.started = []
  unhalted : ¬ ∃ c ∈ chapters, c.Halts job.stopFile

/-- A watch that is refused the lock was turned away. -/
theorem Quiet.refused {removal attempt : Trace} {cause : String}
    (h : Quiet info ctx job chapters w) (hphase : w.phase = .ended (failure cause))
    (hchanges : (story chapters).changes = removal ++ attempt)
    (hremoval : RemovesFound info job.lockFile removal)
    (hattempt : attempt = [] ∨ ((∀ x ∈ attempt, x.FailsToWrite job.lockFile) ∧
      ∃ fault, cause = (SpoolFault.io fault).message)) :
    TurnedAway info ctx job chapters (.ok w) := by
  have hending : ending? (.ok w) = some (failure cause) := by
    rw [ending?, outcome?, hphase]
  refine ⟨h.started, ⟨removal, attempt, hchanges, hremoval, ?_⟩, ?_, ?_⟩
  · rcases hattempt with hnone | ⟨hfails, fault, rfl⟩
    · exact Or.inl hnone
    · exact Or.inr ⟨hfails, fault, hending⟩
  · intro o ho
    obtain rfl : failure cause = o := Option.some.inj (hending.symm.trans ho)
    refine ⟨Or.inr ⟨cause, rfl⟩, iff_of_false (by rintro ⟨⟩) ?_⟩
    rintro ⟨-, hfound | hhalts⟩
    · rw [h.passes.stopFile] at hfound
      cases hfound
    · exact h.unhalted hhalts
  · intro hnone
    cases hending.symm.trans hnone

/-- A watch that waits for its lock. -/
structure Waiting (info : Path → Except FileFault Metadata) (ctx : Context) (job : Job)
    (chapters : List Chapter) (w : Watch) : Prop where
  quiet : Quiet info ctx job chapters w
  removed : RemovesFound info job.lockFile (story chapters).changes
  claiming : ∃ looks next, w.phase = .claiming looks next ∧ 0 < looks ∧
    looks + (chapters.map Chapter.event).count (some .claimTime) = Lock.looks

theorem Waiting.going (h : Waiting info ctx job chapters w) : w.outcome? = none := by
  obtain ⟨looks, next, hphase, -⟩ := h.claiming
  rw [outcome?, hphase]

theorem Waiting.turnedAway (h : Waiting info ctx job chapters w) :
    TurnedAway info ctx job chapters (.ok w) where
  idle := h.quiet.started
  changes := ⟨(story chapters).changes, [], (List.append_nil _).symm, h.removed, Or.inl rfl⟩
  verdict := by
    intro o ho
    cases h.going.symm.trans ho
  patience := by
    intro _
    obtain ⟨looks, next, hclaiming⟩ := h.claiming
    exact ⟨w, looks, next, rfl, hclaiming⟩

/-- Where the life of a watch is: before its lock, turned away, or behind the gate. -/
inductive Situation (info : Path → Except FileFault Metadata) (ctx : Context) (job : Job)
    (chapters : List Chapter) : Except Outcome Watch → Prop where
  | waits {w : Watch} (waiting : Waiting info ctx job chapters w) :
      Situation info ctx job chapters (.ok w)
  | away {result : Except Outcome Watch} (ended : ending? result ≠ none)
      (away : TurnedAway info ctx job chapters result) : Situation info ctx job chapters result
  | runs {w : Watch} (passes : Passes info ctx job) (job_eq : w.job = job)
      (acquires : (story chapters).Acquires job.lockFile)
      (place : w.Underway ∨ (w.phase = .ended success ∧ (story chapters).ClosesBy job.lockFile))
      (halting : w.Halting ↔ ∃ c ∈ chapters, c.Halts job.stopFile) :
      Situation info ctx job chapters (.ok w)

/-- A watch that was refused the lock is turned away. -/
theorem situation_of_refused {removal attempt : Trace} {cause : String}
    (h : Quiet info ctx job chapters w) (hphase : w.phase = .ended (failure cause))
    (hchanges : (story chapters).changes = removal ++ attempt)
    (hremoval : RemovesFound info job.lockFile removal)
    (hattempt : attempt = [] ∨ ((∀ x ∈ attempt, x.FailsToWrite job.lockFile) ∧
      ∃ fault, cause = (SpoolFault.io fault).message)) :
    Situation info ctx job chapters (.ok w) := by
  refine .away ?_ (h.refused hphase hchanges hremoval hattempt)
  rw [ending?, outcome?, hphase]
  rintro ⟨⟩

/-- A watch that tries to write the lock runs, or is turned away. -/
theorem situation_of_takes (before : Trace) {c : Lock.Claim}
    (h : Quiet info ctx job chapters w) (hphase : w.phase = phaseAfter job now c)
    (hstory : story chapters = before ++ t)
    (hbefore : RemovesFound info job.lockFile before.changes) (htakes : (lockOf job).Takes t c) :
    Situation info ctx job chapters (.ok w) := by
  cases htakes with
  | written wrote =>
      have hwatching : w.phase = .watching := hphase
      refine .runs h.passes h.job_eq ?_ (Or.inl ⟨?_, ?_, ?_, ?_⟩) ?_
      · rw [hstory, Trace.acquires_append]
        exact Or.inr wrote
      · rw [isInside, hwatching]
      · intro _
        refine ⟨h.idle.1, ?_, ?_⟩ <;> simp [hwatching]
      · rw [h.unwanted]
        rintro ⟨⟩
      · refine resting_of_phase ?_
        rw [hwatching]
        rfl
      · exact iff_of_false (not_halting_of_watching hwatching) h.unhalted
  | @unwritable fault fails =>
      refine situation_of_refused h hphase ?_ hbefore (Or.inr ⟨fails, fault, rfl⟩)
      rw [hstory, Trace.changes_append]

/-- After another chapter that starts nothing and does not halt it, a watch is as quiet. -/
theorem Quiet.next {w' : Watch} {c : Chapter} (h : Quiet info ctx job chapters w)
    (hjob : w'.job = w.job) (hwanted : w'.stopWanted = w.stopWanted)
    (hwaiting : w'.waiting = w.waiting) (hdispatches : w'.dispatches = w.dispatches)
    (hstarted : c.started = []) (hhalts : ¬ c.Halts job.stopFile) :
    Quiet info ctx job (chapters ++ [c]) w' where
  passes := h.passes
  job_eq := hjob.trans h.job_eq
  unwanted := hwanted.trans h.unwanted
  idle := ⟨hwaiting.trans h.idle.1, hdispatches.trans h.idle.2⟩
  started := by
    rw [List.forall_mem_append, List.forall_mem_singleton]
    exact ⟨h.started, hstarted⟩
  unhalted := by
    rw [exists_halts_append]
    rintro (hbefore | hnow)
    · exact h.unhalted hbefore
    · exact hhalts hnow

/-! ## The beginning -/

/-- A beginning does not halt a watch. -/
theorem not_halts_beginning {stopFile : Path} {started : List (Nat × Task)} :
    ¬ Chapter.Halts stopFile ⟨none, t, started⟩ := by
  rintro ⟨e, ⟨⟩, -⟩

/-- A watch that is refused at once has only looked. -/
theorem situation_of_looks {o : Outcome} (hlooks : t.changes = []) (hverdict : IsVerdict o)
    (hsuccess : o = success ↔ Admissible info ctx job ∧ (info job.stopFile).isOk = true) :
    Situation info ctx job [⟨none, t, []⟩] (.error o) := by
  refine .away (by rintro ⟨⟩) ⟨?_, ⟨[], [], ?_, Or.inl rfl, Or.inl rfl⟩, ?_, by rintro ⟨⟩⟩
  · rw [List.forall_mem_singleton]
  · rw [story_singleton]
    exact hlooks
  · rintro _ ⟨⟩
    refine ⟨hverdict, hsuccess.trans (and_congr_right fun _ => (or_iff_left ?_).symm)⟩
    rintro ⟨c, hc, hhalts⟩
    obtain rfl := List.mem_singleton.1 hc
    exact not_halts_beginning hhalts

/-- A watch that claims its lock waits, runs, or is turned away. -/
theorem situation_of_begins {u v : Trace} {c : Lock.Claim} (hlooks : u.changes = [])
    (hpasses : Passes info ctx job) (hbegins : (lockOf job).Begins v c)
    (hsees : ∀ x ∈ v, x.Sees info) (hjob : w.job = job) (hwanted : w.stopWanted = false)
    (hidle : w.Idle) (hphase : w.phase = phaseAfter job now c) :
    Situation info ctx job [⟨none, u ++ v, []⟩] (.ok w) := by
  have hquiet : Quiet info ctx job [⟨none, u ++ v, []⟩] w := by
    refine ⟨hpasses, hjob, hwanted, hidle, ?_, ?_⟩
    · rw [List.forall_mem_singleton]
    · rintro ⟨c, hc, hhalts⟩
      obtain rfl := List.mem_singleton.1 hc
      exact not_halts_beginning hhalts
  have hstory : story [⟨none, u ++ v, []⟩] = u ++ v := story_singleton _
  have hchanges : (story [⟨none, u ++ v, []⟩]).changes = v.changes := by
    rw [hstory, Trace.changes_append, hlooks, List.nil_append]
  have hremoves : ∀ {found : Metadata} {answer : Except FileFault Unit},
      v = [⟨.files (.metadata job.lockFile), .ok found⟩,
        ⟨.files (.remove job.lockFile), answer⟩] →
      RemovesFound info job.lockFile v.changes := by
    rintro found answer rfl
    have hfound : Except.ok found = info job.lockFile := hsees _ List.mem_cons_self
    exact Or.inr ⟨found, answer, hfound.symm, rfl⟩
  cases hbegins with
  | removed =>
      refine .waits ⟨hquiet, ?_, Lock.looks, now + job.elapseMs, hphase, by decide, rfl⟩
      rw [hchanges]
      exact hremoves rfl
  | stuck =>
      refine situation_of_refused hquiet hphase ?_ (hremoves rfl) (Or.inl rfl)
      rw [hchanges, List.append_nil]
  | @free missing v c takes =>
      refine situation_of_takes (u ++ [⟨.files (.metadata job.lockFile), .error missing⟩])
        hquiet hphase ?_ ?_ takes
      · rw [hstory, List.append_assoc]
        rfl
      · rw [Trace.changes_append, hlooks]
        exact Or.inl rfl

/-- A watch that begins is turned away, waits for its lock, or has it. -/
theorem situation_of_opening {opened : Except Outcome Change}
    (h : Opening info ctx job now t opened) :
    (∀ o, opened = .error o → Situation info ctx job [⟨none, t, []⟩] (.error o)) ∧
      ∀ change, opened = .ok change →
        Situation info ctx job [⟨none, t, change.2⟩] (.ok change.1) := by
  cases h with
  | @invalid t cause looks inadmissible =>
      refine ⟨?_, by rintro _ ⟨⟩⟩
      rintro _ ⟨⟩
      refine situation_of_looks looks (Or.inr ⟨cause, rfl⟩) (iff_of_false (by rintro ⟨⟩) ?_)
      exact fun hsound => inadmissible hsound.1
  | stopped looks admissible found =>
      refine ⟨?_, by rintro _ ⟨⟩⟩
      rintro _ ⟨⟩
      exact situation_of_looks looks (Or.inl rfl) (iff_of_true rfl ⟨admissible, found⟩)
  | @missing t cause looks admissible unstopped missing =>
      refine ⟨?_, by rintro _ ⟨⟩⟩
      rintro _ ⟨⟩
      refine situation_of_looks looks (Or.inr ⟨cause, rfl⟩) (iff_of_false (by rintro ⟨⟩) ?_)
      rintro ⟨-, hfound⟩
      cases unstopped.symm.trans hfound
  | claimed looks passes begins sees job_eq unwanted idle phase =>
      refine ⟨by rintro _ ⟨⟩, ?_⟩
      rintro _ ⟨⟩
      exact situation_of_begins looks passes begins sees job_eq unwanted idle phase

/-! ## While it waits -/

/-- An event that is no look for the lock and does not stop a watch that waits leaves it waiting. -/
theorem Waiting.stays {w' : Watch} {e : Event} (h : Waiting info ctx job chapters w)
    (hjob : w'.job = w.job) (hphase : w'.phase = w.phase) (hwanted : w'.stopWanted = w.stopWanted)
    (hwaiting : w'.waiting = w.waiting) (hdispatches : w'.dispatches = w.dispatches)
    (hevent : e ≠ .claimTime) (hhalts : ¬ e.Halts job.stopFile []) :
    Situation info ctx job (chapters ++ [⟨some e, [], []⟩]) (.ok w') := by
  obtain ⟨looks, next, hclaiming, hpos, hcount⟩ := h.claiming
  have hunhalted : ¬ Chapter.Halts job.stopFile ⟨some e, [], []⟩ := by
    rw [halts_event_iff]
    exact hhalts
  have hquiet := h.quiet.next hjob hwanted hwaiting hdispatches rfl hunhalted
  refine .waits ⟨hquiet, ?_, looks, next, ?_, hpos, ?_⟩
  · rw [story_append, story_singleton, List.append_nil]
    exact h.removed
  · rw [hphase, hclaiming]
  · rw [List.map_append, List.count_append, List.map_singleton, List.count_singleton,
      if_neg (by simpa using hevent)]
    exact hcount

/-- A watch that was told to stop while it waited has ended well, and was turned away. -/
theorem situation_of_halted {w' : Watch} {c : Chapter} (h : Waiting info ctx job chapters w)
    (hphase : w'.phase = .ended success) (hstarted : c.started = []) (hlooks : c.trace.changes = [])
    (hhalts : c.Halts job.stopFile) : Situation info ctx job (chapters ++ [c]) (.ok w') := by
  have hending : ending? (.ok w') = some success := by
    rw [ending?, outcome?, hphase]
  refine .away (by rw [hending]; rintro ⟨⟩) ⟨?_, ⟨_, [], ?_, h.removed, Or.inl rfl⟩, ?_, ?_⟩
  · rw [List.forall_mem_append, List.forall_mem_singleton]
    exact ⟨h.quiet.started, hstarted⟩
  · rw [story_append, story_singleton, Trace.changes_append, hlooks]
  · intro o ho
    obtain rfl : success = o := Option.some.inj (hending.symm.trans ho)
    refine ⟨Or.inl rfl, iff_of_true rfl ⟨h.quiet.passes.admissible, Or.inr ?_⟩⟩
    exact ⟨c, List.mem_append_right _ List.mem_cons_self, hhalts⟩
  · intro hnone
    cases hending.symm.trans hnone

/-- A look for the lock ends the wait, or leaves one look less. -/
theorem Waiting.afterLook {change : Change} (h : Waiting info ctx job chapters w)
    (hrun : Run (w.handle now .claimTime) t change) :
    Situation info ctx job (chapters ++ [⟨some .claimTime, t, change.2⟩]) (.ok change.1) := by
  obtain ⟨looks, next, hclaiming, hpos, hcount⟩ := h.claiming
  obtain rfl := h.quiet.job_eq
  simp only [handle, hclaiming] at hrun
  obtain ⟨moment, u, rfl, hpolling⟩ := Run.ask_iff.1 hrun
  obtain ⟨u, c, v, rfl, hpoll, hclaim⟩ := Run.bind_iff.1 hpolling
  obtain ⟨rfl, nextLook, nextInform, rfl⟩ := eq_of_run_claim h.quiet.unwanted hclaim
  rw [List.append_nil]
  have hquiet : ∀ {missing : FileFault} {rest : Trace},
      Quiet info ctx w.job (chapters ++ [⟨some .claimTime, ⟨.now, moment⟩ ::
        ⟨.files (.metadata w.job.stopFile), .error missing⟩ :: rest, []⟩])
        { w with phase := phaseAfter w.job now c, nextLook, nextInform } := by
    intro missing rest
    refine h.quiet.next rfl rfl rfl rfl rfl ?_
    rw [halts_event_iff]
    rintro ⟨-, ⟨⟩⟩
  cases Lock.polls_of_run hpoll with
  | yielded => exact situation_of_halted h rfl rfl rfl (halts_event_iff.2 ⟨rfl, rfl⟩)
  | returned =>
      refine situation_of_refused hquiet rfl ?_ h.removed (Or.inl rfl)
      rw [story_append, story_singleton, Trace.changes_append]
      rfl
  | @last missing missing' u c takes =>
      refine situation_of_takes (story chapters ++ [⟨.now, moment⟩,
        ⟨.files (.metadata w.job.stopFile), .error missing⟩,
        ⟨.files (.metadata w.job.lockFile), .error missing'⟩]) hquiet rfl ?_ ?_ takes
      · rw [story_append, story_singleton, List.append_assoc]
        rfl
      · rw [Trace.changes_append]
        exact (List.append_nil _).symm ▸ h.removed
  | again more =>
      refine .waits ⟨hquiet, ?_, looks - 1, now + w.job.elapseMs, rfl, by omega, ?_⟩
      · rw [story_append, story_singleton, Trace.changes_append]
        exact (List.append_nil _).symm ▸ h.removed
      · rw [List.map_append, List.count_append, List.map_singleton, List.count_singleton_self]
        omega

/-- Whatever happens while a watch waits, it is turned away, waits on, or gets its lock. -/
theorem Waiting.after {e : Event} {change : Change} (h : Waiting info ctx job chapters w)
    (hrun : Run (w.handle now e) t change) :
    Situation info ctx job (chapters ++ [⟨some e, t, change.2⟩]) (.ok change.1) := by
  obtain ⟨looks, next, hclaiming, -⟩ := h.claiming
  have hnothing : e ≠ .claimTime → ¬ e.Halts job.stopFile [] → Run (.done (w, [])) t change →
      Situation info ctx job (chapters ++ [⟨some e, t, change.2⟩]) (.ok change.1) := by
    intro hevent hhalts hdone
    obtain ⟨rfl, rfl⟩ := Run.done_iff.1 hdone
    exact h.stays rfl rfl rfl rfl rfl hevent hhalts
  cases e with
  | claimTime => exact h.afterLook hrun
  | stop =>
      simp only [handle, onStop, hclaiming] at hrun
      obtain ⟨rfl, rfl⟩ := Run.done_iff.1 hrun
      exact situation_of_halted h rfl rfl rfl (halts_event_iff.2 trivial)
  | dispatched task result =>
      simp only [handle, h.quiet.idle.2, List.any_nil] at hrun
      exact hnothing (by rintro ⟨⟩) not_false hrun
  | informed task receipts =>
      simp only [handle, onInformed, hclaiming] at hrun
      split at hrun
      · obtain ⟨rfl, rfl⟩ := Run.done_iff.1 hrun
        exact h.stays rfl hclaiming.symm rfl rfl rfl (by rintro ⟨⟩) not_false
      · exact hnothing (by rintro ⟨⟩) not_false hrun
  | lookTime =>
      simp only [handle, hclaiming] at hrun
      exact hnothing (by rintro ⟨⟩) not_false hrun
  | informTime =>
      simp only [handle, hclaiming] at hrun
      exact hnothing (by rintro ⟨⟩) not_false hrun
  | partTime =>
      simp only [handle, hclaiming] at hrun
      exact hnothing (by rintro ⟨⟩) not_false hrun

/-! ## Behind the gate -/

/-- A life is before its lock, turned away, or behind the gate. -/
theorem situation_of_lives (h : Lives ctx job chapters result)
    (hsees : ∀ c ∈ chapters, c.event = none → ∀ x ∈ c.trace, x.Sees info) :
    Situation info ctx job chapters result := by
  induction h with
  | refused run =>
      exact (situation_of_opening
        (opening_of_run_start run (hsees _ List.mem_cons_self rfl))).1 _ rfl
  | begun run =>
      exact (situation_of_opening
        (opening_of_run_start run (hsees _ List.mem_cons_self rfl))).2 _ rfl
  | @handled chapters w now e t change before going run ih =>
      cases ih fun c hc => hsees c (List.mem_append_left _ hc) with
      | waits waiting => exact waiting.after run
      | away ended away => exact absurd going ended
      | runs passes job_eq acquires place halting =>
          obtain rfl := job_eq
          rcases place with hunderway | ⟨hended, -⟩
          · have hproceeds := proceeds_of_run_handle hunderway run
            have hacquires :
                (story (chapters ++ [⟨some e, t, change.2⟩])).Acquires w.job.lockFile := by
              rw [story_append, Trace.acquires_append]
              exact Or.inl acquires
            refine .runs passes hproceeds.job hacquires ?_ ?_
            · refine (hunderway.after run).imp_right fun hended => ?_
              rw [story_append, story_singleton]
              exact ⟨hended.1, hended.2.after _⟩
            · rw [hproceeds.halting, halting, exists_halts_append, halts_event_iff]
          · rw [outcome?, hended] at going
            cases going

/-- A watch is turned away when a check fails or it does not get its lock, and runs through when it
does. -/
theorem turnedAway_or_runsThrough (h : Lives ctx job chapters result)
    (hsees : ∀ c ∈ chapters, c.event = none → ∀ x ∈ c.trace, x.Sees info) :
    (¬ Passes info ctx job ∨ ¬ (story chapters).Acquires job.lockFile →
      TurnedAway info ctx job chapters result) ∧
    (Passes info ctx job ∧ (story chapters).Acquires job.lockFile →
      ∃ w, result = .ok w ∧ RunsThrough job chapters w) := by
  cases situation_of_lives h hsees with
  | waits waiting =>
      have haway := waiting.turnedAway
      exact ⟨fun _ => haway, fun hgot => absurd hgot.2 haway.not_acquires⟩
  | away ended haway => exact ⟨fun _ => haway, fun hgot => absurd hgot.2 haway.not_acquires⟩
  | @runs w passes job_eq acquires place halting =>
      refine ⟨fun hlost => ?_, fun _ => ⟨w, rfl, ?_, halting, ?_⟩⟩
      · rcases hlost with hfails | hlost
        · exact absurd passes hfails
        · exact absurd acquires hlost
      · exact place.imp_left Underway.inside
      · intro hhalting
        refine Closing.ends (place.imp (fun hunderway => ⟨hunderway, hhalting⟩) And.left)

end Gate

/-! ### A sample -/

section Sample

/-- Run a program in the surroundings of the sample. -/
def playSample {α : Type} (p : Program α) : α × Trace :=
  play (fun _ => Fleet.sampleAnswer false) p

/-- What paths lead to in these surroundings. -/
def sampleInfo (p : Path) : Except FileFault Metadata :=
  Fleet.sampleAnswer false (.files (.metadata p))

/-- The watch of the sample when it has its lock. -/
def enteredWatch : Watch where
  job := Fleet.sampleJob
  monitor := Monitor.ofJob Fleet.sampleJob none (default : Moment).utc.date
  phase := .watching

/-- The watch begins, and is told to stop. -/
def sampleChapters : List Chapter :=
  [⟨none, (playSample (start Fleet.sampleContext Fleet.sampleJob 0)).2, []⟩,
    ⟨some .stop, (playSample (enteredWatch.handle 1 .stop)).2, []⟩]

theorem lives_sample : Lives Fleet.sampleContext Fleet.sampleJob sampleChapters
    (.ok (playSample (enteredWatch.handle 1 .stop)).1.1) := by
  have hstart : Run (start Fleet.sampleContext Fleet.sampleJob 0) _
      (.ok (enteredWatch, [])) := (run_play (fun _ => Fleet.sampleAnswer false) _).1
  have hstop := (run_play (fun _ => Fleet.sampleAnswer false) (enteredWatch.handle 1 .stop)).1
  exact .handled (.begun hstart) rfl hstop

theorem sees_sample : ∀ c ∈ sampleChapters, c.event = none → ∀ x ∈ c.trace, x.Sees sampleInfo := by
  intro c hc hbeginning
  have hfirst : c.trace = (playSample (start Fleet.sampleContext Fleet.sampleJob 0)).2 := by
    rcases List.mem_cons.1 hc with rfl | hc
    · rfl
    · obtain rfl := List.mem_singleton.1 hc
      cases hbeginning
  rw [hfirst]
  refine forall_of_answered (fun _ r => ?_) (run_play (fun _ => Fleet.sampleAnswer false) _).2
  cases r with
  | files op => cases op <;> trivial
  | _ => trivial

/-- It finds no lock, writes its own, is told to stop, and ends. -/
theorem runsThrough_sample : (Passes sampleInfo Fleet.sampleContext Fleet.sampleJob ∧
      (story sampleChapters).Acquires Fleet.sampleJob.lockFile) ∧
    ∃ w, w.phase = .ended success ∧ RunsThrough Fleet.sampleJob sampleChapters w := by
  have hgate := turnedAway_or_runsThrough lives_sample sees_sample
  have hacquires : (story sampleChapters).Acquires Fleet.sampleJob.lockFile := by
    refine ⟨_, List.mem_of_getElem? (i := 9) rfl, rfl⟩
  have hpasses : Passes sampleInfo Fleet.sampleContext Fleet.sampleJob := by
    by_contra hfails
    exact (hgate.1 (Or.inl hfails)).not_acquires hacquires
  obtain ⟨w, hw, hruns⟩ := hgate.2 ⟨hpasses, hacquires⟩
  cases hw
  exact ⟨⟨hpasses, hacquires⟩, _, rfl, hruns⟩

/-! ### A lock that cannot be written -/

/-- Answer what is asked of files by files. -/
def onFiles (r : Request) : StateM FileTree r.Answer :=
  match r with
  | .files op => fun files => files.perform op
  | r => pure (Fleet.sampleAnswer false r)

/-- How the watch of a job has ended after it was begun on files, and the files then. -/
def beginOn (job : Job) (files : FileTree) : Option Outcome × FileTree :=
  let (opened, files) := ((start Fleet.sampleContext job 0).runM onFiles).run files
  (ending? (opened.map Prod.fst), files)

/-- A job whose lock has a name that no file may have. -/
def unwritableJob : Job :=
  { Fleet.sampleJob with statusFile := ⟨"new/s\x00"⟩ }

/-- Files with the directory that the job watches, and nothing else. -/
def watchedFiles : FileTree where
  nodes := [(["in"], .directory 0)]
  current := []
  time := 0

/-- A lock that cannot be written leaves the directory behind that was made for it. -/
theorem directory_left_behind :
    (beginOn unwritableJob watchedFiles).1 =
        some (failure (SpoolFault.io .invalid).message) ∧
      (watchedFiles.metadata ⟨"new"⟩).isOk = false ∧
      ((beginOn unwritableJob watchedFiles).2.metadata ⟨"new"⟩).isOk = true := by
  decide +kernel

end Sample

end Watch

end Courier
