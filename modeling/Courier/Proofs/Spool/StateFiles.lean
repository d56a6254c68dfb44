import Courier.Proofs.Files.Places
import Courier.Proofs.Spool.StoredConfiguration

/-!
# The files of accepted spools

Every spool keeps what it knows in a status file and marks that it runs by a lock, whose name is
that of the status file with more text at its end.  A configuration is only accepted when no two
status files are the same path.  This keeps the files apart when they are spelled in the same way
and none is named like a lock.  It does not when they are not: `a` and `./a` are one file.

Main definitions:

- `Configuration.places` are the places of all status files and locks.

Main statements:

- Whatever the configuration, the places are pairwise different when those of the status files are,
  and no status file is a lock (`Configuration.nodup_places_iff`).
- In an accepted configuration whose status files are spelled in the same way, no two of all these
  files are one (`Configuration.nodup_places_of_load`).
-/

namespace Courier

open Program

/-! ## Status files and locks -/

namespace Job

/-- The end of the names of locks. -/
def lockEnd : List Char :=
  ['.', 'c', 'h', 'k']

/-- Whether a status file stands at a place that is named like a lock. -/
def IsNamedLikeLock (current : Place) (j : Job) : Prop :=
  ∃ name ∈ (j.statusFile.place current).getLast?, lockEnd <:+ name.toList

instance (current : Place) (j : Job) : Decidable (j.IsNamedLikeLock current) :=
  inferInstanceAs (Decidable (∃ name ∈ (j.statusFile.place current).getLast?,
    lockEnd <:+ name.toList))

variable {i j : Job} {current : Place}

/-- The lock stands beside the status file or in it. -/
theorem exists_placed_lock (current : Place) (j : Job) :
    ∃ (base : Place) (last : List Char),
      j.statusFile.place current =
        Path.placeOf base (Path.Component.ofPart? (String.ofList last)).toList ∧
      j.lockFile.place current = base ++ [String.ofList (last ++ lockEnd)] := by
  obtain ⟨base, last, hstatus, hlonger⟩ := Path.exists_placed current j.statusFile
  exact ⟨base, last, hstatus, hlonger ".chk" (by decide) (by decide)⟩

/-- Jobs with one lock have one status file. -/
theorem place_statusFile_of_lock (h : i.lockFile.place current = j.lockFile.place current) :
    i.statusFile.place current = j.statusFile.place current := by
  obtain ⟨base, last, hi, hilock⟩ := exists_placed_lock current i
  obtain ⟨base', last', hj, hjlock⟩ := exists_placed_lock current j
  rw [hilock, hjlock] at h
  obtain ⟨rfl, hname⟩ := List.append_inj' h rfl
  have hchars := congrArg String.toList (List.singleton_inj.1 hname)
  rw [String.toList_ofList, String.toList_ofList] at hchars
  rw [hi, hj, List.append_cancel_right hchars]

/-- The lock of a job is not its status file. -/
theorem place_statusFile_ne_lock : j.statusFile.place current ≠ j.lockFile.place current := by
  obtain ⟨base, last, hstatus, hlock⟩ := exists_placed_lock current j
  rw [hstatus, hlock]
  intro heq
  cases hpart : Path.Component.ofPart? (String.ofList last) with
  | none =>
      rw [hpart] at heq
      have hlength := congrArg List.length heq
      simp [Path.placeOf] at hlength
  | some c =>
      rw [hpart] at heq
      unfold Path.Component.ofPart? at hpart
      split at hpart
      · cases hpart
      · split at hpart
        · cases hpart
          have hlength := congrArg List.length heq
          simp only [Path.placeOf, Path.Component.follow, Option.toList_some, List.foldl_cons,
            List.foldl_nil, List.length_dropLast, List.length_append, List.length_singleton]
            at hlength
          omega
        · cases hpart
          obtain ⟨-, hname⟩ := List.append_inj' heq rfl
          have hchars := congrArg String.toList (List.singleton_inj.1 hname)
          rw [String.toList_ofList, String.toList_ofList] at hchars
          have hlength := congrArg List.length hchars
          simp [lockEnd] at hlength

/-- A status file that is a lock is named like one. -/
theorem isNamedLikeLock_of_place (h : i.statusFile.place current = j.lockFile.place current) :
    i.IsNamedLikeLock current := by
  obtain ⟨base, last, -, hlock⟩ := exists_placed_lock current j
  refine ⟨String.ofList (last ++ lockEnd), ?_, ?_⟩
  · rw [h, hlock, List.getLast?_concat]
    rfl
  · rw [String.toList_ofList]
    exact List.suffix_append last lockEnd

end Job

/-! ## Configurations -/

namespace Configuration

/-- The places of the status files and locks of all jobs. -/
def places (current : Place) (jobs : List Job) : List Place :=
  jobs.flatMap fun j => [j.statusFile.place current, j.lockFile.place current]

variable {current : Place} {jobs : List Job}

theorem mem_places {place : Place} :
    place ∈ places current jobs ↔
      ∃ j ∈ jobs, place = j.statusFile.place current ∨ place = j.lockFile.place current := by
  simp [places]

/-- The places are pairwise different when those of the status files are, and no status file is a
lock. -/
theorem nodup_places_iff :
    (places current jobs).Nodup ↔
      (jobs.map fun j => j.statusFile.place current).Nodup ∧
        ∀ i ∈ jobs, ∀ j ∈ jobs, i.statusFile.place current ≠ j.lockFile.place current := by
  induction jobs with
  | nil => simp [places]
  | cons j jobs ih =>
      have hown : j.statusFile.place current ≠ j.lockFile.place current :=
        Job.place_statusFile_ne_lock
      have hcons : places current (j :: jobs) =
          j.statusFile.place current :: j.lockFile.place current :: places current jobs := rfl
      rw [hcons, List.nodup_cons, List.nodup_cons, List.map_cons, List.nodup_cons, ih]
      simp only [List.mem_cons, mem_places, List.mem_map, forall_eq_or_imp, not_or]
      constructor
      · rintro ⟨⟨-, hstatus⟩, hlock, hnodup, hrest⟩
        refine ⟨⟨?_, hnodup⟩, ⟨hown, ?_⟩, ?_⟩
        · rintro ⟨i, hi, heq⟩
          exact hstatus ⟨i, hi, Or.inl heq.symm⟩
        · intro i hi heq
          exact hstatus ⟨i, hi, Or.inr heq⟩
        · intro i hi
          refine ⟨?_, hrest i hi⟩
          intro heq
          exact hlock ⟨i, hi, Or.inl heq.symm⟩
      · rintro ⟨⟨hstatus, hnodup⟩, ⟨-, hlocks⟩, hrest⟩
        refine ⟨⟨hown, ?_⟩, ?_, hnodup, fun i hi => (hrest i hi).2⟩
        · rintro ⟨i, hi, heq | heq⟩
          · exact hstatus ⟨i, hi, heq.symm⟩
          · exact hlocks i hi heq
        · rintro ⟨i, hi, heq | heq⟩
          · exact (hrest i hi).1 heq.symm
          · exact hstatus ⟨i, hi, (Job.place_statusFile_of_lock heq).symm⟩

/-! ## Accepted configurations -/

/-- No two status files of accepted jobs are the same path. -/
theorem pairwise_of_run_checkJobs {used : List Path} {t : Trace}
    (h : Run (checkJobs used jobs) t (.ok ())) :
    (∀ p ∈ used, ∀ j ∈ jobs, p.same j.statusFile = false) ∧
      jobs.Pairwise fun i j => i.statusFile.same j.statusFile = false := by
  induction jobs generalizing used t with
  | nil =>
      refine ⟨fun p _ => List.forall_mem_nil _, List.Pairwise.nil⟩
  | cons j jobs ih =>
      rw [checkJobs] at h
      obtain ⟨u, checked, v, rfl, -, hrest⟩ := Run.bind_iff.1 h
      cases checked with
      | error fault =>
          obtain ⟨-, hfault⟩ := Run.done_iff.1 hrest
          cases hfault
      | ok =>
          dsimp only at hrest
          split at hrest
          · obtain ⟨-, hfault⟩ := Run.done_iff.1 hrest
            cases hfault
          · next hfresh =>
              obtain ⟨hused, hpairwise⟩ := ih hrest
              rw [List.forall_mem_cons] at hused
              have hunused : ∀ p ∈ used, p.same j.statusFile = false := by
                simpa using hfresh
              refine ⟨?_, List.Pairwise.cons hused.1 hpairwise⟩
              intro p hp
              rw [List.forall_mem_cons]
              exact ⟨hunused p hp, hused.2 p hp⟩

theorem pairwise_of_run_load {machine : String} {p : Path} {t : Trace} {c : Configuration}
    (h : Run (load machine p) t (.ok c)) :
    c.jobs.Pairwise fun i j => i.statusFile.same j.statusFile = false := by
  obtain ⟨u, text, v, rfl, -, hread⟩ := Run.bind_iff.1 h
  cases text with
  | error fault =>
      obtain ⟨-, hfault⟩ := Run.done_iff.1 hread
      cases hfault
  | ok text =>
      dsimp only at hread
      split at hread
      · obtain ⟨-, hfault⟩ := Run.done_iff.1 hread
        cases hfault
      · obtain ⟨u, checked, v, rfl, hcheck, hend⟩ := Run.bind_iff.1 hread
        cases checked with
        | error fault =>
            obtain ⟨-, hfault⟩ := Run.done_iff.1 hend
            cases hfault
        | ok =>
            obtain ⟨-, hc⟩ := Run.done_iff.1 hend
            cases hc
            unfold check at hcheck
            split at hcheck
            · obtain ⟨-, hfault⟩ := Run.done_iff.1 hcheck
              cases hfault
            · exact (pairwise_of_run_checkJobs hcheck).2

/-- In an accepted configuration, no status file or lock of a spool is one of another spool, when
the status files are spelled in the same way and none is named like a lock. -/
theorem nodup_places_of_load {machine : String} {p : Path} {t : Trace} {c : Configuration}
    (h : Run (load machine p) t (.ok c)) (current : Place)
    (hplain : ∀ j ∈ c.jobs, j.statusFile.IsPlain)
    (halike : ∀ i ∈ c.jobs, ∀ j ∈ c.jobs, i.statusFile.BeginsAlike j.statusFile)
    (hnames : ∀ j ∈ c.jobs, ¬ j.IsNamedLikeLock current) :
    (places current c.jobs).Nodup := by
  rw [nodup_places_iff]
  constructor
  · rw [List.Nodup, List.pairwise_map]
    have hdifferent := pairwise_of_run_load h
    refine hdifferent.imp_of_mem ?_
    intro i j hi hj hsame hplace
    have hsame' := Path.same_of_place (hplain i hi) (hplain j hj) (halike i hi j hj) hplace
    cases hsame.symm.trans hsame'
  · intro i hi j hj hplace
    exact hnames i hi (Job.isNamedLikeLock_of_place hplace)

theorem nodup_places_of_load_twoSpools : (places ["srv"] twoSpools.complete.jobs).Nodup := by
  obtain ⟨t, hload, -⟩ := accepts_twoSpools.exists_run
  exact nodup_places_of_load hload ["srv"] (by decide) (by decide) (by decide)

end Configuration

end Courier
