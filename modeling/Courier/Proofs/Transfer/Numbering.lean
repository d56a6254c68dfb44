import Courier.Proofs.Transfer.Durability

/-!
# Numbers over the life of a ledger file

A ledger file is opened, used and closed again and again.  While it is open the numbers of new
transfers only rise.  The next number is not stored, though: each opening takes it from the
records that the file still has.  So a number can come again, but only when the record that had
it was deleted, and the file was then opened while no record in it had that number or a higher
one.

Main definitions:

- `LedgerFile.Opening` is what was done with a file from its opening to its closing, and
  `LedgerFile.live` is a life of openings.
- `LedgerFile.Chained` says that each opening finds the records that the one before it left.

Main statements:

- A record stays until a turn deletes it (`History.isSome_find?`, `LedgerFile.Chained.isSome_find?`).
- Every life on a disk is chained (`LedgerFile.chained_live`).
- Numbers rise within an opening, and one that comes again has lost its record
  (`LedgerFile.numbers_of_live`).
-/

namespace Courier

variable {l l' : Ledger} {key : Record.Key} {r s : Record} {t : Turn} {turns : List Turn}

/-! ## Records that stay -/

theorem Ledger.find?_congr (h : l.records = l'.records) : l.find? key = l'.find? key := by
  simp only [find?, h]

/-- A record that is there is there after a step that does not take it out. -/
theorem Ledger.Step.isSome_find? {op : Ledger.Op} {answer : op.Answer}
    (h : Ledger.Step l op answer l') (hfound : (l.find? key).isSome) (hop : op ≠ .delete key) :
    (l'.find? key).isSome := by
  have hput : ∀ r, ((l.put r).find? key).isSome := by
    intro r
    by_cases hkey : key = r.key
    · rw [hkey, find?_put_self]
      rfl
    · rwa [find?_put_of_ne l hkey]
  cases h with
  | kept => exact hfound
  | @entered _ _ r next => exact hput r
  | @replaced _ _ stored r => exact hput r
  | taken other =>
      have hne : key ≠ other := fun heq => hop (heq ▸ rfl)
      rwa [find?_erase_of_ne l hne]

theorem Turn.Follows.isSome_find? (h : t.Follows l) (hl : l.Sound)
    (hfound : (l.find? key).isSome) (hkept : ¬ t.Deletes key) : (t.after.find? key).isSome := by
  by_cases hfault : t.fault? = none
  · exact (h.step hl).isSome_find? hfound fun hop => hkept ⟨hop, hfault⟩
  · rwa [h.eq_of_fault hl hfault]

/-- A record stays while no turn deletes it. -/
theorem History.isSome_find? (h : History l turns) (hl : l.Sound)
    (hfound : (l.find? key).isSome) (hkept : ∀ t ∈ turns, ¬ t.Deletes key) :
    ((tableAfter l turns).find? key).isSome := by
  induction turns generalizing l with
  | nil => exact hfound
  | cons t turns ih =>
      have hnext := h.1.isSome_find? hl hfound (hkept t List.mem_cons_self)
      exact ih h.2 ((h.1.step hl).sound hl) hnext fun t' ht' =>
        hkept t' (List.mem_cons_of_mem t ht')

/-! ## Numbers of new records -/

/-- A new record has the next number, and is in the table. -/
theorem Turn.Follows.issued (h : t.Follows l) (hissued : t.issued? = some r) :
    r.specialId = l.freshId ∧ t.after.find? r.key = some r := by
  rcases t with ⟨op, answer, after⟩
  cases op with
  | create d now =>
      rcases h.created with ⟨rfl, rfl⟩ | ⟨fault, rfl⟩
      · obtain rfl : (l.create d now).1 = r := Option.some.inj hissued
        exact ⟨rfl, Ledger.find?_put_self _ _⟩
      · simp [issued?] at hissued
  | _ => simp [issued?] at hissued

/-- New records have the next number of the table or a higher one. -/
theorem History.freshId_le_issued (h : History l turns) (hl : l.Sound)
    (hs : s ∈ turns.filterMap Turn.issued?) : l.freshId ≤ s.specialId := by
  induction turns generalizing l with
  | nil => simp at hs
  | cons t turns ih =>
      have hstep := h.1.step hl
      obtain ⟨t', hmem, hissued⟩ := List.mem_filterMap.1 hs
      rcases List.mem_cons.1 hmem with rfl | hmem
      · exact Int.le_of_eq (h.1.issued hissued).1.symm
      · have hrest := ih h.2 (hstep.sound hl) (List.mem_filterMap.2 ⟨t', hmem, hissued⟩)
        exact Int.le_trans hstep.freshId_le hrest

/-- The numbers of new records rise from turn to turn. -/
theorem History.pairwise_issued (h : History l turns) (hl : l.Sound) :
    (turns.filterMap Turn.issued?).Pairwise fun r s => r.specialId < s.specialId := by
  induction turns generalizing l with
  | nil => exact List.Pairwise.nil
  | cons t turns ih =>
      have hafter := (h.1.step hl).sound hl
      cases hissued : t.issued? with
      | none =>
          rw [List.filterMap_cons_none hissued]
          exact ih h.2 hafter
      | some r =>
          rw [List.filterMap_cons_some hissued]
          refine List.pairwise_cons.2 ⟨fun s hs => ?_, ih h.2 hafter⟩
          exact Int.lt_of_lt_of_le (h.1.issued_lt hissued) (h.2.freshId_le_issued hafter hs)

namespace LedgerFile

/-! ## Lives -/

/-- What was done with a ledger file from its opening to its closing. -/
structure Opening where
  /-- The table that was read from the file. -/
  start : Ledger
  turns : List Turn

namespace Opening

/-- The table at the closing. -/
def last (o : Opening) : Ledger :=
  tableAfter o.start o.turns

/-- Whether a new record was given out between some turns and others. -/
def Issues (o : Opening) (pre : List Turn) (r : Record) (post : List Turn) : Prop :=
  ∃ t, o.turns = pre ++ t :: post ∧ t.issued? = some r

end Opening

section

variable {σ : Type} [Files (StateM σ)]

/-- Open the ledger at a path, perform some operations and close it.  Nothing is done with a
file that cannot be opened. -/
def useOnce (path : Path) (ops : List Ledger.Op) : StateM σ (Option Opening) := do
  match ← openAt path with
  | .error _ => return none
  | .ok f =>
      let (turns, _) ← (Store.file f).play ops
      return some ⟨f.table, turns⟩

/-- Use the ledger at a path again and again, and tell the openings. -/
def live (path : Path) : List (List Ledger.Op) → StateM σ (List Opening)
  | [] => return []
  | ops :: later => do
      let opening ← useOnce path ops
      let openings ← live path later
      return opening.toList ++ openings

end

/-- Whether openings of one file follow each other: each finds the records that the one before it
left. -/
def Chained : List Record → List Opening → Prop
  | _, [] => True
  | records, o :: later =>
      o.start.records = records ∧ o.start.Sound ∧ History o.start o.turns ∧
        Chained o.last.records later

namespace Chained

variable {records : List Record} {o : Opening} {before mid later : List Opening}

theorem of_append (h : Chained records (before ++ later)) : ∃ left, Chained left later := by
  induction before generalizing records with
  | nil => exact ⟨records, h⟩
  | cons o before ih => exact ih h.2.2.2

/-- A record is found at an opening when it was there once and no turn since has deleted it. -/
theorem isSome_find? (h : Chained l.records (mid ++ o :: later)) (hfound : (l.find? key).isSome)
    (hkept : ∀ t ∈ mid.flatMap Opening.turns, ¬ t.Deletes key) :
    (o.start.find? key).isSome := by
  induction mid generalizing l with
  | nil =>
      obtain ⟨hrecords, -⟩ := h
      rwa [Ledger.find?_congr hrecords]
  | cons first mid ih =>
      obtain ⟨hrecords, hsound, hhistory, hlater⟩ := h
      have hstart : (first.start.find? key).isSome := by rwa [Ledger.find?_congr hrecords]
      have hlast : (first.last.find? key).isSome := by
        refine hhistory.isSome_find? hsound hstart fun t ht => hkept t ?_
        exact List.mem_flatMap.2 ⟨first, List.mem_cons_self, ht⟩
      refine ih hlater hlast fun t ht => hkept t ?_
      rw [List.flatMap_cons]
      exact List.mem_append_right _ ht

/-- A number that is not above an earlier one comes after an opening that found no record of that
number or a higher one, and the record of the earlier one was deleted in between. -/
theorem deleted_of_le {first : Opening} {pre post pre' post' : List Turn}
    (h : Chained records (first :: (mid ++ o :: later))) (hr : first.Issues pre r post)
    (hs : o.Issues pre' s post') (hle : s.specialId ≤ r.specialId) :
    (∀ x ∈ o.start.records, x.specialId < s.specialId) ∧
      ∃ t ∈ post ++ mid.flatMap Opening.turns, t.Deletes r.key := by
  obtain ⟨-, hsound, hhistory, hlater⟩ := h
  obtain ⟨t, hturns, hissued⟩ := hr
  obtain ⟨t', hturns', hissued'⟩ := hs
  obtain ⟨left, hchain⟩ := of_append hlater
  obtain ⟨-, hsound', hhistory', -⟩ := hchain
  have hfresh : o.start.freshId ≤ s.specialId := by
    refine hhistory'.freshId_le_issued hsound' (List.mem_filterMap.2 ⟨t', ?_, hissued'⟩)
    simp [hturns']
  have hbelow : ∀ x ∈ o.start.records, x.specialId < s.specialId := fun x hx =>
    Int.lt_of_lt_of_le (hsound'.below x hx) hfresh
  refine ⟨hbelow, ?_⟩
  by_contra hnone
  have hkept : ∀ d ∈ post ++ mid.flatMap Opening.turns, ¬ d.Deletes r.key := fun d hd hdel =>
    hnone ⟨d, hd, hdel⟩
  rw [hturns, History.append_iff] at hhistory
  obtain ⟨hpre, hturn, hpost⟩ := hhistory
  have hbefore := hpre.sound hsound _ (History.tableAfter_mem_tables _ _)
  have hafter := (hturn.step hbefore).sound hbefore
  have hthere : (first.last.find? r.key).isSome := by
    have hnew : (t.after.find? r.key).isSome := by rw [(hturn.issued hissued).2]; rfl
    have hlast := hpost.isSome_find? hafter hnew fun d hd => hkept d (List.mem_append_left _ hd)
    rw [Opening.last, hturns, History.tableAfter_append]
    exact hlast
  have hstill := isSome_find? hlater hthere fun d hd => hkept d (List.mem_append_right _ hd)
  obtain ⟨x, hx⟩ := Option.isSome_iff_exists.1 hstill
  have hlt := hbelow x (Ledger.mem_of_find? hx)
  rw [Record.specialId, Ledger.key_of_find? hx] at hlt
  exact absurd hle (Int.not_le.2 hlt)

end Chained

/-! ## Lives on a disk -/

variable {path : Path} (D : Disk path)

/-- A file that could not be opened keeps its content. -/
theorem content_of_openAt_error {s s' : D.State} {fault : TransferFault}
    (h : (openAt path : StateM D.State _).run s = (.error fault, s')) :
    D.content s' = D.content s := by
  obtain ⟨-, hkept⟩ := loadRecords_eq D s
  simp only [openAt, run_bind] at h
  cases hload : ((loadRecords path : StateM D.State _).run s).1 with
  | error fault' =>
      rw [hload] at h
      rwa [show s' = ((loadRecords path : StateM D.State _).run s).2 from (congrArg Prod.snd h).symm]
  | ok records =>
      rw [hload] at h
      exact absurd (congrArg Prod.fst h) (by simp)

theorem content_of_useOnce_none {ops : List Ledger.Op} {s s' : D.State}
    (hrun : (useOnce path ops : StateM D.State _).run s = (none, s')) :
    D.content s' = D.content s := by
  simp only [useOnce, run_bind] at hrun
  rcases hopen : (openAt path : StateM D.State _).run s with ⟨result, s₁⟩
  rw [hopen] at hrun
  cases result with
  | error fault =>
      obtain rfl : s₁ = s' := congrArg Prod.snd hrun
      exact content_of_openAt_error D hopen
  | ok f => exact absurd (congrArg Prod.fst hrun) (by simp)

/-- An opening starts with the records of the file, and leaves those of its last table there. -/
theorem follows_of_useOnce {ops : List Ledger.Op} {s s' : D.State} {o : Opening}
    (hrun : (useOnce path ops : StateM D.State _).run s = (some o, s'))
    (hops : ∀ op ∈ ops, op.Fits)
    (hids : ∀ l ∈ tables o.start o.turns, Json.FitsInt64 l.nextId) :
    (∃ records, recordsIn (D.content s) = .ok records ∧ o.start = .ofRecords records) ∧
      o.start.Sound ∧ History o.start o.turns ∧ InStep D s' o.last := by
  simp only [useOnce, run_bind] at hrun
  rcases hopen : (openAt path : StateM D.State _).run s with ⟨result, s₁⟩
  rw [hopen] at hrun
  cases result with
  | error fault => exact absurd (congrArg Prod.fst hrun) (by simp)
  | ok f =>
      obtain ⟨ho, rfl⟩ := Prod.mk.inj hrun
      obtain rfl := Option.some.inj ho
      obtain ⟨records, hload, hf⟩ := openAt_eq_ok hopen
      have hread := (loadRecords_eq D s).1.symm.trans hload
      obtain ⟨hpath, hstep, hrecords⟩ := inStep_openAt D hopen
      have hsound : f.table.Sound := Store.IsOpened.sound (.file hopen)
      have hlast := (Store.file f).table_play ops s₁
      have hplay := inStep_play D hsound hstep hrecords hops
      rw [← hpath] at hplay
      obtain ⟨last, hstore, hin⟩ := hplay hids
      rw [hstore] at hlast
      obtain rfl : last = tableAfter f.table _ := hlast
      exact ⟨⟨records, hread, by rw [hf]⟩, hsound, (Store.file f).history_play ops s₁, hin⟩

/-- Every life on a disk is chained, from the records that the file has at its beginning.  No
opening succeeds when the file has no records that can be read. -/
theorem chained_live {plans : List (List Ledger.Op)} {s s' : D.State} {openings : List Opening}
    (hrun : (live path plans : StateM D.State _).run s = (openings, s'))
    (hops : ∀ ops ∈ plans, ∀ op ∈ ops, op.Fits)
    (hids : ∀ o ∈ openings, ∀ l ∈ tables o.start o.turns, Json.FitsInt64 l.nextId) :
    openings = [] ∨ ∃ records, recordsIn (D.content s) = .ok records ∧
      Chained (Ledger.ofRecords records).records openings := by
  induction plans generalizing s openings with
  | nil =>
      obtain rfl : [] = openings := congrArg Prod.fst hrun
      exact Or.inl rfl
  | cons ops plans ih =>
      have hlater : ∀ ops' ∈ plans, ∀ op ∈ ops', op.Fits := fun ops' h =>
        hops ops' (List.mem_cons_of_mem ops h)
      simp only [live, run_bind] at hrun
      rcases huse : (useOnce path ops : StateM D.State _).run s with ⟨opening, s₁⟩
      rcases hrest : (live path plans : StateM D.State _).run s₁ with ⟨openings', s₂⟩
      rw [huse] at hrun
      simp only [hrest] at hrun
      obtain ⟨rfl, rfl⟩ := Prod.mk.inj hrun
      cases opening with
      | none =>
          have hkept : D.content s₁ = D.content s := content_of_useOnce_none D huse
          rw [← hkept]
          exact ih hrest hlater hids
      | some o =>
          obtain ⟨⟨records, hread, hstart⟩, hsound, hhistory, hleft⟩ :=
            follows_of_useOnce D huse (hops ops List.mem_cons_self) (hids o (by simp))
          refine Or.inr ⟨records, hread, by rw [hstart], hsound, hhistory, ?_⟩
          obtain ⟨left, hread', hrecords⟩ := hleft
          rcases ih hrest hlater fun o' ho' => hids o' (by simp [ho']) with
            rfl | ⟨records', hread'', hchain⟩
          · trivial
          · obtain rfl : left = records' := by simpa [hread'] using hread''
            rwa [← hrecords]

/-- Over the life of a ledger file on a disk, with numbers of the width that they are stored with,
the numbers of new records rise within each opening.  A number that comes again in a later
opening, or comes below an earlier one, comes after an opening that found no record of that
number or a higher one, and the earlier record was deleted in between. -/
theorem numbers_of_live {plans : List (List Ledger.Op)} {s s' : D.State} {openings : List Opening}
    (hrun : (live path plans : StateM D.State _).run s = (openings, s'))
    (hops : ∀ ops ∈ plans, ∀ op ∈ ops, op.Fits)
    (hids : ∀ o ∈ openings, ∀ l ∈ tables o.start o.turns, Json.FitsInt64 l.nextId) :
    (∀ o ∈ openings,
      (o.turns.filterMap Turn.issued?).Pairwise fun r s => r.specialId < s.specialId) ∧
    ∀ before first mid o later pre r post pre' s post',
      openings = before ++ first :: (mid ++ o :: later) →
        first.Issues pre r post → o.Issues pre' s post' → s.specialId ≤ r.specialId →
          (∀ x ∈ o.start.records, x.specialId < s.specialId) ∧
            ∃ t ∈ post ++ mid.flatMap Opening.turns, t.Deletes r.key := by
  rcases chained_live D hrun hops hids with rfl | ⟨records, -, hchain⟩
  · simp
  · constructor
    · intro o ho
      obtain ⟨before, later, rfl⟩ := List.mem_iff_append.1 ho
      obtain ⟨left, -, hsound, hhistory, -⟩ := hchain.of_append
      exact hhistory.pairwise_issued hsound
    · rintro before first mid o later pre r post pre' s post' rfl hr hs hle
      obtain ⟨left, hfirst⟩ := hchain.of_append
      exact hfirst.deleted_of_le hr hs hle

/-- A record that is entered and deleted again, before its file is opened anew. -/
def sampleReused : Record :=
  (default : Draft).toRecord 1 default

/-- A life of two openings: a transfer is entered and deleted, and then another is entered. -/
def samplePlans : List (List Ledger.Op) :=
  [[.create default default, .delete sampleReused.key], [.create default default]]

def sampleLife : List Opening × sampleDisk.State :=
  (live ⟨"l"⟩ samplePlans : StateM sampleDisk.State _).run (⟨none, none, []⟩ : Disk.Small)

/-- Two transfers get the number one, since the file was opened anew after the first was
deleted. -/
theorem numbers_of_live_sample :
    ∃ first o post post', sampleLife.1 = [first, o] ∧ first.Issues [] sampleReused post ∧
      o.Issues [] sampleReused post' ∧
      (∀ x ∈ o.start.records, x.specialId < 1) ∧ ∃ t ∈ post, t.Deletes sampleReused.key := by
  let filed : Ledger := { records := [sampleReused], nextId := 2 }
  let deleted : Turn := ⟨.delete sampleReused.key, .ok true, { nextId := 2 }⟩
  let first : Opening :=
    ⟨{ nextId := 1 }, [⟨.create default default, .ok sampleReused, filed⟩, deleted]⟩
  let o : Opening := ⟨{ nextId := 1 }, [⟨.create default default, .ok sampleReused, filed⟩]⟩
  have hlife : sampleLife.1 = [first, o] := rfl
  have hfirst : first.Issues [] sampleReused [deleted] := ⟨_, rfl, rfl⟩
  have hsecond : o.Issues [] sampleReused [] := ⟨_, rfl, rfl⟩
  have hdraft : (default : Draft).Fits := ⟨by decide, by decide, fun _ hstart => nomatch hstart⟩
  have hnow : (default : Calendar.Moment).IsRegular := by decide
  have hops : ∀ ops ∈ samplePlans, ∀ op ∈ ops, op.Fits := by
    simp [samplePlans, Ledger.Op.Fits, hdraft, hnow]
  have hids : ∀ x ∈ sampleLife.1, ∀ l ∈ tables x.start x.turns, Json.FitsInt64 l.nextId := by
    decide
  have hnumbers := (numbers_of_live sampleDisk rfl hops hids).2
  obtain ⟨hbelow, hdeleted⟩ :=
    hnumbers [] first [] o [] [] sampleReused [deleted] [] sampleReused [] hlife hfirst hsecond
      (Int.le_refl _)
  exact ⟨first, o, [deleted], [], hlife, hfirst, hsecond, hbelow, by simpa using hdeleted⟩

end LedgerFile

end Courier
