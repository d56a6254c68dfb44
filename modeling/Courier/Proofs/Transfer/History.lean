import Courier.Files.Tree
import Courier.Proofs.Transfer.LedgerStep
import Courier.Transfer.LedgerFile

/-!
# Histories of stores

What any run of operations on a store can look like, whether it keeps its table in memory or
in a file that can fail to be written at any time.  Callers that share a store take turns, so
the operations of all of them are one run.  A change of status that others interrupt is a
look-up and an update, and these stand in the run as operations of their own.

Main definitions:

- `Turn` is an operation with its answer and the table after it; `Store.play` performs some
  operations and gives the turns.
- `Turn.Follows` says what a turn can be: what the operation does to the table, or a failure
  of the file system.
- `Lawful` collects the laws of a run.

Main statements:

- Every turn of a store follows from the table before it (`Store.history_play`).
- Every run of a store, from its opening on, is lawful (`Store.lawful_play`).
-/

namespace Courier

/-! ## Turns -/

/-- An operation with its answer and the table after it. -/
structure Turn where
  op : Ledger.Op
  answer : op.Answer
  after : Ledger

namespace Turn

/-- The error that a turn ends with. -/
def fault? (t : Turn) : Option TransferFault :=
  t.op.fault? t.answer

/-- The key of the record that a turn is about. -/
def subject? (t : Turn) : Option Record.Key :=
  t.op.subject? t.answer

/-- Whether the change of a turn was lost, since it could not be written. -/
def isLost (t : Turn) : Bool :=
  match t.fault? with
  | some (.io _) => true
  | _ => false

/-- Whether a turn takes out the record under a key. -/
def Deletes (t : Turn) (key : Record.Key) : Prop :=
  t.op = .delete key ∧ t.fault? = none

/-- The new record that a turn gives out. -/
def issued? : Turn → Option Record
  | ⟨.create _ _, .ok r, _⟩ => some r
  | _ => none

/-- The turn of an operation in memory. -/
def ofOp (l : Ledger) (op : Ledger.Op) : Turn :=
  ⟨op, (l.perform op).1, (l.perform op).2⟩

/-- What a turn can be after a table. -/
inductive Follows (l : Ledger) (t : Turn) : Prop where
  | performed (op : Ledger.Op) (h : t = ofOp l op)
  | lost (h : t.isLost = true) (same : t.after = l)

end Turn

/-- The table after some turns. -/
def tableAfter (start : Ledger) (turns : List Turn) : Ledger :=
  turns.foldl (fun _ t => t.after) start

/-- All tables of a run, the one it starts with included. -/
def tables (start : Ledger) (turns : List Turn) : List Ledger :=
  start :: turns.map Turn.after

/-- Whether every turn follows from the table before it. -/
def History : Ledger → List Turn → Prop
  | _, [] => True
  | l, t :: turns => t.Follows l ∧ History t.after turns

/-! ## Runs -/

/-- The turns of some operations in memory. -/
def Ledger.play : Ledger → List Ledger.Op → List Turn
  | _, [] => []
  | l, op :: ops => Turn.ofOp l op :: Ledger.play (l.perform op).2 ops

namespace Store

variable {σ : Type} [Files (StateM σ)]

/-- Perform some operations, one after the other. -/
def play : Store → List Ledger.Op → StateM σ (List Turn × Store)
  | store, [] => pure ([], store)
  | store, op :: ops => do
      let (answer, next) ← store.perform op
      let (turns, last) ← play next ops
      return (⟨op, answer, next.table⟩ :: turns, last)

variable (σ) in
/-- How a store begins: empty in memory, or opened on a file. -/
inductive IsOpened : Store → Prop where
  | memory : IsOpened (.memory {})
  | file {path : Path} {f : LedgerFile} {s s' : σ}
      (h : (LedgerFile.openAt path : StateM σ _).run s = (.ok f, s')) : IsOpened (.file f)

end Store

/-! ## Laws -/

/-- The laws of a run. -/
structure Lawful (start : Ledger) (turns : List Turn) : Prop where
  /-- In every table, the record under a key is the one member with this key. -/
  filed : ∀ l ∈ tables start turns, ∀ key r,
    l.find? key = some r ↔ r ∈ l.records ∧ r.key = key
  /-- In every table, the number of every record is below the next one. -/
  below : ∀ l ∈ tables start turns, ∀ r ∈ l.records, r.specialId < l.freshId
  /-- A new transfer gets a record of its own, unless it cannot be written.  Its number is
  above all numbers in the table and above all that were given out before. -/
  created : ∀ pre d now answer after post,
    turns = pre ++ ⟨.create d now, answer, after⟩ :: post →
      (∃ r, answer = .ok r ∧ r = d.toRecord (tableAfter start pre).freshId now ∧
        (tableAfter start pre).find? r.key = none ∧ after.find? r.key = some r ∧
        (∀ s ∈ (tableAfter start pre).records, s.specialId < r.specialId) ∧
        ∀ s ∈ pre.filterMap Turn.issued?, s.specialId < r.specialId) ∨
      ∃ fault, answer = .error (.io fault)
  /-- A record that is done stays the same until it is deleted. -/
  done : ∀ pre mid post key r, turns = pre ++ mid ++ post →
    (tableAfter start pre).find? key = some r → r.status = .done →
      (∀ t ∈ mid, ¬ t.Deletes key) → (tableAfter start (pre ++ mid)).find? key = some r
  /-- While the record under a key is running, its rank never decreases. -/
  running : ∀ pre mid post key r s, turns = pre ++ mid ++ post →
    (∀ l ∈ tables (tableAfter start pre) mid, ∃ x, l.find? key = some x ∧ x.status = .running) →
      (tableAfter start pre).find? key = some r →
        (tableAfter start (pre ++ mid)).find? key = some s → r.rank ≤ s.rank
  /-- A turn that ends with an error leaves all records and the next number as they were. -/
  refused : ∀ pre t post, turns = pre ++ t :: post → t.fault? ≠ none →
    t.after = tableAfter start pre
  /-- A turn leaves the records under other keys as they were. -/
  others : ∀ pre t post key, turns = pre ++ t :: post → t.subject? ≠ some key →
    t.after.find? key = (tableAfter start pre).find? key

/-! ## Turns of a store -/

theorem run_bind {σ α β : Type} (x : StateM σ α) (next : α → StateM σ β) (s : σ) :
    (x >>= next).run s = (next (x.run s).1).run (x.run s).2 :=
  rfl

namespace LedgerFile

variable {σ : Type} [Files (StateM σ)]

/-- Writing a table works or fails with an error of the file system. -/
theorem persist_cases (path : Path) (table : Ledger) (s : σ) :
    ((persist path table : StateM σ _).run s).1 = .ok () ∨
      ∃ fault, ((persist path table : StateM σ _).run s).1 = .error (.io fault) := by
  simp only [persist, run_bind]
  split
  · exact Or.inr ⟨_, rfl⟩
  · simp only [run_bind]
    split
    · exact Or.inr ⟨_, rfl⟩
    · simp only [run_bind]
      split
      · exact Or.inr ⟨_, rfl⟩
      · exact Or.inl rfl

/-- A changed table counts when it is written, and else nothing changes. -/
theorem commit_cases {α : Type} (f : LedgerFile) (a : α) (table : Ledger) (s : σ) :
    ((f.commit a table : StateM σ _).run s).1 = (.ok a, { f with table }) ∨
      ∃ fault, ((f.commit a table : StateM σ _).run s).1 = (.error (.io fault), f) := by
  simp only [commit, run_bind]
  rcases persist_cases f.path table s with h | ⟨fault, h⟩
  · left
    rw [h]
    rfl
  · right
    refine ⟨fault, ?_⟩
    rw [h]
    rfl

/-- An operation that keeps the table follows from it. -/
theorem follows_of_kept {f : LedgerFile} {op : Ledger.Op} {answer : op.Answer}
    (h : f.table.perform op = (answer, f.table)) : Turn.Follows f.table ⟨op, answer, f.table⟩ := by
  refine Turn.Follows.performed op ?_
  simp only [Turn.ofOp, h]

/-- Writing what an operation does in memory is a turn of the operation. -/
theorem follows_commit {α : Type} (f : LedgerFile) (op : Ledger.Op)
    (toAnswer : Except TransferFault α → op.Answer) {a : α} {table : Ledger}
    (hperform : f.table.perform op = (toAnswer (.ok a), table))
    (hfault : ∀ fault, op.fault? (toAnswer (.error fault)) = some fault) (s : σ) :
    Turn.Follows f.table ⟨op, toAnswer ((f.commit a table : StateM σ _).run s).1.1,
      ((f.commit a table : StateM σ _).run s).1.2.table⟩ := by
  rcases commit_cases f a table s with h | ⟨fault, h⟩
  · refine Turn.Follows.performed op ?_
    simp only [Turn.ofOp, hperform, h]
  · refine Turn.Follows.lost ?_ ?_
    · simp only [Turn.isLost, Turn.fault?, h, hfault]
    · simp only [h]

/-- An operation on a file does what it does in memory, or its change is lost. -/
theorem follows_perform (f : LedgerFile) (op : Ledger.Op) (s : σ) :
    Turn.Follows f.table ⟨op, ((f.perform op : StateM σ _).run s).1.1,
      ((f.perform op : StateM σ _).run s).1.2.table⟩ := by
  cases op with
  | create d now => exact follows_commit f (.create d now) id rfl (fun _ => rfl) s
  | insert r =>
      simp only [perform]
      cases hinsert : f.table.insert r with
      | error fault =>
          have hkept : f.table.perform (.insert r) = (.error fault, f.table) := by
            simp only [Ledger.perform, hinsert]
          exact follows_of_kept hkept
      | ok table =>
          refine follows_commit f (.insert r) id ?_ (fun _ => rfl) s
          simp only [Ledger.perform, hinsert, id]
  | load key => exact follows_of_kept rfl
  | update r =>
      simp only [perform]
      cases hupdate : f.table.update r with
      | error fault =>
          have hkept : f.table.perform (.update r) = (.error fault, f.table) := by
            simp only [Ledger.perform, hupdate]
          exact follows_of_kept hkept
      | ok table =>
          refine follows_commit f (.update r) id ?_ (fun _ => rfl) s
          simp only [Ledger.perform, hupdate, id]
  | delete key =>
      simp only [perform]
      cases hfound : f.table.find? key with
      | none =>
          have hkept : f.table.perform (.delete key) = (.ok false, f.table) := by
            simp only [Ledger.perform, hfound, Ledger.erase_of_find?_eq_none hfound,
              Option.isSome_none]
          exact follows_of_kept hkept
      | some r =>
          refine follows_commit f (.delete key) id ?_ (fun _ => rfl) s
          simp only [Ledger.perform, hfound, Option.isSome_some, id]
  | mark key status code now =>
      simp only [perform]
      cases hmark : f.table.mark key status code now with
      | error fault =>
          have hkept : f.table.perform (.mark key status code now) = (.error fault, f.table) := by
            simp only [Ledger.perform, hmark]
          exact follows_of_kept hkept
      | ok result =>
          refine follows_commit f (.mark key status code now) id ?_ (fun _ => rfl) s
          simp only [Ledger.perform, hmark, id]
  | list => exact follows_of_kept rfl

end LedgerFile

namespace Store

variable {σ : Type} [Files (StateM σ)]

/-- An operation on a store does what it does in memory, or its change is lost. -/
theorem follows_perform (store : Store) (op : Ledger.Op) (s : σ) :
    Turn.Follows store.table ⟨op, ((store.perform op : StateM σ _).run s).1.1,
      ((store.perform op : StateM σ _).run s).1.2.table⟩ := by
  cases store with
  | memory table => exact Turn.Follows.performed op rfl
  | file f => exact f.follows_perform op s

/-- What a store does makes a history of its table. -/
theorem history_play (store : Store) (ops : List Ledger.Op) (s : σ) :
    History store.table ((store.play ops : StateM σ _).run s).1.1 := by
  induction ops generalizing store s with
  | nil => trivial
  | cons op ops ih => exact ⟨store.follows_perform op s, ih _ _⟩

/-- The turns of a store in memory are those of its table. -/
theorem play_memory (l : Ledger) (ops : List Ledger.Op) (s : σ) :
    ((Store.memory l).play ops : StateM σ _).run s =
      ((l.play ops, .memory (tableAfter l (l.play ops))), s) := by
  induction ops generalizing l s with
  | nil => rfl
  | cons op ops ih =>
      have hrest := ih (l.perform op).2 s
      have hstep : ((Store.memory l).perform op : StateM σ _).run s =
          (((l.perform op).1, .memory (l.perform op).2), s) := rfl
      simp only [play, run_bind, hstep, hrest]
      rfl

end Store

theorem Turn.isLost_ofOp (l : Ledger) (op : Ledger.Op) : (ofOp l op).isLost = false := by
  have hne := l.fault?_perform_ne_io op
  unfold isLost
  split
  · next fault hfault => exact absurd hfault (hne fault)
  · rfl

/-- No change is lost in a run in memory. -/
theorem Ledger.isLost_of_mem_play {l : Ledger} {ops : List Ledger.Op} {t : Turn}
    (h : t ∈ l.play ops) : t.isLost = false := by
  induction ops generalizing l with
  | nil => simp [play] at h
  | cons op ops ih =>
      rcases List.mem_cons.1 h with rfl | hrest
      · exact Turn.isLost_ofOp l op
      · exact ih hrest

/-! ## What a turn keeps -/

namespace Turn.Follows

variable {l : Ledger} {t : Turn} {key : Record.Key} {r : Record}

/-- A turn that follows from a sound table is a step of the table. -/
theorem step (h : t.Follows l) (hl : l.Sound) : Ledger.Step l t.op t.answer t.after := by
  cases h with
  | performed op h =>
      subst h
      exact Ledger.step_perform hl op
  | lost h same =>
      rw [same]
      exact Ledger.Step.kept

/-- A turn that ends in a fault has changed nothing. -/
theorem eq_of_fault (h : t.Follows l) (hl : l.Sound) (hfault : t.fault? ≠ none) :
    t.after = l :=
  (h.step hl).eq_of_fault hfault

/-- A record that is done stays the same unless the turn takes it out. -/
theorem find?_done (h : t.Follows l) (hl : l.Sound) (hfound : l.find? key = some r)
    (hdone : r.status = .done) (hkept : ¬ t.Deletes key) : t.after.find? key = some r := by
  by_cases hfault : t.fault? = none
  · exact (h.step hl).find?_done hfound hdone fun hop => hkept ⟨hop, hfault⟩
  · rwa [h.eq_of_fault hl hfault]

/-- A new transfer gets the next number, unless its record cannot be written. -/
theorem created {d : Draft} {now : Calendar.Moment} {answer : Except TransferFault Record}
    {after : Ledger} (h : Turn.Follows l ⟨.create d now, answer, after⟩) :
    (answer = .ok (l.create d now).1 ∧ after = (l.create d now).2) ∨
      ∃ fault, answer = .error (.io fault) := by
  cases h with
  | performed op h =>
      simp only [ofOp, Turn.mk.injEq] at h
      obtain ⟨rfl, hanswer, rfl⟩ := h
      exact Or.inl ⟨eq_of_heq hanswer, rfl⟩
  | lost h same =>
      right
      rcases answer with (fault | r)
      · cases fault with
        | io fault => exact ⟨fault, rfl⟩
        | _ => simp [isLost, fault?, Ledger.Op.fault?] at h
      · simp [isLost, fault?, Ledger.Op.fault?] at h

/-- A number that was issued is behind the next one. -/
theorem issued_lt (h : t.Follows l) (hissued : t.issued? = some r) :
    r.specialId < t.after.freshId := by
  rcases t with ⟨op, answer, after⟩
  cases op with
  | create d now =>
      rcases h.created with ⟨rfl, rfl⟩ | ⟨fault, rfl⟩
      · obtain rfl : (l.create d now).1 = r := Option.some.inj hissued
        show l.freshId < max (l.freshId + 1) 1
        omega
      · simp [issued?] at hissued
  | _ => simp [issued?] at hissued

end Turn.Follows

/-! ## What a run keeps -/

namespace History

variable {l : Ledger} {turns pre mid : List Turn} {key : Record.Key} {r s : Record}

/-- A history can be taken apart anywhere. -/
theorem append_iff :
    History l (pre ++ turns) ↔ History l pre ∧ History (tableAfter l pre) turns := by
  induction pre generalizing l with
  | nil => simp [History, tableAfter]
  | cons t pre ih =>
      rw [List.cons_append, History, History, ih, and_assoc]
      rfl

/-- All tables of a history are sound when the first one is. -/
theorem sound (h : History l turns) (hl : l.Sound) : ∀ table ∈ tables l turns, table.Sound := by
  induction turns generalizing l with
  | nil =>
      intro table htable
      rwa [List.mem_singleton.1 htable]
  | cons t turns ih =>
      have hafter := (h.1.step hl).sound hl
      intro table htable
      rcases List.mem_cons.1 htable with rfl | htable
      · exact hl
      · exact ih h.2 hafter table htable

theorem tableAfter_append (l : Ledger) (pre turns : List Turn) :
    tableAfter l (pre ++ turns) = tableAfter (tableAfter l pre) turns :=
  List.foldl_append

theorem tableAfter_mem_tables (l : Ledger) (turns : List Turn) :
    tableAfter l turns ∈ tables l turns := by
  induction turns generalizing l with
  | nil => exact List.mem_singleton.2 rfl
  | cons t turns ih => exact List.mem_cons_of_mem l (ih t.after)

/-- Over a history the next number never goes back. -/
theorem freshId_le (h : History l turns) (hl : l.Sound) :
    l.freshId ≤ (tableAfter l turns).freshId := by
  induction turns generalizing l with
  | nil => exact Int.le_refl _
  | cons t turns ih =>
      have hstep := h.1.step hl
      exact Int.le_trans hstep.freshId_le (ih h.2 (hstep.sound hl))

theorem issued_lt (h : History l turns) (hl : l.Sound)
    (hs : s ∈ turns.filterMap Turn.issued?) : s.specialId < (tableAfter l turns).freshId := by
  induction turns generalizing l with
  | nil => simp at hs
  | cons t turns ih =>
      have hafter := (h.1.step hl).sound hl
      obtain ⟨t', hmem, hissued⟩ := List.mem_filterMap.1 hs
      rcases List.mem_cons.1 hmem with rfl | hmem
      · exact Int.lt_of_lt_of_le (h.1.issued_lt hissued) (freshId_le h.2 hafter)
      · exact ih h.2 hafter (List.mem_filterMap.2 ⟨t', hmem, hissued⟩)

/-- A record that is done stays the same while no turn takes it out. -/
theorem find?_done (h : History l turns) (hl : l.Sound) (hfound : l.find? key = some r)
    (hdone : r.status = .done) (hkept : ∀ t ∈ turns, ¬ t.Deletes key) :
    (tableAfter l turns).find? key = some r := by
  induction turns generalizing l with
  | nil => exact hfound
  | cons t turns ih =>
      have hnext := h.1.find?_done hl hfound hdone (hkept t List.mem_cons_self)
      exact ih h.2 ((h.1.step hl).sound hl) hnext fun t' ht' =>
        hkept t' (List.mem_cons_of_mem t ht')

/-- While the record under a key is running, its rank never decreases. -/
theorem rank_le (h : History l turns) (hl : l.Sound)
    (hrunning : ∀ table ∈ tables l turns, ∃ x, table.find? key = some x ∧ x.status = .running)
    (hr : l.find? key = some r) (hs : (tableAfter l turns).find? key = some s) :
    r.rank ≤ s.rank := by
  induction turns generalizing l r with
  | nil =>
      obtain rfl : r = s := Option.some.inj (hr.symm.trans hs)
      exact Nat.le_refl _
  | cons t turns ih =>
      have hstep := h.1.step hl
      obtain ⟨x, hx, hxrunning⟩ := hrunning l List.mem_cons_self
      obtain ⟨y, hy, hyrunning⟩ :=
        hrunning t.after (List.mem_cons_of_mem l List.mem_cons_self)
      obtain rfl : x = r := Option.some.inj (hx.symm.trans hr)
      have hrank := hstep.rank_le hx hy hxrunning hyrunning
      have hrest := ih h.2 (hstep.sound hl)
        (fun table htable => hrunning table (List.mem_cons_of_mem l htable)) hy hs
      exact Nat.le_trans hrank hrest

/-- A run that starts with a sound table is lawful. -/
theorem lawful (h : History l turns) (hl : l.Sound) : Lawful l turns := by
  constructor
  case filed =>
    intro table htable key r
    have hsound := h.sound hl table htable
    constructor
    · intro hfound
      exact ⟨Ledger.mem_of_find? hfound, Ledger.key_of_find? hfound⟩
    · rintro ⟨hmem, rfl⟩
      exact Ledger.find?_of_mem hsound.ascending hmem
  case below =>
    intro table htable
    exact (h.sound hl table htable).below
  case created =>
    rintro pre d now answer after post rfl
    obtain ⟨hpre, hturn, -⟩ := append_iff.1 h
    have hsound := hpre.sound hl _ (tableAfter_mem_tables l pre)
    rcases hturn.created with ⟨rfl, rfl⟩ | hlost
    · refine Or.inl ⟨_, rfl, rfl, hsound.find?_freshId rfl, Ledger.find?_put_self _ _,
        hsound.below, ?_⟩
      intro s hs
      exact hpre.issued_lt hl hs
    · exact Or.inr hlost
  case done =>
    rintro pre mid post key r rfl hfound hdone hkept
    have hpremid := (append_iff.1 h).1
    obtain ⟨hpre, hmid⟩ := append_iff.1 hpremid
    have hsound := hpre.sound hl _ (tableAfter_mem_tables l pre)
    rw [tableAfter_append]
    exact hmid.find?_done hsound hfound hdone hkept
  case running =>
    rintro pre mid post key r s rfl hrunning hr hs
    have hpremid := (append_iff.1 h).1
    obtain ⟨hpre, hmid⟩ := append_iff.1 hpremid
    have hsound := hpre.sound hl _ (tableAfter_mem_tables l pre)
    rw [tableAfter_append] at hs
    exact hmid.rank_le hsound hrunning hr hs
  case refused =>
    rintro pre t post rfl hfault
    obtain ⟨hpre, hturn, -⟩ := append_iff.1 h
    have hsound := hpre.sound hl _ (tableAfter_mem_tables l pre)
    exact hturn.eq_of_fault hsound hfault
  case others =>
    rintro pre t post key rfl hkey
    obtain ⟨hpre, hturn, -⟩ := append_iff.1 h
    have hsound := hpre.sound hl _ (tableAfter_mem_tables l pre)
    exact (hturn.step hsound).find?_of_ne hkey

end History

/-! ## Opened stores -/

/-- The table of a ledger that could be opened is made of the records in its file. -/
theorem LedgerFile.openAt_eq_ok {σ : Type} [Files (StateM σ)] {path : Path} {f : LedgerFile}
    {s s' : σ} (h : (openAt path : StateM σ _).run s = (.ok f, s')) :
    ∃ records, ((loadRecords path : StateM σ _).run s).1 = .ok records ∧
      f = ⟨path, .ofRecords records⟩ := by
  simp only [openAt, run_bind] at h
  cases hload : ((loadRecords path : StateM σ _).run s).1 with
  | error fault =>
      rw [hload] at h
      exact absurd (congrArg Prod.fst h) (by simp)
  | ok records =>
      rw [hload] at h
      exact ⟨records, rfl, (Except.ok.inj (congrArg Prod.fst h)).symm⟩

namespace Store

variable {σ : Type} [Files (StateM σ)] {store : Store}

/-- The table of a store that was opened is sound. -/
theorem IsOpened.sound (h : store.IsOpened σ) : store.table.Sound := by
  cases h with
  | memory => exact Ledger.sound_empty
  | file hopen =>
      obtain ⟨records, -, rfl⟩ := LedgerFile.openAt_eq_ok hopen
      exact Ledger.sound_ofRecords records

/-- Every run of a store is lawful, from its opening on, and no change is lost in memory. -/
theorem lawful_play (hopen : store.IsOpened σ) (ops : List Ledger.Op) (s : σ) :
    Lawful store.table ((store.play ops : StateM σ _).run s).1.1 ∧
      ∀ l, store = .memory l →
        ∀ t ∈ ((store.play ops : StateM σ _).run s).1.1, t.isLost = false := by
  refine ⟨(store.history_play ops s).lawful hopen.sound, ?_⟩
  rintro l rfl t ht
  rw [play_memory] at ht
  exact Ledger.isLost_of_mem_play ht

/-- A run on a file without records, in a tree that has only this file. -/
theorem lawful_play_empty_file :
    IsOpened FileTree (.file ⟨⟨"l"⟩, { nextId := 1 }⟩) ∧
      Lawful { nextId := 1 } ((play (.file ⟨⟨"l"⟩, { nextId := 1 }⟩)
        [.create default default, .create default default, .list] : StateM FileTree _).run
          ⟨[(["l"], .file "[]".toUTF8 0)], [], 0⟩).1.1 := by
  have hread : (LedgerFile.openAt ⟨"l"⟩ : StateM FileTree _).run
      ⟨[(["l"], .file "[]".toUTF8 0)], [], 0⟩ =
        (.ok ⟨⟨"l"⟩, { nextId := 1 }⟩, ⟨[(["l"], .file "[]".toUTF8 0)], [], 0⟩) := rfl
  have hopen : IsOpened FileTree (.file ⟨⟨"l"⟩, { nextId := 1 }⟩) := .file hread
  exact ⟨hopen, (lawful_play hopen _ _).1⟩

end Store

end Courier
