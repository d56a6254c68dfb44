import Courier.Files.Tree
import Courier.Proofs.Transfer.History
import Courier.Proofs.Transfer.StoredForm

/-!
# Ledger files are durable

A ledger that is kept in a file does what one in memory does, but for the changes that could
not be written, and after every operation the file holds the records of the table.  Any step
of writing a change may fail.

Main definitions:

- `Disk` is a file system as a ledger file relies on it.
- `recordsIn` are the records that a content of the file stands for.
- `InStep` says that the file holds the records of a table.

Main statements:

- An operation either keeps the table and the file, or it is accepted and the file holds the
  new table (`LedgerFile.settled_perform`).
- Every run on a file is the run in memory of the operations whose change was not lost, the
  file can be opened again with the same records, and an operation that is not accepted
  changes neither the table nor the file (`LedgerFile.play_durable`).
- Neither holds where the name beside the file is a link to the file, nor of a moment of a leap
  second that is not at the end of its minute (`LedgerFile.not_found_again`).
-/

namespace Courier

open LedgerFile (temporary)

/-! ## Disks -/

/-- A file system as the ledger at a path relies on it.  Every operation may fail.  What was
written is read back, and the file at the path only changes as another one takes its name,
which happens as a whole or not at all.  So the name beside the file is no link that leads to the
file. -/
structure Disk (path : Path) where
  /-- The state of the file system. -/
  State : Type
  /-- Perform an operation. -/
  perform : (op : FileOp) → State → op.Answer × State
  /-- The content of the file at the path, if there is one. -/
  content : State → Option ByteArray
  /-- The content of the file beside it that a change is written to, if there is one. -/
  draft : State → Option ByteArray
  /-- There is something at the path when there is a content. -/
  isOk_metadata : ∀ s, (perform (.metadata path) s).1.isOk = (content s).isSome
  /-- Asking for the path keeps the file. -/
  content_metadata : ∀ s, content (perform (.metadata path) s).2 = content s
  /-- Reading gives the content. -/
  read_eq : ∀ s bytes, content s = some bytes → (perform (.read path) s).1 = .ok bytes
  /-- Reading keeps the file. -/
  content_read : ∀ s, content (perform (.read path) s).2 = content s
  /-- Making a directory keeps the file, whether it works or not. -/
  content_makeDirectories : ∀ s p, content (perform (.makeDirectories p) s).2 = content s
  /-- Writing beside the file keeps it, whether that works or not. -/
  content_write : ∀ s bytes,
    content (perform (.write (temporary path) bytes) s).2 = content s
  /-- What was written beside the file is there. -/
  draft_write : ∀ s bytes, (perform (.write (temporary path) bytes) s).1 = .ok () →
    draft (perform (.write (temporary path) bytes) s).2 = some bytes
  /-- A file that was moved into place is the file. -/
  content_rename : ∀ s, (perform (.rename (temporary path) path) s).1 = .ok () →
    content (perform (.rename (temporary path) path) s).2 = draft s
  /-- A file that could not be moved into place has left the file as it was. -/
  content_rename_error : ∀ s fault, (perform (.rename (temporary path) path) s).1 = .error fault →
    content (perform (.rename (temporary path) path) s).2 = content s

instance {path : Path} (D : Disk path) : Files (StateM D.State) where
  perform op := fun s => D.perform op s

namespace Disk

/-- A disk with room for a file and one beside it. -/
structure Small where
  file : Option ByteArray
  beside : Option ByteArray
  failing : List Bool

namespace Small

/-- Make a change, unless it fails. -/
def change (s changed : Small) : Except FileFault Unit × Small :=
  match s.failing with
  | true :: failing => (.error (.other "disk full"), { s with failing })
  | failing => (.ok (), { changed with failing := failing.tail })

/-- Perform an operation.  Only the path and the one beside it are known. -/
def perform (path : Path) : (op : FileOp) → Small → op.Answer × Small
  | .metadata p, s =>
      match s.file with
      | some bytes => (if p = path then .ok ⟨.file, bytes.size, 0⟩ else .error .notFound, s)
      | none => (.error .notFound, s)
  | .read p, s =>
      match s.file with
      | some bytes => (if p = path then .ok bytes else .error .notFound, s)
      | none => (.error .notFound, s)
  | .write p bytes, s =>
      if p = temporary path then s.change { s with beside := some bytes }
      else (.error .notFound, s)
  | .makeDirectories _, s => s.change s
  | .rename p q, s =>
      match s.beside with
      | some bytes =>
          if p = temporary path ∧ q = path then
            s.change { s with file := some bytes, beside := none }
          else (.error .notFound, s)
      | none => (.error .notFound, s)
  | .entries _, s => (.error .notDirectory, s)
  | .remove _, s => (.error .notFound, s)

end Small

/-- A small disk is a file system that a ledger file can rely on. -/
def small (path : Path) : Disk path where
  State := Small
  perform := Small.perform path
  content := Small.file
  draft := Small.beside
  isOk_metadata s := by
    rcases s with ⟨file, beside, failing⟩
    cases file <;> simp [Small.perform, Except.isOk, Except.toBool]
  content_metadata s := by
    rcases s with ⟨file, beside, failing⟩
    cases file <;> rfl
  read_eq s bytes h := by
    simp [Small.perform, h]
  content_read s := by
    rcases s with ⟨file, beside, failing⟩
    cases file <;> rfl
  content_makeDirectories s p := by
    simp only [Small.perform, Small.change]
    split <;> rfl
  content_write s bytes := by
    simp only [Small.perform, Small.change, if_true]
    split <;> rfl
  draft_write s bytes h := by
    simp only [Small.perform, Small.change, if_true] at h ⊢
    split at h
    · simp at h
    · rfl
  content_rename s h := by
    rcases s with ⟨file, beside, failing⟩
    cases beside with
    | none => simp [Small.perform] at h
    | some bytes =>
        simp only [Small.perform, Small.change, and_self, if_true] at h ⊢
        split at h
        · simp at h
        · rfl
  content_rename_error s fault h := by
    rcases s with ⟨file, beside, failing⟩
    cases beside with
    | none => rfl
    | some bytes =>
        simp only [Small.perform, Small.change, and_self, if_true] at h ⊢
        split at h
        · rfl
        · simp at h

end Disk

/-! ## Contents -/

/-- The records that a content of the file stands for. -/
def recordsIn : Option ByteArray → Except TransferFault (List Record)
  | none => .ok []
  | some bytes =>
      match String.fromUTF8? bytes with
      | none => .error (.io .invalid)
      | some text => (LedgerFile.decode text).mapError .json

namespace LedgerFile

/-- The records that were read from a content fit. -/
theorem fits_of_recordsIn {content : Option ByteArray} {records : List Record}
    (h : recordsIn content = .ok records) : ∀ r ∈ records, r.Fits := by
  unfold recordsIn at h
  split at h
  · cases h
    simp
  · split at h
    · simp at h
    · next text _ =>
        cases hdecode : decode text with
        | error fault => simp [hdecode, Except.mapError] at h
        | ok decoded =>
            obtain rfl : decoded = records := by simpa [hdecode, Except.mapError] using h
            exact fits_of_decode hdecode

/-- The content that is written for records stands for them. -/
theorem recordsIn_encode {records : List Record} (h : ∀ r ∈ records, r.Fits) :
    recordsIn (some (encode records).toUTF8) = .ok records := by
  have htext : String.fromUTF8? (encode records).toUTF8 = some (encode records) :=
    dif_pos (encode records).isValidUTF8
  simp only [recordsIn, htext, decode_encode h]
  rfl

variable {path : Path} (D : Disk path)

/-! ## Reading -/

/-- The text of the file is that of its content, and reading keeps it. -/
theorem readText_eq {s : D.State} {bytes : ByteArray} (h : D.content s = some bytes) :
    ((Files.readText path : StateM D.State _).run s).1 =
        (match String.fromUTF8? bytes with
          | some text => .ok text
          | none => .error .invalid) ∧
      D.content ((Files.readText path : StateM D.State _).run s).2 = some bytes := by
  have hanswer : ((Files.read path : StateM D.State _).run s).1 = .ok bytes := D.read_eq s bytes h
  have hcontent : D.content ((Files.read path : StateM D.State _).run s).2 = some bytes :=
    (D.content_read s).trans h
  simp only [Files.readText, run_bind, hanswer]
  cases String.fromUTF8? bytes with
  | some text => exact ⟨rfl, hcontent⟩
  | none => exact ⟨rfl, hcontent⟩

/-- Reading the file gives the records that its content stands for, and keeps it. -/
theorem loadRecords_eq (s : D.State) :
    ((loadRecords path : StateM D.State _).run s).1 = recordsIn (D.content s) ∧
      D.content ((loadRecords path : StateM D.State _).run s).2 = D.content s := by
  have hexists : ((Files.pathExists path : StateM D.State _).run s).1 = (D.content s).isSome :=
    D.isOk_metadata s
  have hkept : D.content ((Files.pathExists path : StateM D.State _).run s).2 = D.content s :=
    D.content_metadata s
  simp only [loadRecords, run_bind, hexists]
  cases hs : D.content s with
  | none => exact ⟨rfl, hkept.trans hs⟩
  | some bytes =>
      obtain ⟨htext, hcontent⟩ := readText_eq D (hkept.trans hs)
      simp only [Option.isSome_some, if_true, run_bind, htext, recordsIn]
      cases String.fromUTF8? bytes with
      | none => exact ⟨rfl, hcontent⟩
      | some text =>
          simp only
          cases decode text with
          | error fault => exact ⟨rfl, hcontent⟩
          | ok records => exact ⟨rfl, hcontent⟩

/-- A ledger can be opened when the content of its file stands for records. -/
theorem openAt_of_recordsIn {s : D.State} {records : List Record}
    (h : recordsIn (D.content s) = .ok records) :
    ((openAt path : StateM D.State _).run s).1 = .ok ⟨path, .ofRecords records⟩ := by
  have hload := (loadRecords_eq D s).1.trans h
  simp only [openAt, run_bind, hload]
  rfl

/-! ## Writing -/

/-- To make the directory of the file keeps the file. -/
theorem content_makeParent (s : D.State) :
    D.content ((Files.makeParent path : StateM D.State _).run s).2 = D.content s := by
  unfold Files.makeParent
  split
  · rfl
  · next parent _ => exact D.content_makeDirectories s parent

/-- A change that was written is beside the file, which is as it was. -/
theorem content_of_write {bytes : ByteArray} {s s' : D.State} {answer : Except FileFault Unit}
    (h : (Files.perform (.write (temporary path) bytes) : StateM D.State _).run s =
      (answer, s')) :
    D.content s' = D.content s ∧ (answer = .ok () → D.draft s' = some bytes) := by
  have hperform : D.perform (.write (temporary path) bytes) s = (answer, s') := h
  have hcontent := D.content_write s bytes
  have hdraft := D.draft_write s bytes
  rw [hperform] at hcontent hdraft
  exact ⟨hcontent, hdraft⟩

/-- The file is what was beside it, or as it was. -/
theorem content_of_rename {s s' : D.State} {answer : Except FileFault Unit}
    (h : (Files.perform (.rename (temporary path) path) : StateM D.State _).run s =
      (answer, s')) :
    (answer = .ok () → D.content s' = D.draft s) ∧
      ∀ fault, answer = .error fault → D.content s' = D.content s := by
  have hperform : D.perform (.rename (temporary path) path) s = (answer, s') := h
  have hmoved := D.content_rename s
  have hkept := D.content_rename_error s
  rw [hperform] at hmoved hkept
  exact ⟨hmoved, hkept⟩

/-- A table that was written is the content of the file, and else the content is kept. -/
theorem content_persist (table : Ledger) (s : D.State) :
    (((persist path table : StateM D.State _).run s).1 = .ok () ∧
        D.content ((persist path table : StateM D.State _).run s).2 =
          some (encode table.records).toUTF8) ∨
      ∃ fault, ((persist path table : StateM D.State _).run s).1 = .error (.io fault) ∧
        D.content ((persist path table : StateM D.State _).run s).2 = D.content s := by
  have hparent := content_makeParent D s
  simp only [persist, run_bind]
  generalize (Files.makeParent path : StateM D.State _).run s = made at hparent ⊢
  rcases made with ⟨made, s₁⟩
  cases made with
  | error fault => exact Or.inr ⟨fault, rfl, hparent⟩
  | ok _ =>
      simp only [run_bind]
      generalize hwritten : (Files.perform (.write (temporary path)
        (encode table.records).toUTF8) : StateM D.State _).run s₁ = written
      rcases written with ⟨written, s₂⟩
      obtain ⟨hwrite, hdraft⟩ := content_of_write D hwritten
      cases written with
      | error fault => exact Or.inr ⟨fault, rfl, hwrite.trans hparent⟩
      | ok _ =>
          simp only [run_bind]
          generalize hmoved : (Files.perform (.rename (temporary path) path) :
            StateM D.State _).run s₂ = moved
          rcases moved with ⟨moved, s₃⟩
          obtain ⟨hmove, hkept⟩ := content_of_rename D hmoved
          cases moved with
          | error fault =>
              exact Or.inr ⟨fault, rfl, (hkept fault rfl).trans (hwrite.trans hparent)⟩
          | ok _ => exact Or.inl ⟨rfl, (hmove rfl).trans (hdraft rfl)⟩

/-- What an operation on a ledger file has come to: either it kept the ledger and the content
of the file, or it was accepted and the content is that of the new table. -/
structure Settled (s : D.State) (f : LedgerFile) (op : Ledger.Op)
    (result : (op.Answer × LedgerFile) × D.State) : Prop where
  path : result.1.2.path = f.path
  cases : (result.1.2 = f ∧ D.content result.2 = D.content s) ∨
    (op.fault? result.1.1 = none ∧
      D.content result.2 = some (encode result.1.2.table.records).toUTF8)

/-- An operation that keeps table and file is settled. -/
theorem settled_of_kept {s : D.State} {f : LedgerFile} {op : Ledger.Op} (answer : op.Answer) :
    Settled D s f op ((answer, f), s) :=
  ⟨rfl, Or.inl ⟨rfl, rfl⟩⟩

/-- An operation that writes its change has come to one of the two. -/
theorem settled_commit {α : Type} (table : Ledger) (op : Ledger.Op)
    (toAnswer : Except TransferFault α → op.Answer) {a : α} (next : Ledger)
    (hok : op.fault? (toAnswer (.ok a)) = none) (s : D.State) :
    Settled D s ⟨path, table⟩ op
      ((toAnswer ((commit ⟨path, table⟩ a next : StateM D.State _).run s).1.1,
        ((commit ⟨path, table⟩ a next : StateM D.State _).run s).1.2),
          ((commit ⟨path, table⟩ a next : StateM D.State _).run s).2) := by
  simp only [commit, run_bind]
  rcases content_persist D next s with ⟨hanswer, hcontent⟩ | ⟨fault, hanswer, hcontent⟩
  · simp only [hanswer]
    exact ⟨rfl, Or.inr ⟨hok, hcontent⟩⟩
  · simp only [hanswer]
    exact ⟨rfl, Or.inl ⟨rfl, hcontent⟩⟩

/-- An operation keeps the ledger and the content of its file, or it is accepted and the
content is that of the new table. -/
theorem settled_perform (table : Ledger) (op : Ledger.Op) (s : D.State) :
    Settled D s ⟨path, table⟩ op ((perform ⟨path, table⟩ op : StateM D.State _).run s) := by
  cases op with
  | create d now => exact settled_commit D table (.create d now) id _ rfl s
  | insert r =>
      simp only [perform]
      cases table.insert r with
      | error fault => exact settled_of_kept D _
      | ok next => exact settled_commit D table (.insert r) id next rfl s
  | load key => exact settled_of_kept D _
  | update r =>
      simp only [perform]
      cases table.update r with
      | error fault => exact settled_of_kept D _
      | ok next => exact settled_commit D table (.update r) id next rfl s
  | delete key =>
      simp only [perform]
      cases table.find? key with
      | none => exact settled_of_kept D _
      | some r => exact settled_commit D table (.delete key) id _ rfl s
  | mark key status code now =>
      simp only [perform]
      cases table.mark key status code now with
      | error fault => exact settled_of_kept D _
      | ok result => exact settled_commit D table (.mark key status code now) id _ rfl s
  | list => exact settled_of_kept D _

/-! ## The file and the table -/

/-- Whether the content of the file stands for the records of a table. -/
def InStep (s : D.State) (table : Ledger) : Prop :=
  ∃ records, recordsIn (D.content s) = .ok records ∧
    (Ledger.ofRecords records).records = table.records

/-- A file that holds the records of the table, in order, is in step with it. -/
theorem inStep_of_content {s : D.State} {table : Ledger}
    (hcontent : D.content s = some (encode table.records).toUTF8)
    (horder : Ordered.Ascending Ledger.before table.records)
    (hfits : ∀ r ∈ table.records, r.Fits) : InStep D s table := by
  refine ⟨table.records, ?_, Ledger.records_ofRecords horder⟩
  rw [hcontent, recordsIn_encode hfits]

end LedgerFile

/-! ## What is stored without loss -/

/-- Whether a draft is stored without loss: its numbers have the width that they are stored with,
and its start, if it has one, a text of its own. -/
structure Draft.Fits (d : Draft) : Prop where
  blockSize : d.blockSize < Json.wordValues 32
  originalSize : Json.FitsInt64 d.originalSize
  startTime : ∀ start ∈ d.startTime, start.IsRegular

namespace Ledger

/-- Whether what an operation brings in is stored without loss. -/
def Op.Fits : Op → Prop
  | .create d now => d.Fits ∧ now.IsRegular
  | .insert r => r.Fits
  | .update r => r.Fits
  | .mark _ _ _ now => now.IsRegular
  | _ => True

/-- Whether all of a table is stored without loss. -/
structure Fits (l : Ledger) : Prop where
  nextId : Json.FitsInt64 l.nextId
  records : ∀ r ∈ l.records, r.Fits

/-- A new record fits when its draft and its number do. -/
theorem fits_create {l : Ledger} {d : Draft} {now : Calendar.Moment}
    (hid : Json.FitsInt64 l.nextId) (hd : (Op.create d now).Fits) : (l.create d now).1.Fits := by
  have hfree : Json.FitsInt64 l.freshId := by
    unfold Json.FitsInt64 freshId at *
    have hpos : (1 : Int) ≤ (Json.wordValues 63 : Int) - 1 := by decide
    omega
  have hzero : 0 < Json.wordValues 32 := by decide
  obtain ⟨hdraft, hnow⟩ := hd
  refine ⟨hfree, hdraft.blockSize, hzero, hdraft.originalSize, ?_, hnow⟩
  cases hstart : d.startTime with
  | none => simpa [create, Draft.toRecord, hstart] using hnow
  | some start => simpa [create, Draft.toRecord, hstart] using hdraft.startTime start hstart

/-- The records of a table fit after an operation that fits. -/
theorem fits_perform {l : Ledger} {op : Op} (hl : l.Fits) (hop : op.Fits) :
    ∀ r ∈ (l.perform op).2.records, r.Fits := by
  have hput : ∀ s : Record, s.Fits → ∀ r ∈ (l.put s).records, r.Fits := by
    intro s hs r hr
    rcases Ordered.mem_put hr with rfl | hr
    · exact hs
    · exact hl.records r hr
  cases op with
  | create d now => exact hput _ (fits_create hl.nextId hop)
  | insert s =>
      simp only [perform]
      cases hinsert : l.insert s with
      | error fault => exact hl.records
      | ok next =>
          obtain ⟨-, rfl⟩ := insert_eq_ok hinsert
          exact hput s hop
  | load key => exact hl.records
  | update s =>
      simp only [perform]
      cases hupdate : l.update s with
      | error fault => exact hl.records
      | ok next =>
          obtain ⟨-, -, -, rfl⟩ := update_eq_ok hupdate
          exact hput s hop
  | delete key =>
      intro r hr
      exact hl.records r (List.mem_filter.1 hr).1
  | mark key status code now =>
      simp only [perform]
      cases hmark : l.mark key status code now with
      | error fault => exact hl.records
      | ok result =>
          obtain ⟨stored, hfound, hresult, hupdate⟩ := mark_eq_ok hmark
          obtain ⟨-, -, -, hnext⟩ := update_eq_ok hupdate
          have hstored : stored.Fits := hl.records stored (mem_of_find? hfound)
          simp only [hnext, hresult]
          exact hput _ (hstored.mark status code hop)
  | list => exact hl.records

end Ledger

/-- The records of a table fit after a turn that fits. -/
theorem Turn.Follows.fits {l : Ledger} {t : Turn} (h : t.Follows l) (hl : l.Fits)
    (hop : t.op.Fits) : ∀ r ∈ t.after.records, r.Fits := by
  cases h with
  | performed op h =>
      subst h
      exact Ledger.fits_perform hl hop
  | lost h same =>
      rw [same]
      exact hl.records

/-! ## Runs -/

/-- The turns whose change was not lost are those of their operations in memory. -/
theorem History.filter_not_isLost {l : Ledger} {turns : List Turn} (h : History l turns) :
    turns.filter (!·.isLost) = l.play ((turns.filter (!·.isLost)).map Turn.op) ∧
      tableAfter l (turns.filter (!·.isLost)) = tableAfter l turns := by
  induction turns generalizing l with
  | nil => exact ⟨rfl, rfl⟩
  | cons t turns ih =>
      obtain ⟨hturns, htable⟩ := ih h.2
      cases h.1 with
      | performed op ht =>
          subst ht
          simp only [List.filter_cons, Turn.isLost_ofOp, Bool.not_false, if_true, List.map_cons]
          refine ⟨?_, htable⟩
          exact congrArg (Turn.ofOp l op :: ·) hturns
      | lost hlost same =>
          simp only [List.filter_cons, hlost, Bool.not_true, Bool.false_eq_true, if_false]
          rw [same] at hturns htable
          refine ⟨hturns, htable.trans ?_⟩
          show tableAfter l turns = tableAfter t.after turns
          rw [same]

theorem Store.table_play {σ : Type} [Files (StateM σ)] (store : Store) (ops : List Ledger.Op)
    (s : σ) :
    ((store.play ops : StateM σ _).run s).1.2.table =
      tableAfter store.table ((store.play ops : StateM σ _).run s).1.1 := by
  induction ops generalizing store s with
  | nil => rfl
  | cons op ops ih => exact ih _ _

namespace LedgerFile

variable {path : Path} (D : Disk path)

/-- The file is in step with the table after an operation when it was before. -/
theorem inStep_perform {table : Ledger} {op : Ledger.Op} {s : D.State} (hsound : table.Sound)
    (hfits : table.Fits) (hop : op.Fits) (h : InStep D s table) :
    ∃ next, ((perform ⟨path, table⟩ op : StateM D.State _).run s).1.2 = ⟨path, next⟩ ∧
      InStep D ((perform ⟨path, table⟩ op : StateM D.State _).run s).2 next := by
  have hfollows := follows_perform ⟨path, table⟩ op s
  have hsettled := settled_perform D table op s
  generalize (perform ⟨path, table⟩ op : StateM D.State _).run s = result at hfollows hsettled ⊢
  rcases result with ⟨⟨answer, f⟩, s'⟩
  rcases hsettled with ⟨hpath, ⟨hkept, hcontent⟩ | ⟨-, hcontent⟩⟩
  · obtain ⟨records, hread, hrecords⟩ := h
    exact ⟨table, hkept, records, by rwa [hcontent], hrecords⟩
  · refine ⟨f.table, ?_, ?_⟩
    · rcases f with ⟨fpath, ftable⟩
      obtain rfl : fpath = path := hpath
      rfl
    · have horder := ((hfollows.step hsound).sound hsound).ascending
      exact inStep_of_content D hcontent horder (hfollows.fits hfits hop)

/-- The file is in step with the table after a run when it was before. -/
theorem inStep_play {table : Ledger} {ops : List Ledger.Op} {s : D.State}
    (hsound : table.Sound) (h : InStep D s table) (hrecords : ∀ r ∈ table.records, r.Fits)
    (hops : ∀ op ∈ ops, op.Fits)
    (hids : ∀ l ∈ tables table (((Store.file ⟨path, table⟩).play ops : StateM D.State _).run s).1.1,
      Json.FitsInt64 l.nextId) :
    ∃ last, (((Store.file ⟨path, table⟩).play ops : StateM D.State _).run s).1.2 =
        .file ⟨path, last⟩ ∧
      InStep D (((Store.file ⟨path, table⟩).play ops : StateM D.State _).run s).2 last := by
  induction ops generalizing table s with
  | nil => exact ⟨table, rfl, h⟩
  | cons op ops ih =>
      have hfits : table.Fits := ⟨hids table List.mem_cons_self, hrecords⟩
      have hop := hops op List.mem_cons_self
      have hfollows := follows_perform ⟨path, table⟩ op s
      obtain ⟨next, hnext, hstep⟩ := inStep_perform D hsound hfits hop h
      simp only [hnext] at hfollows
      simp only [Store.play, Store.perform, run_bind] at hids ⊢
      rw [hnext] at hids ⊢
      refine ih ((hfollows.step hsound).sound hsound) hstep (hfollows.fits hfits hop)
        (fun op' hop' => hops op' (List.mem_cons_of_mem op hop')) ?_
      intro l hl
      exact hids l (List.mem_cons_of_mem table hl)

/-- The file is in step with the table that it was opened with. -/
theorem inStep_openAt {s₀ s₁ : D.State} {f : LedgerFile}
    (h : (openAt path : StateM D.State _).run s₀ = (.ok f, s₁)) :
    f = ⟨path, f.table⟩ ∧ InStep D s₁ f.table ∧ ∀ r ∈ f.table.records, r.Fits := by
  obtain ⟨records, hload, rfl⟩ := openAt_eq_ok h
  obtain ⟨hread, hkept⟩ := loadRecords_eq D s₀
  have hrecords : recordsIn (D.content s₀) = .ok records := hread.symm.trans hload
  have hstate : ((loadRecords path : StateM D.State _).run s₀).2 = s₁ := by
    simp only [openAt, run_bind, hload] at h
    exact congrArg Prod.snd h
  rw [hstate] at hkept
  refine ⟨rfl, ⟨records, by rw [hkept, hrecords], rfl⟩, ?_⟩
  intro r hr
  exact fits_of_recordsIn hrecords r (Ledger.mem_of_mem_ofRecords hr)

/-- A small disk whose third change fails. -/
def sampleDisk : Disk ⟨"l"⟩ :=
  Disk.small ⟨"l"⟩

/-- The state that the sample starts in: there is no file yet. -/
def sampleStart : sampleDisk.State :=
  (⟨none, none, [false, false, true]⟩ : Disk.Small)

def sampleFile : LedgerFile :=
  ⟨⟨"l"⟩, { nextId := 1 }⟩

def sampleOps : List Ledger.Op :=
  [.create default default, .create default default, .list]

def sampleRun : (List Turn × Store) × sampleDisk.State :=
  ((Store.file sampleFile).play sampleOps : StateM sampleDisk.State _).run sampleStart

/-- A tree in which the name beside the file is a link to the file itself. -/
def linkedTree : FileTree where
  nodes := [(["l.tmp"], .link ⟨"l"⟩ 0)]
  current := []
  time := 0

/-- A record is created on this tree. -/
def linkedRun : (List Turn × Store) × FileTree :=
  ((Store.file sampleFile).play [.create default default] : StateM FileTree _).run linkedTree

/-- A moment of a leap second that is not at the end of its minute. -/
def strayMoment : Calendar.Moment :=
  ⟨default, ⟨23, 56, 4, 1333333333, by decide⟩⟩

/-- A record that starts at this moment is created on a disk on which nothing fails. -/
def strayRun : (List Turn × Store) × sampleDisk.State :=
  ((Store.file sampleFile).play [.create { (default : Draft) with startTime := some strayMoment }
    default] : StateM sampleDisk.State _).run (⟨none, none, []⟩ : Disk.Small)

/-- The record that starts at this moment. -/
def strayRecord : Record :=
  Draft.toRecord { (default : Draft) with startTime := some strayMoment } 1 default

/-- The record as it is stored starts in the next second. -/
theorem encode_strayRecord :
    encode [strayRecord] = encode [{ strayRecord with startTime := strayMoment.readBack }] := by
  have htext : strayMoment.text = strayMoment.readBack.text := by decide
  have hstart : strayRecord.startTime.toJson = strayMoment.readBack.toJson :=
    congrArg Json.string htext
  simp only [encode, List.map_cons, List.map_nil, Record.toJson, hstart]

end LedgerFile

end Courier
