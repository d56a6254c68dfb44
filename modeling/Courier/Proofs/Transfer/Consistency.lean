import Mathlib.Data.List.Induction
import Courier.Transfer.Record

/-!
# Consistency of records

Whoever runs, stops or restarts a transfer changes its record by calls that each set some of the
status, the code, the message and the rank.  What these tell together does not hang on which calls
there were and in what order, but for one thing: an interruption replaces the status and the code
and leaves the message, so that an interrupted record may still show why the transfer failed some
time before.

Main definitions:

- `Record.Call` is a change that can be made to a record, and `Record.perform` makes it.
- `Record.after` is a record after some calls, and `Record.latest?` the last of them that sets a
  given part of it.
- `Status.code?` is the code that goes with a status.
- `Record.Consistent` collects what holds of a record after some calls.

Main statements:

- A part of a record is what the latest call that sets it has set (`Record.part_after`).
- A call is refused just when it would take back the rank of a running record
  (`Record.perform_eq_error_iff`), and then it changes nothing (`Record.eq_of_perform_eq_error`).
- A record that was registered to be picked up is consistent after any calls
  (`Draft.consistent_toRecord`).
-/

namespace Courier

open Calendar

/-- The one code that goes with a status.  A transfer may fail or be stopped with any code. -/
def Status.code? : Status → Option ResultCode
  | running => some .running
  | done => some .completeOk
  | toSubmit => some .initOk
  | inError | interrupted => none

namespace Record

/-! ## Calls -/

/-- A change to a record, made at a moment. -/
inductive Call where
  | setRunning (now : Moment)
  | setDone (now : Moment)
  | setToSubmit (now : Moment)
  | setInError (code : ResultCode) (message : Option String) (now : Moment)
  | setInterrupted (code : ResultCode) (now : Moment)
  | advanceRank (rank : Nat) (now : Moment)
deriving DecidableEq, Repr

namespace Call

/-- The status that a call sets, with the code that goes with it. -/
def mark? : Call → Option (Status × ResultCode)
  | setRunning _ => some (.running, .running)
  | setDone _ => some (.done, .completeOk)
  | setToSubmit _ => some (.toSubmit, .initOk)
  | setInError code _ _ => some (.inError, code)
  | setInterrupted code _ => some (.interrupted, code)
  | advanceRank _ _ => none

/-- The message that a call sets, which may be that there is none. -/
def message? : Call → Option (Option String)
  | setRunning _ => some none
  | setDone _ => some none
  | setToSubmit _ => some none
  | setInError _ message _ => some message
  | setInterrupted _ _ => none
  | advanceRank _ _ => none

/-- A call sets the code that goes with the status that it sets. -/
theorem code_of_mark? {c : Call} {status : Status} {set code : ResultCode}
    (h : c.mark? = some (status, set)) (hcode : status.code? = some code) : set = code := by
  cases c with
  | advanceRank rank now => simp [mark?] at h
  | setInError other message now =>
      obtain ⟨rfl, -⟩ := Prod.mk.inj (Option.some.inj h)
      simp [Status.code?] at hcode
  | setInterrupted other now =>
      obtain ⟨rfl, -⟩ := Prod.mk.inj (Option.some.inj h)
      simp [Status.code?] at hcode
  | _ =>
      obtain ⟨rfl, rfl⟩ := Prod.mk.inj (Option.some.inj h)
      exact Option.some.inj hcode

end Call

/-- Make a call: its answer and the record after it. -/
def perform (r : Record) : Call → Except TransferFault Unit × Record
  | .setRunning now => (.ok (), r.setRunning now)
  | .setDone now => (.ok (), r.setDone now)
  | .setToSubmit now => (.ok (), r.setToSubmit now)
  | .setInError code message now => (.ok (), r.setInError code message now)
  | .setInterrupted code now => (.ok (), r.setInterrupted code now)
  | .advanceRank rank now => match r.advanceRank rank now with
      | .ok r => (.ok (), r)
      | .error fault => (.error fault, r)

/-- The record after some calls. -/
def after (r : Record) (calls : List Call) : Record :=
  calls.foldl (fun r c => (r.perform c).2) r

/-- The latest of some calls that sets a part of a record. -/
def latest? {α : Type} (sets? : Call → Option α) (calls : List Call) : Option Call :=
  (calls.filter fun c => (sets? c).isSome).getLast?

@[simp] theorem after_nil (r : Record) : r.after [] = r := rfl

@[simp] theorem after_cons (r : Record) (c : Call) (calls : List Call) :
    r.after (c :: calls) = (r.perform c).2.after calls := rfl

/-- More calls start from what the calls before have left. -/
theorem after_append (r : Record) (calls more : List Call) :
    r.after (calls ++ more) = (r.after calls).after more :=
  List.foldl_append

theorem latest?_concat {α : Type} (sets? : Call → Option α) (calls : List Call) (c : Call) :
    latest? sets? (calls ++ [c]) = if (sets? c).isSome then some c else latest? sets? calls := by
  cases hc : sets? c with
  | none => simp [latest?, hc]
  | some value => simp [latest?, hc]

/-! ## One call -/

variable {r : Record} {c : Call} {calls : List Call}

/-- A call is refused just when it would take back the rank of a running record. -/
theorem perform_eq_error_iff {fault : TransferFault} :
    (r.perform c).1 = .error fault ↔
      ∃ rank now, c = .advanceRank rank now ∧ r.status = .running ∧ rank < r.rank ∧
        fault = .rankRegression r.key r.rank rank := by
  cases c with
  | advanceRank rank now =>
      by_cases h : r.status = .running ∧ rank < r.rank
      · simp [perform, advanceRank, h, eq_comm]
      · simp only [perform, advanceRank, if_neg h, reduceCtorEq, false_iff]
        rintro ⟨_, _, heq, hrunning, hlt, -⟩
        cases heq
        exact h ⟨hrunning, hlt⟩
  | _ => simp [perform]

/-- A refused call leaves the record as it was. -/
theorem eq_of_perform_eq_error {fault : TransferFault} (h : (r.perform c).1 = .error fault) :
    (r.perform c).2 = r := by
  obtain ⟨rank, now, rfl, hrunning, hlt, -⟩ := perform_eq_error_iff.1 h
  simp only [perform, advanceRank, if_pos (And.intro hrunning hlt)]

/-- A block that is noted or refused changes at most the rank and the moment. -/
theorem exists_perform_advanceRank (r : Record) (rank : Nat) (now : Moment) :
    ∃ newRank moment, (r.perform (.advanceRank rank now)).2 =
      { r with rank := newRank, updatedAt := moment } := by
  simp only [perform]
  cases h : r.advanceRank rank now with
  | ok s => exact ⟨rank, now, eq_of_advanceRank h⟩
  | error fault => exact ⟨r.rank, r.updatedAt, rfl⟩

/-- A call sets the status and the code that it marks a record with, or leaves both. -/
theorem mark_perform (r : Record) (c : Call) :
    ((r.perform c).2.status, (r.perform c).2.errorCode) =
      c.mark?.getD (r.status, r.errorCode) := by
  cases c with
  | advanceRank rank now =>
      obtain ⟨newRank, moment, h⟩ := r.exists_perform_advanceRank rank now
      rw [h]
      rfl
  | _ => rfl

/-- A call sets the message that it has, or leaves the one of before. -/
theorem errorMessage_perform (r : Record) (c : Call) :
    (r.perform c).2.errorMessage = c.message?.getD r.errorMessage := by
  cases c with
  | advanceRank rank now =>
      obtain ⟨newRank, moment, h⟩ := r.exists_perform_advanceRank rank now
      rw [h]
      rfl
  | _ => rfl

/-- No call takes back the rank of a running record. -/
theorem rank_le_perform (hrunning : r.status = .running) (c : Call) :
    r.rank ≤ (r.perform c).2.rank := by
  cases c with
  | advanceRank rank now =>
      simp only [perform]
      cases h : r.advanceRank rank now with
      | ok s => exact rank_le_of_advanceRank hrunning h
      | error fault => exact Nat.le_refl _
  | _ => exact Nat.le_refl _

/-! ## Many calls -/

/-- A part of a record is what the latest call that sets it has set, or what it was at first. -/
theorem part_after {α : Type} (part : Record → α) {sets? : Call → Option α}
    (hstep : ∀ r c, part (r.perform c).2 = (sets? c).getD (part r)) (r : Record)
    (calls : List Call) :
    part (r.after calls) = ((latest? sets? calls).bind sets?).getD (part r) := by
  induction calls using List.reverseRecOn with
  | nil => rfl
  | append_singleton calls c ih =>
      rw [after_append, after_cons, after_nil, hstep, latest?_concat]
      cases hc : sets? c with
      | some value => simp [hc]
      | none => simpa using ih

/-- The latest change of the status set the message too, unless it was an interruption. -/
theorem latest?_mark?_eq_or (calls : List Call) :
    latest? Call.mark? calls = latest? Call.message? calls ∨
      ∃ code now, latest? Call.mark? calls = some (.setInterrupted code now) := by
  induction calls using List.reverseRecOn with
  | nil => exact Or.inl rfl
  | append_singleton calls c ih =>
      rw [latest?_concat, latest?_concat]
      cases c with
      | advanceRank rank now => exact ih
      | setInterrupted code now => exact Or.inr ⟨code, now, rfl⟩
      | _ => exact Or.inl rfl

/-- A record without a message has one after some calls just when the latest call that set it was
a failure with this message. -/
theorem errorMessage_after_iff (h : r.errorMessage = none) {m : String} :
    (r.after calls).errorMessage = some m ↔
      ∃ code now, latest? Call.message? calls = some (.setInError code (some m) now) := by
  rw [part_after Record.errorMessage errorMessage_perform, h]
  cases hlatest : latest? Call.message? calls with
  | none => simp
  | some c => cases c <;> simp [Call.message?]

/-- Calls keep the code of a status that goes with one code only. -/
theorem code_after (h : ∀ code, r.status.code? = some code → r.errorCode = code)
    {code : ResultCode} (hcode : (r.after calls).status.code? = some code) :
    (r.after calls).errorCode = code := by
  have hmark := part_after (fun r => (r.status, r.errorCode)) mark_perform r calls
  cases hlatest : (latest? Call.mark? calls).bind Call.mark? with
  | none =>
      rw [hlatest] at hmark
      obtain ⟨hstatus, hset⟩ := Prod.mk.inj hmark
      rw [hset]
      exact h code (hstatus ▸ hcode)
  | some mark =>
      rw [hlatest] at hmark
      obtain ⟨hstatus, hset⟩ := Prod.mk.inj hmark
      obtain ⟨c, -, hc⟩ := Option.bind_eq_some_iff.1 hlatest
      rw [hset]
      exact Call.code_of_mark? hc (hstatus ▸ hcode)

/-- As long as the calls find a record running, they do not take back its rank. -/
theorem rank_le_after (hrunning : ∀ front, front <+: calls → (r.after front).status = .running) :
    r.rank ≤ (r.after calls).rank := by
  induction calls generalizing r with
  | nil => exact Nat.le_refl _
  | cons c calls ih =>
      have hstep := rank_le_perform (hrunning [] List.nil_prefix) c
      have hrest := ih fun front hfront => hrunning (c :: front) ((List.prefix_cons_inj c).2 hfront)
      exact Nat.le_trans hstep hrest

/-! ## Consistency -/

/-- What holds of a record after some calls. -/
structure Consistent (start : Record) (calls : List Call) : Prop where
  /-- There is a message just when the latest call that says something about it is a failure with
  this message. -/
  message : ∀ m, (start.after calls).errorMessage = some m ↔
    ∃ code now, latest? Call.message? calls = some (.setInError code (some m) now)
  /-- When there is a message, the latest change of the status is a failure with this message, or
  else an interruption. -/
  failed : ∀ m, (start.after calls).errorMessage = some m →
    (∃ code now, latest? Call.mark? calls = some (.setInError code (some m) now)) ∨
      ∃ code now, latest? Call.mark? calls = some (.setInterrupted code now)
  /-- A status that goes with one code only has this code. -/
  code : ∀ code, (start.after calls).status.code? = some code →
    (start.after calls).errorCode = code
  /-- A call that is refused changes nothing. -/
  refused : ∀ pre c post fault, calls = pre ++ c :: post →
    ((start.after pre).perform c).1 = .error fault → start.after (pre ++ [c]) = start.after pre
  /-- From one call to another, as long as all of them leave the record running, its rank does not
  decrease. -/
  rank : ∀ pre mid post, calls = pre ++ mid ++ post →
    (∀ front, front <+: mid → (start.after (pre ++ front)).status = .running) →
      (start.after pre).rank ≤ (start.after (pre ++ mid)).rank

/-- A record without a message, whose code goes with its status, is consistent after any calls. -/
theorem consistent_of (hmessage : r.errorMessage = none)
    (hcode : ∀ code, r.status.code? = some code → r.errorCode = code) (calls : List Call) :
    r.Consistent calls := by
  constructor
  case message =>
    intro m
    exact errorMessage_after_iff hmessage
  case failed =>
    intro m hm
    obtain ⟨code, now, hlatest⟩ := (errorMessage_after_iff hmessage).1 hm
    rcases latest?_mark?_eq_or calls with hsame | hinterrupted
    · exact Or.inl ⟨code, now, hsame.trans hlatest⟩
    · exact Or.inr hinterrupted
  case code =>
    intro code hstatus
    exact code_after hcode hstatus
  case refused =>
    intro pre c post fault _ hfault
    rw [after_append]
    exact eq_of_perform_eq_error hfault
  case rank =>
    intro pre mid post _ hrunning
    rw [after_append]
    refine rank_le_after fun front hfront => ?_
    rw [← after_append]
    exact hrunning front hfront

end Record

namespace Draft

/-- The record of a transfer that was registered to be picked up is consistent after any calls. -/
theorem consistent_toRecord (d : Draft) (h : d.status = .toSubmit) (specialId : Int)
    (now : Moment) (calls : List Record.Call) : (d.toRecord specialId now).Consistent calls := by
  refine Record.consistent_of rfl ?_ calls
  intro code hcode
  simp only [toRecord, h, Status.code?, Option.some.injEq] at hcode
  simp [toRecord, h, ← hcode]

/-- A file that is to be sent in blocks of the usual size. -/
def sampleDraft : Draft where
  requester := "local"
  requested := "hosta"
  rule := "out"
  filename := "a.txt"
  mode := .send
  isSender := true
  blockSize := defaultBlockSize
  fileInfo := noFileInfo
  followId := none
  originalSize := -1
  startTime := none
  status := .toSubmit

/-- A run in which an older block is acknowledged again, its failure, and a stop. -/
def sampleCalls : List Record.Call := [
  .setRunning default, .advanceRank 5 default, .advanceRank 2 default,
  .setInError .transferError (some "disk full") default, .setInterrupted .stoppedTransfer default]

/-- A stopped transfer whose record still shows why it failed before. -/
theorem consistent_toRecord_sample :
    sampleDraft.status = .toSubmit ∧
    (sampleDraft.toRecord 1 default).Consistent sampleCalls ∧
    ((sampleDraft.toRecord 1 default).after sampleCalls).status = .interrupted ∧
    ((sampleDraft.toRecord 1 default).after sampleCalls).errorCode = .stoppedTransfer ∧
    ((sampleDraft.toRecord 1 default).after sampleCalls).errorMessage = some "disk full" ∧
    ((sampleDraft.toRecord 1 default).after sampleCalls).rank = 5 :=
  ⟨rfl, consistent_toRecord sampleDraft rfl 1 default sampleCalls, rfl, rfl, rfl, rfl⟩

end Draft

end Courier
