import Courier.Ordered
import Courier.Transfer.Record

/-!
# The ledger

The table of all records.  It gives each new transfer a number that no record in it has,
never changes a record that is done, and never lets the rank of a running record decrease.

Main definitions:

- `Ledger` is the table: its records in the order of their keys, and the next number.
- `Ledger.create`, `Ledger.insert`, `Ledger.update`, `Ledger.erase` and `Ledger.mark` are the
  operations on it, and `Ledger.Op` the same operations as data.
- `Ledger.Sound` says that the records are in order and their numbers below the next one.

Main statements:

- Looking up a record after `put` and `erase` (`find?_put_self`, `find?_put_of_ne`,
  `find?_erase_self`, `find?_erase_of_ne`).
-/

namespace Courier

open Calendar

/-- The table of all records. -/
structure Ledger where
  /-- The records, in ascending order of their keys. -/
  records : List Record := []
  /-- The number of the next transfer, or anything below one before the first. -/
  nextId : Int := 0
deriving DecidableEq, Repr, Inhabited

namespace Ledger

/-- Whether a record is listed before another one. -/
def before (a b : Record) : Bool :=
  a.key.precedes b.key

/-- The record under a key. -/
def find? (l : Ledger) (key : Record.Key) : Option Record :=
  l.records.find? fun r => r.key == key

/-- File a record under its key, in place of any other one there. -/
def put (l : Ledger) (r : Record) : Ledger :=
  { l with records := Ordered.put before r l.records }

/-- Take out the record under a key. -/
def erase (l : Ledger) (key : Record.Key) : Ledger :=
  { l with records := l.records.filter fun r => r.key != key }

/-- The number that the next transfer gets. -/
def freshId (l : Ledger) : Int :=
  max l.nextId 1

/-- The table of some records.  Of two with the same key the later one is kept.  The next
number is above all of theirs. -/
def ofRecords (records : List Record) : Ledger :=
  let highest := match records.map Record.specialId with
    | [] => 0
    | id :: ids => ids.foldl max id
  records.foldl put { nextId := highest + 1 }

/-! ## Operations -/

/-- Enter a new transfer. -/
def create (l : Ledger) (d : Draft) (now : Moment) : Record × Ledger :=
  let r := d.toRecord l.freshId now
  (r, { l.put r with nextId := l.freshId + 1 })

/-- Enter a record that was made elsewhere. -/
def insert (l : Ledger) (r : Record) : Except TransferFault Ledger :=
  match l.find? r.key with
  | some _ => .error (.duplicateRecord r.key)
  | none => .ok { l.put r with nextId := max l.nextId (r.specialId + 1) }

/-- Replace the record under a key.  A record that is done stays as it is, and the rank of a
running record does not decrease. -/
def update (l : Ledger) (r : Record) : Except TransferFault Ledger :=
  match l.find? r.key with
  | none => .error (.recordNotFound r.key)
  | some stored =>
      if stored.isAllDone ∧ stored ≠ r then .error (.recordImmutable r.key)
      else if stored.status = .running ∧ r.status = .running ∧ r.rank < stored.rank then
        .error (.rankRegression r.key stored.rank r.rank)
      else .ok (l.put r)

/-- Change the status of the record under a key. -/
def mark (l : Ledger) (key : Record.Key) (status : Status) (code : ResultCode)
    (now : Moment) : Except TransferFault (Record × Ledger) :=
  match l.find? key with
  | none => .error (.recordNotFound key)
  | some r =>
      match l.update (r.mark status code now) with
      | .error fault => .error fault
      | .ok l => .ok (r.mark status code now, l)

/-- An operation on the table. -/
inductive Op where
  /-- Enter a new transfer at a moment. -/
  | create (d : Draft) (now : Moment)
  /-- Enter a record that was made elsewhere. -/
  | insert (r : Record)
  /-- Look up the record under a key. -/
  | load (key : Record.Key)
  /-- Replace the record under a key. -/
  | update (r : Record)
  /-- Take out the record under a key. -/
  | delete (key : Record.Key)
  /-- Change the status of the record under a key at a moment. -/
  | mark (key : Record.Key) (status : Status) (code : ResultCode) (now : Moment)
  | list
deriving DecidableEq, Repr

/-- The type of the answer to an operation. -/
abbrev Op.Answer : Op → Type
  | .create _ _ => Except TransferFault Record
  | .insert _ => Except TransferFault Unit
  | .load _ => Option Record
  | .update _ => Except TransferFault Unit
  | .delete _ => Except TransferFault Bool
  | .mark _ _ _ _ => Except TransferFault Record
  | .list => List Record

/-- Perform an operation: its answer and the table after it. -/
def perform (l : Ledger) : (op : Op) → op.Answer × Ledger
  | .create d now => let (r, l) := l.create d now; (.ok r, l)
  | .insert r => match l.insert r with
      | .ok l => (.ok (), l)
      | .error fault => (.error fault, l)
  | .load key => (l.find? key, l)
  | .update r => match l.update r with
      | .ok l => (.ok (), l)
      | .error fault => (.error fault, l)
  | .delete key => (.ok (l.find? key).isSome, l.erase key)
  | .mark key status code now => match l.mark key status code now with
      | .ok (r, l) => (.ok r, l)
      | .error fault => (.error fault, l)
  | .list => (l.records, l)

/-! ## Order -/

/-- Whether the records are in order and every number is below the next one. -/
structure Sound (l : Ledger) : Prop where
  /-- The records are in strictly ascending order of their keys. -/
  ascending : Ordered.Ascending before l.records
  /-- The number of every record is below the next one to be given. -/
  below : ∀ r ∈ l.records, r.specialId < l.freshId

/-- The empty table is sound. -/
theorem sound_empty : Sound {} :=
  ⟨List.Pairwise.nil, by simp⟩

/-- Filing a record keeps the records in order. -/
theorem ascending_put {l : Ledger} (h : Ordered.Ascending before l.records) (r : Record) :
    Ordered.Ascending before (l.put r).records := by
  refine Ordered.ascending_put ?_ ?_ h
  · intro a b c hab hbc
    exact Record.Key.precedes_trans hab hbc
  · intro a b c hab hba hbc
    have hkey : a.key = b.key := by
      by_cases hne : a.key = b.key
      · exact hne
      · rcases Record.Key.precedes_total hne with h | h
        · simp [before, h] at hab
        · simp [before, h] at hba
    simpa [before, hkey] using hbc

/-! ## Looking up -/

/-- A record that was filed is found. -/
theorem find?_put_self (l : Ledger) (r : Record) : (l.put r).find? r.key = some r := by
  simp only [find?, put]
  induction l.records with
  | nil => simp [Ordered.put]
  | cons b rest ih =>
      simp only [Ordered.put]
      split
      · simp
      · split
        · next h =>
            have hne : (b.key == r.key) = false := by
              rw [beq_eq_false_iff_ne]
              intro hk
              simp [before, hk, Record.Key.precedes_irrefl] at h
            simp only [List.find?_cons, hne]
            exact ih
        · simp

/-- Filing a record does not change what is under other keys. -/
theorem find?_put_of_ne (l : Ledger) {r : Record} {key : Record.Key} (h : key ≠ r.key) :
    (l.put r).find? key = l.find? key := by
  have hr : (r.key == key) = false := by
    rw [beq_eq_false_iff_ne]
    exact fun hk => h hk.symm
  simp only [find?, put]
  induction l.records with
  | nil => simp [Ordered.put, hr]
  | cons b rest ih =>
      simp only [Ordered.put]
      split
      · simp only [List.find?_cons, hr]
      · split
        · simp only [List.find?_cons, ih]
        · next h1 h2 =>
            have hb : (b.key == key) = false := by
              rw [beq_eq_false_iff_ne]
              intro hk
              have hne : r.key ≠ b.key := by
                rw [hk]
                exact fun hk' => h hk'.symm
              rcases Record.Key.precedes_total hne with h3 | h3
              · exact h1 h3
              · exact h2 h3
            simp only [List.find?_cons, hr, hb]

/-- Nothing is found under a key that was taken out. -/
theorem find?_erase_self (l : Ledger) (key : Record.Key) : (l.erase key).find? key = none := by
  simp [find?, erase]

/-- Taking out a record does not change what is under other keys. -/
theorem find?_erase_of_ne (l : Ledger) {key other : Record.Key} (h : other ≠ key) :
    (l.erase key).find? other = l.find? other := by
  simp only [find?, erase]
  induction l.records with
  | nil => rfl
  | cons b rest ih =>
      by_cases hb : b.key = key
      · have hb' : (b.key == other) = false := by
          rw [beq_eq_false_iff_ne]
          exact fun hk => h (hk.symm.trans hb)
        simp only [List.filter_cons, hb, bne_self_eq_false, List.find?_cons]
        rw [hb] at hb'
        simpa [hb'] using ih
      · have hk : (b.key != key) = true := by simpa using hb
        simp only [List.filter_cons, hk, if_true, List.find?_cons, ih]

end Ledger

end Courier
