import Courier.Json.Writer
import Courier.Transfer.Ledger

/-!
# Ledgers kept in a file

A ledger that is written to a file after every change.  A change is first made on a copy,
the copy is written beside the file and moved into its place, and only then does the change
count.  So a failure at any step leaves both the table and the file as they were.

Main definitions:

- `LedgerFile` is a table with the file it is kept in; `LedgerFile.openAt` reads the file.
- `LedgerFile.encode` and `LedgerFile.decode` are the content of the file.
- `LedgerFile.perform` performs an operation on the table and writes the change.
- `Store` is a ledger that is kept in memory or in a file.
-/

namespace Courier

/-- A ledger with the file it is kept in. -/
structure LedgerFile where
  path : Path
  /-- The table, as the file has it. -/
  table : Ledger
deriving DecidableEq, Repr

namespace LedgerFile

/-! ## Content -/

/-- The content of the file for some records. -/
def encode (records : List Record) : String :=
  (Json.list (records.map Record.toJson)).indented

/-- The records in a content.  A blank content holds none. -/
def decode (content : String) : Json.Decoded (List Record) :=
  if Text.isAllBlank content then .ok []
  else Json.decode (Json.toListOf Record.ofJson) content

/-- The path that a new content is written to before it is moved into place. -/
def temporary (path : Path) : Path :=
  path.addExtension ".tmp"

variable {m : Type → Type} [Monad m] [Files m]

/-- Read the records of a file.  A file that does not exist holds none. -/
def loadRecords (path : Path) : m (Except TransferFault (List Record)) := do
  if ← Files.pathExists path then
    match ← Files.readText path with
    | .error fault => return .error (.io fault)
    | .ok content =>
        match decode content with
        | .error fault => return .error (.json fault)
        | .ok records => return .ok records
  else return .ok []

/-- Open the ledger that is kept in a file. -/
def openAt (path : Path) : m (Except TransferFault LedgerFile) := do
  match ← loadRecords path with
  | .error fault => return .error fault
  | .ok records => return .ok ⟨path, .ofRecords records⟩

/-- Write a table: make the directory, write the content beside the file, move it into
place. -/
def persist (path : Path) (table : Ledger) : m (Except TransferFault Unit) := do
  match ← Files.makeParent path with
  | .error fault => return .error (.io fault)
  | .ok () =>
      match ← Files.perform (.write (temporary path) (encode table.records).toUTF8) with
      | .error fault => return .error (.io fault)
      | .ok () =>
          match ← Files.perform (.rename (temporary path) path) with
          | .error fault => return .error (.io fault)
          | .ok () => return .ok ()

/-! ## Operations -/

/-- Make a changed table count, once it is written. -/
def commit {α : Type} (f : LedgerFile) (a : α) (table : Ledger) :
    m (Except TransferFault α × LedgerFile) := do
  match ← persist f.path table with
  | .error fault => return (.error fault, f)
  | .ok () => return (.ok a, { f with table })

/-- Perform an operation and write the change.  Asking for a record or for all of them
writes nothing, and neither does taking out a record that is not there. -/
def perform (f : LedgerFile) : (op : Ledger.Op) → m (op.Answer × LedgerFile)
  | .create d now => let (r, table) := f.table.create d now; f.commit r table
  | .insert r => match f.table.insert r with
      | .error fault => pure (.error fault, f)
      | .ok table => f.commit () table
  | .load key => pure (f.table.find? key, f)
  | .update r => match f.table.update r with
      | .error fault => pure (.error fault, f)
      | .ok table => f.commit () table
  | .delete key => match f.table.find? key with
      | none => pure (.ok false, f)
      | some _ => f.commit true (f.table.erase key)
  | .mark key status code now => match f.table.mark key status code now with
      | .error fault => pure (.error fault, f)
      | .ok (r, table) => f.commit r table
  | .list => pure (f.table.records, f)

end LedgerFile

/-! ## Stores -/

/-- A ledger in memory or in a file. -/
inductive Store where
  /-- A ledger that is only kept in memory. -/
  | memory (table : Ledger)
  /-- A ledger that is kept in a file. -/
  | file (f : LedgerFile)
deriving DecidableEq, Repr

namespace Store

/-- The table of a store. -/
def table : Store → Ledger
  | memory table => table
  | file f => f.table

/-- Perform an operation. -/
def perform {m : Type → Type} [Monad m] [Files m] :
    Store → (op : Ledger.Op) → m (op.Answer × Store)
  | memory table, op => let (a, table) := table.perform op; pure (a, memory table)
  | file f, op => do
      let (a, f) ← f.perform op
      return (a, file f)

end Store

end Courier
