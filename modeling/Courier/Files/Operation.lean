import Courier.Files.Path

/-!
# Operations on files

What the courier asks of a file system, as data, and the places that can answer.

Main definitions:

- `FileOp` is one operation and `FileOp.Answer` the type of its answer; every operation can
  fail with a `FileFault`.
- `Files` is the class of the settings in which operations can be performed: a tree in
  memory, a disk, or a disk on which some of them fail.
- `Files.exists`, `Files.readText`, `Files.save` and their likes are built from the
  operations.
-/

namespace Courier

/-- The contents of files are compared byte by byte. -/
instance Bytes.decidableEq : DecidableEq ByteArray := fun a b =>
  decidable_of_iff (a.data = b.data) ⟨ByteArray.ext, congrArg ByteArray.data⟩

/-- Why an operation on a file fails. -/
inductive FileFault where
  | notFound
  /-- A part of the path is no directory. -/
  | notDirectory
  /-- A directory stands where a file is wanted. -/
  | isDirectory
  /-- There is such a file already. -/
  | alreadyExists
  | notEmpty
  /-- The path leads through too many links. -/
  | tooManyLinks
  /-- A part of the path is too long. -/
  | nameTooLong
  /-- The path or the content is malformed. -/
  | invalid
  | other (reason : String)
deriving DecidableEq, Repr

namespace FileFault

/-- The text of the reason. -/
def message : FileFault → String
  | notFound => "no such file or directory"
  | notDirectory => "not a directory"
  | isDirectory => "is a directory"
  | alreadyExists => "file exists"
  | notEmpty => "directory not empty"
  | tooManyLinks => "too many levels of symbolic links"
  | nameTooLong => "file name too long"
  | invalid => "invalid data"
  | other reason => reason

end FileFault

/-- What a directory entry is. -/
inductive FileKind where
  | file
  | directory
  | link
  /-- A device, a socket or anything else. -/
  | other
deriving DecidableEq, Repr

/-- What is known of a file without reading it. -/
structure Metadata where
  kind : FileKind
  /-- Its size in bytes. -/
  size : Nat
  /-- When it was modified, in milliseconds from the start of 1970. -/
  modified : Int
deriving DecidableEq, Repr

/-- An entry of a directory. -/
structure DirectoryEntry where
  name : String
  /-- What is known of the entry itself; a link is not followed. -/
  metadata : Except FileFault Metadata

/-- An operation on files. -/
inductive FileOp where
  /-- Ask what a path leads to, links followed. -/
  | metadata (p : Path)
  /-- List a directory, in any order. -/
  | entries (p : Path)
  | read (p : Path)
  /-- Write a whole file, replacing what it held. -/
  | write (p : Path) (content : ByteArray)
  /-- Make a directory and those above it, unless they exist. -/
  | makeDirectories (p : Path)
  /-- Give a file another name, replacing what had that name. -/
  | rename (source target : Path)
  | remove (p : Path)

/-- The type of the answer to an operation. -/
abbrev FileOp.Answer : FileOp → Type
  | .metadata _ => Except FileFault Metadata
  | .entries _ => Except FileFault (List DirectoryEntry)
  | .read _ => Except FileFault ByteArray
  | .write _ _ => Except FileFault Unit
  | .makeDirectories _ => Except FileFault Unit
  | .rename _ _ => Except FileFault Unit
  | .remove _ => Except FileFault Unit

/-- A setting in which operations on files are performed. -/
class Files (m : Type → Type) where
  perform : (op : FileOp) → m op.Answer

namespace Files

variable {m : Type → Type} [Monad m] [Files m]

/-! ## Questions -/

/-- What a path leads to, if it leads anywhere. -/
def metadata (p : Path) : m (Except FileFault Metadata) :=
  perform (.metadata p)

/-- Whether a path leads to anything. -/
def pathExists (p : Path) : m Bool := do
  return (← metadata p).isOk

/-- Whether a path leads to something of a kind. -/
def hasKind (kind : FileKind) (p : Path) : m Bool := do
  match ← metadata p with
  | .ok info => return info.kind == kind
  | .error _ => return false

/-- Whether a path leads to a directory. -/
def isDirectory (p : Path) : m Bool :=
  hasKind .directory p

/-- Whether a path leads to a regular file. -/
def isFile (p : Path) : m Bool :=
  hasKind .file p

/-- The entries of a directory. -/
def entries (p : Path) : m (Except FileFault (List DirectoryEntry)) :=
  perform (.entries p)

/-! ## Contents -/

/-- The bytes of a file. -/
def read (p : Path) : m (Except FileFault ByteArray) :=
  perform (.read p)

/-- The text of a file. -/
def readText (p : Path) : m (Except FileFault String) := do
  match ← read p with
  | .error fault => return .error fault
  | .ok bytes =>
      match String.fromUTF8? bytes with
      | some text => return .ok text
      | none => return .error .invalid

/-- Make the directory that a path lies in. -/
def makeParent (p : Path) : m (Except FileFault Unit) :=
  match p.parent? with
  | none => pure (.ok ())
  | some parent => perform (.makeDirectories parent)

/-- Write a text to a file, making the directory it lies in. -/
def save (p : Path) (text : String) : m (Except FileFault Unit) := do
  match ← makeParent p with
  | .error fault => return .error fault
  | .ok () => perform (.write p text.toUTF8)

/-- Remove a file. -/
def remove (p : Path) : m (Except FileFault Unit) :=
  perform (.remove p)

end Files

end Courier
