import Courier.Files.Tree
import Courier.Json.Loose
import Courier.Text.Hex

/-!
# Changes by others

What others than the courier do with a tree of files.  A change that cannot be made is left
out.

Main definitions:

- `FileTree.Change` is a change, and `FileTree.apply` makes it.
- `FileTree.Change.ofJson` reads a change.
-/

namespace Courier.FileTree

/-- A change of a tree. -/
inductive Change where
  /-- Make a directory and those above it. -/
  | makeDirectory (p : Path)
  /-- Write a file with its directories, and set the time of its last change. -/
  | write (p : Path) (content : ByteArray) (modified : Int)
  /-- Set the time of the last change. -/
  | touch (p : Path) (modified : Int)
  /-- Remove a file, or a directory with all it holds. -/
  | remove (p : Path)
  /-- Give a file or a directory another name. -/
  | rename (source target : Path)
  | link (p target : Path)
deriving DecidableEq

/-- The tree after a change that may have failed. -/
def orElse (t : FileTree) : Except FileFault FileTree → FileTree
  | .ok t => t
  | .error _ => t

/-- Write a file with its directories, and set the time of its last change. -/
def place (t : FileTree) (p : Path) (content : ByteArray) (modified : Int) : FileTree :=
  let t := match p.parent? with
    | some directory => t.orElse (t.makeDirectories directory)
    | none => t
  let t := t.orElse (t.write p content)
  t.orElse (t.touch p modified)

/-- Make a change. -/
def apply (t : FileTree) : Change → FileTree
  | .makeDirectory p => t.orElse (t.makeDirectories p)
  | .write p content modified => t.place p content modified
  | .touch p modified => t.orElse (t.touch p modified)
  | .remove p => t.orElse (t.removeAll p)
  | .rename source target => t.orElse (t.rename source target)
  | .link p target => t.orElse (t.makeLink p target)

/-- A tree with nothing but some directories, one of them the current one. -/
def ofDirectories (places : List Place) (current : Place) (time : Int) : FileTree where
  nodes := ((List.range current.length).map (fun n => current.take (n + 1)) ++ places).map
    fun place => (place, .directory time)
  current := current
  time := time

/-! ## JSON -/

/-- Bytes, in one of the members `hex`, `text` and `fill`, where `fill` is a byte and how
often it comes. -/
def contentOfJson (j : Json) : Json.Decoded (Option ByteArray) :=
  match j.given? "hex", j.given? "text", j.given? "fill" with
  | some (.string s), _, _ => .ok (Text.Hex.decode? s)
  | _, some (.string s), _ => .ok (some s.toUTF8)
  | _, _, some (.list [byte, count]) => do
      let byte ← Json.toByte byte
      let count ← Json.toNat64 count
      return some ⟨Array.replicate count byte⟩
  | _, _, _ => .ok none

/-- When files were changed that are written without a time. -/
def standardTime : Int := 1600000000000

/-- Read a change. -/
def Change.ofJson (j : Json) : Json.Decoded Change := do
  let path : Path := ⟨j.textAt "path"⟩
  let target : Path := ⟨j.textAt "to"⟩
  let modified ← j.mayOr "mtime" standardTime Json.toInt64
  match j.textAt "fs" with
  | "mkdir" => return .makeDirectory path
  | "write" => return .write path ((← contentOfJson j).getD .empty) modified
  | "touch" => return .touch path modified
  | "remove" => return .remove path
  | "rename" => return .rename path target
  | "symlink" => return .link path target
  | other => .error (.unknownName other)

end Courier.FileTree
