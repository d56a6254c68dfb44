import Courier.Files.Operation
import Courier.Pattern.Wildcard

/-!
# Names of files

The names that a caller gives: lists separated by commas, and patterns that stand for all
files of a directory tree that match them.

Main definitions:

- `Names.split` takes a list apart.
- `Names.hasWildcard` tells patterns from plain names.
- `Names.expand` lists the files that a pattern stands for.
-/

namespace Courier.Names

/-! ## Lists -/

/-- The entries of a list separated by commas.  Blank ones do not count. -/
def split (list : String) : List String :=
  ((Text.splitAt ',' list).map Text.trim).filter fun item => item != ""

/-- Whether a name is a pattern. -/
def hasWildcard (name : String) : Bool :=
  name.toList.any fun c => c == '*' || c == '?' || c == '~'

/-! ## Expansion -/

/-- Names in ascending order. -/
def sort (names : List String) : List String :=
  names.mergeSort fun a b => decide (a ≤ b)

variable {m : Type → Type} [Monad m] [Files m]

/-- The names in a directory that match a pattern, in order.  A directory that cannot be
listed has none. -/
def matchingNames (directory : Path) (pattern : String) : m (List String) := do
  match ← Files.entries directory with
  | .error _ => return []
  | .ok entries =>
      return sort ((entries.map DirectoryEntry.name).filter (Wildcard.acceptsName pattern))

/-- All candidates one component further. -/
def extend (base : Path) (component : Path.Component) (candidates : List Path) :
    m (List Path) :=
  match component with
  | .name segment =>
      if Wildcard.isPattern segment then do
        let next ← candidates.mapM fun candidate => do
          let names ← matchingNames (base.join candidate) segment
          return names.map fun name => candidate.join ⟨name⟩
        return next.flatten
      else return candidates.map fun candidate => candidate.join ⟨segment⟩
  | other => return candidates.map fun candidate => candidate.join ⟨other.text⟩

/-- The candidates for a row of components. -/
def candidates (base : Path) : List Path.Component → List Path → m (List Path)
  | [], found => return found
  | component :: rest, found => do
      let found ← extend base component found
      candidates base rest found

/-- The regular files that a pattern stands for, relative to a directory unless the pattern
is absolute. -/
def expand (base : Path) (pattern : String) : m (List String) := do
  let found ← candidates base (Path.mk pattern).components [⟨""⟩]
  let files ← found.filterM fun candidate => Files.isFile (base.join candidate)
  return files.map Path.text

end Courier.Names
