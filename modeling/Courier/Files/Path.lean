import Courier.Json.Decode
import Courier.Text.Blank

/-!
# Paths

The name of a file.  A path keeps the text it was given, because that text is what is shown
and stored, but two paths are the same when their components are: doubled and trailing
slashes and inner dots make no difference.

Main definitions:

- `Path.components` are the parts that a path names one after the other.
- `Path.same` and `Path.precedes` compare paths component by component.
- `Path.join`, `Path.parent?`, `Path.fileName?` and `Path.startsWith` take paths apart and
  put them together.

Main statements:

- Being the same is an equivalence (`same_refl`, `same_symm`, `same_trans`).
-/

namespace Courier

/-- One part of a path. -/
inductive Path.Component where
  | root
  /-- The current directory, at the front of a path. -/
  | here
  | up
  | name (s : String)
deriving DecidableEq, Repr, Inhabited

/-- The name of a file. -/
structure Path where
  text : String
deriving DecidableEq, Repr, Inhabited

namespace Path

/-! ## Components -/

/-- The place of a kind of component in the order of components. -/
def Component.rank : Component → Nat
  | root => 0
  | here => 1
  | up => 2
  | name _ => 3

/-- Whether a component comes before another one: first by kind, then by name. -/
def Component.precedes : Component → Component → Bool
  | name s, name t => decide (s < t)
  | a, b => a.rank < b.rank

/-- The text of a component. -/
def Component.text : Component → String
  | root => "/"
  | here => "."
  | up => ".."
  | name s => s

/-- The component that a part between slashes stands for, if it counts at all. -/
def Component.ofPart? (part : String) : Option Component :=
  if part = "" ∨ part = "." then none
  else if part = ".." then some up
  else some (name part)

/-- Whether a path starts at the root directory. -/
def isAbsolute (p : Path) : Bool :=
  p.text.toList.head? == some '/'

/-- The components of a path.  A dot counts only at the front. -/
def components (p : Path) : List Component :=
  let parts := Text.splitAt '/' p.text
  let rest := parts.filterMap Component.ofPart?
  if p.isAbsolute then .root :: rest
  else if parts.head? == some "." then .here :: rest
  else rest

/-! ## Comparison -/

/-- Whether two paths have the same components. -/
def same (p q : Path) : Bool :=
  p.components == q.components

@[simp]
theorem same_refl (p : Path) : p.same p = true := by
  simp [same]

theorem same_iff {p q : Path} : p.same q = true ↔ p.components = q.components := by
  simp [same]

theorem same_symm {p q : Path} (h : p.same q = true) : q.same p = true :=
  same_iff.2 (same_iff.1 h).symm

theorem same_trans {p q r : Path} (h : p.same q = true) (k : q.same r = true) :
    p.same r = true :=
  same_iff.2 ((same_iff.1 h).trans (same_iff.1 k))

/-- Whether a row of components comes before another one, compared from the front. -/
def precedesComponents : List Component → List Component → Bool
  | [], [] => false
  | [], _ :: _ => true
  | _ :: _, [] => false
  | a :: as, b :: bs => a.precedes b || (a == b && precedesComponents as bs)

/-- Whether a path comes before another one, component by component. -/
def precedes (p q : Path) : Bool :=
  precedesComponents p.components q.components

/-- Whether a path is another one or lies below it. -/
def startsWith (p q : Path) : Bool :=
  q.components.isPrefixOf p.components

/-! ## Taking apart and putting together -/

/-- Whether the path is the empty text. -/
def isEmpty (p : Path) : Bool :=
  p.text.isEmpty

/-- A path below another one.  An absolute path stands for itself. -/
def join (p : Path) (q : Path) : Path :=
  if q.isAbsolute then q
  else if p.text.isEmpty || p.text.toList.getLast? == some '/' then ⟨p.text ++ q.text⟩
  else ⟨p.text ++ "/" ++ q.text⟩

/-- The path with more text at its end. -/
def addExtension (p : Path) (extension : String) : Path :=
  ⟨p.text ++ extension⟩

/-- The path with the given components. -/
def ofComponents (cs : List Component) : Path :=
  cs.foldl (fun p c => p.join ⟨c.text⟩) ⟨""⟩

/-- The directory that a path lies in; the root and the empty path lie in none. -/
def parent? (p : Path) : Option Path :=
  match p.components.reverse with
  | [] => none
  | .root :: _ => none
  | _ :: rest => some (ofComponents rest.reverse)

/-- The name that a path ends with. -/
def fileName? (p : Path) : Option String :=
  match p.components.getLast? with
  | some (.name s) => some s
  | _ => none

/-! ## JSON -/

/-- A path as a string. -/
def toJson (p : Path) : Json :=
  .string p.text

/-- Read a path from a string. -/
def ofJson (j : Json) : Json.Decoded Path :=
  (Json.toText j).map Path.mk

end Path

end Courier
