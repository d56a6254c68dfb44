import Courier.Files.Operation

/-!
# File trees

A file system in memory: directories, files and symbolic links below one root, with a
current directory that relative paths start from.

Main definitions:

- `FileTree` maps places, which are lists of names from the root, to nodes.
- `FileTree.resolve` follows a path through directories and links to a place.
- `FileTree.perform` performs one operation; the instance `Files (StateM FileTree)` makes
  every program on files run on a tree.
-/

namespace Courier

/-- The names that lead from the root to a place. -/
abbrev Place := List String

/-- What stands at a place. -/
inductive FileTree.Node where
  /-- A file with its content and the time of its last change. -/
  | file (content : ByteArray) (modified : Int)
  | directory (modified : Int)
  /-- A symbolic link with the path it leads to. -/
  | link (target : Path) (modified : Int)
deriving DecidableEq

/-- A file system in memory. -/
structure FileTree where
  /-- The nodes below the root, each with its place. -/
  nodes : List (Place × FileTree.Node)
  /-- The place of the current directory. -/
  current : Place
  /-- The time that changes are stamped with, in milliseconds from the start of 1970. -/
  time : Int

namespace FileTree

/-! ## Nodes -/

/-- What stands at a place; the root is always a directory. -/
def get? (t : FileTree) (place : Place) : Option Node :=
  if place.isEmpty then some (.directory 0) else t.nodes.lookup place

/-- Put a node at a place. -/
def put (t : FileTree) (place : Place) (node : Node) : FileTree :=
  { t with nodes := (place, node) :: t.nodes.filter fun e => e.1 != place }

/-- Remove a place and everything below it. -/
def prune (t : FileTree) (place : Place) : FileTree :=
  { t with nodes := t.nodes.filter fun e => !place.isPrefixOf e.1 }

/-- The nodes directly below a place. -/
def children (t : FileTree) (place : Place) : List (String × Node) :=
  t.nodes.filterMap fun e =>
    match e.1.getLast? with
    | some name => if e.1.dropLast == place then some (name, e.2) else none
    | none => none

/-- Whether a place is a directory. -/
def isDirectoryAt (t : FileTree) (place : Place) : Bool :=
  match t.get? place with
  | some (.directory _) => true
  | _ => false

/-! ## Following paths -/

/-- Where a path leads. -/
inductive Target where
  | found (place : Place) (node : Node)
  /-- To a free name in a directory. -/
  | vacant (place : Place)
deriving DecidableEq

/-- The most links that a path may lead through. -/
def maxLinks : Nat := 40

/-- The most bytes that a name may have. -/
def maxNameBytes : Nat := 255

/-- The parts of a path between slashes, empty ones and inner dots left out, and whether
the path can only mean a directory. -/
def parts (p : Path) : List String × Bool :=
  let all := Text.splitAt '/' p.text
  let last := all.getLast?
  (all.filter fun s => s != "" && s != ".",
    last == some "" || last == some "." || last == some "..")

/-- Follow parts from a directory.  `budget` bounds the parts and links that may be
followed, `links` counts the links, and `follow` says whether a link at the end is
followed. -/
def walk (t : FileTree) (follow : Bool) :
    Nat → Nat → Place → List String → Bool → Except FileFault Target
  | 0, _, _, _, _ => .error .tooManyLinks
  | _ + 1, _, place, [], _ =>
      match t.get? place with
      | some node => .ok (.found place node)
      | none => .error .notFound
  | budget + 1, links, place, part :: rest, needsDirectory =>
      if part == ".." then walk t follow budget links place.dropLast rest needsDirectory
      else if maxNameBytes < part.utf8ByteSize then .error .nameTooLong
      else
        let next := place ++ [part]
        match t.get? next with
        | none =>
            if rest.isEmpty then .ok (.vacant next) else .error .notFound
        | some (.directory modified) =>
            if rest.isEmpty then .ok (.found next (.directory modified))
            else walk t follow budget links next rest needsDirectory
        | some (.file content modified) =>
            if rest.isEmpty && !needsDirectory then .ok (.found next (.file content modified))
            else .error .notDirectory
        | some (.link target modified) =>
            if rest.isEmpty && !needsDirectory && !follow then
              .ok (.found next (.link target modified))
            else if maxLinks ≤ links then .error .tooManyLinks
            else
              let (targetParts, targetDirectory) := parts target
              let start := if target.isAbsolute then [] else place
              walk t follow budget (links + 1) start (targetParts ++ rest)
                (if rest.isEmpty then needsDirectory || targetDirectory else needsDirectory)

/-- The most bytes that a path may have. -/
def maxPathBytes : Nat := 4095

/-- Follow a path.  The bound on the walk is larger than the parts of the path and of all
links together can be. -/
def resolve (t : FileTree) (follow : Bool) (p : Path) : Except FileFault Target :=
  if p.isEmpty then .error .notFound
  else if p.text.toList.contains '\x00' then .error .invalid
  else if maxPathBytes < p.text.utf8ByteSize then .error .nameTooLong
  else
    let (names, needsDirectory) := parts p
    let start := if p.isAbsolute then [] else t.current
    let size := t.nodes.foldl
      (fun n e => match e.2 with
        | .link target _ => max n target.text.length
        | _ => n) p.text.length
    walk t follow ((maxLinks + 1) * (size + 1) + 1) 0 start names needsDirectory

/-! ## Operations -/

/-- The size that is reported for a directory. -/
def directorySize : Nat := 4096

/-- What is known of a node. -/
def Node.metadata : Node → Metadata
  | file content modified => ⟨.file, content.size, modified⟩
  | directory modified => ⟨.directory, directorySize, modified⟩
  | link target modified => ⟨.link, target.text.utf8ByteSize, modified⟩

/-- What a path leads to. -/
def metadata (t : FileTree) (p : Path) : Except FileFault Metadata :=
  match t.resolve true p with
  | .error fault => .error fault
  | .ok (.vacant _) => .error .notFound
  | .ok (.found _ node) => .ok node.metadata

/-- The entries of a directory. -/
def entries (t : FileTree) (p : Path) : Except FileFault (List DirectoryEntry) :=
  match t.resolve true p with
  | .error fault => .error fault
  | .ok (.vacant _) => .error .notFound
  | .ok (.found place (.directory _)) =>
      .ok ((t.children place).map fun e => ⟨e.1, .ok e.2.metadata⟩)
  | .ok (.found _ _) => .error .notDirectory

/-- The content of a file. -/
def read (t : FileTree) (p : Path) : Except FileFault ByteArray :=
  match t.resolve true p with
  | .error fault => .error fault
  | .ok (.found _ (.file content _)) => .ok content
  | .ok (.found _ (.directory _)) => .error .isDirectory
  | .ok _ => .error .notFound

/-- Put a node at a place and stamp the directory it lies in. -/
def enter (t : FileTree) (place : Place) (node : Node) : FileTree :=
  let t := t.put place node
  if place.dropLast.isEmpty then t else t.put place.dropLast (.directory t.time)

/-- Write a file. -/
def write (t : FileTree) (p : Path) (content : ByteArray) : Except FileFault FileTree :=
  match t.resolve true p with
  | .error fault => .error fault
  | .ok (.found place (.file _ _)) => .ok (t.put place (.file content t.time))
  | .ok (.found _ _) => .error .isDirectory
  | .ok (.vacant place) =>
      if (parts p).2 then .error .isDirectory else .ok (t.enter place (.file content t.time))

/-- Make a directory and those above it, with `depth` levels left to go up. -/
def makeDirectoriesFrom : Nat → FileTree → Path → Except FileFault FileTree
  | 0, _, _ => .error .nameTooLong
  | depth + 1, t, p =>
      if p.isEmpty then .ok t
      else
        match t.resolve true p with
        | .ok (.found _ (.directory _)) => .ok t
        | .ok (.found _ _) => .error .alreadyExists
        | .ok (.vacant place) =>
            match t.resolve false p with
            | .ok (.found _ (.link _ _)) => .error .alreadyExists
            | _ => .ok (t.enter place (.directory t.time))
        | .error .notFound =>
            match p.parent? with
            | none => .error .notFound
            | some parent =>
                match makeDirectoriesFrom depth t parent with
                | .error fault => .error fault
                | .ok t =>
                    match t.resolve true p with
                    | .ok (.found _ (.directory _)) => .ok t
                    | .ok (.vacant place) => .ok (t.enter place (.directory t.time))
                    | .ok _ => .error .alreadyExists
                    | .error fault => .error fault
        | .error fault => .error fault

/-- Make a directory and those above it. -/
def makeDirectories (t : FileTree) (p : Path) : Except FileFault FileTree :=
  makeDirectoriesFrom (p.components.length + 2) t p

/-- Move a place and everything below it. -/
def move (t : FileTree) (source target : Place) : FileTree :=
  let moved := t.nodes.filterMap fun e =>
    if source.isPrefixOf e.1 then some (target ++ e.1.drop source.length, e.2) else none
  let t := (t.prune source).prune target
  { t with nodes := moved ++ t.nodes }

/-- Give a file or a directory another name. -/
def rename (t : FileTree) (source target : Path) : Except FileFault FileTree :=
  match t.resolve false source with
  | .error fault => .error fault
  | .ok (.vacant _) => .error .notFound
  | .ok (.found origin node) =>
      match t.resolve false target with
      | .error fault => .error fault
      | .ok (.vacant place) =>
          if origin.isPrefixOf place then .error .invalid
          else if (parts target).2 && !t.isDirectoryAt origin then .error .notDirectory
          else .ok (t.move origin place)
      | .ok (.found place (.directory _)) =>
          match node with
          | .directory _ =>
              if origin == place then .ok t
              else if origin.isPrefixOf place then .error .invalid
              else if (t.children place).isEmpty then .ok (t.move origin place)
              else .error .notEmpty
          | _ => .error .isDirectory
      | .ok (.found place _) =>
          match node with
          | .directory _ => .error .notDirectory
          | _ => if origin == place then .ok t else .ok (t.move origin place)

/-- Remove a file or a link. -/
def remove (t : FileTree) (p : Path) : Except FileFault FileTree :=
  match t.resolve false p with
  | .error fault => .error fault
  | .ok (.vacant _) => .error .notFound
  | .ok (.found _ (.directory _)) => .error .isDirectory
  | .ok (.found place _) => .ok (t.prune place)

/-! ## Changes by others -/

/-- Set the time of the last change of what a path leads to. -/
def touch (t : FileTree) (p : Path) (time : Int) : Except FileFault FileTree :=
  match t.resolve true p with
  | .error fault => .error fault
  | .ok (.vacant _) => .error .notFound
  | .ok (.found place (.file content _)) => .ok (t.put place (.file content time))
  | .ok (.found place (.directory _)) =>
      if place.isEmpty then .ok t else .ok (t.put place (.directory time))
  | .ok (.found place (.link target _)) => .ok (t.put place (.link target time))

/-- Remove a file, a link, or a directory with everything below it. -/
def removeAll (t : FileTree) (p : Path) : Except FileFault FileTree :=
  match t.resolve false p with
  | .error fault => .error fault
  | .ok (.vacant _) => .error .notFound
  | .ok (.found place _) => .ok (t.prune place)

/-- Make a symbolic link. -/
def makeLink (t : FileTree) (p target : Path) : Except FileFault FileTree :=
  match t.resolve false p with
  | .error fault => .error fault
  | .ok (.found _ _) => .error .alreadyExists
  | .ok (.vacant place) => .ok (t.enter place (.link target t.time))

/-! ## Operations as data -/

/-- The answer of an operation that changes the tree, and the tree after it. -/
def answer (t : FileTree) : Except FileFault FileTree → Except FileFault Unit × FileTree
  | .ok t => (.ok (), t)
  | .error fault => (.error fault, t)

/-- Perform an operation: its answer and the tree after it. -/
def perform (t : FileTree) : (op : FileOp) → op.Answer × FileTree
  | .metadata p => (t.metadata p, t)
  | .entries p => (t.entries p, t)
  | .read p => (t.read p, t)
  | .write p content => t.answer (t.write p content)
  | .makeDirectories p => t.answer (t.makeDirectories p)
  | .rename source target => t.answer (t.rename source target)
  | .remove p => t.answer (t.remove p)

instance : Files (StateM FileTree) where
  perform op := fun t => t.perform op

end FileTree

end Courier
