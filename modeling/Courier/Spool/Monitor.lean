import Courier.Digest.Sha256
import Courier.Json.Writer
import Courier.Spool.Item
import Courier.Spool.Job

/-!
# Monitors

A monitor looks at directories again and again and finds the files that have stopped
changing.  A file is first noted with its time and size; when these held until the next
look, its digest is taken; when that held for another look, the file is ready and is marked
used, until it changes.

Main definitions:

- `Survey` is what one look at the directories found.
- `Monitor.absorb` is what a look changes, as a pure function of the survey and the digests;
  `Monitor.scan` takes the survey and the digests and absorbs them.
- `Monitor.finalize` notes the result of a dispatch.
- `Monitor.summaryFor` is the message for an observer, `Monitor.markDelivered` and
  `Monitor.forceFull` note what became of it.
- `Monitor.load`, `Monitor.saveStatus` read and write the status file.
-/

namespace Courier

open Calendar

/-! ## Surveys -/

/-- A file that a look at the directories found. -/
structure Survey.Found where
  path : Path
  /-- When it was modified, in milliseconds from the start of 1970. -/
  modified : Int
  /-- Its size in bytes. -/
  size : Nat
deriving DecidableEq, Repr, Inhabited

/-- What a look at the directories found. -/
structure Survey where
  /-- The files, in the order of their paths. -/
  files : List Survey.Found := []
  /-- The paths that could not be read. -/
  unreadable : List Path := []
deriving DecidableEq, Repr, Inhabited

namespace Survey

/-- Whether a file comes before another one. -/
def Found.before (a b : Found) : Bool :=
  a.path.precedes b.path

/-- Note a file.  When it was found before, the first spelling of its path stays. -/
def addFile (s : Survey) (f : Found) : Survey :=
  let spelled := match s.files.find? fun g => g.path.same f.path with
    | some g => { f with path := g.path }
    | none => f
  { s with files := Ordered.put Found.before spelled s.files }

/-- Note a path that could not be read. -/
def addUnreadable (s : Survey) (p : Path) : Survey :=
  { s with unreadable := s.unreadable ++ [p] }

/-- Whether a path was found. -/
def has (s : Survey) (p : Path) : Bool :=
  s.files.any fun f => f.path.same p

/-- Whether a path may have been missed because something above it could not be read. -/
def mayMiss (s : Survey) (p : Path) : Bool :=
  s.unreadable.any fun q => p.startsWith q

/-- The most directories that a look follows into each other. -/
def maxDepth : Nat := 4096

variable {m : Type → Type} [Monad m] [Files m]

/-- Look at the entries of a directory.  `inner` looks at a directory in it. -/
def addEntries (inner : Path → Survey → m Survey) (recursive : Bool) (directory : Path) :
    List DirectoryEntry → Survey → m Survey
  | [], s => return s
  | entry :: rest, s => do
      let path := directory.join ⟨entry.name⟩
      let s ← match entry.metadata with
        | .error .notFound => pure s
        | .error _ => pure (s.addUnreadable path)
        | .ok info =>
            match info.kind with
            | .directory => if recursive then inner path s else pure s
            | .file => pure (s.addFile ⟨path, max 0 info.modified, info.size⟩)
            | _ => pure s
      addEntries inner recursive directory rest s

/-- Look at a directory, and into those in it when `recursive` is set. -/
def addDirectory (recursive : Bool) : Nat → Path → Survey → m Survey
  | 0, directory, s => return s.addUnreadable directory
  | depth + 1, directory, s => do
      match ← Files.entries directory with
      | .error _ => return s.addUnreadable directory
      | .ok entries => addEntries (addDirectory recursive depth) recursive directory entries s

/-- Look at directories. -/
def addDirectories (recursive : Bool) : List Path → Survey → m Survey
  | [], s => return s
  | directory :: rest, s => do
      let s ← addDirectory recursive maxDepth directory s
      addDirectories recursive rest s

end Survey

/-! ## Summaries -/

/-- The message for an observer. -/
structure Summary where
  name : String
  /-- Whether the items are all items, and not only the changes. -/
  full : Bool
  items : List Item
  /-- The paths of items that are gone. -/
  removed : List Path
  counters : Counters
  generatedAt : Moment
deriving DecidableEq, Repr, Inhabited

namespace Summary

/-- The fields of a summary, in order. -/
def fieldNames : List String :=
  ["name", "full", "items", "removed", "counters", "generatedAt"]

/-- A summary as an object. -/
def toJson (s : Summary) : Json :=
  .object [("name", .string s.name), ("full", .bool s.full),
    ("items", .list (s.items.map Item.toJson)), ("removed", .list (s.removed.map Path.toJson)),
    ("counters", s.counters.toJson), ("generatedAt", s.generatedAt.toJson)]

/-- Read a summary. -/
def ofJson (j : Json) : Json.Decoded Summary := do
  let f ← Json.fields fieldNames j
  let name ← f.required "name" Json.toText
  let full ← f.required "full" Json.toBool
  let items ← f.required "items" (Json.toListOf Item.ofJson)
  let removed ← f.withDefault "removed" [] (Json.toListOf Path.ofJson)
  let counters ← f.required "counters" Counters.ofJson
  let generatedAt ← f.required "generatedAt" Moment.ofJson
  return { name, full, items, removed, counters, generatedAt }

end Summary

/-! ## Monitors -/

/-- A monitor of directories. -/
structure Monitor where
  name : String
  directories : List Path
  /-- The file that keeps what the monitor knows. -/
  statusFile : Path
  /-- The filter on names of files. -/
  filter : Option Regex
  minimalSize : Nat
  /-- Whether to look into inner directories. -/
  recursive : Bool
  /-- The zone whose dates tell the days of the counters. -/
  zone : Zone := .utc
  /-- What is known of the files. -/
  items : Items := []
  counters : Counters
  /-- For each observer that got a message, the items that it was made from. -/
  delivered : List (String × Items) := []
  /-- The observers that get a full message next. -/
  forcedFull : List String := []
  /-- Whether anything changed since the status file was written. -/
  dirty : Bool := false
deriving Repr

namespace Monitor

/-! ## Looking -/

/-- Whether a monitor cares for a file. -/
def accepts (m : Monitor) (f : Survey.Found) : Bool :=
  m.minimalSize ≤ f.size &&
    match m.filter with
    | none => true
    | some filter => f.path.fileName?.any filter.isMatch

/-- The part of a survey that a monitor cares for. -/
def relevant (m : Monitor) (s : Survey) : Survey :=
  { s with files := s.files.filter m.accepts }

/-- The items that a survey does not show to be gone. -/
def keep (m : Monitor) (s : Survey) : Monitor :=
  let items := m.items.filter fun i => s.has i.path || s.mayMiss i.path
  { m with items, dirty := m.dirty || items.length != m.items.length }

/-- Whether the time and size of a file are those that were noted. -/
def isSteady (i : Item) (f : Survey.Found) : Bool :=
  i.lastModified == f.modified && i.size == f.size

/-- Whether the digest of a file has to be taken. -/
def wantsDigest (m : Monitor) (f : Survey.Found) : Bool :=
  match m.items.find? f.path with
  | none => false
  | some i => isSteady i f && !i.used

/-- Note an item. -/
def note (m : Monitor) (i : Item) : Monitor :=
  { m with items := m.items.put i, dirty := true }

/-- The item of a file that changed. -/
def changed (i : Item) (f : Survey.Found) : Item :=
  { i with
    lastModified := f.modified, size := f.size, hash := none, used := false
    timeUsed := none }

/-- What a look changes for one file, and the item if it became ready. -/
def absorbFile (digest : Path → Option String) (m : Monitor) (f : Survey.Found) :
    Option Item × Monitor :=
  match m.items.find? f.path with
  | none => (none, m.note { path := f.path, lastModified := f.modified, size := f.size })
  | some i =>
      if !isSteady i f then (none, m.note (changed i f))
      else if i.used then (none, m)
      else
        match digest f.path with
        | none => (none, m)
        | some hash =>
            if i.hash = some hash then
              let ready := { i with used := true }
              (some ready, m.note ready)
            else (none, m.note { i with hash := some hash })

/-- What a look changes for several files, and the items that became ready. -/
def absorbFiles (digest : Path → Option String) :
    List Survey.Found → Monitor → List Item × Monitor
  | [], m => ([], m)
  | f :: rest, m =>
      let (ready, m) := m.absorbFile digest f
      let (others, m) := absorbFiles digest rest m
      (ready.toList ++ others, m)

/-- What a look changes, and the items that became ready, in the order of their paths. -/
def absorb (m : Monitor) (s : Survey) (digest : Path → Option String) : List Item × Monitor :=
  absorbFiles digest s.files (m.keep s)

/-- The digests of files, by path; a file that cannot be read has none. -/
def digestsOf {n : Type → Type} [Monad n] [Files n] :
    List Survey.Found → n (List (Path × Option String))
  | [] => return []
  | f :: rest => do
      let digest ← Digest.ofFile f.path
      let others ← digestsOf rest
      return (f.path, digest.toOption) :: others

/-- Look at the directories.  The items that became ready are marked used. -/
def scan {n : Type → Type} [Monad n] [Files n] (m : Monitor) : n (List Item × Monitor) := do
  let found ← Survey.addDirectories m.recursive m.directories {}
  let survey := m.relevant found
  let digests ← digestsOf (survey.files.filter m.wantsDigest)
  return m.absorb survey fun p => (digests.lookup p).join

/-! ## Results -/

/-- The item after the result of its dispatch.  A failed one is looked at anew. -/
def settled (i : Item) (success : Bool) (specialId : Option Int) (now : Moment) : Item :=
  { i with
    specialId := specialId.or i.specialId
    timeUsed := some now
    used := i.used && success
    hash := if success then i.hash else none }

/-- Note the result of a dispatch. -/
def finalize (m : Monitor) (p : Path) (success : Bool) (specialId : Option Int)
    (now : Moment) : Monitor :=
  { m with
    counters := m.counters.count success (m.zone.date now)
    items := m.items.map fun i =>
      if i.path.same p then settled i success specialId now else i
    dirty := true }

/-! ## Messages to observers -/

/-- The items that an observer knows, unless it gets a full message next. -/
def knownTo (m : Monitor) (observer : String) : Option Items :=
  if m.forcedFull.contains observer then none else m.delivered.lookup observer

/-- The items that differ from known ones. -/
def changesSince (m : Monitor) (known : Items) : List Item :=
  m.items.filter fun i => !(known.find? i.path).any i.agrees

/-- The paths of known items that are gone. -/
def goneSince (m : Monitor) (known : Items) : List Path :=
  (known.filter fun i => !m.items.contains i.path).map Item.path

/-- The message for an observer: what changed since the last message that was delivered, or
everything. -/
def summaryFor (m : Monitor) (observer : String) (now : Moment) : Summary :=
  match m.knownTo observer with
  | none => ⟨m.name, true, m.items, [], m.counters, now⟩
  | some known => ⟨m.name, false, m.changesSince known, m.goneSince known, m.counters, now⟩

/-- An observer accepted a message that was made from some items. -/
def markDelivered (m : Monitor) (observer : String) (items : Items) : Monitor :=
  { m with
    delivered := (observer, items) :: m.delivered.filter fun d => d.1 != observer
    forcedFull := m.forcedFull.filter fun o => o != observer }

/-- The next message for an observer is a full one. -/
def forceFull (m : Monitor) (observer : String) : Monitor :=
  { m with forcedFull := observer :: m.forcedFull }

/-! ## Status files -/

variable {n : Type → Type} [Monad n] [Files n]

/-- Write the status file, if anything changed since it was written. -/
def saveStatus (m : Monitor) : n (Except FileFault Unit × Monitor) := do
  if m.dirty then
    let state : StatusFile := ⟨m.items, m.counters⟩
    match ← Files.save m.statusFile state.toJson.indented with
    | .error fault => return (.error fault, m)
    | .ok () => return (.ok (), { m with dirty := false })
  else return (.ok (), m)

/-- What a status file holds; a missing or unreadable one holds nothing. -/
def readStatus? (p : Path) (today : Date) : n (Option StatusFile) := do
  if ← Files.pathExists p then
    match ← Files.readText p with
    | .error _ => return none
    | .ok text => return (Json.decode (StatusFile.ofJson today) text).toOption
  else return none

/-- The monitor of a job that knows nothing yet. -/
def ofJob (j : Job) (filter : Option Regex) (today : Date) (zone : Zone := .utc) : Monitor where
  name := j.name
  directories := j.directories
  statusFile := j.statusFile
  filter := filter
  minimalSize := j.minimalSize
  recursive := j.recursive
  zone := zone
  counters := { today }

/-- The monitor of a job, with what its status file holds. -/
def load (j : Job) (today : Date) (zone : Zone := .utc) : n (Except SpoolFault Monitor) := do
  match j.filter.mapM Regex.parse with
  | .error fault => return .error (.filter fault)
  | .ok filter =>
      let m := ofJob j filter today zone
      match ← readStatus? j.statusFile today with
      | none => return .ok m
      | some state =>
          return .ok { m with items := .ofList state.items, counters := state.counters }

end Monitor

end Courier
