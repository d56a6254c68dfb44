import Courier.Calendar.Moment
import Courier.Files.Path
import Courier.Ordered

/-!
# Watched files

What a spool knows of each file, and how many files it has dispatched.

Main definitions:

- `Item` is what is known of a file; `Items` is a row of them in the order of their paths.
- `Counters` count the results of dispatches, overall and for the current day.
- `StatusFile` is what is kept between two runs of a spool.
-/

namespace Courier

open Calendar

/-! ## Items -/

/-- What a spool knows of a file. -/
structure Item where
  path : Path
  /-- The digest of its content, once that was taken. -/
  hash : Option String := none
  /-- When it was modified, in milliseconds from the start of 1970. -/
  lastModified : Int
  /-- Its size in bytes. -/
  size : Nat
  /-- Whether it was dispatched and has not changed since. -/
  used : Bool := false
  /-- When the result of its last dispatch came. -/
  timeUsed : Option Moment := none
  /-- The number of its last transfer. -/
  specialId : Option Int := none
deriving DecidableEq, Repr, Inhabited

namespace Item

/-- Whether an item comes before another one. -/
def before (a b : Item) : Bool :=
  a.path.precedes b.path

/-- Whether two items agree in everything, their paths up to spelling. -/
def agrees (a b : Item) : Bool :=
  a.path.same b.path && { a with path := b.path } == b

/-- The fields of an item, in order. -/
def fieldNames : List String :=
  ["path", "hash", "lastModified", "size", "used", "timeUsed", "specialId"]

/-- An item as an object.  Absent fields are left out. -/
def toJson (i : Item) : Json :=
  .object (
    [("path", i.path.toJson)] ++ Json.optionalMember "hash" .string i.hash ++
    [("lastModified", .ofInt i.lastModified), ("size", .ofNat i.size), ("used", .bool i.used)] ++
    Json.optionalMember "timeUsed" Moment.toJson i.timeUsed ++
    Json.optionalMember "specialId" .ofInt i.specialId)

/-- Read an item. -/
def ofJson (j : Json) : Json.Decoded Item := do
  let f ← Json.fields fieldNames j
  let path ← f.required "path" Path.ofJson
  let hash ← f.optional "hash" Json.toText
  let lastModified ← f.required "lastModified" Json.toInt64
  let size ← f.required "size" Json.toNat64
  let used ← f.withDefault "used" false Json.toBool
  let timeUsed ← f.optional "timeUsed" Moment.ofJson
  let specialId ← f.optional "specialId" Json.toInt64
  return { path, hash, lastModified, size, used, timeUsed, specialId }

end Item

/-! ## Rows of items -/

/-- Items in the order of their paths, one for each path. -/
abbrev Items := List Item

namespace Items

/-- The item of a path. -/
def find? (items : Items) (p : Path) : Option Item :=
  List.find? (fun i => i.path.same p) items

/-- Put an item in its place. -/
def put (items : Items) (i : Item) : Items :=
  Ordered.put Item.before i items

/-- The row of some items; of those with one path the last one counts. -/
def ofList (items : List Item) : Items :=
  items.foldl put []

/-- Whether a path has an item. -/
def contains (items : Items) (p : Path) : Bool :=
  items.any fun i => i.path.same p

end Items

/-! ## Counters -/

/-- The results of dispatches, overall and for one day. -/
structure Counters where
  /-- How many files went to all hosts. -/
  globalOk : Nat := 0
  globalError : Nat := 0
  /-- How many files went to all hosts on the day. -/
  todayOk : Nat := 0
  /-- How many files did not on the day. -/
  todayError : Nat := 0
  today : Date
deriving DecidableEq, Repr, Inhabited

namespace Counters

/-- Counters that count for a day. -/
def onDay (c : Counters) (date : Date) : Counters :=
  if c.today = date then c else { c with today := date, todayOk := 0, todayError := 0 }

/-- The number after a number of 64 bits; after the last one comes zero. -/
def next (n : Nat) : Nat :=
  (n + 1) % Json.wordValues 64

/-- Count a result on a day. -/
def count (c : Counters) (success : Bool) (date : Date) : Counters :=
  let c := c.onDay date
  if success then { c with globalOk := next c.globalOk, todayOk := next c.todayOk }
  else { c with globalError := next c.globalError, todayError := next c.todayError }

/-- The fields of counters, in order. -/
def fieldNames : List String := ["globalOk", "globalError", "todayOk", "todayError", "today"]

/-- Counters as an object. -/
def toJson (c : Counters) : Json :=
  .object [("globalOk", .ofNat c.globalOk), ("globalError", .ofNat c.globalError),
    ("todayOk", .ofNat c.todayOk), ("todayError", .ofNat c.todayError),
    ("today", c.today.toJson)]

/-- Read counters. -/
def ofJson (j : Json) : Json.Decoded Counters := do
  let f ← Json.fields fieldNames j
  let globalOk ← f.required "globalOk" Json.toNat64
  let globalError ← f.required "globalError" Json.toNat64
  let todayOk ← f.required "todayOk" Json.toNat64
  let todayError ← f.required "todayError" Json.toNat64
  let today ← f.required "today" Date.ofJson
  return { globalOk, globalError, todayOk, todayError, today }

end Counters

/-! ## Status files -/

/-- What is kept between two runs of a spool. -/
structure StatusFile where
  items : List Item
  counters : Counters
deriving DecidableEq, Repr

namespace StatusFile

/-- The content of a status file. -/
def toJson (s : StatusFile) : Json :=
  .object [("items", .list (s.items.map Item.toJson)), ("counters", s.counters.toJson)]

/-- Read the content of a status file.  Without counters, counting starts on a day. -/
def ofJson (today : Date) (j : Json) : Json.Decoded StatusFile := do
  let f ← Json.fields ["items", "counters"] j
  let items ← f.required "items" (Json.toListOf Item.ofJson)
  let counters ← f.withDefault "counters" { today } Counters.ofJson
  return { items, counters }

end StatusFile

end Courier
