import Courier.Delivery.Inquiry
import Courier.Delivery.Names
import Courier.Delivery.Transfer

/-!
# Batches

One order for many partners and many files.  The transfers run one after the other, all
files of the first partner first, and a failure never stops the batch.

Main definitions:

- `Batch` is the order.
- `Batch.resolveLocal` and `Batch.resolveRemote` replace patterns by the files they stand
  for.
- `Batch.run` carries it out.
- `Channel` passes the news of a batch to one listener, and drops what the listener has no
  room for.
-/

namespace Courier

open Calendar

/-- One order for many partners and files. -/
structure Batch where
  /-- The partners, or aliases of them. -/
  partners : List String
  /-- Names or patterns. -/
  files : List String
  rule : String
  /-- What to say about the files. -/
  fileInfo : Option String := none
  /-- The size of blocks in bytes; zero for the usual one. -/
  blockSize : Nat := 0
  useHash : Bool := false
  startTime : Option Moment := none
  /-- Whether to drop the records of transfers that ended well. -/
  noLog : Bool := false
  /-- Whether failures are only worth a warning. -/
  logAsWarn : Bool := false
  /-- Whether to only file the transfers. -/
  submitOnly : Bool := false
deriving DecidableEq, Repr, Inhabited

namespace Batch

/-- The batch of two lists separated by commas. -/
def ofLists (partners files rule : String) : Batch :=
  { partners := Names.split partners, files := Names.split files, rule }

/-! ## Files -/

/-- The files that names stand for, given what a pattern stands for. -/
def resolveWith (expand : String → Program (List String)) :
    List String → Program (List String)
  | [] => return []
  | name :: rest => do
      let found ← if Names.hasWildcard name then expand name else pure [name]
      let others ← resolveWith expand rest
      return found ++ others

/-- The files of this host that names stand for under a rule. -/
def resolveLocal (rule : Rule) (names : List String) : Program (List String) :=
  resolveWith (fun pattern => Names.expand rule.sendPath pattern) names

/-- The files of a partner that a pattern stands for.  A failure counts as no files. -/
def listRemote (ctx : Context) (partner : String) (rule : Rule) (pattern : String) :
    Program (List String) := do
  match ← Inquiry.listFiles ctx partner rule.name pattern with
  | .ok found => return found
  | .error _ => return []

/-- The files of a partner that names stand for under a rule. -/
def resolveRemote (ctx : Context) (partner : String) (rule : Rule) (names : List String) :
    Program (List String) :=
  resolveWith (listRemote ctx partner rule) names

/-! ## Transfers -/

/-- The order for one file with one partner. -/
def form (b : Batch) (partner file : String) : Order.Form :=
  Order.Form.withBlockSize
    { partner
      rule := some b.rule
      filename := some file
      fileInfo := b.fileInfo
      useHash := b.useHash
      startTime := b.startTime
      noLog := b.noLog
      logAsWarn := b.logAsWarn } b.blockSize

/-- Transfer one file with one partner. -/
def runItem (ctx : Context) (b : Batch) (partner file : String) : Program Outcome :=
  match (b.form partner file).complete ctx.hosts with
  | .error fault => return .failed .internal fault.message none
  | .ok order => if b.submitOnly then Delivery.submit ctx order else Delivery.run ctx order

/-- Transfer files with one partner, adding to the outcomes so far. -/
def runFiles (ctx : Context) (b : Batch) (partner : String) :
    List String → Tally → Program Tally
  | [], tally => return tally
  | file :: rest, tally => do
      Program.perform (.reportProgress (.started partner file))
      let outcome ← runItem ctx b partner file
      Program.perform (.reportProgress (.finished partner file outcome.success outcome.code))
      runFiles ctx b partner rest (tally.add ⟨partner, file, outcome⟩)

/-- Transfer with partners one after the other.  `local?` holds the files when they do not
depend on the partner. -/
def runPartners (ctx : Context) (b : Batch) (rule : Rule) (local? : Option (List String)) :
    List String → Tally → Program Tally
  | [], tally => return tally
  | partner :: rest, tally => do
      let files ← match local? with
        | some files => pure files
        | none => resolveRemote ctx partner rule b.files
      let tally ← runFiles ctx b partner files tally
      runPartners ctx b rule local? rest tally

/-- Carry out a batch. -/
def run (ctx : Context) (b : Batch) : Program Tally := do
  match ctx.rules.resolve b.rule with
  | .error fault => return .aborted (.failed .internal fault.message none)
  | .ok rule =>
      if b.partners.isEmpty || b.files.isEmpty then
        return .aborted (.failed .internal "no host or no file to transfer" none)
      else
        let local? ←
          if rule.canSend then do
            let files ← resolveLocal rule b.files
            pure (some files)
          else pure none
        runPartners ctx b rule local? b.partners {}

end Batch

/-! ## News -/

/-- A channel for the news of a batch, with room for a bounded number of them. -/
structure Channel where
  /-- The news that wait to be read. -/
  waiting : List Progress := []
  /-- Whether a listener took the reading end. -/
  taken : Bool := false
deriving DecidableEq, Repr, Inhabited

namespace Channel

/-- How many news a channel has room for. -/
def capacity : Nat := 256

/-- Pass on a piece of news, unless there is no room. -/
def send (c : Channel) (p : Progress) : Channel :=
  if c.waiting.length < capacity then { c with waiting := c.waiting ++ [p] } else c

/-- Take the reading end, which can be taken once. -/
def take (c : Channel) : Bool × Channel :=
  (!c.taken, { c with taken := true })

end Channel

end Courier
