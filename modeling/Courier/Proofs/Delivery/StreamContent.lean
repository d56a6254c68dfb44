import Courier.Proofs.Delivery.Provenance
import Courier.Proofs.Delivery.Roles

/-!
# What is sent of a stream

A caller opens a stream, makes a block of each of its chunks and sends it, and ends the stream.  It
may send the block that ends the stream itself or leave that to the sender.  The number of the next
block is the only thing that the sender keeps track of meanwhile, and the last number is recovered
from it in the end, so both ways come to the same when the number goes up with every block.

Main definitions:

- `Stream.Sender.transmit` is what such a caller does.
- `Trace.Accepted` says that the transport took every packet and reported a success.
- `Stream.content` are the packets of a stream: a block for each chunk, numbered from the rank that
  the transfer had before, the block that ends the stream, and the two announcements.
- `Stream.Delivers` tells how a stream ends well.

Main statements:

- Chunk by chunk, the blocks are numbered one after the other (`run_putAll`).
- It makes no difference who sends the block that ends the stream (`run_close_iff`).
- Whatever the order, the chunks and the ledger, a stream that was begun and whose packets were
  accepted delivers its content (`delivers_of_begun`).
-/

namespace Courier

open Program

/-! ## A transport that accepts -/

/-- Whether the transport takes what is sent, and reports a success. -/
def Exchange.Accepts : Exchange → Prop
  | ⟨.send _ _ _, result⟩ => result = .ok ()
  | ⟨.writable _, result⟩ => result = .ok ()
  | ⟨.complete _ _, result⟩ => ∃ completion, result = .ok completion ∧ completion.success = true
  | _ => True

/-- The packet that was sent. -/
def Exchange.packet? : Exchange → Option Packet
  | ⟨.send _ packet _, _⟩ => some packet
  | _ => none

/-- Whether a request sends no packet. -/
def Request.SendsNone : Request → Prop
  | .send _ _ _ => False
  | _ => True

namespace Trace

/-- Whether the transport accepts all along a trace. -/
def Accepted (t : Trace) : Prop :=
  ∀ x ∈ t, x.Accepts

/-- The packets that were sent. -/
def packets (t : Trace) : List Packet :=
  t.filterMap Exchange.packet?

variable {t u : Trace}

@[simp] theorem packets_append (t u : Trace) : packets (t ++ u) = t.packets ++ u.packets :=
  List.filterMap_append

/-- A trace is accepted when both of its parts are. -/
theorem accepted_append : Accepted (t ++ u) ↔ t.Accepted ∧ u.Accepted :=
  List.forall_mem_append

theorem accepted_cons {x : Exchange} : Accepted (x :: t) ↔ x.Accepts ∧ t.Accepted :=
  List.forall_mem_cons

/-- Nothing is sent in a trace without a request that sends. -/
theorem packets_of_sendsNone (h : ∀ x ∈ t, x.request.SendsNone) : t.packets = [] := by
  apply List.filterMap_eq_nil_iff.2
  rintro ⟨r, answer⟩ hx
  have hnone : r.SendsNone := h _ hx
  cases r with
  | send s packet flush => cases hnone
  | _ => rfl

end Trace

theorem Preparation.allows_sendsNone : Allows Request.SendsNone :=
  ⟨trivial, fun _ => trivial, fun _ => trivial⟩

theorem Delivery.tends_sendsNone (key : Record.Key) : Tends key Request.SendsNone :=
  ⟨trivial, fun _ _ => trivial, trivial, fun _ => trivial⟩

/-- To open a session for a transfer, and to close it, sends nothing in it. -/
theorem Delivery.carries_sendsNone (partner : Partner) (key : Record.Key) (mode : Mode)
    (through : Through) : Carries partner key mode through Request.SendsNone :=
  ⟨fun _ _ _ => trivial, trivial, fun _ => trivial, fun _ _ => trivial, fun _ => trivial⟩

namespace Preparation

/-! ## The mode of a transfer -/

/-- The mode that the transfer of an order has: the one in the ledger, and for a new one what its
rule allots. -/
def modeBefore? (ctx : Context) (order : Order) (kind : Kind) (l : Ledger) : Option Mode :=
  match order.fixedId with
  | some _ => ((orderedKey? ctx order l).bind l.find?).map Record.mode
  | none =>
      match ctx.rules.resolve (order.rule.getD "") with
      | .ok rule => some (modeFor rule order kind)
      | .error _ => none

variable {ctx : Context} {order : Order} {kind : Kind} {partner : Partner} {l l' : Ledger}
  {t : Trace}

/-- The mode of the record that is obtained can be told from the ledger before. -/
theorem modeBefore?_of_obtains {r : Record} (hkind : kind ≠ .submit)
    (hpartner : ctx.hosts.lookup order.partner = .ok partner)
    (h : Obtains ctx order partner kind l t (.ok r) l') :
    modeBefore? ctx order kind l = some r.mode := by
  cases h with
  | entered h =>
      obtain ⟨rule, size, now, hrule, -, rfl⟩ := h.entered
      rw [modeBefore?, h.isNew]
      simp only [hrule]
      rfl
  | @takenUp stored _ h =>
      have hamended : r = amend stored order := by
        have hamended := h.amended
        rwa [if_neg hkind] at hamended
      rw [modeBefore?, h.number]
      simp only [h.orderedKey? hpartner, Option.bind_some, h.found, Option.map_some]
      rw [hamended, amend_mode]

/-- A prepared order is in the mode that its transfer has. -/
theorem modeBefore?_of_prepare {p : Prepared} (hkind : kind ≠ .submit)
    (h : RunOn l (prepare ctx order kind) t (.ok p) l') :
    modeBefore? ctx order kind l = some p.record.mode := by
  unfold prepare at h
  cases hpartner : ctx.hosts.lookup order.partner with
  | error fault =>
      simp only [hpartner] at h
      obtain ⟨-, ⟨⟩, -⟩ := h.of_done
  | ok partner =>
      simp only [hpartner] at h
      obtain ⟨u, found, v, m, rfl, hfind, hrest⟩ := h.of_bind
      have hobtains := (obtains_of_findRecord hpartner hfind).1
      cases found with
      | error outcome => obtain ⟨-, ⟨⟩, -⟩ := hrest.of_done
      | ok r =>
          obtain ⟨w, marked, x, n, rfl, hmark, hend⟩ := hrest.of_bind
          cases marked with
          | error outcome => obtain ⟨-, ⟨⟩, -⟩ := hend.of_done
          | ok s =>
              obtain ⟨-, ⟨⟩, -⟩ := hend.of_done
              obtain ⟨hsame, -⟩ := mode_of_run_markTransient hmark.1
              rw [modeBefore?_of_obtains hkind hpartner hobtains, ← hsame]

end Preparation

namespace Stream

open Preparation

/-! ## What is to be sent -/

/-- The block of a chunk. -/
def blockOf (mode : Mode) (rank : Nat) (bytes : ByteArray) : Block where
  rank := rank
  data := bytes
  digest := if mode.hasHash then some (Digest.Sha256.hexDigest bytes) else none
  eof := false

/-- The packets of a stream that begins with a rank: its chunks in order, each in a block with the
next number, the empty block that ends the stream, and the announcements that all was sent and that
all went well. -/
def content (rank : Nat) (mode : Mode) (chunks : List ByteArray) : List Packet :=
  (chunks.zipIdx rank).map (fun (bytes, rank) => .data (blockOf mode rank bytes)) ++
    [.data { rank := rank + chunks.length, data := .empty, digest := none, eof := true },
      .endTransfer (rank + chunks.length), .endRequest .completeOk]

/-- How a stream ends well that an order means: its content was sent, the transport has reported
once, and the record is done, in the mode that it had, at the rank that was reported or at the last
number. -/
structure Delivers (ctx : Context) (order : Order) (chunks : List ByteArray) (l : Ledger)
    (t : Trace) (outcome : Outcome) (completion : Completion) (r : Record) (l' : Ledger) :
    Prop where
  packets : t.packets = content (rankBefore ctx order l) r.mode chunks
  reported : t.completions = [.ok completion]
  outcome : outcome = .succeeded .completeOk (some r)
  key : orderedKey? ctx order l = some r.key
  mode : modeBefore? ctx order .sendThrough l = some r.mode
  status : r.status = .done
  rank : r.rank = match completion.rank with
    | some reported => max (rankBefore ctx order l) reported
    | none => rankBefore ctx order l + chunks.length
  stored : l'.find? r.key = if order.noLog then none else some r
  others : AgreeExcept r.key l l'

namespace Sender

/-! ## A caller -/

/-- Make a block of some bytes, or the one that ends the stream, and send it. -/
def put (s : Sender) (data : Option ByteArray) : Program Sender :=
  match s.block data with
  | (.ok block, s) => do
      let (_, s) ← s.write block
      return s
  | (.error _, s) => return s

/-- Send chunks one after the other. -/
def putAll (s : Sender) : List ByteArray → Program Sender
  | [] => return s
  | chunk :: rest => do
      let s ← s.put (some chunk)
      s.putAll rest

/-- Send what is left of a stream: the block that ends it, unless this is left to the sender, and
the end. -/
def close (ctx : Context) (s : Sender) (ends : Bool) : Program (Outcome × Sender) := do
  let s ← if ends then s.put none else pure s
  s.finalize ctx

/-- Begin a stream, send its chunks and end it. -/
def transmit (ctx : Context) (order : Order) (chunks : List ByteArray) (ends : Bool) :
    Program (Except Outcome Unit × Outcome) := do
  let (begun, s) ← initiate ctx { order }
  let s ← s.putAll chunks
  let (outcome, _) ← s.close ctx ends
  return (begun, outcome)

/-! ## Blocks -/

variable {ctx : Context} {order : Order} {s s' : Sender} {a : Active} {t : Trace}
  {outcome : Outcome} {l l' : Ledger}

/-- The block that an open stream makes next. -/
def nextBlock (a : Active) : Option ByteArray → Block
  | none => .endOfFile a.nextRank
  | some bytes => .ofBytes a.nextRank bytes a.prepared.record.mode.hasHash

/-- A block that was sent. -/
def sent (session : Session) (b : Block) : Trace :=
  [⟨.writable session, .ok ()⟩, ⟨.send session (.data b) true, .ok ()⟩]

/-- An open stream after its next block. -/
def advanced (a : Active) (ends : Bool) : Active :=
  { a with nextRank := a.nextRank + 1, ended := a.ended || ends }

/-- A block that is accepted was sent, and what comes next goes on from there. -/
theorem run_sendBlock_bind_iff {β : Type} {session : Session} {b : Block}
    {next : Except SessionFault Unit → Program β} {result : β} (ht : t.Accepted) :
    Run (sendBlock session b >>= next) t result ↔
      ∃ v, t = sent session b ++ v ∧ Run (next (.ok ())) v result := by
  constructor
  · intro h
    obtain ⟨u, taken, v, rfl, hsend, hnext⟩ := Run.bind_iff.1 h
    obtain ⟨hu, -⟩ := Trace.accepted_append.1 ht
    rcases sendBlock_cases hsend with ⟨fault, -, rfl⟩ | rfl
    · cases (Trace.accepted_cons.1 hu).1
    · obtain ⟨-, hrest⟩ := Trace.accepted_cons.1 hu
      obtain rfl : taken = .ok () := (Trace.accepted_cons.1 hrest).1
      exact ⟨v, rfl, hnext⟩
  · rintro ⟨v, rfl, hnext⟩
    exact Run.bind_iff.2 ⟨_, _, v, rfl, Run.step (Run.step (Run.done _)), hnext⟩

/-- A block that is accepted is sent once, and the stream has ended when it is the last one. -/
theorem run_write_iff (hactive : s.active = some a) {b : Block}
    {result : Except SessionFault Unit × Sender} (ht : t.Accepted) :
    Run (s.write b) t result ↔ t = sent a.session b ∧
      result = (.ok (), { s with active := some { a with ended := a.ended || b.eof } }) := by
  simp only [write, hactive]
  rw [run_sendBlock_bind_iff ht]
  exact Run.append_done_iff

/-- A block is put by writing it under the next number. -/
theorem put_eq (hactive : s.active = some a) (data : Option ByteArray) :
    s.put data = write { s with active := some { a with nextRank := a.nextRank + 1 } }
      (nextBlock a data) >>= fun result => .done result.2 := by
  simp only [put, block, hactive]
  cases data <;> rfl

/-- The block without data is the last one. -/
theorem eof_nextBlock (a : Active) (data : Option ByteArray) :
    (nextBlock a data).eof = data.isNone := by
  cases data <;> rfl

/-- A block is made of some bytes and sent, and its number is used up. -/
theorem run_put_iff (hactive : s.active = some a) (data : Option ByteArray) (ht : t.Accepted) :
    Run (s.put data) t s' ↔ t = sent a.session (nextBlock a data) ∧
      s' = { s with active := some (advanced a data.isNone) } := by
  rw [put_eq hactive, advanced, ← eof_nextBlock a data, Run.map_iff]
  constructor
  · rintro ⟨result, rfl, hwrite⟩
    obtain ⟨rfl, rfl⟩ := (run_write_iff rfl ht).1 hwrite
    exact ⟨rfl, rfl⟩
  · rintro ⟨rfl, rfl⟩
    exact ⟨_, rfl, (run_write_iff (a := { a with nextRank := a.nextRank + 1 }) rfl ht).2 ⟨rfl, rfl⟩⟩

/-- Chunk by chunk, the blocks are numbered one after the other. -/
theorem run_putAll (hactive : s.active = some a) {chunks : List ByteArray}
    (h : RunOn l (s.putAll chunks) t s' l') (ht : t.Accepted) :
    t.packets = (chunks.zipIdx a.nextRank).map (fun (bytes, rank) =>
        .data (blockOf a.prepared.record.mode rank bytes)) ∧
      t.completions = [] ∧ l' = l ∧
      s' = { s with active := some { a with nextRank := a.nextRank + chunks.length } } := by
  induction chunks generalizing s a t l with
  | nil =>
      obtain ⟨rfl, rfl, rfl⟩ := h.of_done
      refine ⟨rfl, rfl, rfl, ?_⟩
      rw [List.length_nil, Nat.add_zero, ← hactive]
  | cons chunk chunks ih =>
      obtain ⟨u, s₁, v, m, rfl, hput, hrest⟩ := h.of_bind
      obtain ⟨hu, hv⟩ := Trace.accepted_append.1 ht
      obtain ⟨rfl, rfl⟩ := (run_put_iff hactive _ hu).1 hput.1
      obtain ⟨m, rfl, m, rfl, rfl⟩ := hput.2
      obtain ⟨hpackets, hcompletions, rfl, rfl⟩ := ih rfl hrest hv
      refine ⟨?_, hcompletions, rfl, ?_⟩
      · rw [Trace.packets_append, hpackets, List.zipIdx_cons, List.map_cons]
        rfl
      · have hnext : a.nextRank + 1 + chunks.length = a.nextRank + (chunk :: chunks).length := by
          rw [List.length_cons]
          omega
        simp only [advanced, Option.isNone_some, Bool.or_false, hnext]

/-! ## The end of a stream -/

/-- A stream that is open gets its last block, which takes the next number. -/
theorem run_ensureEnd_iff (hopen : a.ended = false) {result : Except SessionFault Active}
    (ht : t.Accepted) :
    Run (ensureEnd a) t result ↔ t = sent a.session (.endOfFile a.nextRank) ∧
      result = .ok { a with nextRank := a.nextRank + 1 } := by
  simp only [ensureEnd, hopen, Bool.false_eq_true, if_false]
  rw [run_sendBlock_bind_iff ht]
  exact Run.append_done_iff

/-- The sender sends the block that ends the stream when the caller did not. -/
theorem run_finalize_iff (hactive : s.active = some a) (hopen : a.ended = false)
    {result : Outcome × Sender} (ht : t.Accepted) :
    Run (s.finalize ctx) t result ↔ ∃ v, t = sent a.session (.endOfFile a.nextRank) ++ v ∧
      Run (conclude ctx { a with nextRank := a.nextRank + 1 }) v result.1 ∧
      result.2 = { s with active := none, finished := true } := by
  simp only [finalize, hactive]
  rw [Run.bind_iff]
  constructor
  · rintro ⟨u, ended, v, rfl, hensure, hrest⟩
    obtain ⟨rfl, rfl⟩ := (run_ensureEnd_iff hopen (Trace.accepted_append.1 ht).1).1 hensure
    obtain ⟨outcome, rfl, hconclude⟩ := Run.map_iff.1 hrest
    exact ⟨v, rfl, hconclude, rfl⟩
  · rintro ⟨v, rfl, hconclude, hresult⟩
    have hensure := (run_ensureEnd_iff hopen (Trace.accepted_append.1 ht).1).2 ⟨rfl, rfl⟩
    exact ⟨_, _, v, rfl, hensure, Run.map_iff.2 ⟨_, Prod.ext rfl hresult, hconclude⟩⟩

theorem conclude_advanced (ctx : Context) (a : Active) (ends : Bool) :
    conclude ctx (advanced a ends) = conclude ctx { a with nextRank := a.nextRank + 1 } := by
  refine congrArg (send a.session (.endTransfer (a.nextRank + 1 - 1)) >>= ·)
    (funext fun taken => ?_)
  cases taken with
  | error fault => rfl
  | ok _ =>
      refine congrArg (perform (.complete a.session ctx.policy.completionTimeout) >>= ·)
        (funext fun report => ?_)
      cases report with
      | error fault => rfl
      | ok completion => rfl

/-- The caller may as well send it. -/
theorem run_put_finalize_iff (hactive : s.active = some a) {result : Outcome × Sender}
    (ht : t.Accepted) :
    Run (s.put none >>= fun s => s.finalize ctx) t result ↔
      ∃ v, t = sent a.session (.endOfFile a.nextRank) ++ v ∧
        Run (conclude ctx { a with nextRank := a.nextRank + 1 }) v result.1 ∧
        result.2 = { s with active := none, finished := true } := by
  have hfinalize : ({ s with active := some (advanced a true) } : Sender).finalize ctx =
      conclude ctx { a with nextRank := a.nextRank + 1 } >>= fun outcome =>
        .done (outcome, { s with active := none, finished := true }) := by
    have hended : (advanced a true).ended = true := Bool.or_true _
    simp only [finalize, ensureEnd_of_ended hended, done_bind]
    rw [conclude_advanced]
    rfl
  rw [Run.bind_iff]
  constructor
  · rintro ⟨u, s₁, v, rfl, hput, hrest⟩
    obtain ⟨rfl, rfl⟩ := (run_put_iff hactive _ (Trace.accepted_append.1 ht).1).1 hput
    rw [Option.isNone_none, hfinalize] at hrest
    obtain ⟨outcome, rfl, hconclude⟩ := Run.map_iff.1 hrest
    exact ⟨v, rfl, hconclude, rfl⟩
  · rintro ⟨v, rfl, hconclude, hresult⟩
    refine ⟨_, _, v, rfl, (run_put_iff hactive _ (Trace.accepted_append.1 ht).1).2 ⟨rfl, rfl⟩, ?_⟩
    rw [Option.isNone_none, hfinalize]
    exact Run.map_iff.2 ⟨_, Prod.ext rfl hresult, hconclude⟩

/-- So it makes no difference who sends it. -/
theorem run_close_iff (hopen : ∀ a, s.active = some a → a.ended = false)
    {result : Outcome × Sender} (ht : t.Accepted) (ends : Bool) :
    Run (s.close ctx ends) t result ↔ Run (s.finalize ctx) t result := by
  cases ends with
  | false => rfl
  | true =>
      cases hactive : s.active with
      | none =>
          have hput : s.put none = .done s := by simp only [put, block, hactive]; rfl
          rw [close, if_pos rfl, hput]
          rfl
      | some a =>
          have hput : Run (s.put none >>= fun s => s.finalize ctx) t result ↔ _ :=
            run_put_finalize_iff hactive ht
          exact hput.trans (run_finalize_iff hactive (hopen a hactive) ht).symm

/-- The end of a stream is announced and reported, and the transfer ends well at the rank that was
reported or at the last number. -/
theorem endsWell_of_conclude (h : RunOn l (conclude ctx a) t outcome l') (ht : t.Accepted)
    (hready : Delivery.Ready l a.prepared.record)
    (hrunning : a.prepared.record.status = .running) :
    ∃ completion r, t.packets = [.endTransfer (a.nextRank - 1), .endRequest .completeOk] ∧
      t.completions = [.ok completion] ∧
      Delivery.EndsWell l a.prepared (some (completion.rank.getD (a.nextRank - 1))) r outcome
        l' := by
  obtain ⟨taken, u, rfl, hreport⟩ := h.of_ask fun _ _ hm => hm
  obtain ⟨htaken, hu⟩ := Trace.accepted_cons.1 ht
  obtain rfl : taken = .ok () := htaken
  obtain ⟨report, v, rfl, hend⟩ := hreport.of_ask fun _ _ hm => hm
  obtain ⟨⟨completion, rfl, hsuccess⟩, hv⟩ := Trace.accepted_cons.1 hu
  simp only [hsuccess, if_true] at hend
  obtain ⟨told, w, rfl, hclose⟩ := hend.of_ask fun _ _ hm => hm
  obtain ⟨htold, hw⟩ := Trace.accepted_cons.1 hv
  obtain rfl : told = .ok () := htold
  obtain ⟨_, x, rfl, hconclude⟩ := hclose.of_ask fun _ _ hm => hm
  obtain ⟨⟨r, hends⟩, hplain⟩ := Delivery.endsWell_conclude hconclude hready hrunning
  have hnone := Trace.packets_of_sendsNone (hconclude.1.request_of_mem
    (Delivery.ensures_conclude (Delivery.tends_sendsNone _) rfl _).asks)
  refine ⟨completion, r, ?_, ?_, hends⟩
  · exact congrArg (fun packets => _ :: _ :: packets) hnone
  · exact congrArg (List.cons _) hplain.completions

/-! ## The beginning of a stream -/

/-- How a stream is open that was begun with an order: its transfer is the one that the order
means, it is running, and nothing was sent. -/
structure Opens (ctx : Context) (order : Order) (l : Ledger) (t : Trace) (a : Active)
    (l' : Ledger) : Prop where
  packets : t.packets = []
  completions : t.completions = []
  nextRank : a.nextRank = rankBefore ctx order l
  ended : a.ended = false
  key : orderedKey? ctx order l = some a.prepared.record.key
  mode : modeBefore? ctx order .sendThrough l = some a.prepared.record.mode
  rank : a.prepared.record.rank = rankBefore ctx order l
  noLog : a.prepared.noLog = order.noLog
  ready : Delivery.Ready l' a.prepared.record
  running : a.prepared.record.status = .running
  others : AgreeExcept a.prepared.record.key l l'

/-- A stream that was begun has its session, and its record is running. -/
theorem opens_of_initiate (h : RunOn l (initiate ctx { order }) t (.ok (), s) l') :
    ∃ a, s.active = some a ∧ Opens ctx order l t a l' := by
  obtain ⟨u, result, v, m, rfl, hprepare, hrest⟩ := h.of_bind
  obtain ⟨hprepares, hplain⟩ := prepares_prepare hprepare
  have hnone := Trace.packets_of_sendsNone (hprepare.1.request_of_mem
    (ensures_prepare allows_sendsNone ctx order .sendThrough).asks)
  cases hprepares with
  | refused => obtain ⟨-, ⟨⟩, -⟩ := hrest.of_done
  | @ready p m hholds hnoLog =>
      have hmode := modeBefore?_of_prepare (by decide) hprepare
      obtain ⟨w, opened, x, n, rfl, hconnect, hend⟩ := hrest.of_bind
      have hnone' := Trace.packets_of_sendsNone (hconnect.1.request_of_mem
        (Delivery.ensures_tryConnect (Delivery.tends_sendsNone _)
          (Delivery.carries_sendsNone _ _ _ _) rfl rfl rfl _ _ _ _).asks)
      cases Delivery.reaches_tryConnect hconnect hholds.ready with
      | failed => obtain ⟨-, ⟨⟩, -⟩ := hend.of_done
      | @opened session p' n ready running continues others failures completions =>
          obtain ⟨rfl, ⟨⟩, rfl⟩ := hend.of_done
          rw [List.append_nil]
          refine ⟨_, rfl, ?_, ?_, ?_, rfl, ?_, ?_, ?_, ?_, ready, running, ?_⟩
          · rw [Trace.packets_append, hnone, hnone', List.append_nil]
          · rw [Trace.completions_append, hplain.completions, completions, List.append_nil]
          · exact continues.rank.trans hholds.rank
          · rw [hholds.key, continues.key]
          · rw [hmode, continues.mode]
          · exact continues.rank.trans hholds.rank
          · exact continues.noLog.trans hnoLog
          · rw [continues.key]
            exact hholds.others.trans others

end Sender

/-! ## All of a stream -/

variable {ctx : Context} {order : Order} {l l' : Ledger} {t : Trace} {outcome : Outcome}
  {chunks : List ByteArray} {ends : Bool}

/-- An open stream whose content was sent, and whose end was reported, is delivered. -/
theorem delivers_of_opens {u v w : Trace} {a b : Active} {m : Ledger} {r : Record}
    {completion : Completion} (hopens : Sender.Opens ctx order l u a m)
    (hprepared : b.prepared = a.prepared)
    (hnext : b.nextRank = rankBefore ctx order l + chunks.length)
    (hpackets : v.packets = (chunks.zipIdx a.nextRank).map fun (bytes, rank) =>
      .data (blockOf a.prepared.record.mode rank bytes))
    (hcompletions : v.completions = [])
    (hannounced : w.packets = [.data (.endOfFile b.nextRank), .endTransfer b.nextRank,
      .endRequest .completeOk])
    (hreported : w.completions = [.ok completion])
    (hends : Delivery.EndsWell m b.prepared (some (completion.rank.getD b.nextRank)) r outcome
      l') :
    Delivers ctx order chunks l (u ++ (v ++ w)) outcome completion r l' := by
  rw [hprepared] at hends
  refine ⟨?_, ?_, hends.outcome, ?_, ?_, hends.status, ?_, ?_, ?_⟩
  · rw [Trace.packets_append, Trace.packets_append, hopens.packets, hpackets, hopens.nextRank,
      hannounced, content, hends.mode, ← hnext]
    rfl
  · rw [Trace.completions_append, Trace.completions_append, hopens.completions, hcompletions]
    exact hreported
  · rw [hopens.key, hends.key]
  · rw [hopens.mode, hends.mode]
  · have hrank := hends.rank
    rw [hopens.rank] at hrank
    cases hreport : completion.rank with
    | none =>
        simp only [hreport, Option.getD_none, Option.getD_some, hnext] at hrank
        exact hrank.trans (Nat.max_eq_right (Nat.le_add_right _ _))
    | some reported =>
        simp only [hreport, Option.getD_some] at hrank
        exact hrank
  · rw [hends.stored, hopens.noLog]
  · exact AgreeExcept.trans (hends.key ▸ hopens.others) hends.others

/-- A stream that was begun and accepted delivers its chunks, and either way of ending it does
so. -/
theorem delivers_of_transmit
    (h : RunOn l (Sender.transmit ctx order chunks ends) t (.ok (), outcome) l')
    (ht : t.Accepted) :
    (∃ completion r, Delivers ctx order chunks l t outcome completion r l') ∧
      ∀ ends', Run (Sender.transmit ctx order chunks ends') t (.ok (), outcome) := by
  obtain ⟨u, ⟨begun, s⟩, v, m, rfl, hinitiate, hrest⟩ := h.of_bind
  obtain ⟨w, s', x, n, rfl, hputs, hclosing⟩ := hrest.of_bind
  obtain ⟨⟨outcome, s''⟩, ⟨⟩, hclose⟩ := hclosing.of_map
  obtain ⟨a, hactive, hopens⟩ := Sender.opens_of_initiate hinitiate
  obtain ⟨-, hwx⟩ := Trace.accepted_append.1 ht
  obtain ⟨hw, hx⟩ := Trace.accepted_append.1 hwx
  obtain ⟨hpackets, hcompletions, rfl, rfl⟩ := Sender.run_putAll hactive hputs hw
  -- The stream is still open after its chunks, and all but the next number is as it was.
  obtain ⟨b, hb, hnext, hended, hprepared⟩ : ∃ b : Active,
      b = { a with nextRank := a.nextRank + chunks.length } ∧
        b.nextRank = rankBefore ctx order l + chunks.length ∧ b.ended = false ∧
        b.prepared = a.prepared :=
    ⟨_, rfl, congrArg (· + chunks.length) hopens.nextRank, hopens.ended, rfl⟩
  rw [← hb] at hputs hclose
  have hstill : ∀ c, some b = some c → c.ended = false := by
    intro c hc
    rw [← Option.some.inj hc, hended]
  have hfinalize := (Sender.run_close_iff hstill hx ends).1 hclose.1
  constructor
  · obtain ⟨y, rfl, hconclude, -⟩ := (Sender.run_finalize_iff rfl hended hx).1 hfinalize
    obtain ⟨_, rfl, _, rfl, hkept⟩ := hclose.2
    obtain ⟨completion, r, hannounced, hreported, hends⟩ := Sender.endsWell_of_conclude
      ⟨hconclude, hkept⟩ (Trace.accepted_append.1 hx).2 (hprepared ▸ hopens.ready)
      (hprepared ▸ hopens.running)
    rw [Nat.add_sub_cancel] at hannounced hends
    refine ⟨completion, r, delivers_of_opens hopens hprepared hnext hpackets hcompletions ?_
      hreported hends⟩
    exact congrArg (List.cons _) hannounced
  · intro ends'
    refine Run.bind_iff.2 ⟨u, _, w ++ x, rfl, hinitiate.1, ?_⟩
    refine Run.bind_iff.2 ⟨w, _, x, rfl, hputs.1, ?_⟩
    exact Run.map_iff.2 ⟨_, rfl, (Sender.run_close_iff hstill hx ends').2 hfinalize⟩

/-- Whatever the order, the chunks, the ledger and the answers: a stream that was begun and whose
packets the transport accepted delivers its content, and it makes no difference who sends the block
that ends it. -/
theorem delivers_of_begun (ctx : Context) (order : Order) (l : Ledger) (chunks : List ByteArray)
    (ends : Bool) (answer : Trace → (r : Request) → r.Answer)
    (hbegun : (play (onLedger l answer) (Sender.transmit ctx order chunks ends)).1.1 = .ok ())
    (haccepted : (play (onLedger l answer) (Sender.transmit ctx order chunks ends)).2.Accepted) :
    let sent := play (onLedger l answer) (Sender.transmit ctx order chunks ends)
    (∃ completion r, Delivers ctx order chunks l sent.2 sent.1.2 completion r
      (sent.2.ledgerAfter l)) ∧
    ∀ ends', play (onLedger l answer) (Sender.transmit ctx order chunks ends') = sent := by
  intro sent
  have hrun := runOn_play l answer (Sender.transmit ctx order chunks ends)
  have hanswered := (run_play (onLedger l answer) (Sender.transmit ctx order chunks ends)).2
  have hsent : sent.1 = (.ok (), sent.1.2) := Prod.ext hbegun rfl
  have hrun' : RunOn l (Sender.transmit ctx order chunks ends) sent.2 (.ok (), sent.1.2)
      (sent.2.ledgerAfter l) := hsent ▸ hrun
  obtain ⟨hdelivers, hsame⟩ := delivers_of_transmit hrun' haccepted
  refine ⟨hdelivers, fun ends' => ?_⟩
  rw [play_of_run (hsame ends') hanswered, ← hsent]

/-! ## A stream that is taken up again -/

/-- Answers of a transport that accepts and reports a block in the end. -/
def acceptingAnswers (rank : Nat) : Trace → (r : Request) → r.Answer
  | _, .connect _ => .connected ⟨0⟩
  | _, .send _ _ _ | _, .writable _ => .ok ()
  | _, .complete _ _ => .ok (.ok rank)
  | before, r => Intervention.sampleAnswers .overloaded before r

/-- A stream with digests of which three blocks were sent. -/
def sampleRecord : Record :=
  { Intervention.sampleRecord with mode := .sendHashThrough, rank := 3, ignoreSave := true }

/-- The ledger that holds it. -/
def sampleLedger : Ledger := { records := [sampleRecord] }

/-- These answers accept everything. -/
theorem accepts_acceptingAnswers (l : Ledger) (rank : Nat) (before : Trace) (r : Request) :
    Exchange.Accepts ⟨r, onLedger l (acceptingAnswers rank) before r⟩ := by
  cases r with
  | send | writable => rfl
  | complete => exact ⟨_, rfl, rfl⟩
  | _ => trivial

/-- What comes of sending two more chunks, one of which is empty. -/
def sampleSent (ends : Bool) : (Except Outcome Unit × Outcome) × Trace :=
  play (onLedger sampleLedger (acceptingAnswers 5)) (Sender.transmit Intervention.sampleContext
    Operation.sampleOrder [⟨#[1, 2]⟩, .empty] ends)

/-- What is asked to begin it. -/
def sampleOpening : Trace :=
  [⟨.ledger (.load sampleRecord.key), some sampleRecord⟩,
    ⟨.ledger (.update sampleRecord), .ok ()⟩,
    ⟨.connect ⟨Intervention.samplePeer, some sampleRecord, .send⟩, .connected ⟨0⟩⟩,
    ⟨.now, Intervention.sampleNow⟩,
    ⟨.ledger (.update (sampleRecord.setRunning Intervention.sampleNow)), .ok ()⟩]

theorem run_sampleOpening : ∃ s, Run
    (Sender.initiate Intervention.sampleContext { order := Operation.sampleOrder }) sampleOpening
    (.ok (), s) := by
  have hprepare : Run (prepare Intervention.sampleContext Operation.sampleOrder .sendThrough)
      (sampleOpening.take 2) (.ok ⟨Intervention.samplePeer, sampleRecord, false⟩) :=
    Run.step (Run.step (Run.done _))
  have hconnect : Run (Delivery.connect Intervention.sampleContext.policy .send
      ⟨Intervention.samplePeer, sampleRecord, false⟩) (sampleOpening.drop 2)
      (.ok (⟨0⟩, ⟨Intervention.samplePeer, sampleRecord.setRunning Intervention.sampleNow,
        false⟩)) := by
    rw [Delivery.connect, show Intervention.sampleContext.policy.attempts = 2 + 1 from rfl,
      Delivery.tryConnect]
    exact Run.step (Run.step (Run.step (Run.done _)))
  exact ⟨_, Run.bind_iff.2 ⟨_, _, _, rfl, hprepare,
    Run.bind_iff.2 ⟨_, _, [], (List.append_nil _).symm, hconnect, Run.done _⟩⟩⟩

theorem begun_sampleSent : (sampleSent true).1.1 = .ok () := by
  obtain ⟨hrun, hanswered⟩ := run_play (onLedger sampleLedger (acceptingAnswers 5))
    (Sender.transmit Intervention.sampleContext Operation.sampleOrder [⟨#[1, 2]⟩, .empty] true)
  obtain ⟨u, ⟨begun, s⟩, v, ht, hinitiate, hrest⟩ := Run.bind_iff.1 hrun
  obtain ⟨w, s', x, -, -, hclosing⟩ := Run.bind_iff.1 hrest
  obtain ⟨y, closed, z, -, -, hend⟩ := Run.bind_iff.1 hclosing
  obtain ⟨s₀, hopening⟩ := run_sampleOpening
  have hsame := play_of_run hopening
    (show Answered (onLedger sampleLedger (acceptingAnswers 5)) [] sampleOpening from
      ⟨rfl, rfl, rfl, rfl, rfl, trivial⟩)
  rw [ht] at hanswered
  rw [play_of_run hinitiate (answered_of_append hanswered)] at hsame
  have hbegun : begun = .ok () := congrArg (fun result => result.1.1) hsame
  rw [← hbegun]
  exact congrArg Prod.fst (Run.done_iff.1 hend).2

theorem accepted_sampleSent : (sampleSent true).2.Accepted :=
  forall_of_answered (accepts_acceptingAnswers sampleLedger 5) (run_play _ _).2

theorem delivers_of_begun_sample :
    (sampleSent true).1.1 = .ok () ∧ (sampleSent true).2.Accepted ∧
    (∃ completion r, Delivers Intervention.sampleContext Operation.sampleOrder
      [⟨#[1, 2]⟩, .empty] sampleLedger (sampleSent true).2 (sampleSent true).1.2 completion r
      ((sampleSent true).2.ledgerAfter sampleLedger)) ∧
    ∀ ends', sampleSent ends' = sampleSent true :=
  ⟨begun_sampleSent, accepted_sampleSent,
    delivers_of_begun Intervention.sampleContext Operation.sampleOrder sampleLedger
      [⟨#[1, 2]⟩, .empty] true (acceptingAnswers 5) begun_sampleSent accepted_sampleSent⟩

end Stream

end Courier
