import Courier.Proofs.Spool.Handling
import Courier.Proofs.Spool.Reload
import Courier.Proofs.Spool.Summaries

/-!
# What observers are told

A monitor keeps two things about its observers: for each one the items that the last message it
accepted was made from, and the observers that get a full message next.  Both are changed by the
results of messages only, in whatever order results of several observers come in.  Taken together
they say what the last result for an observer says, and nothing else that happened: a message that
was delivered makes the next one a patch of the items that it was made from, and a message that was
not makes the next one full.

A patch is as small as it can be.  It has the items that are new or differ, and the paths that are
gone, and it is empty when nothing changed.

Main definitions:

- `Monitor.Episode` is something that happens to a monitor and `Monitor.Undergoes` what it changes;
  a `Monitor.Story` is made of several ones.
- `Monitor.resultsFor` are the results for an observer, in the order in which they were applied.
- `Summary.Patches` and `Summary.Replaces` tell how a summary relates to the items of its monitor.

Main statements:

- The last result for an observer decides what it is told (`Monitor.briefs`).
- A round of messages brings results with the items that the monitor had when the messages were
  made, so it is an episode whatever happened in the meantime (`Monitor.undergoes_push`).
-/

namespace Courier

open Program Calendar

/-! ## Patches -/

/-- Whether a summary is a patch of known items: it has just the items that are new or differ, each
once, and just the paths that are gone.  It turns the known items into the present ones, and it is
empty when these are the same. -/
structure Summary.Patches (s : Summary) (known : Items) (m : Monitor) : Prop where
  notFull : s.full = false
  items : ∀ i, i ∈ s.items ↔ i ∈ m.items ∧ known.entryAt i.path ≠ some i
  ordered : s.items.Sublist m.items
  removed : ∀ p, p ∈ s.removed ↔ (∃ k ∈ known, k.path = p) ∧ m.items.find? p = none
  paths : s.removed.Sublist (known.map Item.path)
  applied : (s.applyTo known).Alike m.items
  empty : s.items = [] ∧ s.removed = [] ↔ known.Alike m.items

/-- Whether a summary tells all items anew. -/
structure Summary.Replaces (s : Summary) (m : Monitor) : Prop where
  full : s.full = true
  items : s.items = m.items
  removed : s.removed = []

namespace Items

variable {items known : Items} {p : Path} {i : Item}

theorem entryAt_of_mem (h : items.IsRow) (hi : i ∈ items) : items.entryAt i.path = some i :=
  entryAt_of_find? (find?_of_mem h hi (Path.same_refl i.path))

/-- An item is known as it is when the known row says just this of its path. -/
theorem any_agrees_iff : (known.find? i.path).any i.agrees = true ↔
    known.entryAt i.path = some i := by
  cases hknown : known.find? i.path with
  | none => simp [entryAt, hknown]
  | some k =>
      rw [entryAt_of_find? hknown, Option.any_some,
        agrees_iff (Path.same_refl i.path) (path_of_find? hknown)]
      constructor
      · intro h
        rw [← h]
      · intro h
        exact (Option.some.inj h).symm

end Items

namespace Monitor

variable {m : Monitor} {known : Items} {p : Path} {i : Item} {observer : String}

theorem mem_changesSince :
    i ∈ m.changesSince known ↔ i ∈ m.items ∧ known.entryAt i.path ≠ some i := by
  rw [changesSince, List.mem_filter, ne_eq, ← Items.any_agrees_iff, Bool.not_eq_true',
    Bool.not_eq_true]

theorem mem_goneSince :
    p ∈ m.goneSince known ↔ (∃ k ∈ known, k.path = p) ∧ m.items.find? p = none := by
  have hgone : ∀ k : Item, (!m.items.contains k.path) = true ↔ m.items.find? k.path = none := by
    intro k
    rw [Items.contains_eq, Bool.not_eq_true', Option.isSome_eq_false_iff, Option.isNone_iff_eq_none]
  simp only [goneSince, List.mem_map, List.mem_filter, hgone]
  constructor
  · rintro ⟨k, ⟨hk, hnone⟩, rfl⟩
    exact ⟨⟨k, hk, rfl⟩, hnone⟩
  · rintro ⟨⟨k, hk, rfl⟩, hnone⟩
    exact ⟨k, ⟨hk, hnone⟩, rfl⟩

/-- Nothing has to be told of items that are known as they are. -/
theorem changes_eq_nil_of_alike (hrow : m.items.IsRow) (hknown : known.IsRow)
    (h : known.Alike m.items) : m.changesSince known = [] ∧ m.goneSince known = [] := by
  constructor
  · refine List.eq_nil_iff_forall_not_mem.2 fun i hi => ?_
    obtain ⟨hmem, hnew⟩ := mem_changesSince.1 hi
    exact hnew ((h i.path).trans (Items.entryAt_of_mem hrow hmem))
  · refine List.eq_nil_iff_forall_not_mem.2 fun p hp => ?_
    obtain ⟨⟨k, hk, rfl⟩, hgone⟩ := mem_goneSince.1 hp
    have hentry := (h k.path).symm.trans (Items.entryAt_of_mem hknown hk)
    rw [Items.entryAt_eq_none_iff.2 hgone] at hentry
    cases hentry

/-- A summary for an observer whose items are known is a patch of these. -/
theorem patches_summaryFor (hrow : m.items.IsRow) (hknown : known.IsRow)
    (h : m.knownTo observer = some known) (now : Moment) :
    (m.summaryFor observer now).Patches known m := by
  have happlied : ((m.summaryFor observer now).applyTo known).Alike m.items := by
    refine entryAt_applyTo_summaryFor hrow now fun known' hknown' => .inl ?_
    rw [Option.some.inj (h.symm.trans hknown')]
    exact fun _ => rfl
  have hsummary : m.summaryFor observer now =
      ⟨m.name, false, m.changesSince known, m.goneSince known, m.counters, now⟩ := by
    simp only [summaryFor, h]
  rw [hsummary] at happlied ⊢
  refine ⟨rfl, fun i => mem_changesSince, List.filter_sublist, fun p => mem_goneSince,
    List.filter_sublist.map _, happlied, ?_⟩
  constructor
  · rintro ⟨hitems, hremoved⟩
    have hkept : (known.filter fun i => !([] : List Path).any i.path.same) = known :=
      List.filter_eq_self.2 fun _ _ => rfl
    simp only [Summary.applyTo, Bool.false_eq_true, if_false] at happlied hitems hremoved
    rwa [hitems, hremoved, hkept] at happlied
  · exact changes_eq_nil_of_alike hrow hknown

theorem replaces_summaryFor (h : m.knownTo observer = none) (now : Moment) :
    (m.summaryFor observer now).Replaces m := by
  constructor <;> simp only [summaryFor, h]

/-! ## Episodes -/

/-- Something that happens to a monitor. -/
inductive Episode where
  /-- It looked at the directories, and some items became ready. -/
  | scanned (t : Trace) (ready : List Item)
  /-- It noted the result of a dispatch. -/
  | finalized (p : Path) (success : Bool) (specialId : Option Int) (now : Moment)
  /-- It was to write the status file. -/
  | saved (t : Trace) (result : Except FileFault Unit)
  /-- It noted what became of messages. -/
  | applied (receipts : List Bulletin.Receipt)

/-- What an episode changes.  A message is made from a row of items. -/
inductive Undergoes : Monitor → Episode → Monitor → Prop where
  | scan {m m' : Monitor} {t : Trace} {ready : List Item} (run : Run m.scan t (ready, m')) :
      Undergoes m (.scanned t ready) m'
  | finalize {m : Monitor} {p : Path} {success : Bool} {id : Option Int} {now : Moment} :
      Undergoes m (.finalized p success id now) (m.finalize p success id now)
  | save {m m' : Monitor} {t : Trace} {result : Except FileFault Unit}
      (run : Run m.saveStatus t (result, m')) : Undergoes m (.saved t result) m'
  | apply {m : Monitor} {receipts : List Bulletin.Receipt} (rows : ∀ r ∈ receipts, r.items.IsRow) :
      Undergoes m (.applied receipts) (Bulletin.apply m receipts)

/-- Several episodes, one after the other. -/
inductive Story (m : Monitor) : List Episode → Monitor → Prop where
  | start : Story m [] m
  | go {episodes : List Episode} {e : Episode} {m₁ m' : Monitor} (story : Story m episodes m₁)
      (undergoes : Undergoes m₁ e m') : Story m (episodes ++ [e]) m'

/-- The results of messages that an episode brings. -/
def Episode.receipts : Episode → List Bulletin.Receipt
  | applied receipts => receipts
  | _ => []

/-- The results for an observer, in the order in which they were applied. -/
def resultsFor (observer : String) (episodes : List Episode) : List Bulletin.Receipt :=
  (episodes.flatMap Episode.receipts).filter fun r => r.observer == observer

theorem resultsFor_append (observer : String) (episodes : List Episode) (e : Episode) :
    resultsFor observer (episodes ++ [e]) =
      resultsFor observer episodes ++ e.receipts.filter fun r => r.observer == observer := by
  rw [resultsFor, List.flatMap_append, List.filter_append, List.flatMap_singleton]
  rfl

/-! ## What is known after an episode -/

/-- What a result says is known of its observer. -/
def known? (r : Bulletin.Receipt) : Option Items :=
  if r.delivered then some r.items else none

/-- The last of several results for an observer says what is known of it. -/
theorem knownTo_apply_eq (m : Monitor) (receipts : List Bulletin.Receipt) (observer : String) :
    (Bulletin.apply m receipts).knownTo observer =
      ((receipts.filter fun r => r.observer == observer).getLast?).elim (m.knownTo observer)
        known? := by
  induction receipts generalizing m with
  | nil => rfl
  | cons r rest ih =>
      rw [Bulletin.apply, List.foldl_cons, ← Bulletin.apply, ih, Bulletin.knownTo_applyOne]
      by_cases hobserver : r.observer = observer
      · have hkept : (r.observer == observer) = true := beq_iff_eq.2 hobserver
        rw [List.filter_cons, if_pos hkept, List.getLast?_cons, if_pos hobserver]
        cases (rest.filter fun r => r.observer == observer).getLast? with
        | none => rfl
        | some last => rfl
      · have hdropped : ¬(r.observer == observer) = true := by
          rw [beq_iff_eq]
          exact hobserver
        rw [List.filter_cons, if_neg hdropped, if_neg hobserver]

variable {m₁ m' : Monitor} {e : Episode} {episodes : List Episode}

/-- Only results for an observer change what is known of it. -/
theorem Undergoes.knownTo (h : Undergoes m e m') (observer : String) :
    m'.knownTo observer =
      ((e.receipts.filter fun r => r.observer == observer).getLast?).elim (m.knownTo observer)
        known? := by
  cases h with
  | scan run =>
      obtain ⟨s, digest, -, -, habsorb⟩ := absorb_of_run_scan run
      obtain rfl := congrArg Prod.snd habsorb
      simp only [Monitor.knownTo]
      rw [absorb_frame]
      rfl
  | finalize => rfl
  | save run =>
      rcases saveStatus_cases run with ⟨hsaved, -⟩ | ⟨hsame, -⟩
      · obtain rfl : m' = { m with dirty := false } := hsaved
        rfl
      · obtain rfl : m' = m := hsame
        rfl
  | apply rows => exact knownTo_apply_eq m _ observer

theorem Undergoes.isRow (h : Undergoes m e m') (hm : m.items.IsRow) : m'.items.IsRow := by
  cases h with
  | scan run =>
      obtain ⟨s, digest, -, -, habsorb⟩ := absorb_of_run_scan run
      obtain rfl := congrArg Prod.snd habsorb
      exact isRow_absorb s digest hm
  | finalize => exact isRow_finalize _ _ _ _ hm
  | save run =>
      rcases saveStatus_cases run with ⟨hsaved, -⟩ | ⟨hsame, -⟩
      · obtain rfl : m' = { m with dirty := false } := hsaved
        exact hm
      · obtain rfl : m' = m := hsame
        exact hm
  | apply rows =>
      rw [(Watch.apply_frame m _).2]
      exact hm

theorem Undergoes.rows (h : Undergoes m e m') : ∀ r ∈ e.receipts, r.items.IsRow := by
  cases h with
  | apply rows => exact rows
  | _ =>
      intro r hr
      cases hr

/-! ## What is known after several episodes -/

namespace Story

theorem isRow (h : m.Story episodes m') (hm : m.items.IsRow) : m'.items.IsRow := by
  induction h with
  | start => exact hm
  | go _ undergoes ih => exact undergoes.isRow ih

theorem rows (h : m.Story episodes m') : ∀ r ∈ resultsFor observer episodes, r.items.IsRow := by
  induction h with
  | start =>
      intro r hr
      cases hr
  | go _ undergoes ih =>
      intro r hr
      rw [resultsFor_append] at hr
      rcases List.mem_append.1 hr with hr | hr
      · exact ih r hr
      · exact undergoes.rows r (List.mem_filter.1 hr).1

/-- What is known of an observer is what the last result for it says. -/
theorem knownTo (h : m.Story episodes m') (observer : String) :
    m'.knownTo observer =
      ((resultsFor observer episodes).getLast?).elim (m.knownTo observer) known? := by
  induction h with
  | start => rfl
  | go _ undergoes ih =>
      rw [undergoes.knownTo, ih, resultsFor_append, List.getLast?_append]
      cases (List.filter _ _).getLast? with
      | none => rfl
      | some last => rfl

end Story

/-- An item of a file that is not there. -/
def sampleKnown : Items :=
  [{ path := ⟨"in/a"⟩, lastModified := 1, size := 3 }]

/-- The result of a message with this item. -/
def sampleReceipt : Bulletin.Receipt :=
  ⟨"desk", sampleKnown, true⟩

/-- The patch says that the file is gone. -/
example : ((Bulletin.apply sample [sampleReceipt]).summaryFor "desk" default).removed =
    [⟨"in/a"⟩] := by
  decide

/-! ## Rounds of messages -/

/-- A round of messages brings a result for each one, with the items that it was made from. -/
theorem receipts_of_run_sendAll {ctx : Context} {bulletins : List Bulletin} {t : Trace}
    {receipts : List Bulletin.Receipt} (h : Run (Bulletin.sendAll ctx bulletins) t receipts) :
    receipts.map (fun r => (r.observer, r.items)) =
      bulletins.map fun b => (b.observer, b.items) := by
  induction bulletins generalizing t receipts with
  | nil =>
      obtain ⟨-, rfl⟩ := Run.done_iff.1 h
      rfl
  | cons b rest ih =>
      obtain ⟨u, delivered, v, -, -, hrest⟩ := Run.bind_iff.1 h
      obtain ⟨u', others, v', -, hothers, hend⟩ := Run.bind_iff.1 hrest
      obtain ⟨-, rfl⟩ := Run.done_iff.1 hend
      rw [List.map_cons, List.map_cons, ih hothers]

/-- A round of messages to observers brings a result for each of them, with the items that the
monitor had when the messages were made.  To apply these results is an episode, whatever happened
to the monitor while the messages were on their way. -/
theorem undergoes_push {ctx : Context} {observers : List String} {now : Moment} {t : Trace}
    {receipts : List Bulletin.Receipt} (hm : m.items.IsRow)
    (h : Run (Bulletin.sendAll ctx (Bulletin.prepare observers m now)) t receipts) :
    receipts.map (fun r => (r.observer, r.items)) = observers.map (fun o => (o, m.items)) ∧
      ∀ m₂ : Monitor, Undergoes m₂ (.applied receipts) (Bulletin.apply m₂ receipts) := by
  have hreceipts : receipts.map (fun r => (r.observer, r.items)) =
      observers.map (fun o => (o, m.items)) := by
    rw [receipts_of_run_sendAll h, Bulletin.prepare, List.map_map]
    rfl
  refine ⟨hreceipts, fun m₂ => .apply fun r hr => ?_⟩
  have hmem : (r.observer, r.items) ∈ observers.map (fun o => (o, m.items)) := by
    rw [← hreceipts]
    exact List.mem_map_of_mem hr
  obtain ⟨o, -, heq⟩ := List.mem_map.1 hmem
  obtain ⟨-, hitems⟩ := Prod.mk.inj heq
  rw [← hitems]
  exact hm

end Monitor

end Courier
