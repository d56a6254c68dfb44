import Courier.Proofs.Spool.Writing
import Courier.Spool.Watch

/-!
# Deeds of a watch

Whatever a watch does to what it knows, and to the files that it has to dispatch, is one of a
few deeds: it looks at the directories, it begins dispatches, it notes a result, it writes the
status file, or it notes what became of messages.  Everything else only turns it to another
phase.

Main definitions:

- `Watch.Deed` is a deed and `Watch.Does` what it changes; `Watch.Moves` are several deeds with
  turns between them.
- `Watch.Sound` says what is true of a watch at any time.

Main statements:

- Deeds keep a watch sound (`Sound.does`, `Sound.moves`).
- Every item that became ready has its dispatch ended once, or still has to be dispatched
  (`Moves.pending`).
-/

namespace Courier

open Program Calendar

namespace Watch

/-! ## Deeds -/

/-- Something that a watch does. -/
inductive Deed where
  /-- It looked at the directories, and some files became ready. -/
  | looked (survey : Survey) (ready : List Item)
  /-- It began dispatches. -/
  | begun (tasks : List (Nat × Item))
  /-- It noted the result of the dispatch of an item. -/
  | settled (item : Item) (result : Dispatch.Result) (now : Moment)
  /-- It wrote the status file, while the dispatches of some items had not ended. -/
  | saved (state : StatusFile) (pending : List Item)
  /-- It noted what became of messages. -/
  | noted (receipts : List Bulletin.Receipt)

/-- The content of the status file that a deed wrote. -/
def Deed.content? : Deed → Option ByteArray
  | saved state _ => some state.toJson.indented.toUTF8
  | _ => none

/-- The items whose dispatch has not ended: those that wait and those under way. -/
def pending (w : Watch) : List Item :=
  w.waiting ++ w.dispatches.map Prod.snd

/-- Whether no file waits for its dispatch and none is under way. -/
def Idle (w : Watch) : Prop :=
  w.waiting = [] ∧ w.dispatches = []

theorem Idle.pending {w : Watch} (h : w.Idle) : w.pending = [] := by
  simp [Watch.pending, h.1, h.2]

/-- The dispatches that a watch begins when it has room. -/
def beginning (w : Watch) : List (Nat × Item) :=
  (List.range' w.nextTask (w.waiting.take w.room).length).zip (w.waiting.take w.room)

/-- What a deed changes.  One file after the other, the directories are only looked at and the
status file is only written when no file waits for its dispatch and none is under way. -/
inductive Does : Watch → Deed → Watch → Prop where
  | look {w : Watch} {s : Survey} {digest : Path → Option String} (row : s.IsRow)
      (accepted : ∀ f ∈ s.files, w.monitor.accepts f)
      (idle : w.job.isParallel = false → w.Idle) :
      Does w (.looked s (w.monitor.absorb s digest).1)
        { w with
          monitor := (w.monitor.absorb s digest).2
          waiting := w.waiting ++ (w.monitor.absorb s digest).1 }
  | begin {w : Watch} : Does w (.begun w.beginning) w.dispatchWaiting.1
  | settle {w : Watch} {task : Nat} {item : Item} {result : Dispatch.Result} {now : Moment}
      (mem : (task, item) ∈ w.dispatches) (path : result.path = item.path) :
      Does w (.settled item result now)
        { w with
          monitor := w.monitor.finalize result.path result.success result.specialId now
          dispatches := w.dispatches.filter fun t => t.1 != task }
  | save {w : Watch} (idle : w.job.isParallel = false → w.Idle) :
      Does w (.saved w.monitor.status w.pending)
        { w with monitor := { w.monitor with dirty := false } }
  | note {w : Watch} {receipts : List Bulletin.Receipt} :
      Does w (.noted receipts) { w with monitor := Bulletin.apply w.monitor receipts }

/-- Whether two watches know the same and have the same to dispatch. -/
structure Turns (w w' : Watch) : Prop where
  job : w'.job = w.job
  monitor : w'.monitor = w.monitor
  waiting : w'.waiting = w.waiting
  dispatches : w'.dispatches = w.dispatches
  nextTask : w.nextTask ≤ w'.nextTask

theorem Turns.refl (w : Watch) : Turns w w :=
  ⟨rfl, rfl, rfl, rfl, Nat.le_refl _⟩

/-- Deeds with turns between them. -/
inductive Moves : Watch → List Deed → Watch → Prop where
  | done (w : Watch) : Moves w [] w
  | turn {w w₁ w' : Watch} {ds : List Deed} (moves : Moves w ds w₁) (turns : Turns w₁ w') :
      Moves w ds w'
  | move {w w₁ w' : Watch} {ds : List Deed} {d : Deed} (moves : Moves w ds w₁)
      (does : Does w₁ d w') : Moves w (ds ++ [d]) w'

namespace Moves

variable {w w₁ w' : Watch} {d : Deed} {ds ds' : List Deed}

theorem append (h : Moves w ds w₁) (k : Moves w₁ ds' w') : Moves w (ds ++ ds') w' := by
  induction k with
  | done =>
      rw [List.append_nil]
      exact h
  | turn _ turns ih => exact .turn ih turns
  | move _ does ih =>
      rw [← List.append_assoc]
      exact .move ih does

theorem of_turns (h : Turns w w') : Moves w [] w' :=
  .turn (.done w) h

theorem of_does (h : Does w d w') : Moves w [d] w' :=
  .move (.done w) h

/-- The first one of several deeds. -/
theorem of_cons (h : Moves w (d :: ds) w') :
    ∃ w₁ w₂, Moves w [] w₁ ∧ Does w₁ d w₂ ∧ Moves w₂ ds w' := by
  generalize hall : d :: ds = all at h
  induction h generalizing ds with
  | done => exact nomatch hall
  | turn moves turns ih =>
      obtain ⟨w₁, w₂, hbefore, hdoes, hafter⟩ := ih hall
      exact ⟨w₁, w₂, hbefore, hdoes, .turn hafter turns⟩
  | @move w₀ w₃ most last moves does ih =>
      cases most with
      | nil =>
          obtain ⟨rfl, rfl⟩ := List.cons_eq_cons.1 hall
          exact ⟨w₀, w₃, moves, does, .done w₃⟩
      | cons first rest =>
          obtain ⟨rfl, rfl⟩ := List.cons_eq_cons.1 hall
          obtain ⟨w₁, w₂, hbefore, hdoes, hafter⟩ := ih rfl
          exact ⟨w₁, w₂, hbefore, hdoes, .move hafter does⟩

/-- A deed among several ones. -/
theorem of_append_cons {before after : List Deed} (h : Moves w (before ++ d :: after) w') :
    ∃ w₁ w₂, Moves w before w₁ ∧ Does w₁ d w₂ ∧ Moves w₂ after w' := by
  induction before generalizing w with
  | nil => exact of_cons h
  | cons first rest ih =>
      obtain ⟨w₁, w₂, hturns, hfirst, hrest⟩ := of_cons h
      obtain ⟨w₃, w₄, hbefore, hdoes, hafter⟩ := ih hrest
      have hall := (hturns.append (of_does hfirst)).append hbefore
      exact ⟨w₃, w₄, hall, hdoes, hafter⟩

end Moves

/-! ## What is true at any time -/

/-- What is true of a watch at any time. -/
structure Sound (w : Watch) : Prop where
  /-- The monitor keeps what it knows where the job says. -/
  statusFile : w.monitor.statusFile = w.job.statusFile
  row : w.monitor.items.IsRow
  /-- The dispatches that are under way have different numbers, all given already. -/
  numbers : (w.dispatches.map Prod.fst).Nodup
  below : ∀ t ∈ w.dispatches, t.1 < w.nextTask

theorem map_fst_beginning (w : Watch) :
    w.beginning.map Prod.fst = List.range' w.nextTask (w.waiting.take w.room).length :=
  List.map_fst_zip (by simp)

theorem map_snd_beginning (w : Watch) : w.beginning.map Prod.snd = w.waiting.take w.room :=
  List.map_snd_zip (by simp)

theorem dispatches_dispatchWaiting (w : Watch) :
    w.dispatchWaiting.1.dispatches = w.dispatches ++ w.beginning :=
  rfl

/-- The numbers of dispatches that begin are new. -/
theorem mem_beginning {w : Watch} {t : Nat × Item} (h : t ∈ w.beginning) :
    w.nextTask ≤ t.1 ∧ t.1 < w.dispatchWaiting.1.nextTask := by
  have hfst : t.1 ∈ w.beginning.map Prod.fst := List.mem_map_of_mem h
  rw [map_fst_beginning, List.mem_range'_1] at hfst
  exact hfst

theorem applyOne_frame (m : Monitor) (r : Bulletin.Receipt) :
    (Bulletin.applyOne m r).statusFile = m.statusFile ∧
      (Bulletin.applyOne m r).items = m.items := by
  simp only [Bulletin.applyOne]
  split <;> exact ⟨rfl, rfl⟩

/-- What became of messages does not touch the items. -/
theorem apply_frame (m : Monitor) (receipts : List Bulletin.Receipt) :
    (Bulletin.apply m receipts).statusFile = m.statusFile ∧
      (Bulletin.apply m receipts).items = m.items := by
  induction receipts generalizing m with
  | nil => exact ⟨rfl, rfl⟩
  | cons r rest ih =>
      obtain ⟨hfile, hitems⟩ := ih (Bulletin.applyOne m r)
      obtain ⟨hfile', hitems'⟩ := applyOne_frame m r
      exact ⟨hfile.trans hfile', hitems.trans hitems'⟩

namespace Sound

variable {w w' : Watch} {d : Deed} {ds : List Deed}

theorem turns (h : w.Sound) (k : Turns w w') : w'.Sound := by
  obtain ⟨statusFile, row, numbers, below⟩ := h
  refine ⟨?_, ?_, ?_, ?_⟩
  · rw [k.monitor, k.job, statusFile]
  · rw [k.monitor]
    exact row
  · rw [k.dispatches]
    exact numbers
  · intro t ht
    rw [k.dispatches] at ht
    exact Nat.lt_of_lt_of_le (below t ht) k.nextTask

theorem dispatchWaiting (h : w.Sound) : w.dispatchWaiting.1.Sound := by
  refine ⟨h.statusFile, h.row, ?_, ?_⟩
  · rw [dispatches_dispatchWaiting, List.map_append, map_fst_beginning]
    refine List.nodup_append.2 ⟨h.numbers, List.nodup_range', ?_⟩
    intro n hold k hnew heq
    obtain ⟨t, ht, rfl⟩ := List.mem_map.1 hold
    have hlt := h.below t ht
    have hle := (List.mem_range'_1.1 hnew).1
    omega
  · intro t ht
    rw [dispatches_dispatchWaiting, List.mem_append] at ht
    rcases ht with ht | ht
    · exact Nat.lt_of_lt_of_le (h.below t ht) (Nat.le_add_right _ _)
    · exact (mem_beginning ht).2

/-- A deed keeps a watch sound. -/
theorem does (h : w.Sound) (k : Does w d w') : w'.Sound := by
  cases k with
  | look row accepted idle =>
      refine ⟨?_, Monitor.isRow_absorb _ _ h.row, h.numbers, h.below⟩
      rw [Monitor.absorb_frame]
      exact h.statusFile
  | begin => exact h.dispatchWaiting
  | settle mem path =>
      refine ⟨h.statusFile, Monitor.isRow_finalize _ _ _ _ h.row, ?_, ?_⟩
      · exact h.numbers.sublist (List.filter_sublist.map Prod.fst)
      · intro t ht
        exact h.below t (List.mem_filter.1 ht).1
  | save idle => exact ⟨h.statusFile, h.row, h.numbers, h.below⟩
  | note =>
      obtain ⟨hfile, hitems⟩ := apply_frame w.monitor _
      refine ⟨hfile.trans h.statusFile, ?_, h.numbers, h.below⟩
      rw [hitems]
      exact h.row

/-- Deeds keep a watch sound. -/
theorem moves (h : w.Sound) (k : Moves w ds w') : w'.Sound := by
  induction k with
  | done => exact h
  | turn _ turns ih => exact ih.turns turns
  | move _ does ih => exact ih.does does

end Sound

/-! ## What has to be dispatched -/

/-- The items that became ready by a deed. -/
def Deed.ready : Deed → List Item
  | looked _ ready => ready
  | _ => []

/-- The items whose dispatch has ended by a deed. -/
def Deed.ended : Deed → List Item
  | settled item _ _ => [item]
  | _ => []

section Pending

variable {w w' : Watch} {d : Deed} {ds : List Deed}

/-- A dispatch that ends is taken out once. -/
theorem perm_filter_ne {tasks : List (Nat × Item)} {task : Nat} {item : Item}
    (hnumbers : (tasks.map Prod.fst).Nodup) (hmem : (task, item) ∈ tasks) :
    tasks.Perm ((task, item) :: tasks.filter fun t => t.1 != task) := by
  induction tasks with
  | nil => exact nomatch hmem
  | cons t rest ih =>
      obtain ⟨hnew, hrest⟩ := List.nodup_cons.1 hnumbers
      rcases List.mem_cons.1 hmem with rfl | hmem
      · have hothers : (rest.filter fun t => t.1 != task) = rest := by
          refine List.filter_eq_self.2 fun t ht => bne_iff_ne.2 fun heq => hnew ?_
          exact List.mem_map.2 ⟨t, ht, heq⟩
        simp [hothers]
      · have hne : t.1 ≠ task := by
          rintro heq
          exact hnew (List.mem_map.2 ⟨(task, item), hmem, heq.symm⟩)
        simp only [List.filter_cons, bne_iff_ne.2 hne, if_true]
        exact ((ih hrest hmem).cons t).trans (.swap _ _ _)

theorem Turns.pending (h : Turns w w') : w'.pending = w.pending := by
  rw [Watch.pending, Watch.pending, h.waiting, h.dispatches]

/-- Every item that has to be dispatched, or becomes ready, has its dispatch ended or still has
to be dispatched. -/
theorem Does.pending (hw : w.Sound) (h : Does w d w') :
    (w.pending ++ d.ready).Perm (d.ended ++ w'.pending) := by
  cases h with
  | @look s digest row accepted idle =>
      simp only [Watch.pending, Deed.ready, Deed.ended, List.nil_append, List.append_assoc]
      exact List.perm_append_comm.append_left _
  | begin =>
      have hwaiting : w.waiting = w.waiting.take w.room ++ w.waiting.drop w.room :=
        (List.take_append_drop w.room w.waiting).symm
      have hpending : w.dispatchWaiting.1.pending =
          w.waiting.drop w.room ++ (w.dispatches.map Prod.snd ++ w.waiting.take w.room) := by
        rw [← map_snd_beginning, ← List.map_append, ← dispatches_dispatchWaiting]
        rfl
      simp only [Deed.ready, Deed.ended, List.nil_append, List.append_nil]
      rw [hpending, ← List.append_assoc, Watch.pending]
      refine (List.Perm.append_right _ (.of_eq hwaiting)).trans ?_
      rw [List.append_assoc]
      exact List.perm_append_comm
  | @settle task item result now mem path =>
      have hperm := (perm_filter_ne hw.numbers mem).map Prod.snd
      simp only [Watch.pending, Deed.ready, Deed.ended, List.append_nil]
      exact (hperm.append_left w.waiting).trans List.perm_middle
  | save idle => exact .of_eq (List.append_nil _)
  | note => exact .of_eq (List.append_nil _)

/-- Every item that had to be dispatched at first, or became ready, had its dispatch ended or
still has to be dispatched. -/
theorem Moves.pending (hw : w.Sound) (h : Moves w ds w') :
    (w.pending ++ ds.flatMap Deed.ready).Perm (ds.flatMap Deed.ended ++ w'.pending) := by
  induction h with
  | done => exact .of_eq (List.append_nil _)
  | turn moves turns ih =>
      rw [turns.pending]
      exact ih
  | @move w₁ w' ds d moves does ih =>
      simp only [List.flatMap_append, List.flatMap_singleton]
      rw [← List.append_assoc, List.append_assoc (ds.flatMap Deed.ended)]
      refine (ih.append_right _).trans ?_
      rw [List.append_assoc]
      exact (does.pending (hw.moves moves)).append_left _

end Pending

end Watch

end Courier
