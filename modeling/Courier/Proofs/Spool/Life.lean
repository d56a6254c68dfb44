import Courier.Proofs.Spool.Handling
import Courier.Proofs.Spool.Summaries

/-!
# The life of a spool

A watch lives beside its tasks.  Dispatches end in any order and as late as they like, messages
are on their way while the watch looks on, and events come at any time.  So a life is any
sequence of steps, in each of which one of them goes on, and what happened meanwhile is kept in
a log.

A watch has use for one round of messages at most.  When it has no more use for a round, the
round is abandoned wherever it is: messages may have reached their observers, and what became
of them is not noted.  A message that comes late counts as one that came before it was given
up, as nothing else reaches its observer meanwhile.

Main definitions:

- `Spool` is a watch with the round of messages under way beside it.
- `Spool.Happening` is what is kept of a life, `Spool.Step` one step of it and `Spool.Life` a
  life up to any moment.

Main statements:

- The watch is steady between two steps (`Life.steady`), and what happened to it are deeds
  (`Life.moves`).
- However an event is handled, this is a step (`step_of_run_event`, `step_of_run_dispatched`,
  `step_of_run_informed`).
-/

namespace Courier

open Program Calendar

/-! ## Rounds of messages -/

/-- A round of messages that is under way. -/
structure Round where
  /-- The task that sends the messages. -/
  task : Nat
  /-- The items that the messages are made from. -/
  items : Items
  /-- The messages that are not dealt with yet. -/
  left : List Bulletin
  /-- Whether the first of these has reached its observer. -/
  arrived : Bool := false
  /-- The observers that some message of the round has reached. -/
  reached : List String := []
  /-- What became of the messages that are dealt with. -/
  receipts : List Bulletin.Receipt := []

namespace Round

/-- The round after a message has reached its observer. -/
def arrive (r : Round) (b : Bulletin) : Round :=
  { r with arrived := true, reached := b.observer :: r.reached }

/-- The round after a message was dealt with. -/
def answer (r : Round) (b : Bulletin) (rest : List Bulletin) (accepted : Bool) : Round :=
  { r with
    left := rest
    arrived := false
    receipts := r.receipts ++ [⟨b.observer, b.items, accepted⟩] }

end Round

/-! ## Steps -/

/-- A watch with the round of messages under way beside it. -/
structure Spool where
  watch : Watch
  round : Option Round := none

/-- Whether an event does not come from a task of the watch. -/
def Watch.Event.isPlain : Event → Bool
  | .dispatched _ _ => false
  | .informed _ _ => false
  | _ => true

/-- Whether a partner has answered a question. -/
def Exchange.isAnswer : Exchange → Bool
  | ⟨.ask _ _ _, .ok _⟩ => true
  | _ => false

namespace Spool

/-- What is kept of a life. -/
inductive Happening where
  /-- The watch did something. -/
  | deed (d : Watch.Deed)
  /-- A message has reached its observer. -/
  | arrived (b : Bulletin)
  /-- A message was dealt with, and accepted or not. -/
  | answered (b : Bulletin) (accepted : Bool)
  /-- A round of messages was abandoned. -/
  | abandoned (r : Round)

/-- The deed that happened. -/
def Happening.deed? : Happening → Option Watch.Deed
  | deed d => some d
  | _ => none

/-- The deeds of a log. -/
def deeds (log : List Happening) : List Watch.Deed :=
  log.filterMap Happening.deed?

/-- Go on with a changed watch: begin the round of messages that it starts, or keep the one
that is under way while the watch has use for it. -/
def adopt (round : Option Round) (change : Watch.Change) : Spool where
  watch := change.1
  round :=
    match Watch.rounds change.2 with
    | (task, bulletins) :: _ => some { task, items := change.1.monitor.items, left := bulletins }
    | [] => round.filter fun r => change.1.informers.contains r.task

/-- The round that a changed watch has no use for any more. -/
def abandonment (round : Option Round) (change : Watch.Change) : List Happening :=
  (round.filter fun r => !change.1.informers.contains r.task).toList.map .abandoned

/-- One step of a life. -/
inductive Step (ctx : Context) : Spool → List Happening → Spool → Prop where
  /-- The time for something has come, or somebody wants the watch to stop. -/
  | event {w : Watch} {round : Option Round} {e : Watch.Event} {now : Nat} {t : Trace}
      {change : Watch.Change} {ds : List Watch.Deed} (plain : e.isPlain = true)
      (run : Run (w.handle now e) t change) (handles : Watch.Handles w t ds change) :
      Step ctx ⟨w, round⟩ (ds.map .deed ++ abandonment round change) (adopt round change)
  /-- A dispatch has ended. -/
  | dispatched {w w₁ : Watch} {round : Option Round} {task : Nat} {item : Item}
      {result : Dispatch.Result} {moment : Moment} {now : Nat} {u t : Trace}
      {change : Watch.Change} {ds : List Watch.Deed} (mem : (task, item) ∈ w.dispatches)
      (dispatch : Run (Dispatch.run ctx w.job item) u result)
      (run : Run (w.handle now (.dispatched task result)) t change)
      (settles : Watch.Does w (.settled item result moment) w₁)
      (handles : Watch.Handles w₁ t ds change) :
      Step ctx ⟨w, round⟩
        (.deed (.settled item result moment) :: ds.map .deed ++ abandonment round change)
        (adopt round change)
  /-- A round of messages has ended. -/
  | informed {w w₁ : Watch} {r : Round} {now : Nat} {t : Trace} {change : Watch.Change}
      {ds : List Watch.Deed} (dealt : r.left = [])
      (run : Run (w.handle now (.informed r.task r.receipts)) t change)
      (notes : Watch.Does w (.noted r.receipts) w₁) (handles : Watch.Handles w₁ t ds change) :
      Step ctx ⟨w, some r⟩ (.deed (.noted r.receipts) :: ds.map .deed) (adopt none change)
  /-- A message reaches its observer. -/
  | arrive {w : Watch} {r : Round} {b : Bulletin} {rest : List Bulletin}
      (left : r.left = b :: rest) (fresh : r.arrived = false) :
      Step ctx ⟨w, some r⟩ [.arrived b] ⟨w, some (r.arrive b)⟩
  /-- A message was dealt with.  An observer only answers one that has reached it. -/
  | answer {w : Watch} {r : Round} {b : Bulletin} {rest : List Bulletin} {u : Trace}
      {accepted : Bool} (left : r.left = b :: rest)
      (run : Run (Bulletin.deliver ctx b) u accepted)
      (heard : ∀ x ∈ u, x.isAnswer = true → r.arrived = true) :
      Step ctx ⟨w, some r⟩ [.answered b accepted] ⟨w, some (r.answer b rest accepted)⟩

/-- A life up to some moment, with all that happened. -/
inductive Life (ctx : Context) (first : Spool) : List Happening → Spool → Prop where
  | start : Life ctx first [] first
  | step {log happened : List Happening} {s s' : Spool} (life : Life ctx first log s)
      (step : Step ctx s happened s') : Life ctx first (log ++ happened) s'

/-! ## Deeds of a life -/

variable {ctx : Context} {first s s' : Spool} {log happened : List Happening}

@[simp] theorem deeds_cons_deed (d : Watch.Deed) (log : List Happening) :
    deeds (.deed d :: log) = d :: deeds log :=
  rfl

@[simp] theorem deeds_append (log others : List Happening) :
    deeds (log ++ others) = deeds log ++ deeds others :=
  List.filterMap_append

@[simp] theorem deeds_map_deed (ds : List Watch.Deed) : deeds (ds.map .deed) = ds := by
  induction ds with
  | nil => rfl
  | cons d rest ih => exact congrArg (d :: ·) ih

@[simp] theorem deeds_abandonment (round : Option Round) (change : Watch.Change) :
    deeds (abandonment round change) = [] := by
  rw [abandonment, deeds, List.filterMap_map]
  exact List.filterMap_eq_nil_iff.2 fun _ _ => rfl

/-- What happens to the watch in a step are deeds. -/
theorem Step.moves (h : Step ctx s happened s') :
    Watch.Moves s.watch (deeds happened) s'.watch := by
  cases h with
  | event plain run handles =>
      rw [deeds_append, deeds_map_deed, deeds_abandonment, List.append_nil]
      exact handles.moves
  | dispatched mem dispatch run settles handles =>
      rw [deeds_append, deeds_cons_deed, deeds_map_deed, deeds_abandonment, List.append_nil]
      exact (Watch.Moves.of_does settles).append handles.moves
  | informed dealt run notes handles =>
      rw [deeds_cons_deed, deeds_map_deed]
      exact (Watch.Moves.of_does notes).append handles.moves
  | arrive left fresh => exact .done _
  | answer left run heard => exact .done _

/-- A step leaves the watch steady. -/
theorem Step.steady (h : Step ctx s happened s') (hs : s.watch.Steady) : s'.watch.Steady := by
  cases h with
  | event plain run handles => exact handles.steady
  | dispatched mem dispatch run settles handles => exact handles.steady
  | informed dealt run notes handles => exact handles.steady
  | arrive left fresh => exact hs
  | answer left run heard => exact hs

/-- What happens to the watch in a life are deeds. -/
theorem Life.moves (h : Life ctx first log s) :
    Watch.Moves first.watch (deeds log) s.watch := by
  induction h with
  | start => exact .done _
  | step life step ih =>
      rw [deeds_append]
      exact ih.append step.moves

/-- The watch is steady at any moment of a life. -/
theorem Life.steady (h : Life ctx first log s) (hfirst : first.watch.Steady) :
    s.watch.Steady := by
  induction h with
  | start => exact hfirst
  | step life step ih => exact step.steady ih

/-! ## Every run is a step -/

/-- A dispatch is of the path of its item. -/
theorem path_of_run_dispatch {job : Job} {item : Item} {t : Trace} {result : Dispatch.Result}
    (h : Run (Dispatch.run ctx job item) t result) : result.path = item.path := by
  have hall : ∀ (hosts : List String) (before : Dispatch.Result) (t : Trace) (knownId : Option Int),
      Run (Dispatch.sendToAll ctx job item.path.text knownId hosts before) t result →
        result.path = before.path := by
    intro hosts
    induction hosts with
    | nil =>
        intro before t knownId hrun
        rw [(Run.done_iff.1 hrun).2]
    | cons host rest ih =>
        intro before t knownId hrun
        obtain ⟨u, outcome, v, -, -, hrest⟩ := Run.bind_iff.1 hrun
        obtain ⟨answer, v, -, hothers⟩ := Run.ask_iff.1 hrest
        have hpath := ih _ _ knownId hothers
        exact hpath
  exact hall _ _ _ _ h

theorem step_of_run_event {e : Watch.Event} {now : Nat} {t : Trace} {change : Watch.Change}
    (hs : s.watch.Steady) (hplain : e.isPlain = true)
    (h : Run (s.watch.handle now e) t change) :
    ∃ happened, Step ctx s happened (adopt s.round change) := by
  obtain ⟨ds, hhandles⟩ := Watch.handles_of_run_handle hs
    (fun task result heq => by rw [heq] at hplain; exact nomatch hplain)
    (fun task receipts heq => by rw [heq] at hplain; exact nomatch hplain) h
  exact ⟨_, .event hplain h hhandles⟩

theorem step_of_run_dispatched {task : Nat} {item : Item} {result : Dispatch.Result} {now : Nat}
    {u t : Trace} {change : Watch.Change} (hs : s.watch.Steady)
    (hmem : (task, item) ∈ s.watch.dispatches)
    (hdispatch : Run (Dispatch.run ctx s.watch.job item) u result)
    (h : Run (s.watch.handle now (.dispatched task result)) t change) :
    ∃ happened, Step ctx s happened (adopt s.round change) := by
  obtain ⟨moment, w₁, ds, hsettles, hhandles⟩ :=
    Watch.handles_of_run_dispatched hs hmem (path_of_run_dispatch hdispatch) h
  exact ⟨_, .dispatched hmem hdispatch h hsettles hhandles⟩

theorem step_of_run_informed {r : Round} {now : Nat} {t : Trace} {change : Watch.Change}
    (hs : s.watch.Steady) (hround : s.round = some r) (hover : r.left = [])
    (htask : r.task ∈ s.watch.informers)
    (h : Run (s.watch.handle now (.informed r.task r.receipts)) t change) :
    ∃ happened, Step ctx s happened (adopt none change) := by
  have htasks : r.task ∈ s.watch.tasks := by
    rw [Watch.informers] at htask
    rw [Watch.tasks, List.append_assoc]
    exact List.mem_append_right _ htask
  obtain ⟨w₁, ds, hnotes, hhandles⟩ := Watch.handles_of_run_informed hs htasks h
  obtain ⟨w, round⟩ := s
  cases hround
  exact ⟨_, .informed hover h hnotes hhandles⟩

end Spool

end Courier
