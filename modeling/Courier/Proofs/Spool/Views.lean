import Courier.Proofs.Spool.Detection
import Courier.Proofs.Spool.Life

/-!
# Views of observers

An observer applies every message that reaches it.  The watch notes what became of messages
only when a whole round of them has ended, and knows of an observer what it was told last, or
that this is not known.  The view of an observer is the one that the watch knows of, or the one
that a message under way was made from, as long as no round was abandoned that had reached the
observer.  What became of such a round is never noted, so the next message is a patch of a view
that the observer does not have any more.

Main definitions:

- `Spool.viewOf` is the view of an observer after what happened.
- `Round.Orderly` says what is true of a round of messages at any time, `Spool.Knows` how the
  view of an observer relates to what a spool knows of it.
- `Spool.Undisturbed` says that no round was abandoned after it had reached an observer.

Main statements:

- When a message has reached an observer, its view says what the items said that the message
  was made from (`Spool.view_of_arrived`), and so it does when the observer has accepted it
  (`Spool.view_of_accepted`), both while the observer is undisturbed.
- This is so until the watch leaves (`Spool.view_of_accepted_of_not_hasLeft`).
-/

namespace Courier

open Program Calendar

namespace Spool

variable {ctx : Context} {first s s' : Spool} {log happened : List Happening} {o : String}
  {initial seen : Items}

/-! ## Views -/

/-- What a happening makes of the view of an observer. -/
def Happening.applyTo (observer : String) (view : Items) : Happening → Items
  | arrived b => if b.observer = observer then b.summary.applyTo view else view
  | _ => view

/-- The view of an observer after what happened. -/
def viewOf (initial : Items) (observer : String) (log : List Happening) : Items :=
  log.foldl (Happening.applyTo observer) initial

/-- What an observer has seen first is where the rest starts. -/
theorem viewOf_append (initial : Items) (observer : String) (log others : List Happening) :
    viewOf initial observer (log ++ others) =
      viewOf (viewOf initial observer log) observer others :=
  List.foldl_append

/-- What a watch does changes no view. -/
@[simp] theorem viewOf_map_deed (initial : Items) (observer : String) (ds : List Watch.Deed) :
    viewOf initial observer (ds.map .deed) = initial := by
  induction ds with
  | nil => rfl
  | cons d rest ih => exact ih

/-- That a round is abandoned changes no view. -/
@[simp] theorem viewOf_abandonment (initial : Items) (observer : String) (round : Option Round)
    (change : Watch.Change) :
    viewOf initial observer (abandonment round change) = initial := by
  rw [abandonment]
  cases round.filter fun r => !change.1.informers.contains r.task <;> rfl

/-- Whether no round was abandoned after it had reached an observer. -/
def Undisturbed (observer : String) (log : List Happening) : Prop :=
  ∀ r, .abandoned r ∈ log → observer ∉ r.reached

/-- A log is undisturbed when both of its parts are. -/
theorem undisturbed_append {others : List Happening} :
    Undisturbed o (log ++ others) ↔ Undisturbed o log ∧ Undisturbed o others := by
  simp only [Undisturbed, List.mem_append, or_imp, forall_and]

theorem undisturbed_map_deed (ds : List Watch.Deed) : Undisturbed o (ds.map .deed) := by
  simp [Undisturbed]

end Spool

/-! ## What a watch knows of its observers -/

namespace Watch

variable {w w' : Watch} {d : Deed} {ds : List Deed}

/-- Only what became of messages changes what is known of observers. -/
theorem Does.knownTo (h : Does w d w') (hd : ∀ receipts, d ≠ .noted receipts)
    (observer : String) : w'.monitor.knownTo observer = w.monitor.knownTo observer := by
  cases h with
  | look row accepted idle =>
      simp only [Monitor.knownTo]
      rw [Monitor.absorb_frame]
  | note => exact absurd rfl (hd _)
  | _ => rfl

theorem Moves.knownTo (h : Moves w ds w') (hds : ∀ d ∈ ds, d.isOwn = true)
    (observer : String) : w'.monitor.knownTo observer = w.monitor.knownTo observer := by
  induction h with
  | done => rfl
  | turn moves turns ih => rw [turns.monitor, ih hds]
  | move moves does ih =>
      rw [List.forall_mem_append, List.forall_mem_singleton] at hds
      refine (does.knownTo (fun receipts heq => ?_) observer).trans (ih hds.1)
      rw [heq] at hds
      exact nomatch hds.2

end Watch

/-! ## Rounds of messages -/

/-- What is true of a round of messages at any time, beside the watch that began it. -/
structure Round.Orderly (r : Round) (w : Watch) : Prop where
  /-- The watch has use for the round. -/
  wanted : r.task ∈ w.informers
  begun : r.task < w.nextTask
  /-- The items that the messages are made from are in order. -/
  row : r.items.IsRow
  /-- The messages that are left are made from these items and from what is known still. -/
  left : ∀ b ∈ r.left, b.items = r.items ∧ ∃ (m : Monitor) (now : Moment), m.items = r.items ∧
    (∀ o, m.knownTo o = w.monitor.knownTo o) ∧ b.summary = m.summaryFor b.observer now
  receipts : ∀ x ∈ r.receipts, x.items = r.items ∧ (x.delivered = true → x.observer ∈ r.reached)
  /-- It is known which messages have reached their observers, but for the first one left. -/
  reached : ∀ o ∈ r.reached, (∃ x ∈ r.receipts, x.observer = o) ∨
    r.arrived = true ∧ ∃ b rest, r.left = b :: rest ∧ b.observer = o
  arrived : ∀ b rest, r.arrived = true → r.left = b :: rest → b.observer ∈ r.reached

namespace Spool

variable {ctx : Context} {first s s' : Spool} {log happened : List Happening} {o : String}
  {initial seen : Items}

/-- Whether the round of messages beside a watch is in order. -/
def Orderly (s : Spool) : Prop :=
  ∀ r, s.round = some r → r.Orderly s.watch

/-- Whether a spool knows the view of an observer: it is the one that the watch knows of, or
the one that the messages under way were made from when they have reached the observer. -/
structure Knows (s : Spool) (observer : String) (seen : Items) : Prop where
  settled : (∀ r, s.round = some r → observer ∉ r.reached) →
    ∀ known, s.watch.monitor.knownTo observer = some known → seen.Alike known
  underway : ∀ r, s.round = some r → observer ∈ r.reached → seen.Alike r.items

section Adopt

variable {w w' : Watch} {round : Option Round} {t : Trace} {ds : List Watch.Deed}
  {change : Watch.Change}

/-- A round goes on beside the watch after a deed that is not about messages. -/
theorem Orderly.congr (h : Orderly ⟨w, round⟩)
    (hinformers : ∀ r, round = some r → r.task ∈ w'.informers) (hnext : w.nextTask ≤ w'.nextTask)
    (hknown : ∀ o, w'.monitor.knownTo o = w.monitor.knownTo o) : Orderly ⟨w', round⟩ := by
  intro r hr
  obtain ⟨wanted, begun, row, left, receipts, reached, arrived⟩ := h r hr
  refine ⟨hinformers r hr, Nat.lt_of_lt_of_le begun hnext, row, fun b hb => ?_, receipts, reached,
    arrived⟩
  obtain ⟨hitems, m, now, hm, hsame, hsummary⟩ := left b hb
  exact ⟨hitems, m, now, hm, fun o => (hsame o).trans (hknown o).symm, hsummary⟩

/-- After an event a new round is begun, or the round goes on, or there is none any more.  A
round that does not go on was abandoned. -/
theorem adopt_cases (h : Watch.Handles w t ds change) (hround : Orderly ⟨w, round⟩) :
    (∃ task now, task ∈ change.1.informers ∧ task < change.1.nextTask ∧
      (adopt round change).round = some
        { task
          items := change.1.monitor.items
          left := Bulletin.prepare change.1.job.observerHosts change.1.monitor now } ∧
      ∀ r, round = some r → .abandoned r ∈ abandonment round change) ∨
    ((adopt round change).round = round ∧ ∀ r, round = some r → r.task ∈ change.1.informers) ∨
    ((adopt round change).round = none ∧
      ∀ r, round = some r → .abandoned r ∈ abandonment round change) := by
  have habandoned : ∀ r, round = some r → r.task ∉ change.1.informers →
      .abandoned r ∈ abandonment round change := by
    intro r hr hgone
    simp [abandonment, hr, Option.filter, hgone]
  rcases h.posts with ⟨hnone, -⟩ | ⟨task, now, hnew, hbelow, honly, hrounds⟩
  · cases hcase : round with
    | none => exact Or.inr (Or.inl ⟨by simp [adopt, hnone], by simp⟩)
    | some r =>
        by_cases hwanted : r.task ∈ change.1.informers
        · refine Or.inr (Or.inl ⟨by simp [adopt, hnone, Option.filter, hwanted], ?_⟩)
          rintro r' ⟨⟩
          exact hwanted
        · refine Or.inr (Or.inr ⟨by simp [adopt, hnone, Option.filter, hwanted], ?_⟩)
          rw [← hcase]
          rintro r' hr'
          refine habandoned r' hr' ?_
          cases hcase.symm.trans hr'
          exact hwanted
  · refine Or.inl ⟨task, now, by simp [honly], hbelow, by simp [adopt, hrounds], fun r hr => ?_⟩
    refine habandoned r hr fun hmem => ?_
    rw [honly, List.mem_singleton] at hmem
    have hbegun := (hround r hr).begun
    have hbegun' : r.task < w.nextTask := hbegun
    omega

/-- Beside the watch that an event leaves, the round of messages is in order. -/
theorem Orderly.adopt (h : Watch.Handles w t ds change) (hround : Orderly ⟨w, round⟩) :
    (adopt round change).Orderly := by
  rcases adopt_cases h hround with ⟨task, now, hwanted, hbegun, hadopt, -⟩ | ⟨hadopt, hkept⟩ |
    ⟨hadopt, -⟩
  · intro r hr
    cases hadopt.symm.trans hr
    refine ⟨hwanted, hbegun, h.steady.sound.row, fun b hb => ?_, (fun _ hx => nomatch hx),
      (fun _ ho => nomatch ho), (fun _ _ harrived => nomatch harrived)⟩
    obtain ⟨observer, -, rfl⟩ := List.mem_map.1 hb
    exact ⟨rfl, change.1.monitor, now, rfl, fun _ => rfl, rfl⟩
  · have hgoes := hround.congr hkept h.moves.nextTask (h.moves.knownTo h.own)
    intro r hr
    exact hgoes r (hadopt.symm.trans hr)
  · intro r hr
    exact nomatch hadopt.symm.trans hr

/-- What a spool knows of an observer it still knows after an event, unless a round is abandoned
that had reached the observer. -/
theorem Knows.adopt (h : Watch.Handles w t ds change) (hround : Orderly ⟨w, round⟩)
    (hknows : Knows ⟨w, round⟩ o seen) (hundisturbed : Undisturbed o (abandonment round change)) :
    (adopt round change).Knows o seen := by
  have hknown := h.moves.knownTo h.own o
  have hold : (∀ r, round = some r → .abandoned r ∈ abandonment round change) →
      ∀ known, change.1.monitor.knownTo o = some known → seen.Alike known := by
    intro hall known hk
    rw [hknown] at hk
    exact hknows.settled (fun r hr => hundisturbed r (hall r hr)) known hk
  rcases adopt_cases h hround with ⟨task, now, -, -, hadopt, hall⟩ | ⟨hadopt, -⟩ | ⟨hadopt, hall⟩
  · refine ⟨fun _ => hold hall, fun r hr hreached => ?_⟩
    cases hadopt.symm.trans hr
    exact nomatch hreached
  · refine ⟨fun hnot known hk => ?_, fun r hr => hknows.underway r (hadopt.symm.trans hr)⟩
    have hk' : w.monitor.knownTo o = some known := hknown.symm.trans hk
    exact hknows.settled (fun r hr => hnot r (hadopt.trans hr)) known hk'
  · exact ⟨fun _ => hold hall, fun r hr => nomatch hadopt.symm.trans hr⟩

end Adopt

/-! ## Steps -/

/-- An observer that has accepted a message has answered it. -/
theorem exists_isAnswer_of_run_deliver {b : Bulletin} {t : Trace}
    (h : Run (Bulletin.deliver ctx b) t true) : ∃ x ∈ t, x.isAnswer = true := by
  simp only [Bulletin.deliver] at h
  split at h
  · exact nomatch (Run.done_iff.1 h).2
  · obtain ⟨u, answered, v, rfl, hexchange, hend⟩ := Run.bind_iff.1 h
    cases answered with
    | error fault => exact nomatch (Run.done_iff.1 hend).2
    | ok answer =>
        obtain ⟨t, opened, v, rfl, -, hasking⟩ := Run.bind_iff.1 hexchange
        cases opened with
        | error fault => exact nomatch (Run.done_iff.1 hasking).2
        | ok session =>
            obtain ⟨reply, u, rfl, hclosing⟩ := Run.ask_iff.1 hasking
            obtain ⟨-, u, rfl, hdone⟩ := Run.ask_iff.1 hclosing
            obtain ⟨rfl, rfl⟩ := Run.done_iff.1 hdone
            exact ⟨_, List.mem_append_left _ (List.mem_append_right _ List.mem_cons_self), rfl⟩

section Rounds

variable {w w' : Watch} {round : Option Round} {r : Round} {b : Bulletin} {rest : List Bulletin}

/-- The result of a dispatch is of no concern to a round of messages. -/
theorem Orderly.settle {item : Item} {result : Dispatch.Result} {now : Moment}
    (hround : Orderly ⟨w, round⟩) (h : Watch.Does w (.settled item result now) w') :
    Orderly ⟨w', round⟩ := by
  have hknown := h.knownTo fun _ heq => nomatch heq
  cases h with
  | settle mem path =>
      exact hround.congr (fun r hr => (hround r hr).wanted) (Nat.le_refl _) hknown

/-- A result does not change what a watch knows of its observers. -/
theorem Knows.settle {item : Item} {result : Dispatch.Result} {now : Moment}
    (hknows : Knows ⟨w, round⟩ o seen) (h : Watch.Does w (.settled item result now) w') :
    Knows ⟨w', round⟩ o seen := by
  have hknown := h.knownTo (fun _ heq => nomatch heq) o
  refine ⟨fun hnot known hk => ?_, hknows.underway⟩
  exact hknows.settled hnot known (hknown.symm.trans hk)

/-- When a round has ended, what became of it is all that it told. -/
theorem Knows.note (hround : Orderly ⟨w, some r⟩) (hknows : Knows ⟨w, some r⟩ o seen)
    (hover : r.left = []) (h : Watch.Does w (.noted r.receipts) w') :
    Knows ⟨w', none⟩ o seen := by
  obtain ⟨-, -, -, -, receipts, reached, -⟩ := hround r rfl
  refine ⟨fun _ known hk => ?_, fun _ hr => nomatch hr⟩
  cases h with
  | note =>
      rcases Bulletin.knownTo_apply hk with ⟨x, hx, rfl, hdelivered, rfl⟩ | ⟨hothers, hknown⟩
      · obtain ⟨hitems, hreached⟩ := receipts x hx
        rw [hitems]
        exact hknows.underway r rfl (hreached hdelivered)
      · refine hknows.settled (fun r' hr' ho => ?_) known hknown
        cases hr'
        rcases reached o ho with ⟨x, hx, hxo⟩ | ⟨-, b, rest, hleft, -⟩
        · exact hothers x hx hxo
        · exact nomatch hover.symm.trans hleft

theorem Orderly.arrive (hround : Orderly ⟨w, some r⟩) (hleft : r.left = b :: rest)
    (hfresh : r.arrived = false) : Orderly ⟨w, some (r.arrive b)⟩ := by
  rintro r' ⟨⟩
  obtain ⟨wanted, begun, row, left, receipts, reached, -⟩ := hround r rfl
  refine ⟨wanted, begun, row, left, fun x hx => ?_, fun o ho => ?_, fun b' rest' _ hleft' => ?_⟩
  · exact ⟨(receipts x hx).1, fun hd => List.mem_cons_of_mem _ ((receipts x hx).2 hd)⟩
  · rcases List.mem_cons.1 ho with rfl | ho
    · exact Or.inr ⟨rfl, b, rest, hleft, rfl⟩
    · refine Or.inl ((reached o ho).resolve_right fun harrived => ?_)
      exact nomatch hfresh.symm.trans harrived.1
  · cases hleft.symm.trans hleft'
    exact List.mem_cons_self

/-- When a message has reached its observer, the view of it is one of the items that the
message was made from. -/
theorem alike_of_arrive (hround : Orderly ⟨w, some r⟩)
    (hknows : Knows ⟨w, some r⟩ b.observer seen) (hleft : r.left = b :: rest) :
    (b.summary.applyTo seen).Alike r.items := by
  obtain ⟨-, -, row, left, -, -, -⟩ := hround r rfl
  obtain ⟨-, m, now, hm, hsame, hsummary⟩ := left b (by simp [hleft])
  rw [hsummary, ← hm]
  refine Monitor.entryAt_applyTo_summaryFor (by rw [hm]; exact row) now fun known hk => ?_
  by_cases ho : b.observer ∈ r.reached
  · rw [hm]
    exact Or.inr (hknows.underway r rfl ho)
  · refine Or.inl (hknows.settled ?_ known ((hsame b.observer).symm.trans hk))
    rintro r' ⟨⟩
    exact ho

/-- A message that arrives changes the view as the watch will expect. -/
theorem Knows.arrive (hround : Orderly ⟨w, some r⟩) (hknows : Knows ⟨w, some r⟩ o seen)
    (hleft : r.left = b :: rest) :
    Knows ⟨w, some (r.arrive b)⟩ o (viewOf seen o [.arrived b]) := by
  have hview : viewOf seen o [.arrived b] =
      if b.observer = o then b.summary.applyTo seen else seen := rfl
  rw [hview]
  by_cases hobserver : b.observer = o
  · subst hobserver
    rw [if_pos rfl]
    refine ⟨fun hnot => absurd List.mem_cons_self (hnot _ rfl), ?_⟩
    intro r' hr' _
    cases hr'
    have halike := alike_of_arrive hround hknows hleft
    exact halike
  · rw [if_neg hobserver]
    refine ⟨fun hnot => hknows.settled ?_, ?_⟩
    · rintro r' ⟨⟩ ho
      exact hnot _ rfl (List.mem_cons_of_mem _ ho)
    · rintro r' ⟨⟩ ho
      rcases List.mem_cons.1 ho with heq | ho
      · exact absurd heq.symm hobserver
      · exact hknows.underway r rfl ho

/-- A round stays in order when a message is answered. -/
theorem Orderly.answer {accepted : Bool} (hround : Orderly ⟨w, some r⟩)
    (hleft : r.left = b :: rest) (hheard : accepted = true → r.arrived = true) :
    Orderly ⟨w, some (r.answer b rest accepted)⟩ := by
  rintro r' ⟨⟩
  obtain ⟨wanted, begun, row, left, receipts, reached, arrived⟩ := hround r rfl
  refine ⟨wanted, begun, row, fun b' hb' => ?_, fun x hx => ?_, fun o ho => Or.inl ?_,
    fun _ _ harrived => nomatch harrived⟩
  · refine left b' ?_
    rw [hleft]
    exact List.mem_cons_of_mem b hb'
  · rcases List.mem_append.1 hx with hx | hx
    · exact receipts x hx
    · rw [List.mem_singleton.1 hx]
      exact ⟨(left b (by simp [hleft])).1, fun haccepted => arrived b rest (hheard haccepted) hleft⟩
  · rcases reached o ho with ⟨x, hx, hxo⟩ | ⟨-, b', rest', hleft', rfl⟩
    · exact ⟨x, List.mem_append_left _ hx, hxo⟩
    · cases hleft.symm.trans hleft'
      exact ⟨_, List.mem_append_right _ (List.mem_singleton.2 rfl), rfl⟩

end Rounds

/-- A step leaves the round of messages in order. -/
theorem Step.orderly (h : Step ctx s happened s') (hs : s.Orderly) : s'.Orderly := by
  cases h with
  | event plain run handles => exact Orderly.adopt handles hs
  | dispatched mem dispatch run settles handles => exact Orderly.adopt handles (hs.settle settles)
  | informed dealt run notes handles => exact Orderly.adopt handles fun _ hr => nomatch hr
  | arrive left fresh => exact hs.arrive left fresh
  | answer left run heard =>
      refine hs.answer left fun haccepted => ?_
      subst haccepted
      obtain ⟨x, hx, hanswer⟩ := exists_isAnswer_of_run_deliver run
      exact heard x hx hanswer

/-- What a spool knows of an observer it still knows after a step, unless a round is abandoned
that had reached the observer. -/
theorem Step.knows (h : Step ctx s happened s') (hs : s.Orderly) (hknows : s.Knows o seen)
    (hundisturbed : Undisturbed o happened) : s'.Knows o (viewOf seen o happened) := by
  cases h with
  | event plain run handles =>
      rw [viewOf_append, viewOf_map_deed, viewOf_abandonment]
      exact hknows.adopt handles hs (undisturbed_append.1 hundisturbed).2
  | @dispatched w w₁ round task item result moment now u t change ds mem dispatch run settles
      handles =>
      rw [viewOf_append, viewOf_abandonment]
      have hview : viewOf seen o (.deed (.settled item result moment) :: ds.map .deed) = seen :=
        viewOf_map_deed seen o ds
      rw [hview]
      exact (hknows.settle settles).adopt handles (hs.settle settles)
        (undisturbed_append.1 hundisturbed).2
  | @informed w w₁ r now t change ds dealt run notes handles =>
      have hview : viewOf seen o (.deed (.noted r.receipts) :: ds.map .deed) = seen :=
        viewOf_map_deed seen o ds
      rw [hview]
      exact (hknows.note hs dealt notes).adopt handles (fun _ hr => nomatch hr)
        fun _ hr => nomatch hr
  | arrive left fresh => exact hknows.arrive hs left
  | answer left run heard =>
      refine ⟨fun hnot => hknows.settled ?_, ?_⟩
      · intro r' hr'
        cases hr'
        have hanswered := hnot _ rfl
        exact hanswered
      · intro r' hr'
        cases hr'
        have hunderway := hknows.underway _ rfl
        exact hunderway

/-- When a message reaches its observer, the view of it becomes one of the items that the
message was made from. -/
theorem Step.alike_of_arrived {b : Bulletin} (h : Step ctx s happened s') (hs : s.Orderly)
    (hknows : s.Knows b.observer seen) (harrived : .arrived b ∈ happened) :
    (viewOf seen b.observer happened).Alike b.items := by
  cases h with
  | @arrive w r b' rest left fresh =>
      cases List.mem_singleton.1 harrived
      have hview : viewOf seen b.observer [.arrived b] = b.summary.applyTo seen := if_pos rfl
      rw [hview, ((hs r rfl).left b (by simp [left])).1]
      exact alike_of_arrive hs hknows left
  | _ => simp [abandonment] at harrived

/-- When an observer has accepted a message, its view is one of the items that the message was
made from. -/
theorem Step.alike_of_accepted {b : Bulletin} (h : Step ctx s happened s') (hs : s.Orderly)
    (hknows : s.Knows b.observer seen) (haccepted : .answered b true ∈ happened) :
    (viewOf seen b.observer happened).Alike b.items := by
  cases h with
  | @answer w r b' rest u accepted left run heard =>
      cases List.mem_singleton.1 haccepted
      obtain ⟨x, hx, hanswer⟩ := exists_isAnswer_of_run_deliver run
      have hround := hs r rfl
      rw [(hround.left b (by simp [left])).1]
      exact hknows.underway r rfl (hround.arrived b rest (heard x hx hanswer) left)
  | _ => simp [abandonment] at haccepted

/-- A round that the watch has use for still is not abandoned. -/
theorem abandonment_eq_nil {w : Watch} {round : Option Round} {change : Watch.Change}
    (hround : Orderly ⟨w, round⟩) (hkept : ∀ task ∈ w.informers, task ∈ change.1.informers) :
    abandonment round change = [] := by
  cases hr : round with
  | none => rfl
  | some r =>
      have hwanted := hkept r.task (hround r hr).wanted
      simp [abandonment, Option.filter, hwanted]

/-- No round is abandoned in a step before the watch leaves. -/
theorem Step.undisturbed (h : Step ctx s happened s') (hs : s.Orderly)
    (hstays : s'.watch.phase.hasLeft = false) :
    s.watch.phase.hasLeft = false ∧ Undisturbed o happened := by
  have hgoes : ∀ {w : Watch} {round : Option Round} {change : Watch.Change}
      (ds : List Watch.Deed), Orderly ⟨w, round⟩ → Watch.GoesOn w change.1 →
      change.1.phase.hasLeft = false →
      w.phase.hasLeft = false ∧ Undisturbed o (ds.map .deed ++ abandonment round change) := by
    intro w round change ds hround hgoes hstays
    obtain ⟨hleft, hkept⟩ := hgoes.resolve_left fun hleft => nomatch hleft.symm.trans hstays
    rw [abandonment_eq_nil hround hkept, List.append_nil]
    exact ⟨hleft, undisturbed_map_deed ds⟩
  cases h with
  | @event w round e now t change ds plain run handles =>
      refine hgoes ds hs (Watch.goesOn_of_run_handle (fun _ _ heq => ?_) run) hstays
      rw [heq] at plain
      exact nomatch plain
  | @dispatched w w₁ round task item result moment now u t change ds mem dispatch run settles
      handles =>
      have hgoes' := Watch.goesOn_of_run_handle (e := .dispatched task result)
        (fun _ _ heq => nomatch heq) run
      exact hgoes (.settled item result moment :: ds) hs hgoes' hstays
  | @informed w w₁ r now t change ds dealt run notes handles =>
      refine ⟨?_, undisturbed_map_deed (.noted r.receipts :: ds)⟩
      cases hleft : w.phase.hasLeft with
      | false => rfl
      | true => exact nomatch (Watch.hasLeft_of_run_informed run hleft).symm.trans hstays
  | arrive left fresh => exact ⟨hstays, by simp [Undisturbed]⟩
  | answer left run heard => exact ⟨hstays, by simp [Undisturbed]⟩

/-! ## Lives -/

/-- So it does over a whole life. -/
theorem Life.orderly (life : Life ctx first log s) (hfirst : first.Orderly) : s.Orderly := by
  induction life with
  | start => exact hfirst
  | step life step ih => exact step.orderly ih

/-- What a spool knows of an observer it knows at any moment, unless a round was abandoned that
had reached the observer. -/
theorem Life.knows (life : Life ctx first log s) (hfirst : first.Orderly)
    (hknows : first.Knows o initial) (hundisturbed : Undisturbed o log) :
    s.Knows o (viewOf initial o log) := by
  induction life with
  | start => exact hknows
  | step life step ih =>
      obtain ⟨hbefore, hnow⟩ := undisturbed_append.1 hundisturbed
      rw [viewOf_append]
      exact step.knows (life.orderly hfirst) (ih hbefore) hnow

/-- No round is abandoned before the watch leaves. -/
theorem Life.undisturbed (life : Life ctx first log s) (hfirst : first.Orderly)
    (hstays : s.watch.phase.hasLeft = false) : Undisturbed o log := by
  induction life with
  | start => exact fun _ hr => nomatch hr
  | step life step ih =>
      obtain ⟨hstayed, hnow⟩ := step.undisturbed (life.orderly hfirst) hstays
      exact undisturbed_append.2 ⟨ih hstayed, hnow⟩

section Begins

variable {job : Job} {change : Watch.Change} {b : Bulletin}

theorem orderly_none (w : Watch) : Orderly ⟨w, none⟩ :=
  fun _ hr => nomatch hr

/-- At first nothing is known of any observer, so that any view will do. -/
theorem knows_of_begins (hbegins : Watch.Begins job change) :
    Knows ⟨change.1, none⟩ o initial := by
  refine ⟨fun _ known hk => ?_, fun _ hr => nomatch hr⟩
  simp [Monitor.knownTo, hbegins.delivered, hbegins.forcedFull] at hk

/-- When a message has reached its observer, the view of it says what the items said that the
message was made from, unless a round was abandoned before that had reached the observer. -/
theorem view_of_arrived (hbegins : Watch.Begins job change)
    (life : Life ctx ⟨change.1, none⟩ log s) (step : Step ctx s happened s')
    (harrived : .arrived b ∈ happened) (hundisturbed : Undisturbed b.observer log) :
    (viewOf initial b.observer (log ++ happened)).Alike b.items := by
  have hfirst := orderly_none change.1
  rw [viewOf_append]
  exact step.alike_of_arrived (life.orderly hfirst)
    (life.knows hfirst (knows_of_begins hbegins) hundisturbed) harrived

/-- Before the watch leaves, the view of an observer that has accepted a message says what the
items said that the message was made from. -/
theorem view_of_accepted_of_not_hasLeft (hbegins : Watch.Begins job change)
    (life : Life ctx ⟨change.1, none⟩ log s) (step : Step ctx s happened s')
    (haccepted : .answered b true ∈ happened) (hstays : s.watch.phase.hasLeft = false) :
    (viewOf initial b.observer (log ++ happened)).Alike b.items := by
  have hfirst := orderly_none change.1
  rw [viewOf_append]
  exact step.alike_of_accepted (life.orderly hfirst)
    (life.knows hfirst (knows_of_begins hbegins) (life.undisturbed hfirst hstays)) haccepted

/-- When an observer has accepted a message, its view says what the items said that the message
was made from, unless a round was abandoned before that had reached the observer. -/
theorem view_of_accepted (hbegins : Watch.Begins job change)
    (life : Life ctx ⟨change.1, none⟩ log s) (step : Step ctx s happened s')
    (haccepted : .answered b true ∈ happened) (hundisturbed : Undisturbed b.observer log) :
    (viewOf initial b.observer (log ++ happened)).Alike b.items := by
  have hfirst := orderly_none change.1
  rw [viewOf_append]
  exact step.alike_of_accepted (life.orderly hfirst)
    (life.knows hfirst (knows_of_begins hbegins) hundisturbed) haccepted

end Begins

/-! ### A sample -/

/-- One observer is known. -/
def sampleContext : Context where
  hosts := { plainId := "here", secureId := "here", hosts := [("hostb", { hostId := "hostb" })] }
  rules := {}
  policy := .standard

/-- A watch that informs this observer. -/
def sampleWatch : Watch :=
  { Watch.sampleWatch with job := { Watch.sampleJob with observerHosts := ["hostb"] } }

/-- The watch when its first round of messages has begun. -/
def sampleInforming : Watch :=
  { sampleWatch with
    nextInform := Watch.nextTime 0 sampleWatch.job.elapseObserverMs 0
    nextTask := 1
    informer := some 0 }

/-- The message of this round. -/
def sampleBulletin : Bulletin :=
  ⟨"hostb", sampleWatch.monitor.summaryFor "hostb" default, sampleWatch.monitor.items⟩

def sampleRound : Round where
  task := 0
  items := sampleWatch.monitor.items
  left := [sampleBulletin]

/-- An observer that accepts the first message has the items of the watch in its view. -/
theorem view_of_accepted_sample :
    ∃ log s happened s', Life sampleContext ⟨sampleWatch, none⟩ log s ∧
      Step sampleContext s happened s' ∧ .answered sampleBulletin true ∈ happened ∧
      (viewOf [] "hostb" (log ++ happened)).Alike sampleWatch.monitor.items := by
  have hidle : sampleWatch.Idle := ⟨rfl, rfl⟩
  have hsound : sampleWatch.Sound :=
    ⟨rfl, Watch.sound_sampleWatch.row, Watch.sound_sampleWatch.numbers,
      Watch.sound_sampleWatch.below⟩
  have hsteady : sampleWatch.Steady :=
    ⟨hsound, fun _ => rfl, fun _ _ => hidle, fun hsome => absurd hsome (by decide)⟩
  have hbegins : Watch.Begins sampleWatch.job (sampleWatch, []) :=
    ⟨rfl, hsteady, rfl, rfl, rfl, rfl, rfl, rfl⟩
  -- the watch begins a round, the message reaches the observer, and the observer accepts it
  have hinform : Run (sampleWatch.handle 0 .informTime) [⟨.now, default⟩]
      (sampleInforming, [(0, .inform [sampleBulletin])]) := .step (.done _)
  obtain ⟨ds, hhandles⟩ := Watch.handles_of_run_handle (e := .informTime) hsteady
    (fun _ _ heq => nomatch heq) (fun _ _ heq => nomatch heq) hinform
  have hbegun : Life sampleContext ⟨sampleWatch, none⟩ ([] ++ (ds.map .deed ++ []))
      ⟨sampleInforming, some sampleRound⟩ :=
    Life.start.step (.event (e := .informTime) rfl hinform hhandles)
  have harrived := hbegun.step (.arrive rfl rfl)
  have hdelivered : Run (Bulletin.deliver sampleContext sampleBulletin) [
      ⟨.connect ⟨{ hostId := "hostb" }, none, .none⟩, .connected ⟨0⟩⟩,
      ⟨.ask ⟨0⟩ (.business ⟨Bulletin.task, sampleBulletin.summary.toJson.compact⟩)
        sampleContext.policy.requestTimeout, .ok { code := .completeOk }⟩,
      ⟨.close ⟨0⟩, ()⟩] true := .step (.step (.step (.done _)))
  have haccepted : Step sampleContext ⟨sampleInforming, some (sampleRound.arrive sampleBulletin)⟩
      [.answered sampleBulletin true] _ := .answer rfl hdelivered fun _ _ _ => rfl
  have hundisturbed : Undisturbed "hostb"
      ([] ++ (ds.map .deed ++ []) ++ [.arrived sampleBulletin]) := by
    simp [Undisturbed]
  exact ⟨_, _, _, _, harrived, haccepted, List.mem_singleton_self _,
    view_of_accepted hbegins harrived haccepted (List.mem_singleton_self _) hundisturbed⟩

end Spool

end Courier
