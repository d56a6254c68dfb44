import Courier.Proofs.Delivery.Requests
import Courier.Proofs.Spool.Deeds

/-!
# What a spool counts

A spool counts the results of its dispatches, overall and for the current day, and every host
that a file went to, or did not.  A day begins anew when a result comes on another date than the
one before.

Main definitions:

- `Counters.countAll` counts results, each with its date.
- `Counters.HasRoom` says that some more results can be counted.
- `Counters.LastStretch` says which results the counts of the day are made of.
- `Trace.tallies` are the hosts that were counted along a trace.

Main statements:

- The overall counts grow by the results (`globalOk_countAll`, `globalError_countAll`), and the
  counts of the day are those of the last results with the same date (`lastStretch_countAll`), as
  long as no count outgrows its width (`HasRoom`).
- A dispatch counts every host once, and it went well when all of them did
  (`tallies_of_run_dispatch`).
- The counters of a watch are told by the results that it noted (`Moves.counters`).
-/

namespace Courier

open Program Calendar

/-! ## Counters -/

namespace Counters

/-- The counters after some results, each with its date. -/
def countAll (c : Counters) (rs : List (Bool × Date)) : Counters :=
  rs.foldl (fun c r => c.count r.1 r.2) c

/-- Which results the counts of the day are made of: the last ones, as far back as the date is
the same.  When these are all results, what was counted for this date before is added. -/
structure LastStretch (loaded : Counters) (rs before stretch : List (Bool × Date))
    (c : Counters) : Prop where
  split : rs = before ++ stretch
  last : rs ≠ [] → stretch ≠ []
  same : ∀ r ∈ stretch, r.2 = c.today
  unbroken : ∀ r, before.getLast? = some r → r.2 ≠ c.today
  begun : rs = [] → c.today = loaded.today
  todayOk : c.todayOk =
    (if before = [] ∧ loaded.today = c.today then loaded.todayOk else 0) + stretch.countP (·.1)
  todayError : c.todayError =
    (if before = [] ∧ loaded.today = c.today then loaded.todayError else 0) +
      stretch.countP (!·.1)

variable {loaded c : Counters} {rs before stretch : List (Bool × Date)}

/-- Whether some more results can be counted before any count outgrows its width. -/
structure HasRoom (c : Counters) (n : Nat) : Prop where
  globalOk : c.globalOk + n < Json.wordValues 64
  globalError : c.globalError + n < Json.wordValues 64
  todayOk : c.todayOk + n < Json.wordValues 64
  todayError : c.todayError + n < Json.wordValues 64

/-- The next number is one more, unless there is none of its width. -/
theorem next_eq {n : Nat} (h : n + 1 < Json.wordValues 64) : next n = n + 1 :=
  Nat.mod_eq_of_lt h

/-- The day that counters count for is that of the last result. -/
@[simp] theorem today_count (c : Counters) (success : Bool) (date : Date) :
    (c.count success date).today = date := by
  cases success <;> by_cases h : c.today = date <;> simp [count, onDay, h]

section Count

variable {c : Counters} {n : Nat} (h : c.HasRoom (n + 1)) (success : Bool) (date : Date)

include h

/-- A success is counted, where there is room. -/
theorem HasRoom.globalOk_count :
    (c.count success date).globalOk = c.globalOk + if success then 1 else 0 := by
  have hnext : next c.globalOk = c.globalOk + 1 := next_eq (by have := h.globalOk; omega)
  cases success <;> by_cases hday : c.today = date <;> simp [count, onDay, hday, hnext]

/-- So is a failure. -/
theorem HasRoom.globalError_count :
    (c.count success date).globalError = c.globalError + if success then 0 else 1 := by
  have hnext : next c.globalError = c.globalError + 1 := next_eq (by have := h.globalError; omega)
  cases success <;> by_cases hday : c.today = date <;> simp [count, onDay, hday, hnext]

/-- The count of a day begins anew with the first result of another day. -/
theorem HasRoom.todayOk_count : (c.count success date).todayOk =
    (if c.today = date then c.todayOk else 0) + if success then 1 else 0 := by
  have hnext : next c.todayOk = c.todayOk + 1 := next_eq (by have := h.todayOk; omega)
  have hfirst : next 0 = 1 := rfl
  cases success <;> by_cases hday : c.today = date <;> simp [count, onDay, hday, hnext, hfirst]

theorem HasRoom.todayError_count : (c.count success date).todayError =
    (if c.today = date then c.todayError else 0) + if success then 0 else 1 := by
  have hnext : next c.todayError = c.todayError + 1 := next_eq (by have := h.todayError; omega)
  have hfirst : next 0 = 1 := rfl
  cases success <;> by_cases hday : c.today = date <;> simp [count, onDay, hday, hnext, hfirst]

/-- A result takes the room of one. -/
theorem HasRoom.count : (c.count success date).HasRoom n := by
  have hroom := h
  obtain ⟨hok, herror, htodayOk, htodayError⟩ := hroom
  constructor
  · rw [h.globalOk_count]
    split <;> omega
  · rw [h.globalError_count]
    split <;> omega
  · rw [h.todayOk_count]
    split <;> split <;> omega
  · rw [h.todayError_count]
    split <;> split <;> omega

end Count

/-- The count of the files that went to all hosts grows by the results that went well. -/
theorem globalOk_countAll {c : Counters} {rs : List (Bool × Date)} (h : c.HasRoom rs.length) :
    (c.countAll rs).globalOk = c.globalOk + rs.countP (·.1) := by
  induction rs generalizing c with
  | nil => rfl
  | cons r rest ih =>
      refine (ih (h.count r.1 r.2)).trans ?_
      rw [h.globalOk_count, List.countP_cons]
      omega

/-- The count of the others grows by the results that did not. -/
theorem globalError_countAll {c : Counters} {rs : List (Bool × Date)} (h : c.HasRoom rs.length) :
    (c.countAll rs).globalError = c.globalError + rs.countP (!·.1) := by
  induction rs generalizing c with
  | nil => rfl
  | cons r rest ih =>
      refine (ih (h.count r.1 r.2)).trans ?_
      rw [h.globalError_count, List.countP_cons]
      cases r.1 with
      | false =>
          simp only [Bool.false_eq_true, Bool.not_false, if_false, if_true]
          omega
      | true => simp

theorem lastStretch_nil (loaded : Counters) : LastStretch loaded [] [] [] loaded :=
  ⟨rfl, fun h => absurd rfl h, by simp, by simp, fun _ => rfl, by simp, by simp⟩

/-- A result on the same date lengthens the stretch, and one on another date begins a new one. -/
theorem LastStretch.count {n : Nat} (h : LastStretch loaded rs before stretch c)
    (hroom : c.HasRoom (n + 1)) (r : Bool × Date) :
    ∃ before' stretch', LastStretch loaded (rs ++ [r]) before' stretch' (c.count r.1 r.2) := by
  by_cases hsame : c.today = r.2
  · refine ⟨before, stretch ++ [r], ?_, by simp, ?_, ?_, by simp, ?_, ?_⟩
    · rw [h.split, List.append_assoc]
    · intro x hx
      rw [today_count, ← hsame]
      rcases List.mem_append.1 hx with hx | hx
      · exact h.same x hx
      · rw [List.mem_singleton.1 hx, hsame]
    · intro x hx
      rw [today_count, ← hsame]
      exact h.unbroken x hx
    · rw [hroom.todayOk_count, today_count, if_pos hsame, h.todayOk, hsame, List.countP_append,
        List.countP_singleton, Nat.add_assoc]
    · rw [hroom.todayError_count, today_count, if_pos hsame, h.todayError, hsame, List.countP_append,
        List.countP_singleton, Nat.add_assoc]
      cases r.1 <;> rfl
  · have hnew : ¬(rs = [] ∧ loaded.today = r.2) := by
      rintro ⟨hnil, htoday⟩
      exact hsame ((h.begun hnil).trans htoday)
    refine ⟨rs, [r], rfl, by simp, by simp, ?_, by simp, ?_, ?_⟩
    · intro x hx
      have hne : stretch ≠ [] := h.last (by rintro rfl; simp at hx)
      rw [h.split, List.getLast?_append, List.getLast?_eq_some_getLast hne, Option.some_or] at hx
      have hmem : x ∈ stretch := List.mem_of_getLast? ((List.getLast?_eq_some_getLast hne).trans hx)
      rw [today_count, h.same x hmem]
      exact hsame
    · rw [hroom.todayOk_count, today_count, if_neg hsame, if_neg hnew, List.countP_singleton]
    · rw [hroom.todayError_count, today_count, if_neg hsame, if_neg hnew, List.countP_singleton]
      cases r.1 <;> rfl

/-- The counts of the day are those of the last results with the same date. -/
theorem lastStretch_countAll {loaded : Counters} {rs : List (Bool × Date)}
    (hroom : loaded.HasRoom rs.length) :
    ∃ before stretch, LastStretch loaded rs before stretch (loaded.countAll rs) := by
  have hall : ∀ (rest done before stretch : List (Bool × Date)) (c : Counters),
      c.HasRoom rest.length → LastStretch loaded done before stretch c →
        ∃ before stretch, LastStretch loaded (done ++ rest) before stretch (c.countAll rest) := by
    intro rest
    induction rest with
    | nil =>
        intro done before stretch c _ h
        rw [List.append_nil]
        exact ⟨before, stretch, h⟩
    | cons r rest ih =>
        intro done before stretch c hroom h
        obtain ⟨before', stretch', hnext⟩ := h.count hroom r
        have hrest := ih _ _ _ _ (hroom.count r.1 r.2) hnext
        rwa [List.append_assoc, List.singleton_append] at hrest
  exact hall rs [] [] [] loaded hroom (lastStretch_nil loaded)

end Counters

/-! ## Hosts -/

/-- The host that an exchange counted, by whether a file went to it. -/
def Exchange.tally? : Exchange → Option Bool
  | ⟨.tally success, _⟩ => some success
  | _ => none

/-- The hosts that were counted along a trace. -/
def Trace.tallies (t : Trace) : List Bool :=
  t.filterMap Exchange.tally?

@[simp] theorem Trace.tallies_append (t u : Trace) : tallies (t ++ u) = t.tallies ++ u.tallies :=
  List.filterMap_append

/-- Whether a request counts no host. -/
def Request.countsNone : Request → Bool
  | tally _ => false
  | _ => true

theorem Delivery.serves_countsNone : Serves fun r => r.countsNone = true :=
  ⟨⟨rfl, fun _ => rfl, fun _ => rfl⟩, fun _ => ⟨rfl, fun _ _ => rfl, rfl, fun _ => rfl⟩,
    fun _ _ _ _ => ⟨fun _ _ _ => rfl, rfl, fun _ => rfl, fun _ _ => rfl, fun _ => rfl⟩,
    fun _ => ⟨rfl, rfl, fun _ => rfl, fun _ _ _ => rfl, fun _ => rfl⟩⟩

/-- A program that only asks for other things counts nothing. -/
theorem Program.Run.tallies_of_asks {α : Type} {p : Program α} {t : Trace} {a : α}
    (h : Run p t a) (hp : Asks (fun r => r.countsNone = true) p) : t.tallies = [] := by
  refine List.filterMap_eq_nil_iff.2 fun x hx => ?_
  have hnone := h.request_of_mem hp x hx
  rcases x with ⟨r, answer⟩
  cases r with
  | tally success => cases hnone
  | _ => rfl

namespace Dispatch

variable {ctx : Context} {job : Job} {host file : String} {t : Trace} {outcome : Outcome}

theorem tallies_of_run_carryOut {fixedId : Option Int} {act : Context → Order → Program Outcome}
    (hact : ∀ order, Asks (fun r => r.countsNone = true) (act ctx order))
    (h : Run (carryOut ctx job host file fixedId act) t outcome) : t.tallies = [] := by
  unfold carryOut at h
  split at h
  · obtain ⟨rfl, -⟩ := Run.done_iff.1 h
    rfl
  · exact h.tallies_of_asks (hact _)

theorem tallies_of_run_runFresh (h : Run (runFresh ctx job host file) t outcome) :
    t.tallies = [] :=
  tallies_of_run_carryOut (fun _ => Delivery.asks_carryOut Delivery.serves_countsNone _ _ _ _) h

theorem tallies_of_run_submit {knownId : Option Int}
    (h : Run (submit ctx job host file knownId) t outcome) : t.tallies = [] := by
  have hfiled : ∀ {fixedId u outcome},
      Run (carryOut ctx job host file fixedId Delivery.submit) u outcome → u.tallies = [] :=
    tallies_of_run_carryOut fun _ => Delivery.asks_submit Delivery.serves_countsNone.allows _ _
  unfold submit at h
  split at h
  · exact hfiled h
  · obtain ⟨u, first, v, rfl, hfirst, hrest⟩ := Run.bind_iff.1 h
    rw [Trace.tallies_append, hfiled hfirst, List.nil_append]
    split at hrest
    · exact hfiled hrest
    · obtain ⟨rfl, -⟩ := Run.done_iff.1 hrest
      rfl

/-- To send a file again counts nothing by itself. -/
theorem tallies_of_run_resubmit {specialId : Int}
    (h : Run (resubmit ctx job host file specialId) t outcome) : t.tallies = [] := by
  unfold resubmit at h
  split at h
  · exact tallies_of_run_runFresh h
  · obtain ⟨u, restarted, v, rfl, hrestart, hrest⟩ := Run.bind_iff.1 h
    rw [Trace.tallies_append, hrestart.tallies_of_asks
      (Intervention.asks_restart Delivery.serves_countsNone.reuses _ _ _ _ _), List.nil_append]
    split at hrest
    · obtain ⟨rfl, -⟩ := Run.done_iff.1 hrest
      rfl
    · obtain ⟨u', cancelled, v', rfl, hcancel, hfresh⟩ := Run.bind_iff.1 hrest
      rw [Trace.tallies_append, hcancel.tallies_of_asks
        (Intervention.asks_interrupt Delivery.serves_countsNone.reuses _ _ _ _ _), List.nil_append]
      exact tallies_of_run_runFresh hfresh

/-- What sends a file to a host leaves the counting to its caller. -/
theorem tallies_of_run_sendTo {knownId : Option Int}
    (h : Run (sendTo ctx job file knownId host) t outcome) : t.tallies = [] := by
  unfold sendTo at h
  split at h
  · exact tallies_of_run_submit h
  · split at h
    · exact tallies_of_run_resubmit h
    · exact tallies_of_run_runFresh h

/-- A dispatch counts every host once, and it went well when all of them did. -/
theorem tallies_of_run_dispatch {item : Item} {result : Result}
    (h : Run (run ctx job item) t result) :
    t.tallies.length = job.hosts.length ∧ (result.success = true ↔ ∀ b ∈ t.tallies, b = true) := by
  have hall : ∀ (hosts : List String) (knownId : Option Int) (before : Result) (t : Trace),
      Run (sendToAll ctx job item.path.text knownId hosts before) t result →
        t.tallies.length = hosts.length ∧
          (result.success = true ↔ before.success = true ∧ ∀ b ∈ t.tallies, b = true) := by
    intro hosts
    induction hosts with
    | nil =>
        intro knownId before t hrun
        obtain ⟨rfl, rfl⟩ := Run.done_iff.1 hrun
        exact ⟨rfl, by simp [Trace.tallies]⟩
    | cons host rest ih =>
        intro knownId before t hrun
        obtain ⟨u, outcome, v, rfl, hsend, hcounted⟩ := Run.bind_iff.1 hrun
        obtain ⟨_, v, rfl, hothers⟩ := Run.ask_iff.1 hcounted
        obtain ⟨hlength, hsuccess⟩ := ih _ _ _ hothers
        have htallies : Trace.tallies (u ++ ⟨.tally outcome.success, ()⟩ :: v) =
            outcome.success :: Trace.tallies v := by
          rw [Trace.tallies_append, tallies_of_run_sendTo hsend]
          rfl
        rw [htallies, List.forall_mem_cons, hsuccess]
        exact ⟨congrArg Nat.succ hlength, by simp [and_assoc]⟩
  have hrun := hall _ _ _ _ h
  simpa using hrun

end Dispatch

/-! ## Deeds -/

namespace Watch

/-- The result that a deed noted, with the date that the clocks of a zone showed. -/
def Deed.counted? (zone : Zone) : Deed → Option (Bool × Date)
  | settled _ result now => some (result.success, zone.date now)
  | _ => none

variable {w w' : Watch} {d : Deed} {ds : List Deed}

/-- Receipts of observers change neither the counters nor their zone. -/
theorem counters_apply (m : Monitor) (receipts : List Bulletin.Receipt) :
    (Bulletin.apply m receipts).counters = m.counters ∧
      (Bulletin.apply m receipts).zone = m.zone := by
  induction receipts generalizing m with
  | nil => exact ⟨rfl, rfl⟩
  | cons r rest ih =>
      have hone : (Bulletin.applyOne m r).counters = m.counters ∧
          (Bulletin.applyOne m r).zone = m.zone := by
        simp only [Bulletin.applyOne]
        split <;> exact ⟨rfl, rfl⟩
      exact ⟨(ih _).1.trans hone.1, (ih _).2.trans hone.2⟩

/-- What a watch does keeps the zone of its monitor. -/
theorem Does.zone (h : Does w d w') : w'.monitor.zone = w.monitor.zone := by
  cases h with
  | look row accepted idle =>
      rw [Monitor.absorb_frame]
  | note => exact (counters_apply _ _).2
  | _ => rfl

theorem Moves.zone (h : Moves w ds w') : w'.monitor.zone = w.monitor.zone := by
  induction h with
  | done => rfl
  | turn _ turns ih => rw [turns.monitor, ih]
  | move moves does ih => rw [does.zone, ih]

/-- The counters change with the results of dispatches, and with nothing else. -/
theorem Does.counters (h : Does w d w') : w'.monitor.counters =
    w.monitor.counters.countAll (d.counted? w.monitor.zone).toList := by
  cases h with
  | look row accepted idle =>
      rw [Monitor.absorb_frame]
      rfl
  | note => exact (counters_apply _ _).1
  | _ => rfl

/-- The counters of a watch are told by the results that it noted. -/
theorem Moves.counters (h : Moves w ds w') : w'.monitor.counters =
    w.monitor.counters.countAll (ds.filterMap (Deed.counted? w.monitor.zone)) := by
  induction h with
  | done => rfl
  | turn _ turns ih => rw [turns.monitor, ih]
  | @move w₁ w' ds d moves does ih =>
      have hcounted : (ds ++ [d]).filterMap (Deed.counted? w.monitor.zone) =
          ds.filterMap (Deed.counted? w.monitor.zone) ++
            (d.counted? w.monitor.zone).toList := by
        rw [List.filterMap_append]
        cases hd : d.counted? w.monitor.zone <;> simp [hd]
      rw [does.counters, moves.zone, ih, hcounted, Counters.countAll, Counters.countAll, Counters.countAll,
        List.foldl_append]

end Watch

end Courier
