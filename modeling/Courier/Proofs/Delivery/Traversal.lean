import Courier.Proofs.Delivery.Requests

/-!
# How a batch goes on

A batch visits its partners in the given order, and deals with every file of a visit in order,
whatever becomes of the dealings.  Its news tell of each dealing when it begins and when it ends,
and a listener that lags behind misses some of them and changes nothing.

Main definitions:

- `Batch.Visit` is the visit of one partner with its `Batch.Dealing`s, and `Batch.Journey` a
  whole batch.
- `Batch.Resolves` says which files names stand for.
- `Batch.Journey.Goes` says that a journey is how a batch went on.
- `Channel.Passes` relates the news that are sent to those that a listener has heard.

Main statements:

- A listener hears news in the order in which they were sent, and all of them unless there was
  no room (`Channel.Passes.sublist`, `Channel.Passes.length_add_lost`).
- Whatever is answered, a batch comes to an end and goes on as it should
  (`exists_journey_of_play`).
-/

namespace Courier

open Program

/-! ## News -/

/-- The news that an exchange passed on. -/
def Exchange.news? : Exchange → Option Progress
  | ⟨.reportProgress p, _⟩ => some p
  | _ => none

/-- The news that a trace passed on. -/
def Trace.news (t : Trace) : List Progress :=
  t.filterMap Exchange.news?

@[simp] theorem Trace.news_append (t u : Trace) : news (t ++ u) = t.news ++ u.news :=
  List.filterMap_append

/-- Whether a request passes no news on. -/
def Request.isQuiet : Request → Bool
  | reportProgress _ => false
  | _ => true

theorem Delivery.serves_isQuiet : Serves fun r => r.isQuiet = true :=
  ⟨⟨rfl, fun _ => rfl, fun _ => rfl⟩, fun _ => ⟨rfl, fun _ _ => rfl, rfl, fun _ => rfl⟩,
    fun _ _ _ _ => ⟨fun _ _ _ => rfl, rfl, fun _ => rfl, fun _ _ => rfl, fun _ => rfl⟩,
    fun _ => ⟨rfl, rfl, fun _ => rfl, fun _ _ _ => rfl, fun _ => rfl⟩⟩

/-- A quiet request tells nobody anything. -/
theorem Exchange.news?_of_isQuiet {x : Exchange} (h : x.request.isQuiet = true) :
    x.news? = none := by
  rcases x with ⟨r, answer⟩
  cases r with
  | reportProgress p => exact nomatch h
  | _ => rfl

/-- So does a program of quiet requests. -/
theorem Program.Run.news_of_asks {α : Type} {p : Program α} {t : Trace} {a : α} (h : Run p t a)
    (hp : Asks (fun r => r.isQuiet = true) p) : t.news = [] :=
  List.filterMap_eq_nil_iff.2 fun x hx => Exchange.news?_of_isQuiet (h.request_of_mem hp x hx)

/-! ## Listeners -/

namespace Channel

/-- What has become of the news on a channel: those that were sent, those that the listener has
heard, and how many there was no room for. -/
inductive Passes : List Progress → List Progress → Nat → Channel → Prop where
  | start : Passes [] [] 0 {}
  | send {sent heard : List Progress} {lost : Nat} {c : Channel} (h : Passes sent heard lost c)
      (p : Progress) :
      Passes (sent ++ [p]) heard (if c.waiting.length < capacity then lost else lost + 1) (c.send p)
  | hear {sent heard rest : List Progress} {lost : Nat} {c : Channel} {p : Progress}
      (h : Passes sent heard lost c) (next : c.waiting = p :: rest) :
      Passes sent (heard ++ [p]) lost { c with waiting := rest }

variable {sent heard : List Progress} {lost : Nat} {c : Channel}

/-- News are heard in the order in which they were sent, those that wait after all others. -/
theorem Passes.sublist (h : Passes sent heard lost c) : (heard ++ c.waiting).Sublist sent := by
  induction h with
  | start => exact List.Sublist.refl []
  | @send sent heard lost c h p ih =>
      simp only [Channel.send]
      split
      · rw [← List.append_assoc]
        exact ih.append (List.Sublist.refl [p])
      · exact ih.trans (List.sublist_append_left sent [p])
  | hear h next ih =>
      rw [next] at ih
      rw [List.append_assoc]
      exact ih

/-- Only news that there was no room for are not heard and do not wait. -/
theorem Passes.length_add_lost (h : Passes sent heard lost c) :
    heard.length + c.waiting.length + lost = sent.length := by
  induction h with
  | start => rfl
  | @send sent heard lost c h p ih =>
      simp only [Channel.send]
      split <;> simp only [List.length_append, List.length_cons, List.length_nil] <;> omega
  | hear h next ih =>
      rw [next] at ih
      simp only [List.length_append, List.length_cons, List.length_nil] at ih ⊢
      omega

/-- A listener that listens only when all is over hears the first news, as many as there was
room for. -/
theorem waiting_foldl_send (ps : List Progress) (c : Channel) (hc : c.waiting.length ≤ capacity) :
    (ps.foldl send c).waiting = (c.waiting ++ ps).take capacity := by
  induction ps generalizing c with
  | nil =>
      rw [List.append_nil, List.take_of_length_le hc]
      rfl
  | cons p rest ih =>
      rw [List.foldl_cons]
      by_cases hroom : c.waiting.length < capacity
      · have hsend : c.send p = { c with waiting := c.waiting ++ [p] } := if_pos hroom
        rw [hsend, ih _ (by simpa using Nat.succ_le_of_lt hroom), List.append_assoc]
        rfl
      · have hsend : c.send p = c := if_neg hroom
        rw [hsend, ih c hc]
        have hfull : c.waiting.length = capacity := by omega
        rw [← hfull, List.take_left, List.take_left]

end Channel

namespace Batch

/-! ## Files -/

/-- Which files names stand for, along a trace: a plain name for itself, and a pattern for what
is found then. -/
inductive Resolves (found : String → Trace → List String → Prop) :
    List String → Trace → List String → Prop where
  | nil : Resolves found [] [] []
  | plain {name : String} {names files : List String} {t : Trace}
      (h : Names.hasWildcard name = false) (rest : Resolves found names t files) :
      Resolves found (name :: names) t (name :: files)
  | pattern {name : String} {names more files : List String} {u t : Trace}
      (h : Names.hasWildcard name = true) (finds : found name u more)
      (rest : Resolves found names t files) :
      Resolves found (name :: names) (u ++ t) (more ++ files)

/-- What a pattern stands for at home: the files under the sending directory that match it. -/
def FoundAtHome (rule : Rule) (pattern : String) (t : Trace) (files : List String) : Prop :=
  Run (Names.expand rule.sendPath pattern) t files

/-- What a pattern stands for with a partner: the names in its answer, and nothing when it gave
none. -/
def FoundWith (ctx : Context) (partner : String) (rule : Rule) (pattern : String) (t : Trace)
    (files : List String) : Prop :=
  ∃ listed, Run (Inquiry.listFiles ctx partner rule.name pattern) t listed ∧
    files = listed.toOption.getD []

/-- Names are resolved one after the other. -/
theorem resolves_of_run {expand : String → Program (List String)}
    {found : String → Trace → List String → Prop} {names files : List String} {t : Trace}
    (hfound : ∀ name u more, Run (expand name) u more → found name u more)
    (h : Run (resolveWith expand names) t files) : Resolves found names t files := by
  induction names generalizing t files with
  | nil =>
      obtain ⟨rfl, rfl⟩ := Run.done_iff.1 h
      exact .nil
  | cons name names ih =>
      simp only [resolveWith] at h
      split at h
      · next hwild =>
          obtain ⟨u, more, v, rfl, hexpand, hrest⟩ := Run.bind_iff.1 h
          obtain ⟨v, others, w, rfl, hothers, hend⟩ := Run.bind_iff.1 hrest
          obtain ⟨rfl, rfl⟩ := Run.done_iff.1 hend
          rw [List.append_nil]
          exact .pattern hwild (hfound _ _ _ hexpand) (ih hothers)
      · next hplain =>
          have hrest : Run (resolveWith expand names >>= fun others => .done ([name] ++ others))
            t files := h
          obtain ⟨v, others, w, rfl, hothers, hend⟩ := Run.bind_iff.1 hrest
          obtain ⟨rfl, rfl⟩ := Run.done_iff.1 hend
          rw [List.append_nil]
          exact .plain (Bool.eq_false_iff.2 hplain) (ih hothers)

/-- The names for a pattern are those that the partner lists, or none. -/
theorem foundWith_of_run {ctx : Context} {partner : String} {rule : Rule} {pattern : String}
    {t : Trace} {files : List String} (h : Run (listRemote ctx partner rule pattern) t files) :
    FoundWith ctx partner rule pattern t files := by
  obtain ⟨u, listed, v, rfl, hlisted, hend⟩ := Run.bind_iff.1 h
  refine ⟨listed, ?_, ?_⟩ <;> cases listed <;> obtain ⟨rfl, rfl⟩ := Run.done_iff.1 hend
  · rwa [List.append_nil]
  · rwa [List.append_nil]
  · rfl
  · rfl

/-! ## Journeys -/

/-- A dealing with one partner about one file. -/
structure Dealing where
  file : String
  trace : Trace
  outcome : Outcome

/-- The visit of a partner: its files are listed, where they depend on it, and then dealt
with one after the other. -/
structure Visit where
  /-- The partner, as it was named. -/
  partner : String
  listing : Trace
  dealings : List Dealing

/-- A batch as it went on: a search for files at home, where they do not depend on partners, and
the visits. -/
structure Journey where
  search : Trace
  visits : List Visit

/-- The outcome of a dealing, with whom and what it was about. -/
def Dealing.result (d : Dealing) (partner : String) : ItemOutcome :=
  ⟨partner, d.file, d.outcome⟩

/-- A dealing with the news of it. -/
def Dealing.told (d : Dealing) (partner : String) : Trace :=
  ⟨.reportProgress (.started partner d.file), ()⟩ :: (d.trace ++
    [⟨.reportProgress (.finished partner d.file d.outcome.success d.outcome.code), ()⟩])

namespace Visit

/-- The files of a visit. -/
def files (v : Visit) : List String :=
  v.dealings.map Dealing.file

/-- The outcomes of a visit. -/
def results (v : Visit) : List ItemOutcome :=
  v.dealings.map fun d => d.result v.partner

/-- All that is asked during a visit. -/
def trace (v : Visit) : Trace :=
  v.listing ++ v.dealings.flatMap fun d => d.told v.partner

end Visit

/-- The news of one outcome. -/
def newsOf (i : ItemOutcome) : List Progress :=
  [.started i.partner i.file, .finished i.partner i.file i.outcome.success i.outcome.code]

/-- With whom and about what an outcome was. -/
def pairOf (i : ItemOutcome) : String × String :=
  (i.partner, i.file)

/-- Whether a tally has gathered some outcomes: it has them in order, each is counted once, and
the last failure stands for the batch. -/
structure Gathers (tally : Tally) (items : List ItemOutcome) : Prop where
  results : tally.results = items
  count : tally.successes + tally.failures = items.length
  failures : tally.failures = items.countP fun i => !i.outcome.success
  lastFailure : tally.lastFailure =
    (items.filter fun i => !i.outcome.success).getLast?.map ItemOutcome.outcome

/-- Whether a journey is how a batch went on under a rule, told by the trace and the tally. -/
structure Journey.Goes (ctx : Context) (b : Batch) (rule : Rule) (t : Trace) (tally : Tally)
    (j : Journey) : Prop where
  trace : t = j.search ++ j.visits.flatMap Visit.trace
  /-- Every partner is visited, in order. -/
  partners : j.visits.map Visit.partner = b.partners
  /-- What this host sends is the same with every partner. -/
  atHome : rule.canSend = true → ∃ files, Resolves (FoundAtHome rule) b.files j.search files ∧
    (∀ v ∈ j.visits, v.listing = [] ∧ v.files = files) ∧
    tally.results.map pairOf = b.partners.flatMap fun partner => files.map (partner, ·)
  /-- What this host receives is what the partner lists. -/
  away : rule.canSend = false → j.search = [] ∧
    (∀ v ∈ j.visits, Resolves (FoundWith ctx v.partner rule) b.files v.listing v.files) ∧
    tally.results.map pairOf = j.visits.flatMap fun v => v.files.map (v.partner, ·)
  dealings : ∀ v ∈ j.visits, ∀ d ∈ v.dealings,
    Run (runItem ctx b v.partner d.file) d.trace d.outcome
  gathers : Gathers tally (j.visits.flatMap Visit.results)
  news : t.news = tally.results.flatMap newsOf

/-! ## Tallies -/

theorem gathers_nil : Gathers {} [] :=
  ⟨rfl, rfl, rfl, rfl⟩

/-- An outcome that is added is gathered after all others. -/
theorem Gathers.add {tally : Tally} {items : List ItemOutcome} (h : Gathers tally items)
    (i : ItemOutcome) : Gathers (tally.add i) (items ++ [i]) := by
  obtain ⟨rfl, count, failures, lastFailure⟩ := h
  cases hsuccess : i.outcome.success with
  | true =>
      simp only [Tally.add, hsuccess, if_true]
      refine ⟨rfl, ?_, ?_, ?_⟩
      · simp only [List.length_append, List.length_singleton]
        omega
      · simp [failures, hsuccess]
      · simp [lastFailure, hsuccess]
  | false =>
      simp only [Tally.add, hsuccess, Bool.false_eq_true, if_false]
      refine ⟨rfl, ?_, ?_, ?_⟩
      · simp only [List.length_append, List.length_singleton]
        omega
      · simp [failures, hsuccess]
      · simp [hsuccess]

/-- A tally gathers what is added to it. -/
theorem Gathers.foldl_add {tally : Tally} {items : List ItemOutcome} (h : Gathers tally items)
    (more : List ItemOutcome) : Gathers (more.foldl Tally.add tally) (items ++ more) := by
  induction more generalizing tally items with
  | nil =>
      rw [List.append_nil]
      exact h
  | cons i rest ih =>
      have hrest := ih (h.add i)
      rw [List.append_assoc] at hrest
      exact hrest

/-! ## Dealings -/

section Runs

variable {ctx : Context} {b : Batch} {rule : Rule} {partner file : String}
  {tally tally' : Tally} {t : Trace} {outcome : Outcome}

/-- A dealing passes no news on by itself. -/
theorem news_of_run_runItem (h : Run (runItem ctx b partner file) t outcome) : t.news = [] := by
  refine h.news_of_asks ?_
  unfold runItem
  split
  · exact asks_done _
  · split
    · exact Delivery.asks_submit Delivery.serves_isQuiet.allows _ _
    · exact Delivery.asks_carryOut Delivery.serves_isQuiet _ _ _ _

/-- All files of a visit are dealt with, one after the other. -/
theorem dealings_of_run {files : List String}
    (h : Run (runFiles ctx b partner files tally) t tally') :
    ∃ ds : List Dealing, ds.map Dealing.file = files ∧
      t = ds.flatMap (fun d => d.told partner) ∧
      (∀ d ∈ ds, Run (runItem ctx b partner d.file) d.trace d.outcome) ∧
      tally' = (ds.map fun d => d.result partner).foldl Tally.add tally := by
  induction files generalizing tally t with
  | nil =>
      obtain ⟨rfl, rfl⟩ := Run.done_iff.1 h
      exact ⟨[], rfl, rfl, by simp, rfl⟩
  | cons file rest ih =>
      obtain ⟨_, u, rfl, hitem⟩ := Run.ask_iff.1 h
      obtain ⟨u, outcome, v, rfl, hrun, hnext⟩ := Run.bind_iff.1 hitem
      obtain ⟨_, v, rfl, hothers⟩ := Run.ask_iff.1 hnext
      obtain ⟨ds, rfl, rfl, hruns, rfl⟩ := ih hothers
      refine ⟨⟨file, u, outcome⟩ :: ds, rfl, ?_, List.forall_mem_cons.2 ⟨hrun, hruns⟩, rfl⟩
      simp [Dealing.told]

/-- Where the files of a visit come from: from the search at home, or from the partner. -/
def Visit.Lists (ctx : Context) (b : Batch) (rule : Rule) (files? : Option (List String))
    (v : Visit) : Prop :=
  match files? with
  | some files => v.listing = [] ∧ v.files = files
  | none => Resolves (FoundWith ctx v.partner rule) b.files v.listing v.files

/-- Whether visits are how partners were visited. -/
structure Visited (ctx : Context) (b : Batch) (rule : Rule) (files? : Option (List String))
    (partners : List String) (t : Trace) (visits : List Visit) : Prop where
  partners : visits.map Visit.partner = partners
  trace : t = visits.flatMap Visit.trace
  lists : ∀ v ∈ visits, v.Lists ctx b rule files?
  dealings : ∀ v ∈ visits, ∀ d ∈ v.dealings,
    Run (runItem ctx b v.partner d.file) d.trace d.outcome

/-- One more partner is visited before the others. -/
theorem Visited.cons {files? : Option (List String)} {partners : List String} {v : Visit}
    {visits : List Visit} (hlists : v.Lists ctx b rule files?)
    (hdealings : ∀ d ∈ v.dealings, Run (runItem ctx b v.partner d.file) d.trace d.outcome)
    (h : Visited ctx b rule files? partners t visits) :
    Visited ctx b rule files? (v.partner :: partners) (v.trace ++ t) (v :: visits) := by
  obtain ⟨rfl, rfl, lists, dealings⟩ := h
  exact ⟨rfl, rfl, List.forall_mem_cons.2 ⟨hlists, lists⟩,
    List.forall_mem_cons.2 ⟨hdealings, dealings⟩⟩

/-- All partners are visited, one after the other; `files?` are the files when they do not
depend on the partner. -/
theorem visited_of_run {files? : Option (List String)} {partners : List String}
    (h : Run (runPartners ctx b rule files? partners tally) t tally') :
    ∃ visits, Visited ctx b rule files? partners t visits ∧
      tally' = (visits.flatMap Visit.results).foldl Tally.add tally := by
  induction partners generalizing tally t with
  | nil =>
      obtain ⟨rfl, rfl⟩ := Run.done_iff.1 h
      exact ⟨[], ⟨rfl, rfl, by simp, by simp⟩, rfl⟩
  | cons partner rest ih =>
      have hvisit : ∀ (listing u : Trace) (files : List String),
          (∀ ds : List Dealing, ds.map Dealing.file = files →
            Visit.Lists ctx b rule files? ⟨partner, listing, ds⟩) →
          Run (runFiles ctx b partner files tally >>= fun tally =>
            runPartners ctx b rule files? rest tally) u tally' →
          ∃ visits, Visited ctx b rule files? (partner :: rest) (listing ++ u) visits ∧
            tally' = (visits.flatMap Visit.results).foldl Tally.add tally := by
        intro listing u files hlists hrun
        obtain ⟨u, between, v, rfl, hitems, hrest⟩ := Run.bind_iff.1 hrun
        obtain ⟨ds, hfiles, rfl, hruns, rfl⟩ := dealings_of_run hitems
        obtain ⟨visits, hvisited, rfl⟩ := ih hrest
        refine ⟨⟨partner, listing, ds⟩ :: visits, ?_, ?_⟩
        · rw [← List.append_assoc]
          exact hvisited.cons (hlists ds hfiles) hruns
        · simp [Visit.results]
      simp only [runPartners] at h
      cases files? with
      | some files => exact hvisit [] t files (fun ds hfiles => ⟨rfl, hfiles⟩) h
      | none =>
          obtain ⟨listing, files, u, rfl, hlisting, hrest⟩ := Run.bind_iff.1 h
          refine hvisit listing u files (fun ds hfiles => ?_) hrest
          have hresolves := resolves_of_run (fun _ _ _ => foundWith_of_run) hlisting
          rw [← hfiles] at hresolves
          exact hresolves

/-! ## What follows for all visits -/

variable {files? : Option (List String)} {partners : List String} {visits : List Visit}

/-- A visit has a result for each of its files. -/
theorem map_pairOf_results (v : Visit) : v.results.map pairOf = v.files.map (v.partner, ·) := by
  simp only [Visit.results, Visit.files, List.map_map]
  rfl

/-- Visits have results for each partner and each of its files, in order. -/
theorem map_pairOf_flatMap_results (visits : List Visit) :
    (visits.flatMap Visit.results).map pairOf =
      visits.flatMap fun v => v.files.map (v.partner, ·) := by
  rw [List.map_flatMap]
  exact congrArg (List.flatMap · visits) (funext map_pairOf_results)

/-- The news of a dealing are that it begins and how it ends. -/
theorem news_told {d : Dealing} (h : Run (runItem ctx b partner d.file) d.trace d.outcome) :
    (d.told partner).news = newsOf (d.result partner) := by
  show Progress.started partner d.file :: Trace.news (d.trace ++ _) = _
  rw [Trace.news_append, news_of_run_runItem h]
  rfl

/-- What is told of each dealing is told of all, in order. -/
theorem news_flatMap_told {ds : List Dealing}
    (h : ∀ d ∈ ds, Run (runItem ctx b partner d.file) d.trace d.outcome) :
    Trace.news (ds.flatMap fun d => d.told partner) =
      (ds.map fun d => d.result partner).flatMap newsOf := by
  induction ds with
  | nil => rfl
  | cons d rest ih =>
      obtain ⟨hd, hrest⟩ := List.forall_mem_cons.1 h
      rw [List.flatMap_cons, Trace.news_append, news_told hd, ih hrest]
      rfl

/-- A search among the own files passes no news on. -/
theorem news_of_resolves_atHome {names files : List String}
    (h : Resolves (FoundAtHome rule) names t files) : t.news = [] := by
  induction h with
  | nil => rfl
  | plain h rest ih => exact ih
  | pattern h finds rest ih =>
      rw [Trace.news_append, ih, List.append_nil]
      exact Run.news_of_asks finds (Names.asks_expand (fun _ => rfl) _ _)

/-- Neither does the listing of a partner. -/
theorem news_of_resolves_away {names files : List String}
    (h : Resolves (FoundWith ctx partner rule) names t files) : t.news = [] := by
  induction h with
  | nil => rfl
  | plain h rest ih => exact ih
  | pattern h finds rest ih =>
      obtain ⟨listed, hlisted, -⟩ := finds
      rw [Trace.news_append, ih, List.append_nil]
      exact hlisted.news_of_asks (Inquiry.asks_listFiles Delivery.serves_isQuiet.deals _ _ _ _)

/-- The news of a journey is that of its results. -/
theorem Visited.news (h : Visited ctx b rule files? partners t visits) :
    t.news = (visits.flatMap Visit.results).flatMap newsOf := by
  obtain ⟨-, rfl, lists, dealings⟩ := h
  induction visits with
  | nil => rfl
  | cons v rest ih =>
      obtain ⟨hlists, hrest⟩ := List.forall_mem_cons.1 lists
      obtain ⟨hdealings, hothers⟩ := List.forall_mem_cons.1 dealings
      have hlisting : v.listing.news = [] := by
        cases files? with
        | some files => rw [hlists.1]; rfl
        | none => exact news_of_resolves_away hlists
      rw [List.flatMap_cons, List.flatMap_cons, List.flatMap_append, Trace.news_append,
        ih hrest hothers, Visit.trace, Trace.news_append, hlisting, news_flatMap_told hdealings]
      rfl

end Runs

/-! ## Batches -/

variable {ctx : Context} {b : Batch} {rule : Rule}

/-- A batch that can begin goes on as it should. -/
theorem exists_journey {t : Trace} {tally : Tally} (hrule : ctx.rules.resolve b.rule = .ok rule)
    (hpartners : b.partners ≠ []) (hfiles : b.files ≠ []) (h : Run (b.run ctx) t tally) :
    ∃ j : Journey, j.Goes ctx b rule t tally := by
  have hsome : (b.partners.isEmpty || b.files.isEmpty) = false := by
    simp [hpartners, hfiles]
  simp only [run, hrule, hsome, Bool.false_eq_true, if_false] at h
  cases hsend : rule.canSend with
  | true =>
      simp only [hsend, if_true] at h
      obtain ⟨search, files, u, rfl, hlocal, hvisits⟩ := Run.bind_iff.1 h
      obtain ⟨visits, hvisited, rfl⟩ := visited_of_run hvisits
      have hfound : Resolves (FoundAtHome rule) b.files search files :=
        resolves_of_run (fun _ _ _ hrun => hrun) hlocal
      have hgathers := gathers_nil.foldl_add (visits.flatMap Visit.results)
      rw [List.nil_append] at hgathers
      refine ⟨⟨search, visits⟩, ?_, hvisited.partners, fun _ => ⟨files, hfound, hvisited.lists, ?_⟩,
        fun hnot => absurd hsend (by simp [hnot]), hvisited.dealings, hgathers, ?_⟩
      · rw [hvisited.trace]
      · rw [hgathers.results, map_pairOf_flatMap_results, ← hvisited.partners, List.flatMap_map]
        refine congrArg List.flatten (List.map_congr_left fun v hv => ?_)
        rw [(hvisited.lists v hv).2]
      · rw [Trace.news_append, news_of_resolves_atHome hfound, hvisited.news, hgathers.results]
        rfl
  | false =>
      simp only [hsend, Bool.false_eq_true, if_false] at h
      obtain ⟨visits, hvisited, rfl⟩ := visited_of_run h
      have hgathers := gathers_nil.foldl_add (visits.flatMap Visit.results)
      rw [List.nil_append] at hgathers
      refine ⟨⟨[], visits⟩, ?_, hvisited.partners, fun hcan => absurd hsend (by simp [hcan]),
        fun _ => ⟨rfl, hvisited.lists, ?_⟩, hvisited.dealings, hgathers, ?_⟩
      · rw [hvisited.trace]
        rfl
      · rw [hgathers.results, map_pairOf_flatMap_results]
      · rw [hvisited.news, hgathers.results]

/-- Whatever the files, the ledger and the partners answer, a batch under a known rule that names
partners and files comes to an end and goes on as it should.  Whoever listens to its news, and
however late, hears them in order and misses only those that there was no room for. -/
theorem exists_journey_of_play (hrule : ctx.rules.resolve b.rule = .ok rule)
    (hpartners : b.partners ≠ []) (hfiles : b.files ≠ [])
    (answer : Trace → (r : Request) → r.Answer) :
    let run := play answer (b.run ctx)
    (∃ j : Journey, j.Goes ctx b rule run.2 run.1) ∧
      (∀ heard lost c, Channel.Passes run.2.news heard lost c →
        (heard ++ c.waiting).Sublist run.2.news ∧
          heard.length + c.waiting.length + lost = run.2.news.length) ∧
      (run.2.news.foldl Channel.send {}).waiting = run.2.news.take Channel.capacity := by
  intro run
  refine ⟨exists_journey hrule hpartners hfiles (run_play answer _).1, fun heard lost c h => ?_, ?_⟩
  · exact ⟨h.sublist, h.length_add_lost⟩
  · exact Channel.waiting_foldl_send run.2.news {} (Nat.zero_le _)

/-- A rule to send by. -/
def sampleRule : Rule where
  name := "out"
  mode := .send

def sampleContext : Context where
  hosts := { plainId := "here", secureId := "here-tls" }
  rules := RuleBook.ofList [sampleRule]
  policy := .standard

/-- A batch of one file for two partners that are not known. -/
def sampleBatch : Batch where
  partners := ["north", "south"]
  files := ["a.txt"]
  rule := "out"

/-- Surroundings without files or records, and nobody to be reached. -/
def answerNothing : (r : Request) → r.Answer
  | .now => default
  | .clockFraction => 0
  | .files op => match op with
      | .metadata _ | .entries _ | .read _ | .write _ _ | .makeDirectories _ | .rename _ _
      | .remove _ => .error .notFound
  | .ledger op => ((Ledger.mk [] 0).perform op).1
  | .connect _ => .fatal .connectionImpossible "unreachable"
  | .complete _ _ | .ask _ _ _ | .send _ _ _ | .writable _ => .error .closed
  | .reportFailure _ | .reportProgress _ | .tally _ | .sleep _ | .close _ => ()

theorem exists_journey_of_play_sample :
    ∃ j : Journey, j.Goes sampleContext sampleBatch sampleRule
      (play (fun _ r => answerNothing r) (sampleBatch.run sampleContext)).2
      (play (fun _ r => answerNothing r) (sampleBatch.run sampleContext)).1 :=
  (exists_journey_of_play rfl (by decide) (by decide) fun _ r => answerNothing r).1

end Batch

end Courier
