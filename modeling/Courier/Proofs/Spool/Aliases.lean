import Courier.Proofs.Delivery.Aliases
import Courier.Spool.Watch

/-!
# Aliases of the hosts of a spool

A spool may name its hosts by aliases: it looks, dispatches and ends as under the hosts
themselves, because only its dispatches make use of the names and these are the same programs.
An observer is looked up by the name as it is given, and an alias of it is never informed.

Main definitions:

- `Watch.withHosts` is a watch whose job names other hosts.
- `Directory.Transparent` collects what an alias makes no difference to, and the two cases where
  it does.

Main statements:

- A dispatch is the same program under the alias (`StandsFor.run_eq`), and a watch begins and
  handles every event in the same way (`Watch.echoes_start`, `Watch.alike_handle`).
- An alias is transparent but for the files that a partner is asked for and for observers
  (`StandsFor.transparent`).
-/

namespace Courier

open Program

/-! ## Dispatches -/

namespace Directory.StandsFor

open Dispatch

variable {ctx : Context} {nickname host name name' : String} {names' : List String}

/-- Orders for an alias are those for the host itself. -/
theorem carryOut_eq (h : ctx.hosts.StandsFor nickname host) (job : Job) (file : String)
    (fixedId : Option Int) (act : Context → Order → Program Outcome)
    (hname : SameHost nickname host name name') :
    carryOut ctx job name file fixedId act = carryOut ctx job name' file fixedId act := by
  have hform : ∀ partner, form job partner file fixedId =
      { form job "" file fixedId with partner } := by
    intro partner
    unfold form Order.Form.withBlockSize
    split <;> rfl
  rw [carryOut, carryOut, hform name, hform name', h.complete_eq _ hname]

/-- A file is resubmitted to an alias as to the host itself. -/
theorem resubmit_eq (h : ctx.hosts.StandsFor nickname host) (job : Job) (file : String)
    (specialId : Int) (hname : SameHost nickname host name name') :
    resubmit ctx job name file specialId = resubmit ctx job name' file specialId := by
  have hself : ∀ requester : String, SameHost nickname host requester requester := fun _ => .inl rfl
  have hfresh : runFresh ctx job name file = runFresh ctx job name' file :=
    h.carryOut_eq job file none Delivery.run hname
  have hrestart : ∀ requester, Intervention.restart ctx specialId name requester none =
      Intervention.restart ctx specialId name' requester none := fun requester =>
    h.restart_eq specialId none hname (hself requester)
  have hcancel : ∀ requester, Intervention.cancel ctx specialId name requester =
      Intervention.cancel ctx specialId name' requester := fun requester =>
    h.interrupt_eq .cancel specialId hname (hself requester)
  simp only [resubmit, h.resolve_eq hname, hfresh, hrestart, hcancel]

/-- A file is sent in the same way under the alias. -/
theorem sendTo_eq (h : ctx.hosts.StandsFor nickname host) (job : Job) (file : String)
    (knownId : Option Int) (hname : SameHost nickname host name name') :
    sendTo ctx job file knownId name = sendTo ctx job file knownId name' := by
  have hcarry : ∀ id act, carryOut ctx job name file id act = carryOut ctx job name' file id act :=
    fun id act => h.carryOut_eq job file id act hname
  simp only [sendTo, submit, runFresh, hcarry, fun id => h.resubmit_eq job file id hname]

/-- A host is told to each sending, and no other one is of interest to it. -/
theorem sendTo_hosts (job : Job) (hosts : List String) (file : String) (knownId : Option Int)
    (name : String) :
    sendTo ctx { job with hosts } file knownId name = sendTo ctx job file knownId name := by
  simp only [sendTo, submit, resubmit, runFresh, carryOut, form]

/-- A dispatch is the same program when some of its hosts are named by the alias. -/
theorem run_eq (h : ctx.hosts.StandsFor nickname host) (job : Job) (item : Item)
    (hnames : List.Forall₂ (SameHost nickname host) job.hosts names') :
    Dispatch.run ctx job item = Dispatch.run ctx { job with hosts := names' } item := by
  have hall : ∀ {names names' : List String} (hosts : List String) (knownId : Option Int)
      (result : Result), List.Forall₂ (SameHost nickname host) names names' →
        sendToAll ctx job item.path.text knownId names result =
          sendToAll ctx { job with hosts } item.path.text knownId names' result := by
    intro names names' hosts knownId result hsame
    induction hsame generalizing result with
    | nil => rfl
    | cons hname _ ih =>
        simp only [sendToAll, sendTo_hosts, h.sendTo_eq job _ knownId hname, ih]
  simp only [Dispatch.run, hnames.length_eq]
  exact hall names' _ _ hnames

end Directory.StandsFor

/-! ## Watches -/

namespace Watch

/-- The watch whose job names other hosts. -/
def withHosts (hosts : List String) (w : Watch) : Watch :=
  { w with job := { w.job with hosts } }

/-- Whether two programs make the same requests, and change a watch and the one that names other
hosts in the same way, starting the same tasks. -/
abbrev Alike (hosts : List String) (p q : Program Change) : Prop :=
  Echoes Eq (fun c c' => c' = (c.1.withHosts hosts, c.2)) p q

variable {hosts : List String} {w : Watch} {now : Nat}

/-! ### The end -/

/-- Watches that only differ in the hosts of their jobs finish alike. -/
theorem alike_finish : Alike hosts w.finish (w.withHosts hosts).finish :=
  Echoes.bind_self fun _ => Echoes.bind_self fun _ => .done rfl

theorem alike_part : Alike hosts (w.part now) ((w.withHosts hosts).part now) :=
  Echoes.ite alike_finish (Echoes.bind_self fun _ => .done rfl)

theorem alike_drain : Alike hosts (w.drain now) ((w.withHosts hosts).drain now) :=
  Echoes.ite (alike_part (w := w.turnTo .draining)) (.done rfl)

theorem alike_leave : Alike hosts (w.leave now) ((w.withHosts hosts).leave now) :=
  alike_drain (w := { w with informer := none })

/-- They resume alike. -/
theorem alike_resume : Alike hosts (w.resume now) ((w.withHosts hosts).resume now) :=
  Echoes.ite alike_leave (.done rfl)

/-! ### Looks and dispatches -/

/-- The status is saved alike. -/
theorem echoes_saveAndWatch :
    Echoes Eq (fun w w' => w' = w.withHosts hosts) w.saveAndWatch
      (w.withHosts hosts).saveAndWatch :=
  Echoes.bind_self fun _ => .done rfl

/-- Tasks that were started before make no difference. -/
theorem alike_starting {p q : Program Change} (started : List (Nat × Task))
    (h : Alike hosts p q) :
    Alike hosts (p >>= fun c => .done (c.1, started ++ c.2))
      (q >>= fun c => .done (c.1, started ++ c.2)) := by
  refine h.bind fun c c' hc => ?_
  subst hc
  exact .done rfl

/-- The same files are dispatched, whatever they are dispatched to. -/
theorem alike_dispatchReady (ready : List Item) :
    Alike hosts (w.dispatchReady ready now) ((w.withHosts hosts).dispatchReady ready now) := by
  refine Echoes.ite ?_ (.done rfl)
  refine (echoes_saveAndWatch (w := { w with waiting := w.waiting ++ ready })).bind ?_
  intro v v' hv
  subst hv
  exact alike_starting _ alike_resume

/-- A look finds the same files. -/
theorem alike_look : Alike hosts (w.look now) ((w.withHosts hosts).look now) := by
  refine Echoes.bind_self fun found => Echoes.ite alike_leave ?_
  refine Echoes.bind_self fun _ => Echoes.bind_self fun _ => Echoes.bind_self fun surveyed => ?_
  exact alike_dispatchReady (w := { w with
    nextLook := nextTime w.nextLook w.job.elapseMs now, monitor := surveyed.2 }) surveyed.1

theorem alike_inform : Alike hosts (w.inform now) ((w.withHosts hosts).inform now) := by
  refine Echoes.ite (.done rfl) (Echoes.bind_self fun moment => .done (Prod.ext ?_ rfl))
  have hsame : { w.job with hosts }.isParallel = w.job.isParallel := rfl
  simp only [withHosts, hsame]
  split <;> rfl

/-! ### Events -/

theorem alike_claim (c : Lock.Claim) :
    Alike hosts (w.claim c now) ((w.withHosts hosts).claim c now) := by
  cases c with
  | held =>
      exact alike_resume (w := { w with phase := .watching, nextLook := now, nextInform := now })
  | waiting looks => exact .done rfl
  | yielded => exact .done rfl
  | refused fault => exact .done rfl

/-- What a dispatch has come to is noted alike. -/
theorem alike_onDispatched (task : Nat) (result : Dispatch.Result) :
    Alike hosts (w.onDispatched task result now)
      ((w.withHosts hosts).onDispatched task result now) := by
  have hsettle : Alike hosts (w.settle task result) ((w.withHosts hosts).settle task result) :=
    Echoes.bind_self fun _ => .done rfl
  refine hsettle.bind fun c c' hc => ?_
  subst hc
  refine Echoes.ite ?_ (Echoes.ite ?_ (.done rfl))
  · refine (echoes_saveAndWatch (w := c.1)).bind fun v v' hv => ?_
    subst hv
    exact alike_starting c.2 alike_resume
  · exact alike_starting c.2 alike_part

theorem alike_onInformed (task : Nat) (receipts : List Bulletin.Receipt) :
    Alike hosts (w.onInformed task receipts now)
      ((w.withHosts hosts).onInformed task receipts now) := by
  let monitor := Bulletin.apply w.monitor receipts
  unfold onInformed
  have hphase : (w.withHosts hosts).phase = w.phase := rfl
  simp only [hphase]
  split
  · exact alike_resume (w := { w with monitor, phase := .watching })
  · exact alike_finish (w := { w with monitor })
  · exact .done rfl

/-- Watches are stopped alike. -/
theorem alike_onStop : Alike hosts (w.onStop now) ((w.withHosts hosts).onStop now) := by
  unfold onStop
  have hphase : (w.withHosts hosts).phase = w.phase := rfl
  simp only [hphase]
  split
  · exact .done rfl
  · exact alike_leave (w := { w with stopWanted := true })
  · exact alike_leave (w := { w with stopWanted := true })
  · exact .done rfl

/-- A watch handles every event in the same way, whatever its hosts are named. -/
theorem alike_handle (e : Event) :
    Alike hosts (w.handle now e) ((w.withHosts hosts).handle now e) := by
  have hphase : (w.withHosts hosts).phase = w.phase := rfl
  cases e with
  | stop => exact alike_onStop
  | dispatched task result => exact Echoes.ite (alike_onDispatched task result) (.done rfl)
  | informed task receipts => exact Echoes.ite (alike_onInformed task receipts) (.done rfl)
  | claimTime =>
      simp only [handle, hphase]
      split
      · exact Echoes.bind_self fun _ => Echoes.bind_self fun c => alike_claim c
      · exact .done rfl
  | lookTime => exact Echoes.ite alike_look (.done rfl)
  | informTime => exact Echoes.ite alike_inform (.done rfl)
  | partTime =>
      simp only [handle, hphase]
      split
      · exact alike_finish
      · exact .done rfl

/-! ### The beginning -/

/-- Whether what has come of beginning a watch is the same for the one that names other hosts. -/
def AlikeStart (hosts : List String) : Except Outcome Change → Except Outcome Change → Prop
  | .error o, .error o' => o' = o
  | .ok c, .ok c' => c' = (c.1.withHosts hosts, c.2)
  | _, _ => False

/-- Watches of jobs that only differ in their hosts begin alike. -/
theorem echoes_begin (zone : Calendar.Zone) (job : Job) :
    Echoes Eq (AlikeStart hosts) (begin zone job now) (begin zone { job with hosts } now) := by
  refine Echoes.bind_self fun moment => Echoes.bind_self fun loaded => ?_
  cases loaded with
  | error fault => exact .done rfl
  | ok monitor =>
      refine Echoes.bind_self fun moment => Echoes.bind_self fun c => ?_
      let w : Watch := { job, monitor, phase := .claiming 0 now }
      exact (alike_claim (w := w) c).bind fun _ _ hab => .done hab

/-- A watch begins in the same way, whatever its hosts are named. -/
theorem echoes_start (ctx : Context) (job : Job) (hempty : hosts.isEmpty = job.hosts.isEmpty) :
    Echoes Eq (AlikeStart hosts) (start ctx job now) (start ctx { job with hosts } now) := by
  have hjob : ({ job with hosts }.check : Program _) = job.check := by
    unfold Job.check
    simp only [hempty]
    rfl
  have hcheck : check ctx { job with hosts } = check ctx job := by
    rw [check, check, hjob]
  rw [start, start, hcheck]
  refine Echoes.bind_self fun checked => ?_
  cases checked with
  | error fault => exact .done rfl
  | ok _ =>
      refine Echoes.bind_self fun stopped => Echoes.ite (.done rfl) ?_
      refine Echoes.bind_self fun missing => ?_
      cases missing with
      | some p => exact .done rfl
      | none => exact echoes_begin _ job

end Watch

/-! ## Transparency -/

namespace Directory

/-- What an alias makes no difference to, and the two cases where it does. -/
structure Transparent (ctx : Context) (nickname host : String) : Prop where
  /-- Orders are the same. -/
  orders : ∀ (f : Order.Form) {name name' : String}, SameHost nickname host name name' →
    { f with partner := name }.complete ctx.hosts = { f with partner := name' }.complete ctx.hosts
  /-- Transfers are broken off in the same way, whichever end is named by the alias. -/
  interruptions : ∀ (action : Intervention.Interrupt) (specialId : Int)
    {requested requested' requester requester' : String},
    SameHost nickname host requested requested' → SameHost nickname host requester requester' →
    Intervention.interrupt ctx action specialId requested requester =
      Intervention.interrupt ctx action specialId requested' requester'
  restarts : ∀ (specialId : Int) (time : Option Calendar.Timestamp)
    {requested requested' requester requester' : String},
    SameHost nickname host requested requested' → SameHost nickname host requester requester' →
    Intervention.restart ctx specialId requested requester time =
      Intervention.restart ctx specialId requested' requester' time
  /-- A batch does the same but for the names in its news and its outcomes, unless it has
  patterns for files of its partners. -/
  batches : ∀ (b : Batch) {names names' : List String},
    (∀ rule, ctx.rules.resolve b.rule = .ok rule → rule.canSend = false →
      ∀ f ∈ b.files, Names.hasWildcard f = false) →
    List.Forall₂ (SameHost nickname host) names names' →
    Program.Echoes (SameHost nickname host) (Tally.Echoes (SameHost nickname host))
      ({ b with partners := names }.run ctx) ({ b with partners := names' }.run ctx)
  /-- Spools dispatch in the same way. -/
  dispatches : ∀ (job : Job) (item : Item) {names : List String},
    List.Forall₂ (SameHost nickname host) job.hosts names →
    Dispatch.run ctx job item = Dispatch.run ctx { job with hosts := names } item
  /-- They begin in the same way. -/
  starts : ∀ (job : Job) (now : Nat) {names : List String},
    List.Forall₂ (SameHost nickname host) job.hosts names →
    Program.Echoes Eq (Watch.AlikeStart names) (Watch.start ctx job now)
      (Watch.start ctx { job with hosts := names } now)
  /-- They handle events in the same way. -/
  events : ∀ (w : Watch) (now : Nat) (e : Watch.Event) {names : List String},
    List.Forall₂ (SameHost nickname host) w.job.hosts names →
    Watch.Alike names (w.handle now e) ((w.withHosts names).handle now e)
  /-- A pattern stands for no files of a partner that is named by the alias, whom nobody asks. -/
  unasked : ∀ (rule : Rule) (files : List String),
    Batch.resolveRemote ctx nickname rule files =
      .done (files.filter fun f => !Names.hasWildcard f)
  /-- An observer that is named by the alias is never informed. -/
  uninformed : ∀ b : Bulletin, b.observer = nickname → b.deliver ctx = .done false

namespace StandsFor

variable {ctx : Context} {nickname host : String}

/-- Observers are looked up as they are spelled, so that no message goes out to an alias. -/
theorem deliver_eq (h : ctx.hosts.StandsFor nickname host) {b : Bulletin}
    (hobserver : b.observer = nickname) : b.deliver ctx = .done false := by
  rw [Bulletin.deliver, hobserver, h.lookup_nickname]
  rfl

/-- An alias is transparent, but for the files that its host is asked for and for the messages
that it should be sent. -/
theorem transparent (h : ctx.hosts.StandsFor nickname host) :
    Transparent ctx nickname host where
  orders f _ _ hname := h.complete_eq f hname
  interruptions action specialId _ _ _ _ hrequested hrequester :=
    h.interrupt_eq action specialId hrequested hrequester
  restarts specialId time _ _ _ _ hrequested hrequester :=
    h.restart_eq specialId time hrequested hrequester
  batches b _ _ hrule hnames := h.echoes_run b hrule hnames
  dispatches job item _ hnames := h.run_eq job item hnames
  starts job _ _ hnames := Watch.echoes_start ctx job (isEmpty_eq_of_sameHost hnames).symm
  events _ _ e _ _ := Watch.alike_handle e
  unasked rule files := h.resolveRemote_eq rule files
  uninformed _ hobserver := h.deliver_eq hobserver

/-- A directory with an alias of a host. -/
def sampleHosts : Directory :=
  (({ plainId := "here", secureId := "here-tls" } : Directory).addHost
    { hostId := "there" }).addAlias "yonder" "there"

theorem sampleHosts_standsFor : sampleHosts.StandsFor "yonder" "there" where
  stands := rfl
  itself := rfl
  listed := ⟨_, rfl⟩
  unlisted := rfl
  foreign := rfl
  trimmed := by decide
  hostTrimmed := by decide
  nonempty := by decide
  hostNonempty := by decide

theorem transparent_sample :
    sampleHosts.StandsFor "yonder" "there" ∧
    Transparent ⟨sampleHosts, .ofList [], .standard⟩ "yonder" "there" :=
  ⟨sampleHosts_standsFor, transparent sampleHosts_standsFor⟩

end StandsFor

end Directory

end Courier
