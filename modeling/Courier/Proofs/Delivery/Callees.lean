import Courier.Proofs.Delivery.Restarting

/-!
# Whom interventions call

An intervention may open sessions for three reasons: to ask the other end for its copy of the
record, to send it a command, and, for a restart by this host, to run the transfer.  For the first
two the role of the host is looked at before, and one that only opens sessions is left alone.  For
the third nobody looks: the order that runs the transfer again calls the host that the record
names as requested, and whether sessions can be opened to it does not matter to an order.

Main definitions:

- `Trace.CallsOnly` says for whom sessions were asked for.
- `Intervention.Directive` is an intervention with all that it is told, and
  `Intervention.Directive.rerunPartner?` the partner of the order that it may run.
- `Intervention.Callee` tells the sessions that an intervention may ask for.

Main statements:

- Every session that is asked for is one to a listed host, and a host that only opens sessions is
  called for a transfer that is run again from here and for nothing else (`callees_of_directive`).
- For that it is called whenever the record is here and not done (`called_of_rerun`).
-/

namespace Courier

open Program

/-! ## Sessions asked for -/

/-- Whether every session that was asked for is such a one. -/
def Trace.CallsOnly (t : Trace) (P : Connect → Prop) : Prop :=
  ∀ x ∈ t, ∀ c, x.request = .connect c → P c

namespace Trace

variable {t u : Trace} {P Q : Connect → Prop} {partner : Partner}

theorem CallsOnly.append (ht : t.CallsOnly P) (hu : u.CallsOnly P) : CallsOnly (t ++ u) P := by
  intro x hx
  rcases List.mem_append.1 hx with hx | hx
  · exact ht x hx
  · exact hu x hx

theorem IsApart.callsOnly (h : t.IsApart) : t.CallsOnly P := by
  intro x hx c hconnect
  have hapart := h x hx
  rw [hconnect] at hapart
  cases hapart

/-- Dealings with a partner call only this one. -/
theorem Deals.callsOnly {asked : List (Packet × Except SessionFault Answer)}
    (h : t.Deals partner asked) (hP : P ⟨partner, none, .none⟩) : t.CallsOnly P := by
  intro x hx c hconnect
  have hcalls := h.calls x hx
  rw [hconnect] at hcalls
  cases hcalls with
  | apart happart => cases happart
  | connect => exact hP

/-- Whoever is called is called by a request. -/
theorem exists_connect (h : t.connects ≠ []) :
    ∃ x ∈ t, ∃ c, x.request = .connect c := by
  obtain ⟨result, hmem⟩ := List.exists_mem_of_ne_nil _ h
  obtain ⟨x, hx, hresult⟩ := List.mem_filterMap.1 hmem
  refine ⟨x, hx, ?_⟩
  rcases x with ⟨request, answer⟩
  cases request with
  | connect c => exact ⟨c, rfl⟩
  | _ => cases hresult

end Trace

theorem Connection.Exchanges.callsOnly {P : Connect → Prop} {partner : Partner} {packet : Packet}
    {t : Trace} {result : Except SessionFault Answer}
    (h : Connection.Exchanges partner packet t result) (hP : P ⟨partner, none, .none⟩) :
    t.CallsOnly P := by
  cases h with
  | unreached deals => exact deals.callsOnly hP
  | sent deals => exact deals.callsOnly hP

namespace Intervention

/-! ## Directives -/

/-- An intervention with all that it is told. -/
inductive Directive where
  | interrupt (action : Interrupt) (specialId : Int) (requested requester : String)
  | restart (specialId : Int) (requested requester : String) (time : Option Calendar.Timestamp)

namespace Directive

/-- What an intervention does. -/
def program (ctx : Context) : Directive → Program Outcome
  | interrupt action specialId requested requester =>
      Intervention.interrupt ctx action specialId requested requester
  | restart specialId requested requester time =>
      Intervention.restart ctx specialId requested requester time

/-- The partner of the order that an intervention may run: a restart runs one when the requester
is this host and only opens sessions. -/
def rerunPartner? (hosts : Directory) : Directive → Option Partner
  | interrupt _ _ _ _ => none
  | restart specialId requested requester _ =>
      match resolve hosts requested requester with
      | .error _ => none
      | .ok parties =>
          if parties.requester.isClientOnly && parties.requesterIsLocal then
            (rerun? hosts (parties.key specialId)).map Prod.fst
          else none

end Directive

/-- The sessions that an intervention may ask for, given the partner of the order that it may run:
single requests go to listed hosts that can be called, and transfers to the partner of the
order. -/
inductive Callee (hosts : Directory) (rerun : Option Partner) : Connect → Prop where
  | server {p : Partner} (listed : hosts.lookup p.hostId = .ok p)
      (server : p.isClientOnly = false) : Callee hosts rerun ⟨p, none, .none⟩
  | rerun {p : Partner} {r : Record} (listed : hosts.lookup p.hostId = .ok p)
      (named : rerun = some p) : Callee hosts rerun ⟨p, some r, .none⟩

namespace Callee

variable {hosts : Directory} {rerun : Option Partner} {c : Connect}

/-- Whoever may be called is listed under its own name. -/
theorem listed (h : Callee hosts rerun c) : hosts.lookup c.partner.hostId = .ok c.partner := by
  cases h with
  | server listed => exact listed
  | rerun listed => exact listed

/-- A host that only opens sessions is the partner of the order, called for its transfer. -/
theorem rerun_of_clientOnly (h : Callee hosts rerun c) (hclient : c.partner.isClientOnly = true) :
    c.record.isSome = true ∧ rerun = some c.partner := by
  cases h with
  | server _ server => cases server.symm.trans hclient
  | rerun _ named => exact ⟨rfl, named⟩

end Callee

variable {ctx : Context} {key : Record.Key} {peer : Partner} {l l' m : Ledger} {t : Trace}
  {r : Record} {outcome : Outcome} {time : Option Calendar.Timestamp} {rerun : Option Partner}

/-! ## Both ends -/

/-- Both ends of a transfer are entries of the directory. -/
theorem entries_of_resolve {hosts : Directory} {requested requester : String} {parties : Parties}
    (h : resolve hosts requested requester = .ok parties) :
    entryOf hosts (hosts.resolve requested) = .ok parties.requested ∧
      entryOf hosts (hosts.resolve requester) = .ok parties.requester := by
  unfold resolve at h
  dsimp only at h
  split at h
  · cases h
  · next p hrequested =>
      split at h
      · cases h
      · next q hrequester =>
          cases h
          exact ⟨hrequested, hrequester⟩

/-- The other end of a transfer is listed when it can be called. -/
theorem lookup_peer {hosts : Directory} (hcoherent : hosts.Coherent) {requested requester : String}
    {parties : Parties} (h : resolve hosts requested requester = .ok parties)
    (hserver : parties.peer.isClientOnly = false) :
    hosts.lookup parties.peer.hostId = .ok parties.peer := by
  obtain ⟨hrequested, hrequester⟩ := entries_of_resolve h
  unfold Parties.peer at hserver ⊢
  split at hserver
  · next hlocal =>
      rw [if_pos hlocal]
      exact lookup_of_entryOf hcoherent hrequested hserver
  · next hlocal =>
      rw [if_neg hlocal]
      exact lookup_of_entryOf hcoherent hrequester hserver

/-- The partner of an order is listed. -/
theorem lookup_of_rerun {hosts : Directory} (hcoherent : hosts.Coherent) {meant : Record.Key}
    (h : rerun? hosts key = some (peer, meant)) : hosts.lookup peer.hostId = .ok peer := by
  unfold rerun? at h
  split at h
  · cases h
  · split at h
    · next p hlookup =>
        cases h
        rw [hcoherent _ _ hlookup, hlookup]
    · cases h

/-! ## What is called on each path -/

section Paths

variable (hlookup : peer.isClientOnly = false → ctx.hosts.lookup peer.hostId = .ok peer)
include hlookup

/-- A search asks the partner only. -/
theorem Locates.callsOnly (h : Locates key peer l t r m) :
    t.CallsOnly (Callee ctx.hosts rerun) := by
  cases h with
  | here _ apart => exact apart.callsOnly
  | there _ server deals => exact deals.callsOnly (.server (hlookup server) server)

theorem Misses.callsOnly (h : Misses key peer l t outcome m) :
    t.CallsOnly (Callee ctx.hosts rerun) := by
  cases h with
  | unasked _ _ apart => exact apart.callsOnly
  | undescribed _ server exchanges => exact exchanges.callsOnly (.server (hlookup server) server)

/-- An interruption tells the partner only. -/
theorem Handles.callsOnly {action : Interrupt} (h : Handles action key peer r m t outcome l') :
    t.CallsOnly (Callee ctx.hosts rerun) := by
  cases h with
  | uncalled _ apart => exact apart.callsOnly
  | failed server exchanges => exact exchanges.callsOnly (.server (hlookup server) server)
  | acknowledged server deals => exact deals.callsOnly (.server (hlookup server) server)
  | finished server deals => exact deals.callsOnly (.server (hlookup server) server)
  | unexpected server deals => exact deals.callsOnly (.server (hlookup server) server)

theorem Interrupts.callsOnly {action : Interrupt}
    (h : Interrupts action key peer l t outcome l') :
    t.CallsOnly (Callee ctx.hosts rerun) := by
  cases h with
  | done _ _ apart => exact apart.callsOnly
  | missed h => exact h.callsOnly hlookup
  | handled split located _ h =>
      rw [split]
      exact (located.callsOnly hlookup).append (h.callsOnly hlookup)

end Paths

/-- The order for a record calls its partner for the transfer, and nobody else. -/
theorem Reruns.callsOnly {start : Option Calendar.Moment} (hcoherent : ctx.hosts.Coherent)
    (h : Reruns ctx.hosts key start l t outcome l') :
    t.CallsOnly (Callee ctx.hosts ((rerun? ctx.hosts key).map Prod.fst)) := by
  cases h with
  | unnamed _ apart => exact apart.callsOnly
  | missing _ _ apart => exact apart.callsOnly
  | done _ _ _ apart => exact apart.callsOnly
  | resumed named _ _ h =>
      intro x hx c hconnect
      obtain ⟨s, rfl, -⟩ := h.attempts x hx c hconnect
      refine .rerun (lookup_of_rerun hcoherent named) ?_
      rw [named]
      rfl

/-! ## Runs -/

/-- What is called when an intervention looks for the record, whatever is done with it then. -/
theorem callsOnly_of_find (hcoherent : ctx.hosts.Coherent) (rerun : Option Partner)
    {specialId : Int} {requested requester : String}
    {result : Except Outcome (Parties × Record)}
    (h : RunOn l (find ctx specialId requested requester) t result m) :
    t.CallsOnly (Callee ctx.hosts rerun) ∧
      ∀ parties r, result = .ok (parties, r) →
        resolve ctx.hosts requested requester = .ok parties ∧ r.key = parties.key specialId := by
  unfold find at h
  cases hresolve : resolve ctx.hosts requested requester with
  | error refused =>
      simp only [hresolve] at h
      obtain ⟨rfl, rfl, rfl⟩ := h.of_done
      refine ⟨Trace.isApart_nil.callsOnly, ?_⟩
      rintro parties r ⟨⟩
  | ok parties =>
      simp only [hresolve] at h
      obtain ⟨u, located, v, n, rfl, hlocate, hend⟩ := h.of_bind
      have hlookup := lookup_peer hcoherent hresolve
      rcases locates_or_misses hlookup hlocate with ⟨r, rfl, hlocates⟩ | ⟨missed, rfl, hmisses⟩
      · obtain ⟨rfl, rfl, rfl⟩ := hend.of_done
        rw [List.append_nil]
        refine ⟨hlocates.callsOnly hlookup, ?_⟩
        rintro _ _ ⟨⟩
        exact ⟨rfl, hlocates.key_eq⟩
      · obtain ⟨rfl, rfl, rfl⟩ := hend.of_done
        rw [List.append_nil]
        refine ⟨hmisses.callsOnly hlookup, ?_⟩
        rintro _ _ ⟨⟩

/-- An interruption calls nobody but listed hosts that can be called. -/
theorem callsOnly_of_interrupt (hcoherent : ctx.hosts.Coherent) {action : Interrupt}
    {specialId : Int} {requested requester : String}
    (h : RunOn l (interrupt ctx action specialId requested requester) t outcome l') :
    t.CallsOnly (Callee ctx.hosts rerun) := by
  cases hresolve : resolve ctx.hosts requested requester with
  | error refused =>
      obtain ⟨u, found, v, m, rfl, hfind, hrest⟩ := h.of_bind
      have hcalls := (callsOnly_of_find hcoherent rerun hfind).1
      simp only [find, hresolve] at hfind
      obtain ⟨rfl, rfl, rfl⟩ := hfind.of_done
      obtain ⟨rfl, rfl, rfl⟩ := hrest.of_done
      exact hcalls
  | ok parties =>
      have hlookup := lookup_peer hcoherent hresolve
      exact (interrupts_of_runOn hresolve hlookup h).callsOnly hlookup

/-- Nor does a restart, but for the partner of the transfer that it runs. -/
theorem callsOnly_of_restart (hcoherent : ctx.hosts.Coherent) {specialId : Int}
    {requested requester : String}
    (h : RunOn l (restart ctx specialId requested requester time) t outcome l') :
    t.CallsOnly (Callee ctx.hosts
      ((Directive.restart specialId requested requester time).rerunPartner? ctx.hosts)) := by
  obtain ⟨u, found, v, m, rfl, hfind, hrest⟩ := h.of_bind
  obtain ⟨hcalls, hfound⟩ := callsOnly_of_find hcoherent
    ((Directive.restart specialId requested requester time).rerunPartner? ctx.hosts) hfind
  refine hcalls.append ?_
  cases found with
  | error missed =>
      obtain ⟨rfl, -, -⟩ := hrest.of_done
      exact Trace.isApart_nil.callsOnly
  | ok found =>
      obtain ⟨parties, r⟩ := found
      obtain ⟨hresolve, hkey⟩ := hfound parties r rfl
      dsimp only at hrest
      split at hrest
      · obtain ⟨rfl, -, -⟩ := hrest.of_done
        exact Trace.isApart_nil.callsOnly
      · split at hrest
        · next hclient =>
            split at hrest
            · next hlocal =>
                have hnamed :
                    (Directive.restart specialId requested requester time).rerunPartner?
                      ctx.hosts = (rerun? ctx.hosts r.key).map Prod.fst := by
                  simp only [Directive.rerunPartner?, hresolve, hclient, hlocal, Bool.and_self,
                    if_true, hkey]
                rw [hnamed]
                exact (reruns_of_restartLocally hrest).callsOnly hcoherent
            · obtain ⟨rfl, -, -⟩ := hrest.of_done
              exact Trace.isApart_nil.callsOnly
        · next hserver =>
            have hserver' : parties.requester.isClientOnly = false := by simpa using hserver
            have hlisted := lookup_of_entryOf hcoherent (entries_of_resolve hresolve).2 hserver'
            obtain ⟨w, reply, x, n, rfl, hexchange, hanswer⟩ := hrest.of_bind
            obtain ⟨-, hexchanges⟩ := Connection.exchanges_of_runOn hexchange
            refine (hexchanges.callsOnly (.server hlisted hserver')).append ?_
            cases reply with
            | error fault =>
                obtain ⟨rfl, -, -⟩ := hanswer.of_done
                exact Trace.isApart_nil.callsOnly
            | ok answer =>
                obtain ⟨rfl, -, -⟩ := hanswer.of_done
                exact Trace.isApart_nil.callsOnly

/-- A directive calls nobody but listed hosts, and the partner of the transfer that it runs. -/
theorem callsOnly_of_directive (hcoherent : ctx.hosts.Coherent) {directive : Directive}
    (h : RunOn l (directive.program ctx) t outcome l') :
    t.CallsOnly (Callee ctx.hosts (directive.rerunPartner? ctx.hosts)) := by
  cases directive with
  | interrupt action specialId requested requester => exact callsOnly_of_interrupt hcoherent h
  | restart specialId requested requester time => exact callsOnly_of_restart hcoherent h

/-- Whatever the directory, the ledger and the answers: an intervention only asks for sessions to
listed hosts, so never for one to this host when it is not listed.  A host that only opens
sessions is called for a transfer alone, and only as the partner of the order that a restart by
this host runs. -/
theorem callees_of_directive (ctx : Context) (hcoherent : ctx.hosts.Coherent)
    (directive : Directive) (l : Ledger) (answer : Trace → (r : Request) → r.Answer) :
    let run := play (onLedger l answer) (directive.program ctx)
    run.2.CallsOnly fun c =>
      ctx.hosts.lookup c.partner.hostId = .ok c.partner ∧
        (c.partner.isClientOnly = true →
          c.record.isSome = true ∧ directive.rerunPartner? ctx.hosts = some c.partner) := by
  intro run x hx c hconnect
  have hcallee := callsOnly_of_directive hcoherent (runOn_play l answer _) x hx c hconnect
  exact ⟨hcallee.listed, hcallee.rerun_of_clientOnly⟩

/-! ## A partner that only opens sessions -/

/-- A host that nothing can connect to. -/
def sampleCaller : Partner := .clientOnly "laptop"

/-- This host, which is not listed, and one that only opens sessions. -/
def sampleCallerContext : Context where
  hosts := ({ plainId := "here", secureId := "here-tls" } : Directory).addHost sampleCaller
  rules := .ofList []
  policy := .standard

/-- A transfer that this host entered for it. -/
def sampleCallerRecord : Record :=
  { sampleRecord with key := ⟨7, "here", "laptop"⟩ }

theorem sampleCallerContext_coherent : sampleCallerContext.hosts.Coherent :=
  (Directory.coherent_of_nil rfl).addHost sampleCaller

theorem callees_of_directive_sample :
    sampleCallerContext.hosts.Coherent ∧
    (let directive := Directive.restart 7 "laptop" "here" none
    let run := play (onLedger { records := [sampleCallerRecord] } (sampleAnswers .overloaded))
      (directive.program sampleCallerContext)
    run.2.CallsOnly fun c =>
      sampleCallerContext.hosts.lookup c.partner.hostId = .ok c.partner ∧
        (c.partner.isClientOnly = true → c.record.isSome = true ∧
          directive.rerunPartner? sampleCallerContext.hosts = some c.partner)) :=
  ⟨sampleCallerContext_coherent, callees_of_directive sampleCallerContext
    sampleCallerContext_coherent (.restart 7 "laptop" "here" none)
    { records := [sampleCallerRecord] } (sampleAnswers .overloaded)⟩

/-! ## Orders call their partner whatever its role -/

/-- A restart by this host calls the requested host for any record that is here and not done, if
the order means that record.  The role of the requested host makes no difference. -/
theorem called_of_rerun (ctx : Context) (hcoherent : ctx.hosts.Coherent) {specialId : Int}
    {requested requester : String} (time : Option Calendar.Timestamp) {l : Ledger}
    (answer : Trace → (r : Request) → r.Answer) {p q : Partner} {r : Record}
    (hrequested : entryOf ctx.hosts (ctx.hosts.resolve requested) = .ok p)
    (hrequester : entryOf ctx.hosts (ctx.hosts.resolve requester) = .ok q)
    (hlocal : ctx.hosts.isLocal (ctx.hosts.resolve requester) = true)
    (hclient : q.isClientOnly = true)
    (hfound : l.find? ⟨specialId, q.hostId, p.hostId⟩ = some r) (hopen : r.status ≠ .done)
    (hnamed : rerun? ctx.hosts r.key = some (p, r.key)) :
    let run := play (onLedger l answer) (restart ctx specialId requested requester time)
    ∃ x ∈ run.2, ∃ s, x.request = .connect ⟨p, some s, .none⟩ := by
  intro run
  have hkey := Ledger.key_of_find? hfound
  have hresolve := resolve_of_entries hrequested hrequester
  rw [hlocal] at hresolve
  have hrestarts := restartsHere_of_runOn hresolve (lookup_of_entryOf hcoherent hrequested) hclient
    (runOn_play l answer (restart ctx specialId requested requester time))
  cases hrestarts with
  | done found done =>
      obtain rfl := Option.some.inj (found.symm.trans hfound)
      exact absurd done hopen
  | missed h =>
      cases h with
      | unasked missing => cases missing.symm.trans hfound
      | undescribed missing => cases missing.symm.trans hfound
  | rerun split _ _ _ faithful =>
      have hresumed := faithful (hkey ▸ hnamed)
      obtain ⟨x, hx, c, hconnect⟩ := Trace.exists_connect hresumed.called
      obtain ⟨s, rfl, -⟩ := hresumed.attempts x hx c hconnect
      exact ⟨x, split ▸ List.mem_append_right _ hx, s, hconnect⟩

/-- So it calls one that nothing can connect to. -/
example (answer : Trace → (r : Request) → r.Answer) :
    let run := play (onLedger { records := [sampleCallerRecord] } answer)
      (restart sampleCallerContext 7 "laptop" "here" none)
    ∃ x ∈ run.2, ∃ s, x.request = .connect ⟨sampleCaller, some s, .none⟩ :=
  called_of_rerun sampleCallerContext sampleCallerContext_coherent none answer
    (q := .clientOnly "here") rfl rfl rfl rfl rfl (by decide) (by decide)

end Intervention

end Courier
