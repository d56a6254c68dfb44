import Courier.Proofs.Delivery.Lockstep
import Courier.Proofs.Delivery.Preparation
import Courier.Proofs.Delivery.Requests

/-!
# Programs that keep to a record

What is done to a transfer that has a number is about its own record only.  So it makes no
difference to it what the ledger holds under other keys, and it leaves these as they are.

Whether a program keeps to a record depends on what it is answered: the record that was looked up
under a key is filed again under its own.  A ledger gives out a record under its key only.

Main definitions:

- `Program.KeepsTo` says that a program is about the records under some keys only, as long as its
  requests are answered by a ledger.
- `Scene.AgreeOn` relates scenes that only differ in the records under other keys.
- `Errand` is what may be done to a transfer that has a number, and `Errand.key?` its key.

Main statements:

- A program that keeps to some records does the same in scenes that agree on them
  (`agreeOn_runIn`) and leaves all others alone (`find?_runIn_of_not`).
- An errand keeps to the record of its transfer (`Errand.keepsTo_program`).
-/

namespace Courier

open Program

/-! ## Requests -/

/-- Whether an operation is about the record under one of some keys. -/
def Ledger.Op.KeepsTo (K : Record.Key → Prop) : Ledger.Op → Prop
  | .load key | .delete key => K key
  | .insert r | .update r => K r.key
  | _ => False

/-- Whether a request asks for nothing of the ledger but the records under some keys. -/
def Request.KeepsTo (K : Record.Key → Prop) : Request → Prop
  | .ledger op => op.KeepsTo K
  | _ => True

namespace Ledger

variable {K : Record.Key → Prop} {l l' : Ledger} {op : Op} {r : Record} {key : Record.Key}

/-- Whether two ledgers hold the same under some keys. -/
def AgreeOn (K : Record.Key → Prop) (l l' : Ledger) : Prop :=
  ∀ key, K key → l.find? key = l'.find? key

theorem AgreeOn.put (h : AgreeOn K l l') (r : Record) : AgreeOn K (l.put r) (l'.put r) := by
  intro key hkey
  by_cases hsame : key = r.key
  · rw [hsame, find?_put_self, find?_put_self]
  · rw [find?_put_of_ne l hsame, find?_put_of_ne l' hsame]
    exact h key hkey

theorem AgreeOn.erase (h : AgreeOn K l l') (key : Record.Key) :
    AgreeOn K (l.erase key) (l'.erase key) := by
  intro other hother
  by_cases hsame : other = key
  · rw [hsame, find?_erase_self, find?_erase_self]
  · rw [find?_erase_of_ne l hsame, find?_erase_of_ne l' hsame]
    exact h other hother

/-- What an operation is about is all that it makes use of, and all that it changes is told by
that. -/
theorem AgreeOn.perform (h : AgreeOn K l l') (hop : op.KeepsTo K) :
    (l.perform op).1 = (l'.perform op).1 ∧ AgreeOn K (l.perform op).2 (l'.perform op).2 := by
  cases op with
  | load key => exact ⟨h key hop, h⟩
  | delete key =>
      refine ⟨?_, h.erase key⟩
      simp only [Ledger.perform, h key hop]
  | insert r =>
      have hfound := h r.key hop
      simp only [Ledger.perform, insert, hfound]
      cases l'.find? r.key with
      | some stored => exact ⟨rfl, h⟩
      | none => exact ⟨rfl, h.put r⟩
  | update r =>
      have hfound := h r.key hop
      simp only [Ledger.perform, update, hfound]
      cases l'.find? r.key with
      | none => exact ⟨rfl, h⟩
      | some stored =>
          dsimp only
          by_cases hdone : stored.isAllDone ∧ stored ≠ r
          · simp only [if_pos hdone]
            exact ⟨trivial, h⟩
          · by_cases hbehind : stored.status = .running ∧ r.status = .running ∧
                r.rank < stored.rank
            · simp only [if_neg hdone, if_pos hbehind]
              exact ⟨trivial, h⟩
            · simp only [if_neg hdone, if_neg hbehind]
              exact ⟨trivial, h.put r⟩
  | create d now => exact hop.elim
  | mark key status code now => exact hop.elim
  | list => exact hop.elim

/-- The records that an operation is not about stay. -/
theorem find?_perform_of_not (hop : op.KeepsTo K) (hkey : ¬K key) :
    (l.perform op).2.find? key = l.find? key := by
  have hne : ∀ other, K other → key ≠ other := by
    intro other hother hsame
    exact hkey (hsame ▸ hother)
  cases op with
  | load key => rfl
  | delete other => exact find?_erase_of_ne l (hne other hop)
  | insert r =>
      simp only [perform, insert]
      cases l.find? r.key with
      | some stored => rfl
      | none => exact find?_put_of_ne l (hne r.key hop)
  | update r => exact find?_perform_update_of_ne (hne r.key hop)
  | create d now => exact hop.elim
  | mark key status code now => exact hop.elim
  | list => exact hop.elim

end Ledger

/-! ## Scenes -/

/-- Whether two scenes only differ in the records under other keys than some. -/
structure Scene.AgreeOn (K : Record.Key → Prop) (s s' : Scene) : Prop where
  readings : s.readings = s'.readings
  calls : s.calls = s'.calls
  partnerOf : s.partnerOf = s'.partnerOf
  ledger : s.ledger.AgreeOn K s'.ledger

namespace Surroundings

variable {e : Surroundings} {K : Record.Key → Prop} {s s' : Scene} {r : Request}

/-- What a request is answered depends on the records that it is about, and so does the scene
then. -/
theorem agreeOn_answer (h : s.AgreeOn K s') (hr : r.KeepsTo K) :
    (e.answer r s).1 = (e.answer r s').1 ∧ (e.answer r s).2.AgreeOn K (e.answer r s').2 := by
  obtain ⟨ledger, readings, calls, partnerOf⟩ := s
  obtain ⟨ledger', readings', calls', partnerOf'⟩ := s'
  obtain ⟨rfl, rfl, rfl, hledger⟩ := h
  cases r with
  | ledger op =>
      obtain ⟨hanswer, hafter⟩ := Ledger.AgreeOn.perform hledger hr
      exact ⟨hanswer, rfl, rfl, rfl, hafter⟩
  | _ => exact ⟨rfl, rfl, rfl, rfl, hledger⟩

theorem find?_answer_of_not (hr : r.KeepsTo K) {key : Record.Key} (hkey : ¬K key) :
    (e.answer r s).2.ledger.find? key = s.ledger.find? key := by
  cases r with
  | ledger op => exact Ledger.find?_perform_of_not hr hkey
  | _ => rfl

/-- Surroundings answer what is asked of the ledger as a ledger does. -/
theorem keeps_answer (e : Surroundings) (r : Request) (s : Scene) :
    Exchange.Keeps ⟨r, (e.answer r s).1⟩ s.ledger (e.answer r s).2.ledger := by
  cases r <;> rfl

end Surroundings

/-! ## Programs -/

namespace Program

variable {α β : Type} {K : Record.Key → Prop} {Q : α → Prop} {R : β → Prop}

/-- Whether a program is about the records under some keys only and ends with a value of some
kind, as long as a ledger answers what is asked of it. -/
def KeepsTo (K : Record.Key → Prop) (Q : α → Prop) : Program α → Prop
  | .done a => Q a
  | .step r next => r.KeepsTo K ∧
      ∀ answer l l', Exchange.Keeps ⟨r, answer⟩ l l' → KeepsTo K Q (next answer)

theorem keepsTo_done {a : α} (h : Q a) : KeepsTo K Q (.done a) :=
  h

theorem keepsTo_bind {p : Program α} {f : α → Program β} (hp : KeepsTo K Q p)
    (hf : ∀ a, Q a → KeepsTo K R (f a)) : KeepsTo K R (p >>= f) := by
  induction p with
  | done a => exact hf a hp
  | step r next ih =>
      refine ⟨hp.1, ?_⟩
      intro answer l l' hkeeps
      exact ih answer (hp.2 answer l l' hkeeps)

/-- A program whose requests are about these records, whatever is answered. -/
theorem Ensures.keepsTo {p : Program α} (h : Ensures (Request.KeepsTo K) Q p) :
    KeepsTo K Q p := by
  induction p with
  | done a => exact h
  | step r next ih => exact ⟨h.1, fun answer _ _ _ => ih answer (h.2 answer)⟩

theorem Asks.keepsTo {p : Program α} (h : Asks (Request.KeepsTo K) p) :
    KeepsTo K (fun _ => True) p := by
  induction p with
  | done a => trivial
  | step r next ih => exact ⟨h.1, fun answer _ _ _ => ih answer (h.2 answer)⟩

/-- A request whose answer may be any. -/
theorem keepsTo_ask {r : Request} {f : r.Answer → Program β} (hr : r.KeepsTo K)
    (hf : ∀ answer, KeepsTo K R (f answer)) : KeepsTo K R (perform r >>= f) :=
  ⟨hr, fun answer _ _ _ => hf answer⟩

/-- The record that is found under a key has this key. -/
theorem keepsTo_load {key : Record.Key} {f : Option Record → Program β} (hkey : K key)
    (hnone : KeepsTo K R (f none)) (hsome : ∀ r : Record, r.key = key → KeepsTo K R (f (some r))) :
    KeepsTo K R (Program.ledger (.load key) >>= f) := by
  refine ⟨hkey, ?_⟩
  intro answer l l' hkeeps
  obtain ⟨rfl, rfl⟩ := Prod.mk.inj hkeeps
  cases hfound : l.find? key with
  | none => exact hnone
  | some r => exact hsome r (Ledger.key_of_find? hfound)

/-- A program that keeps to some records does the same in scenes that agree on them. -/
theorem agreeOn_runIn {e : Surroundings} {p : Program α} {s s' : Scene} (hp : KeepsTo K Q p)
    (h : s.AgreeOn K s') :
    (runIn e p s).1 = (runIn e p s').1 ∧ (runIn e p s).2.AgreeOn K (runIn e p s').2 := by
  induction p generalizing s s' with
  | done a => exact ⟨rfl, h⟩
  | step r next ih =>
      obtain ⟨hanswer, hafter⟩ := Surroundings.agreeOn_answer (e := e) h hp.1
      have hnext := ih (e.answer r s).1 (hp.2 _ _ _ (e.keeps_answer r s)) hafter
      have hsame : runIn e (.step r next) s' =
          runIn e (next (e.answer r s).1) (e.answer r s').2 := by
        rw [hanswer]
        rfl
      rw [hsame]
      exact hnext

/-- It leaves all others alone. -/
theorem find?_runIn_of_not {e : Surroundings} {p : Program α} {s : Scene} (hp : KeepsTo K Q p)
    {key : Record.Key} (hkey : ¬K key) :
    (runIn e p s).2.ledger.find? key = s.ledger.find? key := by
  induction p generalizing s with
  | done a => rfl
  | step r next ih =>
      have hnext := ih (e.answer r s).1 (s := (e.answer r s).2)
        (hp.2 _ _ _ (e.keeps_answer r s))
      exact hnext.trans (Surroundings.find?_answer_of_not hp.1 hkey)

end Program

/-! ## Transfers that have a number -/

section Kinds

variable {K : Record.Key → Prop} {key : Record.Key}

theorem tends_keepsTo (hkey : K key) : Delivery.Tends key (Request.KeepsTo K) where
  now := trivial
  update := fun _ hr => show K _ from hr ▸ hkey
  delete := hkey
  reportFailure := fun _ => trivial

theorem carries_keepsTo (partner : Partner) (key : Record.Key) (mode : Mode)
    (through : Through) : Delivery.Carries partner key mode through (Request.KeepsTo K) where
  connect := fun _ _ _ => trivial
  clockFraction := trivial
  sleep := fun _ => trivial
  complete := fun _ _ => trivial
  close := fun _ => trivial

theorem deals_keepsTo (partner : Partner) : Connection.Deals partner (Request.KeepsTo K) where
  connect := trivial
  clockFraction := trivial
  sleep := fun _ => trivial
  ask := fun _ _ _ => trivial
  close := fun _ => trivial

/-- Whether a record, if it was found, is the one under a key. -/
def IsUnder (key : Record.Key) : Except Outcome Record → Prop
  | .ok r => r.key = key
  | .error _ => True

/-! ### Orders -/

namespace Preparation

/-- A record that is found by number is filed again under its own key. -/
theorem keepsTo_recoverRecord (hkey : K key) (order : Order) :
    KeepsTo K (IsUnder key) (recoverRecord order key .direct) := by
  refine keepsTo_load hkey (keepsTo_done trivial) fun r hr => ?_
  have hamended : (amend r order).key = key := (amend_key r order).trans hr
  dsimp only
  split
  · exact keepsTo_done trivial
  · refine keepsTo_ask (show K _ from hamended ▸ hkey) fun updated => ?_
    cases updated with
    | error fault => exact keepsTo_done trivial
    | ok _ => exact keepsTo_done hamended

end Preparation

namespace Delivery

/-- An order for the transfer with a number keeps to its record. -/
theorem keepsTo_run {ctx : Context} {order : Order} {id : Int} {partner : Partner}
    (hid : order.fixedId = some id) (hlookup : ctx.hosts.lookup order.partner = .ok partner)
    (hkey : K ⟨id, ctx.hosts.localId partner.useTls, partner.hostId⟩) :
    KeepsTo K (fun _ => True) (run ctx order) := by
  simp only [run, carryOut, Preparation.prepare, hlookup, Preparation.findRecord, hid, bind_assoc]
  refine keepsTo_bind (Preparation.keepsTo_recoverRecord hkey order) fun found hfound => ?_
  cases found with
  | error outcome => exact keepsTo_done trivial
  | ok r =>
      have htends : Tends r.key (Request.KeepsTo K) := by
        rw [show r.key = _ from hfound]
        exact tends_keepsTo hkey
      let p : Prepared := ⟨partner, r, order.noLog⟩
      exact (ensures_connect_finish (p := p) htends (carries_keepsTo _ _ _ _) _).keepsTo

end Delivery

/-! ### Interventions -/

namespace Intervention

theorem keepsTo_adopt (hkey : K key) (r : Record) :
    KeepsTo K (IsUnder key) (adopt key r) := by
  unfold adopt
  by_cases hsame : r.key = key
  · rw [if_neg fun hne => hne hsame]
    split
    · exact keepsTo_done trivial
    · refine keepsTo_ask trivial fun now => ?_
      refine keepsTo_ask (show K r.key from hsame ▸ hkey) fun inserted => ?_
      cases inserted with
      | error fault => exact keepsTo_done trivial
      | ok _ => exact keepsTo_done (show r.key = key from hsame)
  · rw [if_pos hsame]
    exact keepsTo_done trivial

theorem keepsTo_locate (hkey : K key) (ctx : Context) (peer : Partner) :
    KeepsTo K (IsUnder key) (locate ctx key peer) := by
  refine keepsTo_load hkey ?_ ?_
  · dsimp only
    split
    · exact keepsTo_done trivial
    · refine keepsTo_bind (Inquiry.asks_describe deals_keepsTo ctx _ key).keepsTo ?_
      intro described _
      cases described with
      | error fault => exact keepsTo_done trivial
      | ok r => exact keepsTo_adopt hkey r
  · intro r hr
    exact keepsTo_done (show r.key = key from hr)

theorem keepsTo_breakOff {r : Record} (hkey : K r.key) (action : Interrupt) :
    KeepsTo K (fun _ => True) (breakOff action r) := by
  refine keepsTo_ask trivial fun now => ?_
  have hmarked : K (action.mark r now).key := by
    cases action <;> exact hkey
  exact keepsTo_bind (Delivery.ensures_save (tends_keepsTo hmarked) rfl).keepsTo
    fun _ _ => keepsTo_done trivial

theorem keepsTo_interpretInterrupt {r : Record} (hkey : K r.key) (action : Interrupt)
    (answer : Answer) : KeepsTo K (fun _ => True) (interpretInterrupt action r answer) := by
  unfold interpretInterrupt
  by_cases hdone : answer.code = .completeOk
  · rw [if_pos hdone]
    exact keepsTo_bind (keepsTo_breakOff hkey action) fun _ _ => keepsTo_done trivial
  · rw [if_neg hdone]
    by_cases hended : answer.code = .transferOk
    · rw [if_pos hended]
      exact keepsTo_done trivial
    · rw [if_neg hended]
      exact keepsTo_done trivial

/-- Breaking off a transfer keeps to its record. -/
theorem keepsTo_interrupt {ctx : Context} {specialId : Int} {requested requester : String}
    {parties : Parties} (hresolve : resolve ctx.hosts requested requester = .ok parties)
    (hkey : K (parties.key specialId)) (action : Interrupt) :
    KeepsTo K (fun _ => True) (interrupt ctx action specialId requested requester) := by
  simp only [interrupt, find, hresolve, bind_assoc]
  refine keepsTo_bind (keepsTo_locate hkey ctx parties.peer) fun found hfound => ?_
  cases found with
  | error outcome => exact keepsTo_done trivial
  | ok r =>
      have hr : K r.key := by
        rw [show r.key = _ from hfound]
        exact hkey
      simp only [pure_eq, done_bind]
      split
      · exact keepsTo_done trivial
      · split
        · exact keepsTo_bind (keepsTo_breakOff hr action) fun _ _ => keepsTo_done trivial
        · refine keepsTo_bind (Connection.ensures_exchange (deals_keepsTo _) _ _).keepsTo ?_
          intro answer _
          cases answer with
          | error fault => exact keepsTo_done trivial
          | ok answer => exact keepsTo_interpretInterrupt hr action answer

end Intervention

end Kinds

/-! ## Errands -/

/-- What may be done to a transfer that has a number. -/
inductive Errand where
  /-- Carry out an order for the transfer with a number. -/
  | run (order : Order) (id : Int)
  /-- Cancel or stop a transfer. -/
  | interrupt (action : Intervention.Interrupt) (specialId : Int) (requested requester : String)

namespace Errand

/-- The program of an errand. -/
def program (ctx : Context) : Errand → Program Outcome
  | run order id => Delivery.run ctx { order with fixedId := some id }
  | interrupt action specialId requested requester =>
      Intervention.interrupt ctx action specialId requested requester

/-- The key of the transfer, or none when one of its hosts is unknown. -/
def key? (ctx : Context) : Errand → Option Record.Key
  | run order id =>
      match ctx.hosts.lookup order.partner with
      | .ok partner => some ⟨id, ctx.hosts.localId partner.useTls, partner.hostId⟩
      | .error _ => none
  | interrupt _ specialId requested requester =>
      match Intervention.resolve ctx.hosts requested requester with
      | .ok parties => some (parties.key specialId)
      | .error _ => none

/-- An errand keeps to the record of its transfer, and to none when there is no such transfer. -/
theorem keepsTo_program (ctx : Context) (errand : Errand) :
    KeepsTo (fun key => errand.key? ctx = some key) (fun _ => True) (errand.program ctx) := by
  cases errand with
  | run order id =>
      cases hlookup : ctx.hosts.lookup order.partner with
      | ok partner => exact Delivery.keepsTo_run rfl hlookup (by simp only [key?, hlookup])
      | error fault =>
          simp only [program, Delivery.run, Delivery.carryOut, Preparation.prepare, hlookup]
          exact keepsTo_done trivial
  | interrupt action specialId requested requester =>
      cases hresolve : Intervention.resolve ctx.hosts requested requester with
      | ok parties =>
          exact Intervention.keepsTo_interrupt hresolve (by simp only [key?, hresolve]) action
      | error outcome =>
          simp only [program, Intervention.interrupt, Intervention.find, hresolve]
          exact keepsTo_done trivial

end Errand

end Courier
