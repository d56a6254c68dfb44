import Courier.Proofs.Delivery.Endings
import Courier.Proofs.Delivery.Interruption

/-!
# Where the record of a transfer comes from

A record is entered for an order when the order is prepared, or not at all.  All that is done to a
transfer after that, and all that is done to one that has a record, enters none, so that the records
which a run entered can be counted order by order.

Main definitions:

- `Request.CreatesNone` is the kind of requests that ask for no new record.

Main statements:

- An order that is not for a stream is prepared with the record that it has come by
  (`obtains_of_prepare`).
- An order is filed, or carried out, with the record that it has come by, and until then nobody is
  called (`obtains_of_submit`, `obtains_of_run`).
-/

namespace Courier

open Program

/-! ## Requests for no record -/

/-- Whether a request asks for no new record. -/
def Request.CreatesNone : Request → Prop
  | .ledger (.create _ _) => False
  | _ => True

theorem Trace.created_of_createsNone {t : Trace} (h : ∀ x ∈ t, x.request.CreatesNone) :
    t.created = [] := by
  apply List.filterMap_eq_nil_iff.2
  rintro ⟨r, answer⟩ hx
  have hnone : r.CreatesNone := h _ hx
  cases r with
  | ledger op =>
      cases op with
      | create d now => cases hnone
      | _ => rfl
  | _ => rfl

/-- The requests of a transfer that has a record ask for no new one. -/
theorem reuses_createsNone : Delivery.Reuses Request.CreatesNone where
  seeks := ⟨trivial, fun _ => trivial, fun _ => trivial, fun _ =>
    ⟨trivial, trivial, fun _ => trivial, fun _ _ _ => trivial, fun _ => trivial⟩⟩
  recovers := ⟨trivial, fun _ => trivial, fun _ => trivial⟩
  tends _ := ⟨trivial, fun _ _ => trivial, trivial, fun _ => trivial⟩
  carries _ _ _ _ :=
    ⟨fun _ _ _ => trivial, trivial, fun _ => trivial, fun _ _ => trivial, fun _ => trivial⟩

/-! ## Preparation -/

/-- An order that is not for a stream is prepared with the record that it has come by. -/
theorem Preparation.obtains_of_prepare {ctx : Context} {order : Order} {partner : Partner}
    {kind : Kind} {l l' : Ledger} {t : Trace} {result : Except Outcome Prepared}
    (hpartner : ctx.hosts.lookup order.partner = .ok partner) (hkind : kind.isThrough = false)
    (h : RunOn l (prepare ctx order kind) t result l') :
    ∃ found, Obtains ctx order partner kind l t found l' ∧
      result = found.map fun r => ⟨partner, r, order.noLog⟩ := by
  simp only [prepare, hpartner] at h
  obtain ⟨u, found, v, m, rfl, hfind, hrest⟩ := h.of_bind
  have hobtains := (obtains_of_findRecord hpartner hfind).1
  cases found with
  | error outcome =>
      obtain ⟨rfl, rfl, rfl⟩ := hrest.of_done
      rw [List.append_nil]
      exact ⟨_, hobtains, rfl⟩
  | ok r =>
      simp only [markTransient, hkind, Bool.false_and, Bool.false_eq_true, if_false] at hrest
      obtain ⟨rfl, rfl, rfl⟩ := hrest.of_done
      rw [List.append_nil]
      exact ⟨_, hobtains, rfl⟩

namespace Delivery

variable {ctx : Context} {order : Order} {partner : Partner} {l l' : Ledger} {t : Trace}
  {outcome : Outcome}

/-! ## Filing -/

/-- What filing an order says of the record that was looked for. -/
def filed : Except Outcome Record → Outcome
  | .ok r => .succeeded .initOk (some r)
  | .error outcome => outcome

/-- An order is filed with the record that it has come by, and nobody is called. -/
theorem obtains_of_submit (hpartner : ctx.hosts.lookup order.partner = .ok partner)
    (h : RunOn l (submit ctx order) t outcome l') :
    t.IsApart ∧ ∃ found, Preparation.Obtains ctx order partner .submit l t found l' ∧
      outcome = filed found := by
  have hapart : t.IsApart := h.1.request_of_mem (asks_submit Preparation.allows_isApart ctx order)
  obtain ⟨u, result, v, m, rfl, hprepare, hrest⟩ := h.of_bind
  obtain ⟨found, hobtains, rfl⟩ := Preparation.obtains_of_prepare hpartner rfl hprepare
  cases found with
  | error outcome =>
      obtain ⟨rfl, rfl, rfl⟩ := hrest.of_done
      rw [List.append_nil]
      exact ⟨fun x hx => hapart x (List.mem_append_left _ hx), _, hobtains, rfl⟩
  | ok r =>
      obtain ⟨rfl, rfl, rfl⟩ := hrest.of_done
      rw [List.append_nil]
      exact ⟨fun x hx => hapart x (List.mem_append_left _ hx), _, hobtains, rfl⟩

/-! ## Carrying out -/

/-- What is done once an order was prepared enters no new record. -/
theorem created_connect_finish {policy : Policy} {through : Through} {p : Prepared}
    (h : Run (connect policy through p >>= fun
      | .error outcome => .done outcome
      | .ok (session, p) => finish policy session p) t outcome) : t.created = [] :=
  Trace.created_of_createsNone (h.request_of_mem
    (ensures_connect_finish (reuses_createsNone.tends _) (reuses_createsNone.carries _ _ _ _)
      policy).asks)

/-- An order that is carried out is carried out with the record that it has come by, and until
then nobody is called. -/
theorem obtains_of_run (hpartner : ctx.hosts.lookup order.partner = .ok partner)
    (h : RunOn l (run ctx order) t outcome l') :
    ∃ u v found m, t = u ++ v ∧ u.IsApart ∧
      Preparation.Obtains ctx order partner .direct l u found m ∧ v.created = [] ∧
      match found with
      | .error refused => v = [] ∧ outcome = refused ∧ l' = m
      | .ok r => RunOn m (connect ctx.policy .none ⟨partner, r, order.noLog⟩ >>= fun
          | .error outcome => .done outcome
          | .ok (session, p) => finish ctx.policy session p) v outcome l' := by
  obtain ⟨u, result, v, m, rfl, hprepare, hrest⟩ := h.of_bind
  have hapart : u.IsApart := hprepare.1.request_of_mem
    (Preparation.ensures_prepare Preparation.allows_isApart ctx order .direct).asks
  obtain ⟨found, hobtains, rfl⟩ := Preparation.obtains_of_prepare hpartner rfl hprepare
  refine ⟨u, v, found, m, rfl, hapart, hobtains, ?_⟩
  cases found with
  | error refused =>
      obtain ⟨rfl, rfl, rfl⟩ := hrest.of_done
      exact ⟨rfl, rfl, rfl, rfl⟩
  | ok r => exact ⟨created_connect_finish hrest.1, hrest⟩

end Delivery

end Courier
