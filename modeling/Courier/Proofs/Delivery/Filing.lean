import Courier.Delivery.Transfer
import Courier.Proofs.Session.Runs
import Courier.Proofs.Transfer.LedgerStep

/-!
# Filing the record of a transfer

What the programs of a transfer do to the ledger: they change the record of the transfer and
take it out, and nothing else.

Main definitions:

- `Trace.Plain` is a trace in which nobody but the ledger, the clock and the files was asked.
- `AgreeExcept` relates ledgers that differ under one key at most.
- `Delivery.Ready` says that the ledger holds a record, which can still be changed.

Main statements:

- A record that is filed in place of a ready one is accepted (`runOn_save`).
-/

namespace Courier

open Program

/-! ## Plain traces -/

/-- Whether a trace has no attempts to open a session, no reports of a failure and none of the
transport. -/
structure Trace.Plain (t : Trace) : Prop where
  connects : t.connects = []
  failures : t.failures = []
  completions : t.completions = []

namespace Trace.Plain

theorem nil : Trace.Plain [] :=
  ⟨rfl, rfl, rfl⟩

theorem append {t u : Trace} (ht : t.Plain) (hu : u.Plain) : Trace.Plain (t ++ u) := by
  refine ⟨?_, ?_, ?_⟩
  · rw [Trace.connects_append, ht.connects, hu.connects, List.append_nil]
  · rw [Trace.failures_append, ht.failures, hu.failures, List.append_nil]
  · rw [Trace.completions_append, ht.completions, hu.completions, List.append_nil]

theorem cons {x : Exchange} {t : Trace} (hx : Trace.Plain [x]) (ht : t.Plain) :
    Trace.Plain (x :: t) :=
  append hx ht

end Trace.Plain

/-! ## Ledgers that differ under one key -/

/-- Whether two ledgers hold the same under all keys but one. -/
def AgreeExcept (key : Record.Key) (l l' : Ledger) : Prop :=
  ∀ other, other ≠ key → l'.find? other = l.find? other

namespace AgreeExcept

variable {key : Record.Key} {l m n : Ledger}

theorem refl (key : Record.Key) (l : Ledger) : AgreeExcept key l l :=
  fun _ _ => rfl

theorem trans (h : AgreeExcept key l m) (h' : AgreeExcept key m n) : AgreeExcept key l n :=
  fun other hne => (h' other hne).trans (h other hne)

theorem put (l : Ledger) (r : Record) : AgreeExcept r.key l (l.put r) :=
  fun _ hne => Ledger.find?_put_of_ne l hne

theorem create (l : Ledger) (r : Record) (next : Int) :
    AgreeExcept r.key l { l.put r with nextId := next } :=
  put l r

theorem erase (l : Ledger) (key : Record.Key) : AgreeExcept key l (l.erase key) :=
  fun _ hne => Ledger.find?_erase_of_ne l hne

end AgreeExcept

namespace Delivery

/-! ## Filed records -/

/-- A record that is held by the ledger and not done. -/
structure Ready (l : Ledger) (r : Record) : Prop where
  stored : l.find? r.key = some r
  notDone : r.status ≠ .done

variable {l l' : Ledger} {t : Trace} {r s : Record}

/-- A ready record is replaced by any one that does not take back its rank. -/
theorem Ready.perform_update (h : Ready l r) (hkey : s.key = r.key)
    (hrank : s.rank = r.rank ∨ s.status ≠ .running) :
    l.perform (.update s) = (.ok (), l.put s) := by
  refine Ledger.perform_update (hkey ▸ h.stored) ⟨fun hdone => absurd hdone h.notDone, ?_⟩
  intro _ hrunning
  rcases hrank with hrank | hne
  · exact Nat.le_of_eq hrank.symm
  · exact absurd hrunning hne

/-- An update of a ready record is accepted. -/
theorem runOn_update {α : Type} {a : α} {f : Except TransferFault Unit → Program α}
    (h : RunOn l (ledger (.update s) >>= f) t a l') (hready : Ready l r) (hkey : s.key = r.key)
    (hrank : s.rank = r.rank ∨ s.status ≠ .running) :
    ∃ u, t = ⟨.ledger (.update s), .ok ()⟩ :: u ∧ RunOn (l.put s) (f (.ok ())) u a l' := by
  have hrest := h.of_ledger
  rw [hready.perform_update hkey hrank] at hrest
  exact hrest

/-- A record that is filed in place of a ready one is accepted. -/
theorem runOn_save {u : Unit} (h : RunOn l (save s) t u l') (hready : Ready l r)
    (hkey : s.key = r.key) (hrank : s.rank = r.rank ∨ s.status ≠ .running) :
    l' = l.put s ∧ t.Plain := by
  obtain ⟨v, rfl, hdone⟩ := runOn_update h hready hkey hrank
  obtain ⟨rfl, -, rfl⟩ := hdone.of_done
  exact ⟨rfl, rfl, rfl, rfl⟩

/-- A record that is taken out leaves nothing under its key. -/
theorem runOn_discard {u : Unit} (h : RunOn l (discard r) t u l') :
    l' = l.erase r.key ∧ t.Plain := by
  obtain ⟨v, rfl, hdone⟩ := h.of_ledger
  obtain ⟨rfl, -, rfl⟩ := hdone.of_done
  exact ⟨rfl, rfl, rfl, rfl⟩

end Delivery

end Courier
