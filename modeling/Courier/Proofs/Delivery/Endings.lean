import Mathlib.Logic.ExistsUnique
import Courier.Proofs.Delivery.Preparation
import Courier.Proofs.Delivery.Stages

/-!
# Endings of a transfer

Carrying out an order ends in one of three ways: it is refused, it goes well, or it fails.  The
outcome, the record, what the ledger holds and what was reported agree in each of them.

Main definitions:

- `Delivery.IsRefused`, `Delivery.Succeeds` and `Delivery.Fails` are the three ways, which
  `Delivery.Ends` names.

Main statements:

- Carrying out an order ends in exactly one of the three ways (`existsUnique_ends_run`).
-/

namespace Courier

open Program

namespace Delivery

/-! ## Ways to end -/

/-- The order is refused: nobody was called, no failure was reported and nothing has changed. -/
structure IsRefused (ctx : Context) (order : Order) (l : Ledger) (t : Trace) (outcome : Outcome)
    (l' : Ledger) : Prop where
  refusal : Preparation.Refusal ctx order .direct l outcome
  connects : t.connects = []
  failures : t.failures = []
  unchanged : l' = l

/-- The transfer goes well: the transport reports a success and nothing else, and the record is
done, its rank the greater one of that before and the reported one.  The ledger holds just this
record, or none when the order asks for no log. -/
structure Succeeds (ctx : Context) (order : Order) (l : Ledger) (completion : Completion)
    (r : Record) (t : Trace) (outcome : Outcome) (l' : Ledger) : Prop where
  accepted : ∀ refused, ¬ Preparation.Refusal ctx order .direct l refused
  connects : t.connects ≠ []
  completions : t.completions = [.ok completion]
  success : completion.success = true
  failures : t.failures = []
  outcome : outcome = .succeeded .completeOk (some r)
  key : Preparation.orderedKey? ctx order l = some r.key
  status : r.status = .done
  code : r.errorCode = .completeOk
  message : r.errorMessage = none
  rank : r.rank = max (Preparation.rankBefore ctx order l) (completion.rank.getD 0)
  stored : l'.find? r.key = if order.noLog then none else some r
  others : AgreeExcept r.key l l'

/-- The transfer fails: the record is in error with the code and the cause of the outcome, and
was reported once.  The ledger holds just this record, or none when it is not meant to be kept. -/
structure Fails (ctx : Context) (order : Order) (l : Ledger) (r : Record) (t : Trace)
    (outcome : Outcome) (l' : Ledger) : Prop where
  accepted : ∀ refused, ¬ Preparation.Refusal ctx order .direct l refused
  connects : t.connects ≠ []
  failures : t.failures = [r]
  failure : outcome.success = false
  record : outcome.record = some r
  key : Preparation.orderedKey? ctx order l = some r.key
  status : r.status = .inError
  code : r.errorCode = outcome.code
  message : r.errorMessage = outcome.cause
  stored : l'.find? r.key = if order.noLog || r.ignoreSave then none else some r
  others : AgreeExcept r.key l l'

/-- The ways in which carrying out an order ends. -/
inductive Ending where
  | refused
  | succeeded
  | failed
deriving DecidableEq, Repr

/-- The way in which a run ends, told by its trace, its outcome and the ledger after it. -/
inductive Ends (ctx : Context) (order : Order) (l : Ledger) (t : Trace) (outcome : Outcome)
    (l' : Ledger) : Ending → Prop where
  | refused (h : IsRefused ctx order l t outcome l') : Ends ctx order l t outcome l' .refused
  | succeeded {completion : Completion} {r : Record}
      (h : Succeeds ctx order l completion r t outcome l') : Ends ctx order l t outcome l' .succeeded
  | failed {r : Record} (h : Fails ctx order l r t outcome l') : Ends ctx order l t outcome l' .failed

variable {ctx : Context} {order : Order} {l l' : Ledger} {t : Trace} {outcome : Outcome}

/-- No run ends in two ways. -/
theorem Ends.unique {e e' : Ending} (h : Ends ctx order l t outcome l' e)
    (h' : Ends ctx order l t outcome l' e') : e = e' := by
  cases h with
  | refused h =>
      cases h' with
      | refused _ => rfl
      | succeeded h' => exact absurd h.connects h'.connects
      | failed h' => exact absurd h.connects h'.connects
  | succeeded h =>
      cases h' with
      | refused h' => exact absurd h'.connects h.connects
      | succeeded _ => rfl
      | failed h' => simpa [h.failures] using h'.failures
  | failed h =>
      cases h' with
      | refused h' => exact absurd h'.connects h.connects
      | succeeded h' => simpa [h'.failures] using h.failures
      | failed _ => rfl

/-- A transfer that was prepared ends well or in error. -/
theorem ends_of_finishes {p : Prepared} {m : Ledger} {u : Trace}
    (hholds : Preparation.Holds ctx order .direct l p.record m) (hnoLog : p.noLog = order.noLog)
    (hplain : t.Plain) (hconnects : u.connects ≠ []) (h : Finishes m p u outcome l') :
    ∃ ending, Ends ctx order l (t ++ u) outcome l' ending := by
  have hcalled : Trace.connects (t ++ u) ≠ [] := by
    rw [Trace.connects_append, hplain.connects]
    exact hconnects
  have hfailures : Trace.failures (t ++ u) = u.failures := by
    rw [Trace.failures_append, hplain.failures, List.nil_append]
  have hcompletions : Trace.completions (t ++ u) = u.completions := by
    rw [Trace.completions_append, hplain.completions, List.nil_append]
  cases h with
  | well success completions failures h =>
      have hothers : AgreeExcept _ l m := h.key ▸ hholds.others
      refine ⟨.succeeded, Ends.succeeded ⟨hholds.accepted, hcalled, hcompletions.trans completions,
        success, hfailures.trans failures, h.outcome, ?_, h.status, h.code, h.message, ?_, ?_,
        hothers.trans h.others⟩⟩
      · rw [hholds.key, h.key]
      · rw [h.rank, hholds.rank]
      · rw [h.stored, hnoLog]
  | inError h =>
      have hothers : AgreeExcept _ l m := h.key ▸ hholds.others
      refine ⟨.failed, Ends.failed ⟨hholds.accepted, hcalled, hfailures.trans h.failures, h.success,
        h.record, ?_, h.status, h.code, h.message, ?_, hothers.trans h.others⟩⟩
      · rw [hholds.key, h.key]
      · rw [h.stored, hnoLog]

theorem exists_ends (h : RunOn l (run ctx order) t outcome l') :
    ∃ ending, Ends ctx order l t outcome l' ending := by
  obtain ⟨u, result, v, m, rfl, hprepare, hrest⟩ := h.of_bind
  obtain ⟨hprepares, hplain⟩ := Preparation.prepares_prepare hprepare
  cases hprepares with
  | refused hrefusal =>
      obtain ⟨rfl, rfl, rfl⟩ := hrest.of_done
      rw [List.append_nil]
      exact ⟨.refused, Ends.refused ⟨hrefusal, hplain.connects, hplain.failures, rfl⟩⟩
  | ready hholds hnoLog _ =>
      obtain ⟨hfinishes, hconnects⟩ := finishes_of_ready hrest hholds.ready
      exact ends_of_finishes hholds hnoLog hplain hconnects hfinishes

/-- Whatever the hosts, the rules and the bounds, whatever the order and the ledger, and whatever
is answered by all but the ledger, carrying out the order comes to an end, and this is exactly
one of the three ways. -/
theorem existsUnique_ends_run (ctx : Context) (order : Order) (l : Ledger)
    (answer : Trace → (r : Request) → r.Answer) :
    let run := play (onLedger l answer) (Delivery.run ctx order)
    ∃! ending, Ends ctx order l run.2 run.1 (run.2.ledgerAfter l) ending := by
  intro run
  obtain ⟨ending, hends⟩ := exists_ends (runOn_play l answer (Delivery.run ctx order))
  exact ⟨ending, hends, fun _ h => h.unique hends⟩

end Delivery

end Courier
