import Courier.Delivery.Batch
import Courier.Delivery.Intervention
import Mathlib.Data.List.Forall2

/-!
# Aliases

A host may be named by an alias wherever the name is resolved first: in orders, in interventions
and in batches.  Orders and interventions are the very same programs then.  A batch repeats the
names in its news and in its outcomes, so its programs are related and not equal.

Questions to a partner are asked by the name as it is given.  An alias is unknown to them, and a
pattern stands for no files of a partner that is named so.

Main definitions:

- `Directory.StandsFor` says that a name is an alias of a listed host and nothing else, and
  `Directory.SameHost` that two names are the same but for this alias.
- `Program.Echoes` relates programs that do the same but for the names of partners in their news.
- `Tally.Echoes` relates the outcomes of such programs.

Main statements:

- An order is the same under the alias (`StandsFor.complete_eq`), and so are interventions
  (`StandsFor.interrupt_eq`, `StandsFor.restart_eq`).
- A batch does the same under the alias unless a partner is asked for files
  (`StandsFor.echoes_run`); nobody is asked under the alias (`StandsFor.resolveRemote_eq`).
-/

namespace Courier

open Program

/-! ## Directories -/

namespace Directory

/-- Whether a name is an alias of a listed host and nothing else.  Neither name is empty or has
blanks at its ends. -/
structure StandsFor (d : Directory) (nickname host : String) : Prop where
  stands : d.aliases.lookup nickname = some host
  itself : d.aliases.lookup host = none
  listed : ∃ p, d.lookup host = .ok p
  unlisted : d.hosts.lookup nickname = none
  foreign : d.isLocal nickname = false
  trimmed : Text.trim nickname = nickname
  hostTrimmed : Text.trim host = host
  nonempty : nickname ≠ ""
  hostNonempty : host ≠ ""

/-- Whether two names are the same, but for an alias in place of its host. -/
def SameHost (nickname host : String) (name name' : String) : Prop :=
  name = name' ∨ (name = nickname ∧ name' = host)

theorem isEmpty_eq_of_sameHost {nickname host : String} {names names' : List String}
    (h : List.Forall₂ (SameHost nickname host) names names') :
    names.isEmpty = names'.isEmpty := by
  cases h <;> rfl

namespace StandsFor

variable {d : Directory} {nickname host name name' : String}

theorem resolve_nickname (h : d.StandsFor nickname host) : d.resolve nickname = host := by
  rw [resolve, h.stands, Option.getD_some]

theorem resolve_host (h : d.StandsFor nickname host) : d.resolve host = host := by
  rw [resolve, h.itself, Option.getD_none]

theorem resolve_eq (h : d.StandsFor nickname host) (hname : SameHost nickname host name name') :
    d.resolve name = d.resolve name' := by
  rcases hname with rfl | ⟨rfl, rfl⟩
  · rfl
  · rw [h.resolve_nickname, h.resolve_host]

/-- Nothing is listed under the alias itself. -/
theorem lookup_nickname (h : d.StandsFor nickname host) :
    d.lookup nickname = .error (.unknownHost nickname) := by
  rw [lookup, h.unlisted]

/-! ## Orders -/

/-- An order under the alias is the order under the host. -/
theorem complete_eq (h : d.StandsFor nickname host) (f : Order.Form)
    (hname : SameHost nickname host name name') :
    { f with partner := name }.complete d = { f with partner := name' }.complete d := by
  rcases hname with rfl | ⟨rfl, rfl⟩
  · rfl
  · simp only [Order.Form.complete, Order.Form.order, h.trimmed, h.hostTrimmed, h.nonempty,
      h.hostNonempty, h.resolve_nickname, h.resolve_host, if_false]
    rfl

end StandsFor

end Directory

/-! ## Interventions -/

namespace Directory.StandsFor

variable {ctx : Context} {nickname host : String}
  {requested requested' requester requester' : String}

theorem resolveParties_eq (h : ctx.hosts.StandsFor nickname host)
    (hrequested : SameHost nickname host requested requested')
    (hrequester : SameHost nickname host requester requester') :
    Intervention.resolve ctx.hosts requested requester =
      Intervention.resolve ctx.hosts requested' requester' := by
  rw [Intervention.resolve, Intervention.resolve, h.resolve_eq hrequested,
    h.resolve_eq hrequester]

theorem find_eq (h : ctx.hosts.StandsFor nickname host) (specialId : Int)
    (hrequested : SameHost nickname host requested requested')
    (hrequester : SameHost nickname host requester requester') :
    Intervention.find ctx specialId requested requester =
      Intervention.find ctx specialId requested' requester' := by
  rw [Intervention.find, Intervention.find, h.resolveParties_eq hrequested hrequester]

/-- Breaking a transfer off is the same program under the alias, for either end. -/
theorem interrupt_eq (h : ctx.hosts.StandsFor nickname host) (action : Intervention.Interrupt)
    (specialId : Int) (hrequested : SameHost nickname host requested requested')
    (hrequester : SameHost nickname host requester requester') :
    Intervention.interrupt ctx action specialId requested requester =
      Intervention.interrupt ctx action specialId requested' requester' := by
  rw [Intervention.interrupt, Intervention.interrupt, h.find_eq specialId hrequested hrequester]

/-- So is restarting it. -/
theorem restart_eq (h : ctx.hosts.StandsFor nickname host) (specialId : Int)
    (time : Option Calendar.Timestamp) (hrequested : SameHost nickname host requested requested')
    (hrequester : SameHost nickname host requester requester') :
    Intervention.restart ctx specialId requested requester time =
      Intervention.restart ctx specialId requested' requester' time := by
  rw [Intervention.restart, Intervention.restart, h.find_eq specialId hrequested hrequester]

end Directory.StandsFor

/-! ## Programs with news -/

/-- Whether two pieces of news are the same but for the name of the partner. -/
inductive Progress.Echoes (N : String → String → Prop) : Progress → Progress → Prop where
  | started {name name' file : String} (h : N name name') :
      Echoes N (.started name file) (.started name' file)
  | finished {name name' file : String} {success : Bool} {code : ResultCode} (h : N name name') :
      Echoes N (.finished name file success code) (.finished name' file success code)

namespace Program

variable {α β γ δ : Type} {N : String → String → Prop} {R : α → β → Prop} {S : γ → δ → Prop}

/-- Whether two programs make the same requests but for the names in their news, and go on alike
for every answer. -/
inductive Echoes (N : String → String → Prop) (R : α → β → Prop) :
    Program α → Program β → Prop where
  | done {a : α} {b : β} (h : R a b) : Echoes N R (.done a) (.done b)
  | step {r : Request} {next : r.Answer → Program α} {next' : r.Answer → Program β}
      (h : ∀ answer, Echoes N R (next answer) (next' answer)) :
      Echoes N R (.step r next) (.step r next')
  | news {p p' : Progress} {next : Unit → Program α} {next' : Unit → Program β}
      (same : p.Echoes N p') (h : Echoes N R (next ()) (next' ())) :
      Echoes N R (.step (.reportProgress p) next) (.step (.reportProgress p') next')

theorem Echoes.refl (p : Program α) : Echoes N Eq p p := by
  induction p with
  | done a => exact .done rfl
  | step r next ih => exact .step ih

theorem Echoes.bind {p : Program α} {q : Program β} {f : α → Program γ} {g : β → Program δ}
    (h : Echoes N R p q) (hf : ∀ a b, R a b → Echoes N S (f a) (g b)) :
    Echoes N S (p >>= f) (q >>= g) := by
  induction h with
  | done h => exact hf _ _ h
  | step _ ih => exact .step ih
  | news same _ ih => exact .news same ih

/-- The same program may be followed by others that do alike. -/
theorem Echoes.bind_self {p : Program α} {f : α → Program γ} {g : α → Program δ}
    (hf : ∀ a, Echoes N S (f a) (g a)) : Echoes N S (p >>= f) (p >>= g) := by
  refine (Echoes.refl p).bind fun a b hab => ?_
  subst hab
  exact hf a

/-- Two programs may choose alike. -/
theorem Echoes.ite {c : Prop} [Decidable c] {p p' : Program α} {q q' : Program β}
    (h : Echoes N R p q) (h' : Echoes N R p' q') :
    Echoes N R (if c then p else p') (if c then q else q') := by
  split
  · exact h
  · exact h'

/-- News come first, and what follows does alike. -/
theorem Echoes.report {p p' : Progress} {f : Unit → Program γ} {g : Unit → Program δ}
    (same : p.Echoes N p') (h : Echoes N S (f ()) (g ())) :
    Echoes N S (perform (.reportProgress p) >>= f) (perform (.reportProgress p') >>= g) :=
  .news same h

end Program

/-! ## Batches -/

/-- Whether two outcomes of a batch are the same but for the name of the partner. -/
structure ItemOutcome.Echoes (N : String → String → Prop) (i i' : ItemOutcome) : Prop where
  partner : N i.partner i'.partner
  file : i.file = i'.file
  outcome : i.outcome = i'.outcome

/-- Whether the outcomes of two batches are the same but for the names of partners. -/
structure Tally.Echoes (N : String → String → Prop) (t t' : Tally) : Prop where
  successes : t.successes = t'.successes
  failures : t.failures = t'.failures
  results : List.Forall₂ (ItemOutcome.Echoes N) t.results t'.results
  lastFailure : t.lastFailure = t'.lastFailure

namespace Tally.Echoes

variable {N : String → String → Prop} {t t' : Tally}

/-- Outcomes of batches that have no results are the same. -/
theorem of_nil (h : t.results = []) : Tally.Echoes N t t := by
  refine ⟨rfl, rfl, ?_, rfl⟩
  rw [h]
  exact .nil

theorem add {name name' file : String} {outcome : Outcome} (h : t.Echoes N t')
    (hname : N name name') :
    (t.add ⟨name, file, outcome⟩).Echoes N (t'.add ⟨name', file, outcome⟩) := by
  have hresults : List.Forall₂ (ItemOutcome.Echoes N) (t.results ++ [⟨name, file, outcome⟩])
      (t'.results ++ [⟨name', file, outcome⟩]) :=
    List.rel_append h.results (.cons ⟨hname, rfl, rfl⟩ .nil)
  unfold Tally.add
  split
  · exact ⟨congrArg (· + 1) h.successes, h.failures, hresults, h.lastFailure⟩
  · exact ⟨h.successes, congrArg (· + 1) h.failures, hresults, rfl⟩

end Tally.Echoes

namespace Directory.StandsFor

open Batch

variable {ctx : Context} {nickname host name name' : String} {names names' : List String}

/-! ### Files -/

/-- Plain names stand for themselves. -/
theorem resolveWith_of_plain {expand : String → Program (List String)} {files : List String}
    (hplain : ∀ f ∈ files, Names.hasWildcard f = false) :
    resolveWith expand files = .done files := by
  induction files with
  | nil => rfl
  | cons f rest ih =>
      have hf := hplain f List.mem_cons_self
      have hrest := ih fun g hg => hplain g (List.mem_cons_of_mem f hg)
      rw [resolveWith, hf, hrest]
      rfl

/-- A pattern stands for no files of a partner that is named by the alias, and nobody is asked. -/
theorem resolveRemote_eq (h : ctx.hosts.StandsFor nickname host) (rule : Rule)
    (files : List String) :
    resolveRemote ctx nickname rule files =
      .done (files.filter fun f => !Names.hasWildcard f) := by
  have hlist : ∀ pattern, listRemote ctx nickname rule pattern = .done [] := by
    intro pattern
    rw [listRemote, Inquiry.listFiles, Inquiry.ask, h.lookup_nickname]
    rfl
  unfold resolveRemote
  induction files with
  | nil => rfl
  | cons f rest ih =>
      rw [resolveWith, ih]
      by_cases hf : Names.hasWildcard f = true
      · rw [if_pos hf, hlist, List.filter_cons_of_neg (by simp [hf])]
        rfl
      · rw [if_neg hf, List.filter_cons_of_pos (by simp [hf])]
        rfl

/-! ### Transfers -/

theorem runItem_eq (h : ctx.hosts.StandsFor nickname host) (b : Batch) (file : String)
    (hname : SameHost nickname host name name') :
    b.runItem ctx name file = b.runItem ctx name' file := by
  have hform : ∀ partner, b.form partner file = { b.form "" file with partner } := by
    intro partner
    unfold Batch.form Order.Form.withBlockSize
    split <;> rfl
  rw [runItem, runItem, hform name, hform name', h.complete_eq _ hname]

theorem echoes_runFiles (h : ctx.hosts.StandsFor nickname host) (b : Batch) {t t' : Tally}
    (hname : SameHost nickname host name name') (files : List String)
    (ht : t.Echoes (SameHost nickname host) t') :
    Program.Echoes (SameHost nickname host) (Tally.Echoes (SameHost nickname host))
      (b.runFiles ctx name files t) (b.runFiles ctx name' files t') := by
  induction files generalizing t t' with
  | nil => exact .done ht
  | cons file rest ih =>
      have hrest : ∀ outcome, Program.Echoes (SameHost nickname host)
          (Tally.Echoes (SameHost nickname host))
          (b.runFiles ctx name rest (t.add ⟨name, file, outcome⟩))
          (b.runFiles ctx name' rest (t'.add ⟨name', file, outcome⟩)) := fun _ =>
        ih (ht.add hname)
      rw [runFiles, runFiles, h.runItem_eq b file hname]
      refine Echoes.report (.started hname) (Echoes.bind_self fun outcome => ?_)
      exact Echoes.report (.finished hname) (hrest outcome)

/-- Partners are dealt with alike as long as none is asked for files. -/
theorem echoes_runPartners (h : ctx.hosts.StandsFor nickname host) (b : Batch) (rule : Rule)
    {local? : Option (List String)}
    (hlocal : local? = none → ∀ f ∈ b.files, Names.hasWildcard f = false) {t t' : Tally}
    (hnames : List.Forall₂ (SameHost nickname host) names names')
    (ht : t.Echoes (SameHost nickname host) t') :
    Program.Echoes (SameHost nickname host) (Tally.Echoes (SameHost nickname host))
      (b.runPartners ctx rule local? names t) (b.runPartners ctx rule local? names' t') := by
  induction hnames generalizing t t' with
  | nil => exact .done ht
  | cons hname _ ih =>
      simp only [runPartners]
      cases local? with
      | some files => exact (h.echoes_runFiles b hname files ht).bind fun _ _ ht => ih ht
      | none =>
          simp only [resolveRemote, resolveWith_of_plain (hlocal rfl), done_bind]
          exact (h.echoes_runFiles b hname b.files ht).bind fun _ _ ht => ih ht

/-- The partners of a batch are told to each of its steps. -/
theorem runPartners_partners (b : Batch) (partners : List String) (rule : Rule)
    (local? : Option (List String)) (names : List String) (t : Tally) :
    { b with partners }.runPartners ctx rule local? names t =
      b.runPartners ctx rule local? names t := by
  have hitem : ∀ name file, { b with partners }.runItem ctx name file =
      b.runItem ctx name file := by
    intro name file
    simp only [runItem, form]
  have hfiles : ∀ name files t, { b with partners }.runFiles ctx name files t =
      b.runFiles ctx name files t := by
    intro name files
    induction files with
    | nil => exact fun _ => rfl
    | cons file rest ih =>
        intro t
        simp only [runFiles, hitem, ih]
  induction names generalizing t with
  | nil => rfl
  | cons name rest ih => simp only [runPartners, hfiles, ih]

/-- A batch does the same under the alias when its rule sends, or when it has no patterns. -/
theorem echoes_run (h : ctx.hosts.StandsFor nickname host) (b : Batch)
    (hrule : ∀ rule, ctx.rules.resolve b.rule = .ok rule → rule.canSend = false →
      ∀ f ∈ b.files, Names.hasWildcard f = false)
    (hnames : List.Forall₂ (SameHost nickname host) names names') :
    Program.Echoes (SameHost nickname host) (Tally.Echoes (SameHost nickname host))
      ({ b with partners := names }.run ctx) ({ b with partners := names' }.run ctx) := by
  have hempty := isEmpty_eq_of_sameHost hnames
  have hstart : Tally.Echoes (SameHost nickname host) {} {} := .of_nil rfl
  unfold Batch.run
  cases hresolve : ctx.rules.resolve b.rule with
  | error fault => exact .done (.of_nil rfl)
  | ok rule =>
      simp only [hempty]
      split
      · exact .done (.of_nil rfl)
      · cases hsend : rule.canSend with
        | true =>
            simp only [if_true, pure_eq, done_bind, runPartners_partners]
            refine Echoes.bind_self fun files => ?_
            have hknown : some files = none → ∀ f ∈ b.files, Names.hasWildcard f = false := by
              intro hnone
              cases hnone
            exact h.echoes_runPartners b rule hknown hnames hstart
        | false =>
            simp only [Bool.false_eq_true, if_false, pure_eq, done_bind, runPartners_partners]
            exact h.echoes_runPartners b rule (fun _ => hrule rule hresolve hsend) hnames hstart

end Directory.StandsFor

end Courier
