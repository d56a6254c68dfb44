import Courier.Proofs.Spool.Rows
import Courier.Spool.Bulletin

/-!
# Summaries and views

An observer keeps a view of the items of a spool and changes it by the summaries that reach
it.  A full summary is a new view.  Any other one is a patch, which turns the view that the
spool knows of into one of the present items, and does nothing more when it comes twice.

Main definitions:

- `Items.entryAt` is what a row says of a path, whatever its spelling.
- `Summary.applyTo` is what an observer does with a summary.

Main statements:

- A summary turns the view that it was made against, and a view of the present items, into a
  view of the present items (`Monitor.entryAt_applyTo_summaryFor`).
- What a monitor knows of an observer after some messages (`Bulletin.knownTo_apply`).
-/

namespace Courier

open Calendar

/-! ## Rows up to spelling -/

namespace Items

variable {items other : Items} {p : Path} {i j : Item}

/-- What a row says of a path, spelt as it was asked. -/
def entryAt (items : Items) (p : Path) : Option Item :=
  (items.find? p).map fun i => { i with path := p }

theorem entryAt_of_find? (h : items.find? p = some i) :
    items.entryAt p = some { i with path := p } := by
  rw [entryAt, h]
  rfl

theorem entryAt_eq_none_iff : items.entryAt p = none ↔ items.find? p = none :=
  Option.map_eq_none_iff

/-- Items of one path agree when they differ in nothing but the spelling of it. -/
theorem agrees_iff (hi : i.path.same p = true) (hj : j.path.same p = true) :
    i.agrees j = true ↔ ({ i with path := p } : Item) = { j with path := p } := by
  have hsame := Path.same_trans hi (Path.same_symm hj)
  simp only [Item.agrees, hsame, Bool.true_and, beq_iff_eq]
  constructor
  · intro h
    rw [← h]
  · intro h
    have hback := congrArg (fun k : Item => ({ k with path := j.path } : Item)) h
    exact hback

/-- What is found in a part of a row. -/
theorem find?_filter_of_isRow (h : items.IsRow) (keep : Item → Bool) (p : Path) :
    Items.find? (items.filter keep) p = (items.find? p).filter keep := by
  have hpart : ∀ j, Items.find? (items.filter keep) p = some j →
      items.find? p = some j ∧ keep j = true := by
    intro j hj
    obtain ⟨hmem, hkeep⟩ := List.mem_filter.1 (mem_of_find? hj)
    exact ⟨find?_of_mem h hmem (path_of_find? hj), hkeep⟩
  cases hfind : items.find? p with
  | none =>
      cases hj : Items.find? (items.filter keep) p with
      | none => rfl
      | some j => exact nomatch hfind.symm.trans (hpart j hj).1
  | some i =>
      cases hkeep : keep i with
      | true =>
          rw [Option.filter_some_pos hkeep]
          exact find?_of_mem (isRow_filter h keep) (List.mem_filter.2 ⟨mem_of_find? hfind, hkeep⟩)
            (path_of_find? hfind)
      | false =>
          rw [Option.filter_some_neg hkeep]
          cases hj : Items.find? (items.filter keep) p with
          | none => rfl
          | some j =>
              obtain ⟨hj', hkeep'⟩ := hpart j hj
              cases hfind.symm.trans hj'
              exact nomatch hkeep.symm.trans hkeep'

/-- What is found after the items of a row were put. -/
theorem find?_foldl_put {changes : Items} (h : changes.IsRow) (view : Items) (p : Path) :
    Items.find? (changes.foldl put view) p = (changes.find? p).or (view.find? p) := by
  induction changes generalizing view with
  | nil => rfl
  | cons i rest ih =>
      obtain ⟨hfirst, hrest⟩ := List.pairwise_cons.1 h
      rw [List.foldl_cons, ih hrest, find?_put]
      simp only [find?, List.find?_cons]
      cases hp : i.path.same p with
      | false => simp
      | true =>
          have hnone : List.find? (fun j => j.path.same p) rest = none := by
            rw [List.find?_eq_none]
            intro j hj hjp
            have hne := Path.not_same_of_precedes (hfirst j hj)
            rw [Path.same_trans hp (Path.same_symm hjp)] at hne
            exact Bool.false_ne_true hne.symm
          simp [hnone]

end Items

/-! ## Views -/

/-- The view of an observer after a summary: a full summary replaces it, any other one takes
out the items that are gone and puts those that changed. -/
def Summary.applyTo (s : Summary) (view : Items) : Items :=
  if s.full then s.items
  else s.items.foldl Items.put (view.filter fun i => !s.removed.any i.path.same)

/-- Whether two rows say the same of every path. -/
def Items.Alike (items other : Items) : Prop :=
  ∀ p, items.entryAt p = other.entryAt p

namespace Monitor

variable {m : Monitor} {known view : Items} {p : Path} {i k : Item}

/-- A summary for an observer of which nothing is known is full. -/
theorem summaryFor_of_unknown {observer : String} (h : m.knownTo observer = none)
    (now : Moment) :
    (m.summaryFor observer now).full = true ∧ (m.summaryFor observer now).items = m.items := by
  simp [summaryFor, h]

theorem isRow_changesSince (h : m.items.IsRow) (known : Items) :
    Items.IsRow (m.changesSince known) :=
  Items.isRow_filter h _

/-- The items that changed are a part of the present ones. -/
theorem find?_changesSince (h : m.items.IsRow) (known : Items) (p : Path) :
    Items.find? (m.changesSince known) p =
      (m.items.find? p).filter fun i => !(known.find? i.path).any i.agrees :=
  Items.find?_filter_of_isRow h _ p

/-- The paths that are gone are those that are known and have no item any more. -/
theorem any_goneSince (m : Monitor) (known : Items) (p : Path) :
    (m.goneSince known).any p.same = true ↔
      (known.find? p).isSome = true ∧ m.items.find? p = none := by
  have hcontains : ∀ q, p.same q = true →
      ((!m.items.contains q) = true ↔ m.items.find? p = none) := by
    intro q hq
    rw [Items.contains_eq, ← Items.find?_congr m.items hq]
    cases m.items.find? p <;> simp
  simp only [goneSince, List.any_map, List.any_filter, List.any_eq_true, Function.comp_apply,
    Bool.and_eq_true, Items.find?, List.find?_isSome]
  constructor
  · rintro ⟨k, hk, hgone, hsame⟩
    refine ⟨⟨k, hk, Path.same_symm hsame⟩, ?_⟩
    exact (hcontains k.path hsame).1 hgone
  · rintro ⟨⟨k, hk, hsame⟩, hnone⟩
    have hsame' := Path.same_symm hsame
    exact ⟨k, hk, (hcontains k.path hsame').2 hnone, hsame'⟩

/-- A patch turns the view that it was made against, and a view of the present items, into a
view of the present items. -/
theorem entryAt_patch (hrow : m.items.IsRow)
    (hview : view.Alike known ∨ view.Alike m.items) (p : Path) :
    Items.entryAt ((m.changesSince known).foldl Items.put
      (view.filter fun i => !(m.goneSince known).any i.path.same)) p = m.items.entryAt p := by
  have hcongr : ∀ q r : Path, q.same r = true →
      (!(m.goneSince known).any q.same) = !(m.goneSince known).any r.same := by
    intro q r hsame
    have heq : q.same = r.same := funext fun s => Path.same_congr hsame s
    rw [heq]
  have hfind : Items.find? ((m.changesSince known).foldl Items.put
      (view.filter fun i => !(m.goneSince known).any i.path.same)) p =
        (Items.find? (m.changesSince known) p).or
          (if !(m.goneSince known).any p.same then view.find? p else none) := by
    rw [Items.find?_foldl_put (isRow_changesSince hrow known), Items.find?_filter hcongr]
  cases hpresent : m.items.find? p with
  | none =>
      -- the path has no item: it is taken out, or nobody knows of it
      have hnone : m.items.entryAt p = none := Items.entryAt_eq_none_iff.2 hpresent
      rw [hnone, Items.entryAt_eq_none_iff, hfind, find?_changesSince hrow, hpresent]
      cases hgone : (m.goneSince known).any p.same with
      | true => rfl
      | false =>
          have hunknown : known.find? p = none := by
            cases hknown : known.find? p with
            | none => rfl
            | some k =>
                have hany := (any_goneSince m known p).2 ⟨by rw [hknown]; rfl, hpresent⟩
                exact absurd (hany.symm.trans hgone) (by decide)
          have hentry : view.entryAt p = none := by
            rcases hview with hview | hview
            · rw [hview p]
              exact Items.entryAt_eq_none_iff.2 hunknown
            · rw [hview p]
              exact hnone
          exact Items.entryAt_eq_none_iff.1 hentry
  | some i =>
      have hi := Items.path_of_find? hpresent
      have hstays : (m.goneSince known).any p.same = false := by
        rw [Bool.eq_false_iff]
        intro hany
        exact nomatch hpresent.symm.trans ((any_goneSince m known p).1 hany).2
      have hchange : Items.find? (m.changesSince known) p =
          (some i).filter fun i => !(known.find? p).any i.agrees := by
        rw [find?_changesSince hrow, hpresent]
        have hknown := Items.find?_congr known hi
        simp only [Option.filter, hknown]
      by_cases hagrees : (known.find? p).any i.agrees = true
      · have hsame : m.items.entryAt p = known.entryAt p := by
          obtain ⟨k, hk, hik⟩ := (Option.any_eq_true _ _).1 hagrees
          rw [Items.entryAt_of_find? hpresent, Items.entryAt_of_find? hk,
            (Items.agrees_iff hi (Items.path_of_find? hk)).1 hik]
        have hentry : view.entryAt p = m.items.entryAt p := by
          rcases hview with hview | hview
          · rw [hview p, hsame]
          · exact hview p
        rw [← hentry, Items.entryAt, Items.entryAt, hfind, hchange, hstays]
        simp [hagrees, Option.filter]
      · rw [Items.entryAt, hfind, hchange, hstays, Items.entryAt_of_find? hpresent]
        simp [hagrees, Option.filter]

/-- A summary turns the view that it was made against, and a view of the present items, into a
view of the present items. -/
theorem entryAt_applyTo_summaryFor (hrow : m.items.IsRow) {observer : String} (now : Moment)
    (hview : ∀ known, m.knownTo observer = some known → view.Alike known ∨ view.Alike m.items) :
    Items.Alike ((m.summaryFor observer now).applyTo view) m.items := by
  intro p
  cases hknown : m.knownTo observer with
  | none =>
      obtain ⟨hfull, hitems⟩ := summaryFor_of_unknown hknown now
      rw [Summary.applyTo, hfull, if_pos rfl, hitems]
  | some known =>
      simp only [Summary.applyTo, summaryFor, hknown, Bool.false_eq_true, if_false]
      exact entryAt_patch hrow (hview known hknown) p

end Monitor

/-! ## What a monitor knows of its observers -/

namespace Bulletin

theorem lookup_filter_ne {observer other : String} (h : other ≠ observer)
    (delivered : List (String × Items)) :
    (delivered.filter fun d => d.1 != observer).lookup other = delivered.lookup other := by
  induction delivered with
  | nil => rfl
  | cons d rest ih =>
      obtain ⟨key, items⟩ := d
      by_cases hkey : key = observer
      · have hne : (other == key) = false := by
          rw [beq_eq_false_iff_ne, hkey]
          exact h
        simp only [List.filter_cons, hkey, bne_self_eq_false, Bool.false_eq_true, if_false]
        rw [ih, ← hkey, List.lookup_cons, hne]
      · have hkept : (key != observer) = true := bne_iff_ne.2 hkey
        simp only [List.filter_cons, hkept, if_true, List.lookup_cons, ih]

/-- What became of a message is all that is known of its observer, and changes nothing for
others. -/
theorem knownTo_applyOne (m : Monitor) (r : Receipt) (observer : String) :
    (applyOne m r).knownTo observer =
      if r.observer = observer then (if r.delivered then some r.items else none)
      else m.knownTo observer := by
  by_cases hobserver : r.observer = observer
  · subst hobserver
    cases hdelivered : r.delivered with
    | true => simp [applyOne, hdelivered, Monitor.markDelivered, Monitor.knownTo]
    | false => simp [applyOne, hdelivered, Monitor.forceFull, Monitor.knownTo]
  · have hne : observer ≠ r.observer := fun heq => hobserver heq.symm
    rw [if_neg hobserver]
    cases hdelivered : r.delivered with
    | true =>
        have hlookup : List.lookup observer
            ((r.observer, r.items) :: m.delivered.filter fun d => d.1 != r.observer) =
              m.delivered.lookup observer := by
          rw [List.lookup_cons, beq_eq_false_iff_ne.2 hne]
          exact lookup_filter_ne hne m.delivered
        simp [applyOne, hdelivered, Monitor.markDelivered, Monitor.knownTo, hlookup, hne]
    | false => simp [applyOne, hdelivered, Monitor.forceFull, Monitor.knownTo, hne]

/-- What a monitor knows of an observer after some messages comes from one of them that was
delivered, or none of them was for this observer. -/
theorem knownTo_apply {m : Monitor} {receipts : List Receipt} {observer : String}
    {known : Items} (h : (apply m receipts).knownTo observer = some known) :
    (∃ r ∈ receipts, r.observer = observer ∧ r.delivered = true ∧ r.items = known) ∨
      ((∀ r ∈ receipts, r.observer ≠ observer) ∧ m.knownTo observer = some known) := by
  induction receipts generalizing m with
  | nil => exact Or.inr ⟨(fun _ hr => nomatch hr), h⟩
  | cons r rest ih =>
      rcases ih h with ⟨s, hs, hlater⟩ | ⟨hothers, hknown⟩
      · exact Or.inl ⟨s, List.mem_cons_of_mem r hs, hlater⟩
      · rw [knownTo_applyOne] at hknown
        split at hknown
        · next hobserver =>
            split at hknown
            · next hdelivered =>
                exact Or.inl ⟨r, List.mem_cons_self, hobserver, hdelivered, Option.some.inj hknown⟩
            · exact nomatch hknown
        · next hobserver =>
            exact Or.inr ⟨List.forall_mem_cons.2 ⟨hobserver, hothers⟩, hknown⟩

end Bulletin

end Courier
