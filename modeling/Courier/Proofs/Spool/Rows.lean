import Courier.Proofs.Files.PathOrder
import Courier.Spool.Monitor

/-!
# Rows by path

The items of a monitor and the files of a survey stand in the order of their paths, one for
each path.  So a row is known by what is found in it under every path, and what an operation
on a row does is told path by path.

Main definitions:

- `Row.before` orders values by their paths; `Items.IsRow` and `Survey.IsRow` say that items
  and files are in this order.

Main statements:

- What is found after an insertion, a filter and a change in place (`Items.find?_put`,
  `Items.find?_filter`, `Items.find?_map`).
- A row is known by what is found in it (`Items.eq_of_find?_eq`).
- Every operation keeps the order (`Items.isRow_put`, `Items.isRow_ofList`,
  `Items.isRow_filter`, `Items.isRow_map`).
-/

namespace Courier

/-! ## Values with paths -/

namespace Row

variable {α : Type} (path : α → Path)

/-- Whether a value comes before another one by its path. -/
def before (a b : α) : Bool :=
  (path a).precedes (path b)

/-- Insertion keeps the order. -/
theorem ascending_put {a : α} {row : List α} (h : Ordered.Ascending (before path) row) :
    Ordered.Ascending (before path) (Ordered.put (before path) a row) := by
  refine Ordered.ascending_put ?_ ?_ h
  · intro a b c hab hbc
    exact Path.precedes_trans hab hbc
  · intro a b c hab hba hbc
    have hsame := Path.same_of_not_precedes hab hba
    rw [before, Path.precedes_congr hsame (Path.same_refl (path c))]
    exact hbc

/-- In a row two values with the same path are equal. -/
theorem eq_of_same {a b : α} {row : List α} (h : Ordered.Ascending (before path) row)
    (ha : a ∈ row) (hb : b ∈ row) (hsame : (path a).same (path b) = true) : a = b := by
  induction row with
  | nil => simp at ha
  | cons c rest ih =>
      obtain ⟨hc, hrest⟩ := List.pairwise_cons.1 h
      have hne : ∀ d ∈ rest, (path c).same (path d) = false :=
        fun d hd => Path.not_same_of_precedes (hc d hd)
      rcases List.mem_cons.1 ha with hac | ha'
      · rcases List.mem_cons.1 hb with hbc | hb'
        · rw [hac, hbc]
        · rw [hac, hne b hb'] at hsame
          exact absurd hsame Bool.false_ne_true
      · rcases List.mem_cons.1 hb with hbc | hb'
        · rw [hbc, Path.same_comm, hne a ha'] at hsame
          exact absurd hsame Bool.false_ne_true
        · exact ih hrest ha' hb'

/-- What is found under a path after an insertion. -/
theorem find?_put (a : α) (row : List α) (p : Path) :
    (Ordered.put (before path) a row).find? (fun b => (path b).same p) =
      if (path a).same p then some a else row.find? fun b => (path b).same p := by
  induction row with
  | nil =>
      simp only [Ordered.put, List.find?_cons, List.find?_nil]
      cases (path a).same p <;> rfl
  | cons b rest ih =>
      simp only [Ordered.put]
      split
      · simp only [List.find?_cons]
        split <;> simp [*]
      · split
        · next hba =>
            simp only [List.find?_cons, ih]
            split
            · next hbp =>
                -- `b` is found under `p`, so `a`, which comes after it, is not
                have hpa : (path b).same (path a) = false := Path.not_same_of_precedes hba
                have hap : (path a).same p = false := by
                  rw [Bool.eq_false_iff]
                  intro hap
                  rw [Path.same_trans hbp (Path.same_symm hap)] at hpa
                  exact Bool.false_ne_true hpa.symm
                rw [hap, if_neg Bool.false_ne_true]
            · rfl
        · next hab hba =>
            have hsame : (path a).same (path b) = true :=
              Path.same_of_not_precedes (Bool.eq_false_iff.2 hab) (Bool.eq_false_iff.2 hba)
            have hcongr := Path.same_congr hsame p
            simp only [List.find?_cons]
            rw [hcongr]
            split <;> simp [*]

end Row

/-! ## Items -/

namespace Items

/-- Whether items stand in the order of their paths, one for each path. -/
def IsRow (items : Items) : Prop :=
  Ordered.Ascending Item.before items

variable {items : Items} {p q : Path} {i : Item}

theorem isRow_nil : IsRow [] :=
  List.Pairwise.nil

theorem isRow_put (h : items.IsRow) (i : Item) : (items.put i).IsRow :=
  Row.ascending_put Item.path h

/-- Fewer items still have different paths. -/
theorem isRow_filter (h : items.IsRow) (keep : Item → Bool) : IsRow (items.filter keep) :=
  List.Pairwise.filter keep h

/-- A change that leaves paths alone leaves the order alone. -/
theorem isRow_map {g : Item → Item} (hg : ∀ i, (g i).path = i.path) (h : items.IsRow) :
    IsRow (items.map g) := by
  refine List.pairwise_map.2 (List.Pairwise.imp ?_ h)
  intro a b hab
  simpa only [Item.before, hg] using hab

/-- A list becomes a row, in which the last item of each path counts. -/
theorem isRow_ofList (items : List Item) : (ofList items).IsRow := by
  have hfold : ∀ (rest : List Item) (row : Items), row.IsRow → IsRow (rest.foldl put row) := by
    intro rest
    induction rest with
    | nil => exact fun _ hrow => hrow
    | cons i rest ih => exact fun row hrow => ih _ (isRow_put hrow i)
  exact hfold items [] isRow_nil

/-! ### What is found under a path -/

/-- An item is found under its own path. -/
theorem path_of_find? (h : items.find? p = some i) : i.path.same p = true := by
  have hsome := List.find?_some h
  exact hsome

theorem mem_of_find? (h : items.find? p = some i) : i ∈ items :=
  List.mem_of_find?_eq_some h

/-- An item of a row is what is found under its path. -/
theorem find?_of_mem (hrow : items.IsRow) (hi : i ∈ items) (hp : i.path.same p = true) :
    items.find? p = some i := by
  cases hfind : items.find? p with
  | none =>
      have hnone := List.find?_eq_none.1 hfind i hi
      exact absurd hp hnone
  | some j =>
      have hsame := Path.same_trans (path_of_find? hfind) (Path.same_symm hp)
      rw [Row.eq_of_same Item.path hrow (mem_of_find? hfind) hi hsame]

/-- What comes after an item of a row is found under other paths. -/
theorem find?_tail {rest : Items} (hrow : IsRow (i :: rest)) (hp : i.path.same p = true) :
    rest.find? p = none := by
  apply List.find?_eq_none.2
  intro j hj hjp
  have hne := Path.not_same_of_precedes ((List.pairwise_cons.1 hrow).1 j hj)
  rw [Path.same_trans hp (Path.same_symm hjp)] at hne
  exact Bool.false_ne_true hne.symm

/-- The items of a row are found in all items in which the same is found. -/
theorem mem_of_find?_eq {others : Items} (h : items.IsRow)
    (hfind : ∀ p, items.find? p = others.find? p) (hi : i ∈ items) : i ∈ others := by
  have hself := find?_of_mem h hi (Path.same_refl i.path)
  rw [hfind] at hself
  exact mem_of_find? hself

/-- A row is known by what is found in it. -/
theorem eq_of_find?_eq {others : Items} (h : items.IsRow) (h' : others.IsRow)
    (hfind : ∀ p, items.find? p = others.find? p) : items = others := by
  induction items generalizing others with
  | nil =>
      symm
      apply List.eq_nil_iff_forall_not_mem.2
      intro i hi
      exact nomatch mem_of_find?_eq h' (fun p => (hfind p).symm) hi
  | cons a as ih =>
      have ha := mem_of_find?_eq h hfind List.mem_cons_self
      cases others with
      | nil => exact nomatch ha
      | cons b bs =>
          have hb := mem_of_find?_eq h' (fun p => (hfind p).symm) List.mem_cons_self
          obtain ⟨hfirst, hrow⟩ := List.pairwise_cons.1 h
          obtain ⟨hfirst', hrow'⟩ := List.pairwise_cons.1 h'
          have hab : a = b := by
            rcases List.mem_cons.1 ha with hab | ha
            · exact hab
            rcases List.mem_cons.1 hb with hba | hb
            · exact hba.symm
            have hcycle := Path.precedes_trans (hfirst b hb) (hfirst' a ha)
            rw [Path.precedes_irrefl] at hcycle
            exact absurd hcycle Bool.false_ne_true
          subst hab
          rw [ih hrow hrow']
          intro p
          by_cases hp : a.path.same p = true
          · rw [find?_tail h hp, find?_tail h' hp]
          · have hcons := hfind p
            simp only [find?, List.find?_cons, hp] at hcons
            exact hcons

/-- The same item is found under the same paths. -/
theorem find?_congr (items : Items) (h : p.same q = true) : items.find? p = items.find? q := by
  have hsame : (fun i : Item => i.path.same p) = fun i => i.path.same q := by
    funext i
    rw [Path.same_comm i.path p, Path.same_comm i.path q, Path.same_congr h]
  simp only [find?, hsame]

/-- A path is contained when it finds something. -/
theorem contains_eq (items : Items) (p : Path) : items.contains p = (items.find? p).isSome :=
  List.isSome_find?.symm

/-- An item that was put is found, under its path only. -/
theorem find?_put (items : Items) (i : Item) (p : Path) :
    (items.put i).find? p = if i.path.same p then some i else items.find? p :=
  Row.find?_put Item.path i items p

/-- Filtering by paths leaves what is found under the paths that stay. -/
theorem find?_filter {keep : Path → Bool} (hkeep : ∀ p q : Path, p.same q = true → keep p = keep q)
    (items : Items) (p : Path) :
    Items.find? (items.filter fun i => keep i.path) p =
      if keep p then items.find? p else none := by
  simp only [find?, List.find?_filter]
  by_cases hp : keep p = true
  · have hkept : (fun i : Item => decide (keep i.path = true ∧ i.path.same p = true)) =
        fun i => i.path.same p := by
      funext i
      cases hi : i.path.same p with
      | true => simp [hkeep _ _ hi, hp]
      | false => simp
    rw [if_pos hp, hkept]
  · rw [if_neg hp, List.find?_eq_none]
    intro i _ hi
    obtain ⟨hkept, hsame⟩ := of_decide_eq_true hi
    exact hp (hkeep _ _ hsame ▸ hkept)

/-- A change that leaves paths alone changes what is found. -/
theorem find?_map {g : Item → Item} (hg : ∀ i, (g i).path = i.path) (items : Items) (p : Path) :
    Items.find? (items.map g) p = (items.find? p).map g := by
  have hsame : (fun i : Item => i.path.same p) ∘ g = fun i => i.path.same p := by
    funext i
    simp only [Function.comp_apply, hg]
  simp only [find?, List.find?_map, hsame]

end Items

/-! ## Files -/

namespace Survey

/-- Whether the files of a survey stand in the order of their paths, one for each path. -/
def IsRow (s : Survey) : Prop :=
  Ordered.Ascending Found.before s.files

variable {s : Survey}

theorem isRow_empty : IsRow {} :=
  List.Pairwise.nil

theorem isRow_addFile (h : s.IsRow) (f : Found) : (s.addFile f).IsRow :=
  Row.ascending_put Found.path h

theorem isRow_addUnreadable (h : s.IsRow) (p : Path) : (s.addUnreadable p).IsRow :=
  h

/-- In a survey two files with the same path are equal. -/
theorem IsRow.eq_of_same (h : s.IsRow) {f g : Found} (hf : f ∈ s.files) (hg : g ∈ s.files)
    (hsame : f.path.same g.path = true) : f = g :=
  Row.eq_of_same Found.path h hf hg hsame

/-- A survey has a path when one of its files does. -/
theorem has_iff {p : Path} : s.has p = true ↔ ∃ f ∈ s.files, f.path.same p = true :=
  List.any_eq_true

/-- The same paths are found. -/
theorem has_congr {p q : Path} (h : p.same q = true) : s.has p = s.has q := by
  simp only [has, Path.same_comm _ p, Path.same_comm _ q, Path.same_congr h]

/-- The same paths may be missed. -/
theorem mayMiss_congr {p q : Path} (h : p.same q = true) : s.mayMiss p = s.mayMiss q := by
  simp only [mayMiss, Path.startsWith, Path.same_iff.1 h]

end Survey

end Courier
