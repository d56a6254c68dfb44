import Courier.Delivery.Names
import Courier.Proofs.Files.PathOrder
import Courier.Proofs.Files.View
import Mathlib.Data.List.Forall2

/-!
# The files that a pattern stands for

A pattern is expanded component by component.  All paths that have been found so far are taken
one component further before the next component is looked at, and only in the end it is looked up
which of them are regular files.  So a directory is listed for its names alone, and a name that
leads nowhere drops out in the end, not when it is found.

Main definitions:

- `Names.Fits` says that a component of a path is what a component of a pattern stands for.
- `Names.StandsFor` says that a pattern stands for a path, with no word about how it is found.
- `Names.rowsOf` are the rows of components that are found, and `Names.Leads` tells how one of
  them is found from a row.

Main statements:

- One component further, what was found is still in order (`inOrder_grow`), and so is what is
  found in the end (`inOrder_rowsOf`), where no two entries of a directory read alike.
- A row is found when it fits, its directories can be listed where the pattern has wildcards, and
  it leads to something (`leads_of_isFile`).
- Every run finds the same, in whatever order directories are listed (`run_candidates`), and this
  is just what the pattern stands for, each file as often as there are ways to it (`expand_exact`).
-/

namespace Courier.Names

open Program Courier.Path

/-! ## What a pattern stands for -/

/-- Whether a component of a pattern has a wildcard. -/
def isWild : Component → Bool
  | .name segment => Wildcard.isPattern segment
  | _ => false

/-- Whether a component of a path is one that a component of a pattern stands for. -/
inductive Fits : Component → Component → Prop where
  | same {c : Component} (h : isWild c = false) : Fits c c
  | wild {segment n : String} (hwild : isWild (.name segment) = true)
      (h : Wildcard.Matches (Wildcard.meaning segment) n.toUTF8.data.toList) :
      Fits (.name segment) (.name n)

/-- Whether a pattern stands for a path below a directory: its components fit one for one, the
directories where the pattern has wildcards can be listed, and it leads to a regular file. -/
structure StandsFor (v : FileView) (base pattern q : Path) : Prop where
  /-- The path has no doubled or trailing slashes and no inner dots. -/
  plain : ofComponents q.components = q
  fits : List.Forall₂ Fits pattern.components q.components
  lists : ∀ i c, pattern.components[i]? = some c → isWild c = true →
    v.Lists (base.join (ofComponents (q.components.take i)))
  isFile : v.isFile (base.join q) = true

/-- The ways that components of a pattern lead from a row through the components of a path: one for
each entry that reads like the component of the path, where the pattern has wildcards. -/
def ways (v : FileView) (base : Path) : List Component → List Component → List Component → Nat
  | row, c :: cs, x :: xs =>
      (if isWild c then v.alike (base.join (ofComponents row)) x else 1) *
        ways v base (row ++ [x]) cs xs
  | _, _, _ => 1

/-- Whether some files are just those that a pattern stands for, each once for every way to it, and
relative unless the pattern is absolute.  Where no two entries of a directory read alike, there is
one way to a file, and the files are in the order of their names component by component. -/
structure Expands (v : FileView) (base pattern : Path) (files : List String) : Prop where
  mem_iff : ∀ q, q ∈ files ↔ StandsFor v base pattern ⟨q⟩
  count_eq : ∀ q ∈ files,
    files.count q = ways v base [] pattern.components (Path.mk q).components
  absolute : ∀ q ∈ files, (Path.mk q).isAbsolute = pattern.isAbsolute
  nodup : v.Distinct → files.Nodup
  ordered : v.Distinct → files.Pairwise fun q r => (Path.mk q).precedes ⟨r⟩ = true

variable {v : FileView} {base : Path} {c x : Component} {cs xs row : List Component}
  {rows : List (List Component)}

/-! ## Names in order -/

theorem pairwise_sort (names : List String) : (sort names).Pairwise (· ≤ ·) := by
  have hsorted := @List.pairwise_mergeSort String (fun a b => decide (a ≤ b))
    (fun a b c => by simpa using String.le_trans) (fun a b => by simpa using String.le_total a b)
    names
  exact hsorted.imp fun h => of_decide_eq_true h

theorem perm_sort (names : List String) : (sort names).Perm names :=
  List.mergeSort_perm _ _

/-- Names are the same in order, in whatever order they came. -/
theorem sort_congr {names names' : List String} (h : names.Perm names') :
    sort names = sort names' :=
  List.Perm.eq_of_pairwise (fun _ _ _ _ => String.le_antisymm) (pairwise_sort names)
    (pairwise_sort names') ((perm_sort names).trans (h.trans (perm_sort names').symm))

theorem pairwise_sort_of_nodup {names : List String} (h : names.Nodup) :
    (sort names).Pairwise (· < ·) := by
  have hnodup : (sort names).Nodup := (perm_sort names).nodup_iff.2 h
  refine ((pairwise_sort names).and hnodup).imp fun h => ?_
  rcases Record.Key.text_lt_or_lt h.2 with hlt | hgt
  · exact hlt
  · exact absurd hgt h.1

/-! ## One component further -/

/-- The names in a directory that fit, in order. -/
def choicesIn (v : FileView) (directory : Path) (segment : String) : List String :=
  match v.names directory with
  | .ok ns => sort (ns.filter (Wildcard.acceptsName segment))
  | .error _ => []

/-- What a component of a pattern leads on to from a row. -/
def choices (v : FileView) (base : Path) (row : List Component) (c : Component) :
    List Component :=
  if isWild c then (choicesIn v (base.join (ofComponents row)) c.text).map .name else [c]

/-- All rows one component further. -/
def grow (v : FileView) (base : Path) (c : Component) (rows : List (List Component)) :
    List (List Component) :=
  rows.flatMap fun row => (choices v base row c).map fun x => row ++ [x]

/-- The rows for some components. -/
def rowsOf (v : FileView) (base : Path) :
    List Component → List (List Component) → List (List Component)
  | [], rows => rows
  | c :: cs, rows => rowsOf v base cs (grow v base c rows)

/-- A segment accepts the names whose bytes it matches. -/
theorem acceptsName_iff {segment n : String} : Wildcard.acceptsName segment n = true ↔
    Wildcard.Matches (Wildcard.meaning segment) n.toUTF8.data.toList := by
  rw [Wildcard.acceptsName, Wildcard.accepts_iff, Wildcard.parse_eq]

/-- The choices in a directory are the names in it that match the segment. -/
theorem mem_choicesIn {directory : Path} {segment n : String} :
    n ∈ choicesIn v directory segment ↔ ∃ ns, v.names directory = .ok ns ∧ n ∈ ns ∧
      Wildcard.Matches (Wildcard.meaning segment) n.toUTF8.data.toList := by
  unfold choicesIn
  cases hnames : v.names directory with
  | error fault => simp
  | ok ns =>
      rw [(perm_sort _).mem_iff, List.mem_filter, acceptsName_iff]
      simp

/-- A component without a wildcard leaves no choice. -/
theorem mem_choices_of_not_isWild (h : isWild c = false) :
    x ∈ choices v base row c ↔ x = c := by
  rw [choices, h, if_neg Bool.false_ne_true, List.mem_singleton]

/-- A segment with a wildcard leaves the names of the directory that match it. -/
theorem mem_choices_of_isWild {segment : String} (h : isWild (.name segment) = true) :
    x ∈ choices v base row (.name segment) ↔
      ∃ ns n, v.names (base.join (ofComponents row)) = .ok ns ∧ n ∈ ns ∧ x = .name n ∧
        Wildcard.Matches (Wildcard.meaning segment) n.toUTF8.data.toList := by
  rw [choices, h, if_pos rfl, List.mem_map]
  constructor
  · rintro ⟨n, hn, rfl⟩
    obtain ⟨ns, hns, hmem, hmatches⟩ := mem_choicesIn.1 hn
    exact ⟨ns, n, hns, hmem, rfl, hmatches⟩
  · rintro ⟨ns, n, hns, hmem, rfl, hmatches⟩
    exact ⟨n, mem_choicesIn.2 ⟨ns, hns, hmem, hmatches⟩, rfl⟩

/-- A component leads on to what is found there once for each entry that reads so. -/
theorem count_choices (h : x ∈ choices v base row c) : (choices v base row c).count x =
    if isWild c then v.alike (base.join (ofComponents row)) x else 1 := by
  by_cases hwild : isWild c = true
  · cases c with
    | name segment =>
        obtain ⟨ns, n, hns, -, rfl, hmatches⟩ := (mem_choices_of_isWild hwild).1 h
        have hinj : Function.Injective Component.name := fun _ _ => Component.name.inj
        have hchosen : choicesIn v (base.join (ofComponents row)) (Component.name segment).text =
            sort (ns.filter (Wildcard.acceptsName segment)) := by
          simp only [choicesIn, hns, Component.text]
        rw [choices, if_pos hwild, if_pos hwild, FileView.alike_name hns, hchosen,
          List.count_map_of_injective _ _ hinj, (perm_sort _).count_eq,
          List.count_filter (acceptsName_iff.2 hmatches)]
    | _ => cases hwild
  · obtain rfl := (mem_choices_of_not_isWild (eq_false_of_ne_true hwild)).1 h
    rw [choices, if_neg hwild, if_neg hwild, List.count_singleton_self]

/-- The choices are in order, each before the next, where no two entries read alike. -/
theorem pairwise_choices (hdistinct : v.Distinct) (base : Path) (row : List Component)
    (c : Component) :
    (choices v base row c).Pairwise fun x y => x.precedes y = true := by
  unfold choices
  split
  · rw [List.pairwise_map, choicesIn]
    split
    · next ns hns =>
        refine (pairwise_sort_of_nodup ((hdistinct hns).filter _)).imp fun h => ?_
        exact Component.name_precedes_name.2 h
    · exact List.Pairwise.nil
  · exact List.pairwise_singleton _ _

/-! ## Rows in order -/

/-- A row that comes before another one of its length does so whatever is added to both. -/
theorem precedesComponents_append {as bs : List Component} (hlength : as.length = bs.length)
    (h : precedesComponents as bs = true) (cs ds : List Component) :
    precedesComponents (as ++ cs) (bs ++ ds) = true := by
  induction as generalizing bs with
  | nil =>
      cases bs with
      | nil => cases h
      | cons b bs => cases hlength
  | cons a as ih =>
      cases bs with
      | nil => cases hlength
      | cons b bs =>
          rw [List.cons_append, List.cons_append, precedesComponents_cons]
          rw [precedesComponents_cons] at h
          refine h.imp id fun ⟨hab, hrest⟩ => ⟨hab, ?_⟩
          exact ih (Nat.succ.inj hlength) hrest

/-- A common beginning does not change which row comes first. -/
theorem precedesComponents_append_left (as : List Component) {bs cs : List Component}
    (h : precedesComponents bs cs = true) : precedesComponents (as ++ bs) (as ++ cs) = true := by
  induction as with
  | nil => exact h
  | cons a as ih => exact precedesComponents_cons.2 (Or.inr ⟨rfl, ih⟩)

/-- Whether rows have one length and are in order. -/
structure InOrder (rows : List (List Component)) (length : Nat) : Prop where
  length : ∀ row ∈ rows, row.length = length
  pairwise : rows.Pairwise fun row row' => precedesComponents row row' = true

/-- One component further, rows are still in order. -/
theorem inOrder_grow {length : Nat} (h : InOrder rows length) (hdistinct : v.Distinct)
    (base : Path) (c : Component) : InOrder (grow v base c rows) (length + 1) := by
  constructor
  · intro row hrow
    obtain ⟨front, hfront, hmem⟩ := List.mem_flatMap.1 hrow
    obtain ⟨x, -, rfl⟩ := List.mem_map.1 hmem
    rw [List.length_append, h.length front hfront, List.length_singleton]
  · rw [grow, List.pairwise_flatMap]
    constructor
    · intro row _
      rw [List.pairwise_map]
      refine (pairwise_choices hdistinct base row c).imp fun hxy => ?_
      exact precedesComponents_append_left row (precedesComponents_cons.2 (Or.inl hxy))
    · refine h.pairwise.imp_of_mem fun hrow hrow' hprecedes => ?_
      intro x hx y hy
      obtain ⟨a, -, rfl⟩ := List.mem_map.1 hx
      obtain ⟨b, -, rfl⟩ := List.mem_map.1 hy
      refine precedesComponents_append ?_ hprecedes _ _
      rw [h.length _ hrow, h.length _ hrow']

/-- Rows that are in order still are, however many components further. -/
theorem inOrder_rowsOf {length : Nat} (h : InOrder rows length) (hdistinct : v.Distinct)
    (base : Path) (cs : List Component) :
    InOrder (rowsOf v base cs rows) (length + cs.length) := by
  induction cs generalizing rows length with
  | nil => exact h
  | cons c cs ih =>
      have hgrown := ih (inOrder_grow h hdistinct base c)
      rwa [Nat.add_assoc, Nat.add_comm 1] at hgrown

/-! ## How rows are found -/

/-- How the rest of a row is found for some components, from the front of it. -/
inductive Leads (v : FileView) (base : Path) :
    List Component → List Component → List Component → Prop where
  | nil (row : List Component) : Leads v base row [] []
  | cons {row cs xs : List Component} {c x : Component} (hx : x ∈ choices v base row c)
      (h : Leads v base (row ++ [x]) cs xs) : Leads v base row (c :: cs) (x :: xs)

/-- A row with one more component is grown from the row without it. -/
theorem count_grow (v : FileView) (base : Path) (rows : List (List Component))
    (row : List Component) (c x : Component) :
    (grow v base c rows).count (row ++ [x]) = rows.count row * (choices v base row c).count x := by
  induction rows with
  | nil => simp [grow]
  | cons front rows ih =>
      rw [grow, List.flatMap_cons, List.count_append, ← grow, ih, List.count_cons, Nat.add_mul,
        Nat.add_comm]
      by_cases hfront : front = row
      · have hinj : Function.Injective fun y => row ++ [y] :=
          fun _ _ hsame => List.singleton_inj.1 (List.append_inj' hsame rfl).2
        subst hfront
        rw [List.count_map_of_injective _ _ hinj, if_pos (beq_self_eq_true front), Nat.one_mul]
      · have hnone : row ++ [x] ∉ (choices v base front c).map fun y => front ++ [y] := by
          intro hmem
          obtain ⟨y, -, heq⟩ := List.mem_map.1 hmem
          exact hfront (List.append_inj' heq rfl).1
        rw [List.count_eq_zero.2 hnone, if_neg (by simpa using hfront), Nat.zero_mul]

/-- A row is found once for each way to it. -/
theorem Leads.count_rowsOf (h : Leads v base row cs xs) (rows : List (List Component)) :
    (rowsOf v base cs rows).count (row ++ xs) = rows.count row * ways v base row cs xs := by
  induction h generalizing rows with
  | nil row =>
      rw [rowsOf, ways, List.append_nil, Nat.mul_one]
      exact fun _ _ _ _ _ h => nomatch h
  | @cons row cs xs c x hx h ih =>
      calc
        (rowsOf v base (c :: cs) rows).count (row ++ x :: xs) =
            (rowsOf v base cs (grow v base c rows)).count (row ++ [x] ++ xs) := by
          rw [rowsOf, List.append_assoc, List.singleton_append]
        _ = rows.count row * (choices v base row c).count x *
            ways v base (row ++ [x]) cs xs := by rw [ih, count_grow]
        _ = rows.count row * ways v base row (c :: cs) (x :: xs) := by
          rw [count_choices hx, ways, Nat.mul_assoc]

/-- A row is found when the components of the pattern lead to what it has gained. -/
theorem mem_rowsOf {r : List Component} : r ∈ rowsOf v base cs rows ↔
    ∃ row ∈ rows, ∃ xs, Leads v base row cs xs ∧ r = row ++ xs := by
  induction cs generalizing rows with
  | nil =>
      constructor
      · intro h
        exact ⟨r, h, [], .nil r, (List.append_nil r).symm⟩
      · rintro ⟨row, hrow, xs, hleads, rfl⟩
        cases hleads
        rwa [List.append_nil]
  | cons c cs ih =>
      rw [rowsOf, ih]
      constructor
      · rintro ⟨row, hrow, xs, hleads, rfl⟩
        obtain ⟨front, hfront, hmem⟩ := List.mem_flatMap.1 hrow
        obtain ⟨x, hx, rfl⟩ := List.mem_map.1 hmem
        refine ⟨front, hfront, x :: xs, .cons hx hleads, ?_⟩
        rw [List.append_assoc, List.singleton_append]
      · rintro ⟨front, hfront, xs, hleads, rfl⟩
        cases hleads with
        | @cons _ _ xs _ x hx h =>
            refine ⟨front ++ [x], List.mem_flatMap.2 ⟨front, hfront, ?_⟩, xs, h, ?_⟩
            · exact List.mem_map_of_mem hx
            · rw [List.append_assoc, List.singleton_append]

/-- What is found fits, and the directories where there are wildcards could be listed. -/
theorem fits_of_mem_choices (h : x ∈ choices v base row c) : Fits c x := by
  by_cases hwild : isWild c = true
  · cases c with
    | name segment =>
        obtain ⟨ns, n, -, -, rfl, hmatches⟩ := (mem_choices_of_isWild hwild).1 h
        exact .wild hwild hmatches
    | _ => cases hwild
  · rw [Bool.not_eq_true] at hwild
    rw [(mem_choices_of_not_isWild hwild).1 h]
    exact .same hwild

/-- Whoever has a choice has listed the directory. -/
theorem lists_of_mem_choices (h : x ∈ choices v base row c) (hwild : isWild c = true) :
    v.Lists (base.join (ofComponents row)) := by
  cases c with
  | name segment =>
      obtain ⟨ns, n, hns, -⟩ := (mem_choices_of_isWild hwild).1 h
      exact ⟨ns, hns⟩
  | _ => cases hwild

/-- Below the first component, no choice begins a path anew. -/
theorem isInner_of_mem_choices (h : x ∈ choices v base row c) (hc : c.IsInner) : x.IsInner := by
  by_cases hwild : isWild c = true
  · cases c with
    | name segment =>
        obtain ⟨ns, n, hns, hn, rfl, -⟩ := (mem_choices_of_isWild hwild).1 h
        exact v.isName hns n hn
    | _ => cases hwild
  · rw [Bool.not_eq_true] at hwild
    rwa [(mem_choices_of_not_isWild hwild).1 h]

namespace Leads

/-- Rows that are found have the components of the pattern, one for one. -/
theorem fits (h : Leads v base row cs xs) : List.Forall₂ Fits cs xs := by
  induction h with
  | nil row => exact .nil
  | cons hx _ ih => exact .cons (fits_of_mem_choices hx) ih

/-- At a wildcard the directory was listed. -/
theorem lists (h : Leads v base row cs xs) {i : Nat} {c : Component} (hc : cs[i]? = some c)
    (hwild : isWild c = true) : v.Lists (base.join (ofComponents (row ++ xs.take i))) := by
  induction h generalizing i with
  | nil row => simp at hc
  | @cons row cs xs c' x hx h ih =>
      cases i with
      | zero =>
          obtain rfl : c' = c := by simpa using hc
          rw [List.take_zero, List.append_nil]
          exact lists_of_mem_choices hx hwild
      | succ i =>
          have hlists := ih (by simpa using hc)
          rwa [List.append_assoc, List.singleton_append] at hlists

theorem isInner (h : Leads v base row cs xs) (hcs : ∀ c ∈ cs, c.IsInner) :
    ∀ x ∈ xs, x.IsInner := by
  induction h with
  | nil row => exact List.forall_mem_nil _
  | cons hx _ ih =>
      obtain ⟨hc, hcs⟩ := List.forall_mem_cons.1 hcs
      exact List.forall_mem_cons.2 ⟨isInner_of_mem_choices hx hc, ih hcs⟩

/-- What is found for the components of a path are again those of one. -/
theorem isRow (h : Leads v base row cs xs) (hcs : IsRow cs) : IsRow xs := by
  cases h with
  | nil row => exact hcs
  | @cons _ cs xs c x hx h =>
      have hxs := h.isInner hcs.of_cons
      cases c with
      | root | here =>
          obtain rfl := (mem_choices_of_not_isWild rfl).1 hx
          exact hxs
      | up | name s =>
          have hinner := isInner_of_mem_choices hx (hcs _ List.mem_cons_self)
          exact isRow_of_isInner (List.forall_mem_cons.2 ⟨hinner, hxs⟩)

end Leads

/-- The path of a row leads on from that of its front. -/
theorem join_ofComponents_append (base : Path) (row xs : List Component) :
    base.join (ofComponents (row ++ xs)) = (base.join (ofComponents row)).below xs := by
  have happend : ofComponents (row ++ xs) = (ofComponents row).below xs := below_append ⟨""⟩ row xs
  rw [happend, join_below]

/-- A file can be asked for. -/
theorem exists_metadata_of_isFile {p : Path} (h : v.isFile p = true) :
    ∃ info, v.metadata p = .ok info := by
  unfold FileView.isFile at h
  cases hinfo : v.metadata p with
  | error fault => simp [hinfo] at h
  | ok info => exact ⟨info, rfl⟩

theorem isName_of_isRow {n : String} (h : IsRow (row ++ .name n :: xs)) :
    IsName n ∧ ∀ x ∈ xs, x.IsInner := by
  have hinner : ∀ x ∈ Component.name n :: xs, x.IsInner := by
    cases row with
    | nil => exact h
    | cons c row => exact fun x hx => h.of_cons x (List.mem_append_right row hx)
  exact List.forall_mem_cons.1 hinner

/-- A row is found when it fits, its directories can be listed where the pattern has wildcards, and
it leads to a file.  Then the names on the way stand in their directories. -/
theorem leads_of_isFile (hfits : List.Forall₂ Fits cs xs) (hrow : IsRow (row ++ xs))
    (hlists : ∀ i c, cs[i]? = some c → isWild c = true →
      v.Lists (base.join (ofComponents (row ++ xs.take i))))
    (hfile : v.isFile (base.join (ofComponents (row ++ xs))) = true) :
    Leads v base row cs xs := by
  induction hfits generalizing row with
  | nil => exact .nil row
  | @cons c x cs xs hfit _ ih =>
      have hsplit : row ++ x :: xs = row ++ [x] ++ xs := by
        rw [List.append_assoc, List.singleton_append]
      refine .cons ?_ (ih (hsplit ▸ hrow) ?_ (hsplit ▸ hfile))
      · cases hfit with
        | same hplain => exact (mem_choices_of_not_isWild hplain).2 rfl
        | @wild segment n hwild hmatches =>
            obtain ⟨ns, hns⟩ := hlists 0 _ rfl hwild
            rw [List.take_zero, List.append_nil] at hns
            obtain ⟨hn, hxs⟩ := isName_of_isRow hrow
            obtain ⟨info, hinfo⟩ := exists_metadata_of_isFile hfile
            rw [join_ofComponents_append] at hinfo
            have hmem := v.listed hns hn hxs hinfo
            exact (mem_choices_of_isWild hwild).2 ⟨ns, n, hns, hmem, rfl, hmatches⟩
      · intro i d hd hwild
        have hlist := hlists (i + 1) d hd hwild
        rwa [List.take_succ_cons, ← List.singleton_append, ← List.append_assoc] at hlist

/-! ## Runs -/

variable {t : Trace}

/-- What every element comes to, the whole list comes to. -/
theorem run_mapM {α β : Type} {f : α → Program β} {g : α → β}
    (hf : ∀ a t b, Run (f a) t b → v.Shows t → b = g a) {as : List α} {bs : List β}
    (h : Run (as.mapM f) t bs) (ht : v.Shows t) : bs = as.map g := by
  induction as generalizing t bs with
  | nil => exact (Run.done_iff.1 h).2
  | cons a as ih =>
      rw [List.mapM_cons] at h
      obtain ⟨u, b, w, rfl, hb, hrest⟩ := Run.bind_iff.1 h
      obtain ⟨x, rest, y, rfl, has, hdone⟩ := Run.bind_iff.1 hrest
      obtain ⟨hu, hw⟩ := FileView.shows_append.1 ht
      obtain ⟨-, rfl⟩ := Run.done_iff.1 hdone
      rw [hf a u b hb hu, ih has (FileView.shows_append.1 hw).1, List.map_cons]

/-- A condition that is asked for each element is that of the view. -/
theorem run_filterM {α : Type} {f : α → Program Bool} {g : α → Bool}
    (hf : ∀ a t b, Run (f a) t b → v.Shows t → b = g a) {as bs : List α}
    (h : Run (as.filterM f) t bs) (ht : v.Shows t) : bs = as.filter g := by
  have haux : ∀ (as found : List α) (t : Trace) (bs : List α), Run (as.filterAuxM f found) t bs →
      v.Shows t → bs = (as.filter g).reverse ++ found := by
    intro as
    induction as with
    | nil => exact fun found t bs h _ => (Run.done_iff.1 h).2
    | cons a as ih =>
        intro found t bs h ht
        obtain ⟨u, b, w, rfl, hb, hrest⟩ := Run.bind_iff.1 h
        obtain ⟨hu, hw⟩ := FileView.shows_append.1 ht
        obtain rfl := hf a u b hb hu
        rw [ih _ _ _ hrest hw]
        cases hkeep : g a with
        | true =>
            rw [List.filter_cons_of_pos hkeep, List.reverse_cons, List.append_assoc]
            rfl
        | false =>
            rw [List.filter_cons_of_neg (by simp [hkeep])]
            rfl
  obtain ⟨u, found, w, rfl, haux', hdone⟩ := Run.bind_iff.1 h
  obtain ⟨-, rfl⟩ := Run.done_iff.1 hdone
  rw [haux as [] u found haux' (FileView.shows_append.1 ht).1, List.append_nil,
    List.reverse_reverse]

/-- The names that are asked for are the choices in the view. -/
theorem run_matchingNames {directory : Path} {segment : String} {names : List String}
    (h : Run (matchingNames directory segment : Program (List String)) t names)
    (ht : v.Shows t) : names = choicesIn v directory segment := by
  obtain ⟨answer, u, rfl, hanswer⟩ := Run.ask_iff.1 h
  have hshown := ht _ List.mem_cons_self
  unfold choicesIn
  cases answer with
  | error fault =>
      obtain ⟨-, rfl⟩ := Run.done_iff.1 hanswer
      cases hnames : v.names directory with
      | error fault => rfl
      | ok ns => exact absurd ⟨ns, hnames⟩ hshown
  | ok entries =>
      obtain ⟨-, rfl⟩ := Run.done_iff.1 hanswer
      obtain ⟨ns, hnames, hperm⟩ := hshown
      rw [hnames]
      exact sort_congr (hperm.filter _)

/-- Whether a path is a file is seen in the view. -/
theorem run_isFile {p : Path} {b : Bool} (h : Run (Files.isFile p : Program Bool) t b)
    (ht : v.Shows t) : b = v.isFile p := by
  obtain ⟨answer, u, rfl, hanswer⟩ := Run.ask_iff.1 h
  obtain rfl : answer = v.metadata p := ht _ List.mem_cons_self
  unfold FileView.isFile
  cases hinfo : v.metadata p with
  | error fault =>
      rw [hinfo] at hanswer
      exact (Run.done_iff.1 hanswer).2
  | ok info =>
      rw [hinfo] at hanswer
      exact (Run.done_iff.1 hanswer).2

/-- A component is joined to the path of a row by being put at its end. -/
theorem join_text_ofComponents (row : List Component) (c : Component) :
    (ofComponents row).join ⟨c.text⟩ = ofComponents (row ++ [c]) :=
  (below_append ⟨""⟩ row [c]).symm

theorem grow_of_not_isWild (h : isWild c = false) :
    grow v base c rows = rows.map fun row => row ++ [c] := by
  rw [grow, List.map_eq_flatMap]
  refine List.flatMap_congr fun row _ => ?_
  rw [choices, h, if_neg Bool.false_ne_true, List.map_singleton]

theorem grow_of_isWild {segment : String} (h : isWild (.name segment) = true) :
    grow v base (.name segment) rows = rows.flatMap fun row =>
      (choicesIn v (base.join (ofComponents row)) segment).map fun n => row ++ [.name n] := by
  refine List.flatMap_congr fun row _ => ?_
  rw [choices, h, if_pos rfl, List.map_map]
  rfl

/-- What is found in one directory. -/
theorem run_found (segment : String) (candidate : Path) (t : Trace) (found : List Path)
    (h : Run (do
      let names ← matchingNames (base.join candidate) segment
      return names.map fun n => candidate.join ⟨n⟩) t found) (ht : v.Shows t) :
    found = (choicesIn v (base.join candidate) segment).map fun n => candidate.join ⟨n⟩ := by
  obtain ⟨u, names, w, rfl, hnames, hdone⟩ := Run.bind_iff.1 h
  obtain ⟨-, rfl⟩ := Run.done_iff.1 hdone
  rw [run_matchingNames hnames (FileView.shows_append.1 ht).1]

/-- One component further, what was found is the paths of the rows. -/
theorem run_extend {found : List Path}
    (h : Run (extend base c (rows.map ofComponents) : Program (List Path)) t found)
    (ht : v.Shows t) : found = (grow v base c rows).map ofComponents := by
  have hplain : isWild c = false →
      found = (rows.map ofComponents).map (fun candidate => candidate.join ⟨c.text⟩) →
        found = (grow v base c rows).map ofComponents := by
    intro hc hfound
    rw [hfound, grow_of_not_isWild hc, List.map_map, List.map_map]
    exact List.map_congr_left fun row _ => join_text_ofComponents row c
  cases c with
  | name segment =>
      by_cases hwild : isWild (.name segment) = true
      · rw [extend, if_pos (show Wildcard.isPattern segment = true from hwild)] at h
        obtain ⟨u, next, w, rfl, hnext, hdone⟩ := Run.bind_iff.1 h
        obtain ⟨-, rfl⟩ := Run.done_iff.1 hdone
        rw [run_mapM (run_found segment) hnext (FileView.shows_append.1 ht).1, List.map_map,
          grow_of_isWild hwild, ← List.flatMap_def, List.map_flatMap]
        refine List.flatMap_congr fun row _ => ?_
        rw [List.map_map]
        exact List.map_congr_left fun n _ => join_text_ofComponents row (.name n)
      · have hnot : ¬Wildcard.isPattern segment = true := hwild
        rw [extend, if_neg hnot] at h
        exact hplain (eq_false_of_ne_true hwild) (Run.done_iff.1 h).2
  | _ => exact hplain rfl (Run.done_iff.1 h).2

/-- The candidates of a run are the paths of the rows that the view has. -/
theorem run_candidates {found : List Path}
    (h : Run (candidates base cs (rows.map ofComponents) : Program (List Path)) t found)
    (ht : v.Shows t) : found = (rowsOf v base cs rows).map ofComponents := by
  induction cs generalizing rows t with
  | nil => exact (Run.done_iff.1 h).2
  | cons c cs ih =>
      obtain ⟨u, grown, w, rfl, hextend, hrest⟩ := Run.bind_iff.1 h
      obtain ⟨hu, hw⟩ := FileView.shows_append.1 ht
      obtain rfl := run_extend hextend hu
      exact ih hrest hw

/-- The files that are found. -/
def filesOf (v : FileView) (base pattern : Path) : List String :=
  ((rowsOf v base pattern.components [[]]).filter fun row =>
    v.isFile (base.join (ofComponents row))).map fun row => (ofComponents row).text

/-- Every run finds the same. -/
theorem run_expand {pattern : String} {files : List String}
    (h : Run (expand base pattern : Program (List String)) t files) (ht : v.Shows t) :
    files = filesOf v base ⟨pattern⟩ := by
  obtain ⟨u, found, w, rfl, hfound, hrest⟩ := Run.bind_iff.1 h
  obtain ⟨x, kept, y, rfl, hkept, hdone⟩ := Run.bind_iff.1 hrest
  obtain ⟨hu, hw⟩ := FileView.shows_append.1 ht
  obtain ⟨-, rfl⟩ := Run.done_iff.1 hdone
  have hstart : Run (candidates base (Path.mk pattern).components
      (List.map ofComponents [[]]) : Program (List Path)) u found := hfound
  have hrows := run_candidates hstart hu
  rw [run_filterM (g := fun candidate => v.isFile (base.join candidate))
    (fun a t b => run_isFile) hkept (FileView.shows_append.1 hw).1, hrows, filesOf,
    List.filter_map, List.map_map]
  rfl

/-! ## What is found -/

variable {pattern q : Path}

/-- A row that is found from nothing is all that the components led to. -/
theorem leads_of_mem_rowsOf (h : row ∈ rowsOf v base cs [[]]) : Leads v base [] cs row := by
  obtain ⟨front, hfront, xs, hleads, rfl⟩ := mem_rowsOf.1 h
  obtain rfl := List.mem_singleton.1 hfront
  exact hleads

/-- The components of what is found are those of its row. -/
theorem components_of_mem_rowsOf (h : row ∈ rowsOf v base pattern.components [[]]) :
    (ofComponents row).components = row :=
  components_ofComponents ((leads_of_mem_rowsOf h).isRow (isRow_components pattern))

/-- A pattern stands for the files that are found. -/
theorem standsFor_of_mem_rowsOf (h : row ∈ rowsOf v base pattern.components [[]])
    (hfile : v.isFile (base.join (ofComponents row)) = true) :
    StandsFor v base pattern (ofComponents row) := by
  have hleads := leads_of_mem_rowsOf h
  have hcomponents := components_of_mem_rowsOf h
  refine ⟨?_, ?_, ?_, hfile⟩
  · rw [hcomponents]
  · rw [hcomponents]
    exact hleads.fits
  · intro i c hc hwild
    rw [hcomponents]
    exact hleads.lists hc hwild

/-- All files are found that a pattern stands for. -/
theorem mem_rowsOf_of_standsFor (h : StandsFor v base pattern q) :
    q.components ∈ rowsOf v base pattern.components [[]] := by
  have hfile : v.isFile (base.join (ofComponents q.components)) = true := by
    rw [h.plain]
    exact h.isFile
  have hleads : Leads v base [] pattern.components q.components :=
    leads_of_isFile h.fits (isRow_components q) h.lists hfile
  exact mem_rowsOf.2 ⟨[], List.mem_singleton_self [], q.components, hleads, rfl⟩

/-- A row begins at the root when the pattern does. -/
theorem head?_eq_root_iff (h : List.Forall₂ Fits cs xs) :
    xs.head? = some .root ↔ cs.head? = some .root := by
  cases h with
  | nil => exact Iff.rfl
  | cons hfit _ =>
      cases hfit with
      | same => exact Iff.rfl
      | wild => simp

/-- What a pattern stands for is absolute when the pattern is. -/
theorem StandsFor.isAbsolute_eq (h : StandsFor v base pattern q) :
    q.isAbsolute = pattern.isAbsolute := by
  rw [Bool.eq_iff_iff, isAbsolute_iff, isAbsolute_iff]
  exact head?_eq_root_iff h.fits

/-- The files that are found are those that the pattern stands for. -/
theorem mem_filesOf {text : String} :
    text ∈ filesOf v base pattern ↔ StandsFor v base pattern ⟨text⟩ := by
  rw [filesOf, List.mem_map]
  constructor
  · rintro ⟨row, hrow, rfl⟩
    obtain ⟨hmem, hfile⟩ := List.mem_filter.1 hrow
    exact standsFor_of_mem_rowsOf hmem hfile
  · intro h
    refine ⟨components ⟨text⟩, List.mem_filter.2 ⟨mem_rowsOf_of_standsFor h, ?_⟩, ?_⟩
    · rw [h.plain]
      exact h.isFile
    · rw [h.plain]

/-- A file is found once for each way to it. -/
theorem count_filesOf {text : String} (h : text ∈ filesOf v base pattern) :
    (filesOf v base pattern).count text =
      ways v base [] pattern.components (Path.mk text).components := by
  have hstands := mem_filesOf.1 h
  have hmem := mem_rowsOf_of_standsFor hstands
  have hfile : v.isFile (base.join (ofComponents (components ⟨text⟩))) = true := by
    rw [hstands.plain]
    exact hstands.isFile
  have hrow : ∀ row ∈ rowsOf v base pattern.components [[]],
      (ofComponents row).text = text ↔ row = components ⟨text⟩ := by
    intro row hrow
    constructor
    · intro heq
      have hpath : ofComponents row = ⟨text⟩ := congrArg Path.mk heq
      rw [← hpath, components_of_mem_rowsOf hrow]
    · rintro rfl
      exact congrArg Path.text hstands.plain
  have hrows : (filesOf v base pattern).count text =
      (rowsOf v base pattern.components [[]]).count (components ⟨text⟩) := by
    rw [filesOf, List.count, List.countP_map, List.countP_filter, List.count]
    refine List.countP_congr fun row hmem => ?_
    simp only [Function.comp_apply, Bool.and_eq_true, beq_iff_eq, hrow row hmem]
    exact ⟨And.left, fun heq => ⟨heq, heq ▸ hfile⟩⟩
  have hcount := (leads_of_mem_rowsOf hmem).count_rowsOf [[]]
  rwa [List.nil_append, List.count_singleton_self, Nat.one_mul, ← hrows] at hcount

/-- The files come in the order of their components, where no two entries read alike. -/
theorem ordered_filesOf (hdistinct : v.Distinct) (base pattern : Path) :
    (filesOf v base pattern).Pairwise fun q r => (Path.mk q).precedes ⟨r⟩ = true := by
  have hstart : InOrder [[]] 0 := by
    refine ⟨?_, List.pairwise_singleton _ _⟩
    intro row hrow
    obtain rfl := List.mem_singleton.1 hrow
    rfl
  have hrows := (inOrder_rowsOf hstart hdistinct base pattern.components).pairwise
  rw [filesOf, List.pairwise_map]
  refine (hrows.imp_of_mem fun hrow hrow' hprecedes => ?_).filter _
  rw [precedes, components_of_mem_rowsOf hrow, components_of_mem_rowsOf hrow']
  exact hprecedes

/-- What is found is just what the pattern stands for. -/
theorem expands_filesOf (v : FileView) (base pattern : Path) :
    Expands v base pattern (filesOf v base pattern) := by
  refine ⟨fun text => mem_filesOf, fun text => count_filesOf, fun text htext => ?_,
    fun hdistinct => ?_, fun hdistinct => ordered_filesOf hdistinct base pattern⟩
  · exact (mem_filesOf.1 htext).isAbsolute_eq
  · refine (ordered_filesOf hdistinct base pattern).imp fun hprecedes heq => ?_
    rw [heq, precedes_irrefl] at hprecedes
    cases hprecedes

/-- A directory with a file, a link to it, and a directory under a like name. -/
def sampleTree : FileTree where
  nodes := [(["srv"], .directory 0), (["srv", "a.txt"], .file .empty 0),
    (["srv", "b.txt"], .link ⟨"a.txt"⟩ 0), (["srv", "c.txt"], .directory 0)]
  current := []
  time := 0

/-- Its view when everything can be listed and reached. -/
def sampleView : FileView :=
  sampleTree.view ⟨by decide, by decide⟩ (fun _ => false) fun _ => false

theorem standsFor_sample : StandsFor sampleView ⟨"/srv"⟩ ⟨"*.txt"⟩ ⟨"b.txt"⟩ := by
  have hpattern : components ⟨"*.txt"⟩ = [.name "*.txt"] := by decide
  have hpath : components ⟨"b.txt"⟩ = [.name "b.txt"] := by decide
  refine ⟨by decide, ?_, ?_, by decide⟩
  · rw [hpattern, hpath]
    exact .cons (.wild (by decide) (Wildcard.accepts_iff.1 (by decide))) .nil
  · intro i c hc hwild
    rw [hpattern] at hc
    cases i with
    | zero => exact ⟨_, rfl⟩
    | succ i => simp at hc

/-- A directory with two entries that read like `a`, and a file under this name. -/
def alikeView : FileView where
  names p := if p.components = [.root, .name "srv"] then .ok ["a", "a"] else .error .notFound
  metadata p :=
    if p.components = [.root, .name "srv", .name "a"] then .ok ⟨.file, 0, 0⟩ else .error .notFound
  isName := by
    intro p ns hns n hn
    split at hns
    · obtain rfl := Except.ok.inj hns
      obtain rfl : n = "a" := by simpa using hn
      decide
    · cases hns
  listed := by
    intro p ns n rest info hns hn hrest hinfo
    split at hns
    · next hp =>
        obtain rfl := Except.ok.inj hns
        split at hinfo
        · next hall =>
            have hinner : ∀ c ∈ Component.name n :: rest, c.IsInner :=
              List.forall_mem_cons.2 ⟨hn, hrest⟩
            rw [components_below p hinner, hp] at hall
            simp only [List.cons_append, List.nil_append, List.cons.injEq, Component.name.injEq,
              true_and] at hall
            rw [hall.1]
            exact List.mem_cons_self
        · cases hinfo
    · cases hns

/-- There is one way to the file for each of the entries. -/
example : ways alikeView ⟨"/srv"⟩ [] [.name "*"] [.name "a"] = 2 := by
  decide

end Courier.Names
