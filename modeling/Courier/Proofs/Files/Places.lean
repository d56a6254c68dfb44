import Courier.Files.Tree
import Courier.Proofs.Files.Joining

/-!
# The places that paths name

Paths that are spelled in different ways may name one file.  Where there are no links, what counts is
the place that a path leads to from the current directory: dots stay where they are, and two dots
lead back to where the last name came from.

Main definitions:

- `Path.place` is the place that a path names.
- `Path.IsPlain` and `Path.BeginsAlike` say that paths are spelled in the same way.

Main statements:

- In a tree without links, a path leads to its place and nowhere else (`FileTree.place_of_resolve`).
- Paths that are spelled in the same way name the same place only when they are the same
  (`Path.same_of_place`).
- Text at the end of a path changes the last name of its place or adds one
  (`Path.exists_placed`).
-/

namespace Courier

namespace Path

/-! ## Places -/

/-- Where a component leads from a place. -/
def Component.follow (place : Place) : Component → Place
  | root => []
  | here => place
  | up => place.dropLast
  | name s => place ++ [s]

/-- Where components lead from a place. -/
def placeOf (current : Place) (cs : List Component) : Place :=
  cs.foldl Component.follow current

/-- The place that a path names, seen from the current directory. -/
def place (current : Place) (p : Path) : Place :=
  placeOf current p.components

variable {current : Place} {p q : Path}

theorem placeOf_append (cs ds : List Component) :
    placeOf current (cs ++ ds) = placeOf (placeOf current cs) ds :=
  List.foldl_append

/-- Names lead further down. -/
theorem placeOf_names (names : List String) :
    placeOf current (names.map .name) = current ++ names := by
  induction names generalizing current with
  | nil => exact (List.append_nil current).symm
  | cons s names ih =>
      rw [List.map_cons, placeOf, List.foldl_cons, ← placeOf, ih, Component.follow,
        List.append_assoc, List.singleton_append]

/-! ## Spelling -/

/-- Whether a path never leads back up. -/
def IsPlain (p : Path) : Prop :=
  .up ∉ p.components

/-- Whether two paths begin in the same way: at the root, with a dot, or with a name. -/
structure BeginsAlike (p q : Path) : Prop where
  root : .root ∈ p.components ↔ .root ∈ q.components
  here : .here ∈ p.components ↔ .here ∈ q.components

instance (p : Path) : Decidable p.IsPlain :=
  inferInstanceAs (Decidable (_ ∉ _))

instance (p q : Path) : Decidable (p.BeginsAlike q) :=
  decidable_of_iff ((.root ∈ p.components ↔ .root ∈ q.components) ∧
      (.here ∈ p.components ↔ .here ∈ q.components))
    ⟨fun h => ⟨h.1, h.2⟩, fun h => ⟨h.1, h.2⟩⟩

/-- Inner components that do not lead back up are names. -/
theorem exists_names {cs : List Component} (hinner : ∀ c ∈ cs, c.IsInner) (hup : .up ∉ cs) :
    ∃ names : List String, cs = names.map .name := by
  induction cs with
  | nil => exact ⟨[], rfl⟩
  | cons c cs ih =>
      rw [List.mem_cons, not_or] at hup
      rw [List.forall_mem_cons] at hinner
      obtain ⟨names, rfl⟩ := ih hinner.2 hup.2
      cases c with
      | name s => exact ⟨s :: names, rfl⟩
      | up => exact absurd rfl hup.1
      | root => cases hinner.1
      | here => cases hinner.1

/-- A plain path consists of names, perhaps behind the root or a dot. -/
theorem exists_names_of_isPlain (h : p.IsPlain) :
    ∃ (lead : List Component) (names : List String), p.components = lead ++ names.map .name ∧
      (lead = [] ∨ lead = [.root] ∨ lead = [.here]) := by
  have hrow := isRow_components p
  unfold IsPlain at h
  cases hcs : p.components with
  | nil => exact ⟨[], [], rfl, Or.inl rfl⟩
  | cons c cs =>
      rw [hcs] at hrow h
      rw [List.mem_cons, not_or] at h
      obtain ⟨names, rfl⟩ := exists_names hrow.of_cons h.2
      cases c with
      | root => exact ⟨[.root], names, rfl, Or.inr (Or.inl rfl)⟩
      | here => exact ⟨[.here], names, rfl, Or.inr (Or.inr rfl)⟩
      | name s => exact ⟨[], s :: names, rfl, Or.inl rfl⟩
      | up => exact absurd rfl h.1

/-- Paths that are spelled in the same way name the same place only when they are the same. -/
theorem same_of_place (hp : p.IsPlain) (hq : q.IsPlain) (halike : p.BeginsAlike q)
    (h : p.place current = q.place current) : p.same q = true := by
  obtain ⟨lead, names, hpcs, hlead⟩ := exists_names_of_isPlain hp
  obtain ⟨lead', names', hqcs, hlead'⟩ := exists_names_of_isPlain hq
  have hleads : lead = lead' := by
    have hroot := halike.root
    have hhere := halike.here
    rw [hpcs, hqcs] at hroot hhere
    rcases hlead with rfl | rfl | rfl
    all_goals
      rcases hlead' with rfl | rfl | rfl
      all_goals simp_all
  subst hleads
  rw [place, place, hpcs, hqcs, placeOf_append, placeOf_append, placeOf_names, placeOf_names,
    List.append_cancel_left_eq] at h
  rw [same_iff, hpcs, hqcs, h]

/-! ## Longer names -/

/-- The characters of a path are those before its last part, and those of this part. -/
theorem exists_front (cs : List Char) :
    ∃ front last, cs = front ++ last ∧ '/' ∉ last ∧ (front = [] ∨ ∃ as, front = as ++ ['/']) := by
  induction cs with
  | nil => exact ⟨[], [], rfl, List.not_mem_nil, Or.inl rfl⟩
  | cons c cs ih =>
      obtain ⟨front, last, rfl, hlast, hfront⟩ := ih
      rcases hfront with rfl | ⟨as, rfl⟩
      · by_cases hc : c = '/'
        · exact ⟨[c], last, rfl, hlast, Or.inr ⟨[], by rw [hc]; rfl⟩⟩
        · refine ⟨[], c :: last, rfl, ?_, Or.inl rfl⟩
          rw [List.mem_cons, not_or]
          exact ⟨Ne.symm hc, hlast⟩
      · exact ⟨c :: (as ++ ['/']), last, rfl, hlast, Or.inr ⟨c :: as, rfl⟩⟩

/-- The last part of a path leads on from where the others lead. -/
theorem placeOf_front {front last : List Char} (hlast : '/' ∉ last)
    (hfront : front = [] ∨ ∃ as, front = as ++ ['/']) :
    placeOf current (componentsOf (front ++ last)) =
      placeOf (placeOf current (componentsOf front)) (restOf last) := by
  rcases hfront with rfl | ⟨as, rfl⟩
  · have hhead : (last.head? == some '/') = false := by
      rw [beq_eq_false_iff_ne]
      exact fun hslash => hlast (List.mem_of_mem_head? hslash)
    rw [List.nil_append, componentsOf, hhead]
    simp only [Bool.false_eq_true, if_false]
    split
    · rfl
    · rfl
  · rw [List.append_assoc, List.singleton_append]
    by_cases has : as = []
    · subst has
      rfl
    · rw [componentsOf_append has, componentsOf_append has, show restOf [] = [] by decide,
        List.append_nil, placeOf_append]

theorem restOf_of_part {last : List Char} (hlast : '/' ∉ last) :
    restOf last = (Component.ofPart? (String.ofList last)).toList := by
  rw [restOf, Text.splitCharsFrom_of_not_mem hlast, List.reverse_nil, List.nil_append,
    List.map_singleton, List.filterMap_cons, List.filterMap_nil]
  cases Component.ofPart? (String.ofList last) with
  | none => rfl
  | some c => rfl

/-- Where a path leads when text is put behind it: its last part, which may stand for nothing,
becomes a name. -/
theorem exists_placed (current : Place) (p : Path) :
    ∃ (base : Place) (last : List Char),
      p.place current = placeOf base (Component.ofPart? (String.ofList last)).toList ∧
      ∀ extension : String, '/' ∉ extension.toList → 3 ≤ extension.toList.length →
        (p.addExtension extension).place current =
          base ++ [String.ofList (last ++ extension.toList)] := by
  obtain ⟨front, last, htext, hlast, hfront⟩ := exists_front p.text.toList
  refine ⟨placeOf current (componentsOf front), last, ?_, ?_⟩
  · rw [place, components_eq, htext, placeOf_front hlast hfront, restOf_of_part hlast]
  · intro extension hslash hlength
    have hpart : '/' ∉ last ++ extension.toList := by
      rw [List.mem_append, not_or]
      exact ⟨hlast, hslash⟩
    have hlong : ∀ s : String, s.toList.length < 3 →
        String.ofList (last ++ extension.toList) ≠ s := by
      rintro s hs rfl
      rw [String.toList_ofList, List.length_append] at hs
      omega
    have hname : IsName (String.ofList (last ++ extension.toList)) :=
      ⟨hlong _ (by decide), hlong _ (by decide), hlong _ (by decide), by
        rwa [String.toList_ofList]⟩
    rw [place, components_eq, addExtension, String.toList_append, htext, List.append_assoc,
      placeOf_front hpart hfront, restOf_of_part hpart, ofPart?_of_isName hname]
    rfl

end Path

/-! ## Trees without links -/

namespace FileTree

/-- The place of a target. -/
def Target.place : Target → Place
  | found place _ => place
  | vacant place => place

/-- Whether there are no links in a tree. -/
def IsLinkless (t : FileTree) : Prop :=
  ∀ place target modified, t.get? place ≠ some (.link target modified)

/-- Where a part of a path leads from a place, when it is no link. -/
def stepPart (place : Place) (part : String) : Place :=
  if part == ".." then place.dropLast else place ++ [part]

variable {t : FileTree} {follow : Bool} {target : Target}

theorem place_of_walk (hlinkless : t.IsLinkless) {budget links : Nat} {start : Place}
    {rest : List String} {needs : Bool}
    (h : t.walk follow budget links start rest needs = .ok target) :
    target.place = rest.foldl stepPart start := by
  induction budget generalizing links start rest with
  | zero => cases h
  | succ budget ih =>
      cases rest with
      | nil =>
          simp only [walk] at h
          split at h
          · cases h
            rfl
          · cases h
      | cons part rest =>
          rw [List.foldl_cons]
          simp only [walk] at h
          by_cases hup : (part == "..") = true
          · rw [if_pos hup] at h
            rw [stepPart, if_pos hup]
            exact ih h
          · rw [if_neg hup] at h
            rw [stepPart, if_neg hup]
            split at h
            · cases h
            · split at h
              · split at h
                · next hlast =>
                    cases h
                    rw [List.isEmpty_iff.1 hlast]
                    rfl
                · cases h
              · split at h
                · next hlast =>
                    cases h
                    rw [List.isEmpty_iff.1 hlast]
                    rfl
                · exact ih h
              · split at h
                · next hlast =>
                    cases h
                    rw [List.isEmpty_iff.1 (Bool.and_eq_true_iff.1 hlast).1]
                    rfl
                · cases h
              · next hlink => exact absurd hlink (hlinkless _ _ _)

/-- The parts of a path lead where its components do. -/
theorem foldl_stepPart (start : Place) (all : List String) :
    (all.filter fun s => s != "" && s != ".").foldl stepPart start =
      Path.placeOf start (all.filterMap Path.Component.ofPart?) := by
  induction all generalizing start with
  | nil => rfl
  | cons part all ih =>
      rw [List.filter_cons, List.filterMap_cons, Path.Component.ofPart?]
      by_cases hnothing : part = "" ∨ part = "."
      · have hskipped : (part != "" && part != ".") = false := by
          rcases hnothing with rfl | rfl
          · decide
          · decide
        rw [if_neg (by rw [hskipped]; decide), if_pos hnothing]
        exact ih start
      · have hkept : (part != "" && part != ".") = true := by
          rw [not_or] at hnothing
          simp [hnothing.1, hnothing.2]
        rw [if_pos hkept, if_neg hnothing, List.foldl_cons, ih]
        by_cases hup : part = ".."
        · simp only [hup, stepPart, if_true, BEq.rfl]
          rfl
        · simp only [stepPart, beq_eq_false_iff_ne.2 hup, if_neg hup, Bool.false_eq_true, if_false]
          rfl

/-- In a tree without links, a path leads to its place and nowhere else. -/
theorem place_of_resolve (hlinkless : t.IsLinkless) {p : Path}
    (h : t.resolve follow p = .ok target) : target.place = p.place t.current := by
  unfold resolve at h
  split at h
  · cases h
  · split at h
    · cases h
    · split at h
      · cases h
      · have hplace := place_of_walk hlinkless h
        refine (hplace.trans (foldl_stepPart _ _)).trans ?_
        rw [Path.place, Path.components]
        split
        · rfl
        · split
          · rfl
          · rfl

end FileTree

end Courier
