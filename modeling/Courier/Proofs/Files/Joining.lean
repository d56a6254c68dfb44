import Courier.Files.Path

/-!
# Paths that are put together

Putting a path behind another one puts their texts together, with a slash in between where there is
none.  It adds components at the end, so a path can be told from its components and back.

Main definitions:

- `Path.IsName` is a text that can be the name of something in a directory.
- `Path.IsRow` says that components can be those of a path.
- `Path.below` is the path that leads on from another one through some components.

Main statements:

- The parts of two texts with a separator between them are those of the first one, followed by
  those of the second one (`Text.splitCharsFrom_append`).
- Three paths can be put together either way (`Path.join_assoc`).
- A path gets longer by every name (`Path.size_lt_join`), and a dot does not change its components
  (`Path.components_join_dot`).
- The components of a path are a row (`Path.isRow_components`), and a row of components are those
  of its path (`Path.components_ofComponents`).
-/

namespace Courier

namespace Text

/-- The parts of two texts with a separator between them. -/
theorem splitCharsFrom_append (sep : Char) (part as bs : List Char) :
    splitCharsFrom sep part (as ++ sep :: bs) =
      splitCharsFrom sep part as ++ splitCharsFrom sep [] bs := by
  induction as generalizing part with
  | nil => simp [splitCharsFrom]
  | cons a as ih =>
      simp only [List.cons_append, splitCharsFrom]
      by_cases ha : a = sep
      · simp only [ha, if_true, List.cons_append, ih]
      · simp only [ha, if_false, ih]

/-- Even a text without the separator has one part. -/
theorem splitCharsFrom_ne_nil (sep : Char) (part cs : List Char) :
    splitCharsFrom sep part cs ≠ [] := by
  induction cs generalizing part with
  | nil => simp [splitCharsFrom]
  | cons c cs ih =>
      simp only [splitCharsFrom]
      by_cases hc : c = sep
      · simp [hc]
      · simpa [hc] using ih (c :: part)

/-- A text without the separator is a part by itself. -/
theorem splitCharsFrom_of_not_mem {sep : Char} {part cs : List Char} (h : sep ∉ cs) :
    splitCharsFrom sep part cs = [part.reverse ++ cs] := by
  induction cs generalizing part with
  | nil => simp [splitCharsFrom]
  | cons c cs ih =>
      rw [List.mem_cons, not_or] at h
      obtain ⟨hc, hcs⟩ := h
      rw [splitCharsFrom, if_neg (Ne.symm hc), ih hcs, List.reverse_cons, List.append_assoc,
        List.singleton_append]

end Text

namespace Path

/-- The components of a path, told from the characters of its text. -/
def componentsOf (cs : List Char) : List Component :=
  let parts := (Text.splitCharsFrom '/' [] cs).map String.ofList
  let rest := parts.filterMap Component.ofPart?
  if cs.head? == some '/' then .root :: rest
  else if parts.head? == some "." then .here :: rest
  else rest

/-- The components of a path depend on its characters only. -/
theorem components_eq (p : Path) : p.components = componentsOf p.text.toList :=
  rfl

/-- The components of a text that begins no path. -/
def restOf (cs : List Char) : List Component :=
  ((Text.splitCharsFrom '/' [] cs).map String.ofList).filterMap Component.ofPart?

/-- What follows a separator adds its components at the end. -/
theorem componentsOf_append {as bs : List Char} (has : as ≠ []) :
    componentsOf (as ++ '/' :: bs) = componentsOf as ++ restOf bs := by
  have hhead : (as ++ '/' :: bs).head? = as.head? := by
    obtain ⟨a, as, rfl⟩ := List.exists_cons_of_ne_nil has
    rfl
  obtain ⟨first, parts, hparts⟩ :=
    List.exists_cons_of_ne_nil (Text.splitCharsFrom_ne_nil '/' [] as)
  simp only [componentsOf, restOf, hhead, Text.splitCharsFrom_append, List.map_append,
    List.filterMap_append]
  simp only [hparts, List.map_cons, List.cons_append, List.head?_cons]
  split
  · rfl
  · split <;> rfl

/-! ## Joining -/

/-- The text of a path as it stands before a name. -/
def lead (p : Path) : String :=
  if p.text.isEmpty || p.text.toList.getLast? == some '/' then p.text else p.text ++ "/"

/-- A relative path goes behind the other one, with a slash between them. -/
theorem join_of_relative {p q : Path} (hq : q.isAbsolute = false) :
    p.join q = ⟨p.lead ++ q.text⟩ := by
  simp only [join, lead, hq, Bool.false_eq_true, if_false]
  split <;> rfl

/-- An absolute path takes the place of the other one. -/
theorem join_of_absolute {p q : Path} (hq : q.isAbsolute = true) : p.join q = q := by
  rw [join, if_pos hq]

/-- The characters of a text as they stand before a name. -/
def leadChars (cs : List Char) : List Char :=
  if cs = [] ∨ cs.getLast? = some '/' then cs else cs ++ ['/']

theorem toList_lead (p : Path) : p.lead.toList = leadChars p.text.toList := by
  have hempty : p.text.isEmpty = true ↔ p.text.toList = [] := by
    rw [String.isEmpty_iff, ← String.toList_inj]
    rfl
  simp only [lead, leadChars, Bool.or_eq_true, hempty, beq_iff_eq]
  split
  · rfl
  · exact String.toList_append

theorem leadChars_of_closed {cs : List Char} (h : cs = [] ∨ cs.getLast? = some '/') :
    leadChars cs = cs :=
  if_pos h

theorem leadChars_of_open {cs : List Char} (h : ¬(cs = [] ∨ cs.getLast? = some '/')) :
    leadChars cs = cs ++ ['/'] :=
  if_neg h

/-- What stands before a name is empty or ends with a slash. -/
theorem leadChars_closed (cs : List Char) :
    leadChars cs = [] ∨ (leadChars cs).getLast? = some '/' := by
  by_cases h : cs = [] ∨ cs.getLast? = some '/'
  · rwa [leadChars_of_closed h]
  · rw [leadChars_of_open h]
    exact Or.inr List.getLast?_concat

/-- Behind a text that ends with a slash, only the end of the second one counts. -/
theorem leadChars_leadChars_append (as bs : List Char) :
    leadChars (leadChars as ++ bs) = leadChars as ++ leadChars bs := by
  by_cases hbs : bs = []
  · subst hbs
    rw [List.append_nil, leadChars_of_closed (leadChars_closed as),
      leadChars_of_closed (Or.inl rfl), List.append_nil]
  · have hlast : (leadChars as ++ bs).getLast? = bs.getLast? := by
      rw [List.getLast?_append, List.getLast?_eq_some_getLast hbs, Option.some_or]
    have hne : leadChars as ++ bs ≠ [] := List.append_ne_nil_of_right_ne_nil _ hbs
    by_cases hslash : bs.getLast? = some '/'
    · rw [leadChars_of_closed (Or.inr hslash), leadChars_of_closed (Or.inr (hlast.trans hslash))]
    · have hopen : ¬(leadChars as ++ bs = [] ∨ (leadChars as ++ bs).getLast? = some '/') := by
        rw [hlast]
        exact not_or.2 ⟨hne, hslash⟩
      rw [leadChars_of_open hopen, leadChars_of_open (not_or.2 ⟨hbs, hslash⟩), List.append_assoc]

/-- A path is absolute when one of those is that it was put together from. -/
theorem isAbsolute_join (p q : Path) :
    (p.join q).isAbsolute = (p.isAbsolute || q.isAbsolute) := by
  cases hq : q.isAbsolute with
  | true => rw [join_of_absolute hq, hq, Bool.or_true]
  | false =>
      rw [join_of_relative hq, Bool.or_false, isAbsolute, isAbsolute, String.toList_append,
        toList_lead]
      cases hp : p.text.toList with
      | nil => exact hq
      | cons c cs =>
          rw [leadChars]
          split <;> rfl

/-- Three paths that are put together can be grouped either way. -/
theorem join_assoc (p q r : Path) : (p.join q).join r = p.join (q.join r) := by
  cases hr : r.isAbsolute with
  | true =>
      have hqr : (q.join r).isAbsolute = true := by rw [isAbsolute_join, hr, Bool.or_true]
      rw [join_of_absolute hqr, join_of_absolute hr, join_of_absolute hr]
  | false =>
      cases hq : q.isAbsolute with
      | true =>
          have hqr : (q.join r).isAbsolute = true := by rw [isAbsolute_join, hq, Bool.true_or]
          rw [join_of_absolute hqr, join_of_absolute hq]
      | false =>
          have hqr : (q.join r).isAbsolute = false := by rw [isAbsolute_join, hq, hr, Bool.or_false]
          rw [join_of_relative hqr, join_of_relative hr, join_of_relative hr, join_of_relative hq,
            Path.mk.injEq, ← String.toList_inj]
          simp only [String.toList_append, toList_lead, leadChars_leadChars_append,
            List.append_assoc]

/-! ## What a path is put together from -/

/-- What is put behind a path adds its components at the end. -/
theorem components_join {p q : Path} (hp : p.text.toList ≠ []) (hq : q.isAbsolute = false) :
    (p.join q).components = p.components ++ restOf q.text.toList := by
  rw [join_of_relative hq, components_eq, components_eq, String.toList_append, toList_lead]
  by_cases hslash : p.text.toList.getLast? = some '/'
  · obtain ⟨front, hfront⟩ := List.getLast?_eq_some_iff.1 hslash
    rw [leadChars_of_closed (Or.inr hslash), hfront, List.append_assoc, List.singleton_append]
    by_cases hnothing : front = []
    · subst hnothing
      rfl
    · rw [componentsOf_append hnothing, componentsOf_append hnothing, show restOf [] = [] by decide,
        List.append_nil]
  · rw [leadChars_of_open (not_or.2 ⟨hp, hslash⟩), List.append_assoc, List.singleton_append,
      componentsOf_append hp]

/-- A dot behind a path leads to the same place. -/
theorem components_join_dot {p : Path} (hp : p.text.toList ≠ []) :
    (p.join ⟨"."⟩).components = p.components := by
  rw [components_join hp (by decide), show restOf _ = [] by decide, List.append_nil]

/-- Nothing is absolute without a slash. -/
theorem isAbsolute_of_noSlash {p : Path} (h : '/' ∉ p.text.toList) : p.isAbsolute = false := by
  rw [Bool.eq_false_iff]
  intro habsolute
  have hhead : p.text.toList.head? = some '/' := by simpa [isAbsolute] using habsolute
  exact h (List.mem_of_mem_head? hhead)

/-- A name makes a path longer. -/
theorem size_lt_join (p : Path) {name : String} (hname : name ≠ "") (hslash : '/' ∉ name.toList) :
    p.text.utf8ByteSize < (p.join ⟨name⟩).text.utf8ByteSize := by
  have hrelative : isAbsolute ⟨name⟩ = false := isAbsolute_of_noSlash hslash
  have hsize : 0 < name.utf8ByteSize := by
    have hne : name.utf8ByteSize ≠ 0 := by simpa using hname
    omega
  simp only [join, hrelative, Bool.false_eq_true, if_false]
  split
  · simp only [String.utf8ByteSize_append]
    omega
  · simp only [String.utf8ByteSize_append]
    omega

/-! ## Rows of components -/

/-- Whether a text is the name of something in a directory. -/
structure IsName (s : String) : Prop where
  notEmpty : s ≠ ""
  notHere : s ≠ "."
  notUp : s ≠ ".."
  noSlash : '/' ∉ s.toList

instance (s : String) : Decidable (IsName s) :=
  decidable_of_iff (s ≠ "" ∧ s ≠ "." ∧ s ≠ ".." ∧ '/' ∉ s.toList)
    ⟨fun h => ⟨h.1, h.2.1, h.2.2.1, h.2.2.2⟩, fun h => ⟨h.notEmpty, h.notHere, h.notUp, h.noSlash⟩⟩

/-- Whether a component can stand behind another one. -/
def Component.IsInner : Component → Prop
  | .up => True
  | .name s => IsName s
  | _ => False

/-- Whether components can be those of a path: the root and the current directory only stand at
the front. -/
def IsRow : List Component → Prop
  | .root :: cs | .here :: cs => ∀ c ∈ cs, c.IsInner
  | cs => ∀ c ∈ cs, c.IsInner

/-- Inner components make a row. -/
theorem isRow_of_isInner {cs : List Component} (h : ∀ c ∈ cs, c.IsInner) : IsRow cs := by
  cases cs with
  | nil => exact h
  | cons c cs => cases c <;> first | exact h | exact (h _ List.mem_cons_self).elim

/-- Only the first component of a row may be one that a path begins with. -/
theorem IsRow.of_cons {c : Component} {cs : List Component} (h : IsRow (c :: cs)) :
    ∀ d ∈ cs, d.IsInner := by
  cases c <;> first | exact h | exact fun d hd => h d (List.mem_cons_of_mem _ hd)

/-- A name is the component of its own part. -/
theorem ofPart?_of_isName {s : String} (h : IsName s) : Component.ofPart? s = some (.name s) := by
  have hcounts : ¬(s = "" ∨ s = ".") := fun hs => hs.elim h.notEmpty h.notHere
  rw [Component.ofPart?, if_neg hcounts, if_neg h.notUp]

/-- No part between two slashes gives the root. -/
theorem isInner_of_ofPart? {part : String} (hslash : '/' ∉ part.toList) {c : Component}
    (h : Component.ofPart? part = some c) : c.IsInner := by
  unfold Component.ofPart? at h
  split at h
  · cases h
  · next hcounts =>
      split at h
      · obtain rfl := Option.some.inj h
        trivial
      · next hup =>
          obtain rfl := Option.some.inj h
          exact ⟨fun he => hcounts (Or.inl he), fun hd => hcounts (Or.inr hd), hup, hslash⟩

/-- Behind the beginning of a path, no component is the root. -/
theorem isInner_of_mem_restOf {cs : List Char} : ∀ c ∈ restOf cs, c.IsInner := by
  intro c hc
  obtain ⟨part, hpart, hof⟩ := List.mem_filterMap.1 hc
  obtain ⟨chars, hchars, rfl⟩ := List.mem_map.1 hpart
  have hslash := Text.not_mem_of_mem_splitAt List.not_mem_nil hchars
  exact isInner_of_ofPart? (by rwa [String.toList_ofList]) hof

/-- The components of a path are a row. -/
theorem isRow_components (p : Path) : IsRow p.components := by
  rw [components_eq, componentsOf]
  split
  · exact isInner_of_mem_restOf
  · split
    · exact isInner_of_mem_restOf
    · exact isRow_of_isInner isInner_of_mem_restOf

/-- The root stands at the front of absolute paths. -/
theorem isAbsolute_iff {p : Path} : p.isAbsolute = true ↔ p.components.head? = some .root := by
  rw [components_eq, componentsOf, isAbsolute]
  by_cases habsolute : (p.text.toList.head? == some '/') = true
  · simp [habsolute]
  · have hrest : (restOf p.text.toList).head? ≠ some .root := fun hroot =>
      isInner_of_mem_restOf _ (List.mem_of_mem_head? hroot)
    rw [if_neg habsolute]
    refine iff_of_false habsolute ?_
    split
    · simp
    · exact hrest

/-! ## Paths of components -/

/-- Components below the root have no slash. -/
theorem noSlash_text {c : Component} (h : c.IsInner) : '/' ∉ c.text.toList := by
  cases c with
  | up => decide
  | name s => exact IsName.noSlash h
  | root | here => cases h

/-- They are read from their texts. -/
theorem ofPart?_text {c : Component} (h : c.IsInner) : Component.ofPart? c.text = some c := by
  cases c with
  | up => rfl
  | name s => exact ofPart?_of_isName h
  | root | here => cases h

theorem splitCharsFrom_text {c : Component} (h : c.IsInner) :
    (Text.splitCharsFrom '/' [] c.text.toList).map String.ofList = [c.text] := by
  rw [Text.splitCharsFrom_of_not_mem (noSlash_text h), List.reverse_nil, List.nil_append,
    List.map_singleton, String.ofList_toList]

/-- Such a text is one component. -/
theorem restOf_text {c : Component} (h : c.IsInner) : restOf c.text.toList = [c] := by
  rw [restOf, splitCharsFrom_text h, List.filterMap_cons, ofPart?_text h]
  rfl

theorem isAbsolute_text {c : Component} (h : c.IsInner) : isAbsolute ⟨c.text⟩ = false :=
  isAbsolute_of_noSlash (noSlash_text h)

/-- So is a path of one. -/
theorem components_text {c : Component} (h : c.IsInner) : components ⟨c.text⟩ = [c] := by
  have hdot : c.text ≠ "." := by
    intro hdot
    have hpart := ofPart?_text h
    rw [hdot] at hpart
    cases hpart
  have hhead : ((Text.splitCharsFrom '/' [] c.text.toList).map String.ofList).head? ≠
      some "." := by
    rw [splitCharsFrom_text h]
    exact fun heq => hdot (Option.some.inj heq)
  have hroot : (c.text.toList.head? == some '/') = false := isAbsolute_text h
  rw [components_eq, componentsOf, hroot, if_neg Bool.false_ne_true,
    if_neg (by rw [beq_iff_eq]; exact hhead)]
  exact restOf_text h

/-- A component behind a path is its last one. -/
theorem components_join_text (p : Path) {c : Component} (h : c.IsInner) :
    (p.join ⟨c.text⟩).components = p.components ++ [c] := by
  by_cases hp : p.text.toList = []
  · have hjoin : p.join ⟨c.text⟩ = ⟨c.text⟩ := by
      rw [join_of_relative (isAbsolute_text h), Path.mk.injEq, ← String.toList_inj,
        String.toList_append, toList_lead, leadChars_of_closed (Or.inl hp), hp, List.nil_append]
    rw [hjoin, components_text h, components_eq, hp]
    rfl
  · rw [components_join hp (isAbsolute_text h), restOf_text h]

/-- The path that leads on from another one. -/
def below (p : Path) (cs : List Component) : Path :=
  cs.foldl (fun p c => p.join ⟨c.text⟩) p

/-- One may go down in two steps. -/
theorem below_append (p : Path) (cs ds : List Component) :
    p.below (cs ++ ds) = (p.below cs).below ds :=
  List.foldl_append

/-- A path leads on in the same way from wherever it is put. -/
theorem join_below (p q : Path) (cs : List Component) :
    p.join (q.below cs) = (p.join q).below cs := by
  induction cs generalizing q with
  | nil => rfl
  | cons c cs ih =>
      rw [below, List.foldl_cons, ← below, ih, ← join_assoc]
      rfl

/-- The components of a path below are those of the path, and then the ones gone down by. -/
theorem components_below (p : Path) {cs : List Component} (h : ∀ c ∈ cs, c.IsInner) :
    (p.below cs).components = p.components ++ cs := by
  induction cs generalizing p with
  | nil => exact (List.append_nil _).symm
  | cons c cs ih =>
      obtain ⟨hc, hcs⟩ := List.forall_mem_cons.1 h
      rw [below, List.foldl_cons, ← below, ih _ hcs, components_join_text p hc, List.append_assoc,
        List.singleton_append]

/-- A row of components are those of its path. -/
theorem components_ofComponents {cs : List Component} (h : IsRow cs) :
    (ofComponents cs).components = cs := by
  cases cs with
  | nil => decide
  | cons c cs =>
      show (below (join ⟨""⟩ ⟨c.text⟩) cs).components = c :: cs
      rw [components_below _ h.of_cons]
      cases c with
      | root | here => rfl
      | up => rfl
      | name s =>
        rw [components_join_text _ (h _ List.mem_cons_self)]
        rfl

end Path

end Courier
