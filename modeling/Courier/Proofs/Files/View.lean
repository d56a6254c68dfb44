import Courier.Files.Tree
import Courier.Proofs.Files.Joining
import Courier.Proofs.Session.Runs
import Mathlib.Data.List.Count

/-!
# Views of files

As long as nobody changes the files, it can be told once and for all which names stand in which
directory and what each path leads to.  A directory is listed in any order, and some cannot be
listed at all, or what is in them cannot be reached.  But where a path leads through a directory
that can be listed, the name that it goes on with is listed there.  Several entries of a directory
may read alike when their names are no text.

Main definitions:

- `FileView` tells what stands where, and `FileView.Shows` says that a trace was answered so.
- `FileView.Distinct` says that no two entries read alike, and `FileView.alike` counts those that
  do.
- `FileTree.view` is the view of a tree in memory, of which some directories cannot be listed and
  some paths cannot be reached.

Main statements:

- A walk through the front of a path and a walk through all of it have the same way
  (`FileTree.walk_of_append`).
- So the name that a path goes on with is listed (`FileTree.mem_entries_of_metadata`).
- A tree answers as its view shows (`FileTree.answers_perform`).
-/

namespace Courier

open Program

/-! ## Views -/

/-- The files as they are as long as nothing changes. -/
structure FileView where
  /-- The names in a directory, one for each entry, as they read; a link to it is followed. -/
  names : Path → Except FileFault (List String)
  /-- What a path leads to; links are followed. -/
  metadata : Path → Except FileFault Metadata
  isName : ∀ {p : Path} {ns : List String}, names p = .ok ns → ∀ n ∈ ns, Path.IsName n
  /-- What a path leads through stands in its directory. -/
  listed : ∀ {p : Path} {ns : List String} {n : String} {rest : List Path.Component}
    {info : Metadata}, names p = .ok ns → Path.IsName n → (∀ c ∈ rest, c.IsInner) →
      metadata (p.below (.name n :: rest)) = .ok info → n ∈ ns

namespace FileView

/-- The fault of a path that nobody is allowed to list or to reach. -/
def denied : FileFault :=
  .other "permission denied"

/-- Whether a path leads to a regular file. -/
def isFile (v : FileView) (p : Path) : Bool :=
  match v.metadata p with
  | .ok info => info.kind == .file
  | .error _ => false

/-- Whether a directory can be listed. -/
def Lists (v : FileView) (p : Path) : Prop :=
  ∃ ns, v.names p = .ok ns

/-- Whether no two entries of a directory read alike. -/
def Distinct (v : FileView) : Prop :=
  ∀ {p : Path} {ns : List String}, v.names p = .ok ns → ns.Nodup

/-- How many entries of a directory read like a component. -/
def alike (v : FileView) (p : Path) (c : Path.Component) : Nat :=
  match v.names p with
  | .ok ns => (ns.map Path.Component.name).count c
  | .error _ => 0

/-- As many entries are alike as the name occurs. -/
theorem alike_name {v : FileView} {p : Path} {ns : List String} (h : v.names p = .ok ns)
    (n : String) : v.alike p (.name n) = ns.count n := by
  have hinj : Function.Injective Path.Component.name := fun _ _ => Path.Component.name.inj
  simp only [alike, h, List.count_map_of_injective _ _ hinj]

/-- Whether an answer is what the view shows; names can come in any order. -/
def Answers (v : FileView) : Exchange → Prop
  | ⟨.files (.entries p), .ok entries⟩ =>
      ∃ ns, v.names p = .ok ns ∧ (entries.map DirectoryEntry.name).Perm ns
  | ⟨.files (.entries p), .error _⟩ => ¬v.Lists p
  | ⟨.files (.metadata p), result⟩ => result = v.metadata p
  | _ => True

/-- Whether everything was answered as the view shows it. -/
def Shows (v : FileView) (t : Trace) : Prop :=
  ∀ x ∈ t, v.Answers x

/-- Answers of somebody who has nothing but the files of a view, and does not change them. -/
def answer (v : FileView) : Trace → (r : Request) → r.Answer
  | _, .files op => match op with
      | .entries p => (v.names p).map (List.map fun n => ⟨n, .error .notFound⟩)
      | .metadata p => v.metadata p
      | .read _ | .write _ _ | .makeDirectories _ | .rename _ _ | .remove _ => .error denied
  | _, .ledger op => ((Ledger.mk [] 0).perform op).1
  | _, .now => default
  | _, .clockFraction => 0
  | _, .connect _ => .overloaded
  | _, .ask _ _ _ | _, .complete _ _ | _, .send _ _ _ | _, .writable _ => .error .closed
  | _, .reportFailure _ | _, .reportProgress _ | _, .tally _ | _, .sleep _ | _, .close _ => ()

/-- A view answers as it does. -/
theorem answers_answer (v : FileView) (before : Trace) (r : Request) :
    v.Answers ⟨r, v.answer before r⟩ := by
  cases r with
  | files op =>
      cases op with
      | entries p =>
          cases hnames : v.names p with
          | error fault =>
              simp only [answer, hnames, Except.map, Answers, Lists]
              simp
          | ok ns =>
              simp only [answer, hnames, Except.map, Answers, List.map_map]
              refine ⟨ns, rfl, ?_⟩
              rw [show DirectoryEntry.name ∘ (fun n => ⟨n, .error .notFound⟩) = id from rfl,
                List.map_id]
      | metadata p => rfl
      | _ => trivial
  | _ => trivial

/-- A view shows a trace when it shows both of its parts. -/
theorem shows_append {v : FileView} {t u : Trace} : v.Shows (t ++ u) ↔ v.Shows t ∧ v.Shows u :=
  List.forall_mem_append

end FileView

/-! ## Trees -/

namespace FileTree

/-- Whether there is one node at each place, under names. -/
structure Sound (t : FileTree) : Prop where
  distinct : (t.nodes.map Prod.fst).Nodup
  isName : ∀ e ∈ t.nodes, ∀ n ∈ e.1, Path.IsName n

variable {t : FileTree}

/-! ### Children -/

/-- The node of an entry that stands in a directory, with its name. -/
def child? (place : Place) (e : Place × Node) : Option (String × Node) :=
  match e.1.getLast? with
  | some name => if e.1.dropLast == place then some (name, e.2) else none
  | none => none

theorem children_eq (t : FileTree) (place : Place) :
    t.children place = t.nodes.filterMap (child? place) :=
  rfl

theorem child?_eq_some {place : Place} {e : Place × Node} {x : String × Node} :
    child? place e = some x ↔ e = (place ++ [x.1], x.2) := by
  obtain ⟨there, node⟩ := e
  constructor
  · intro h
    cases hlast : there.getLast? with
    | none => simp [child?, hlast] at h
    | some last =>
        obtain ⟨front, rfl⟩ := List.getLast?_eq_some_iff.1 hlast
        by_cases hfront : front = place
        · simp only [child?, List.getLast?_concat, List.dropLast_concat, hfront,
            beq_self_eq_true, if_true, Option.some.injEq] at h
          rw [← h, hfront]
        · simp [child?, hfront] at h
  · intro h
    obtain ⟨rfl, rfl⟩ := Prod.mk.inj h
    simp [child?]

/-- The children of a place are the nodes one step below it. -/
theorem mem_children {place : Place} {x : String × Node} :
    x ∈ t.children place ↔ (place ++ [x.1], x.2) ∈ t.nodes := by
  simp only [children_eq, List.mem_filterMap, child?_eq_some]
  constructor
  · rintro ⟨e, he, rfl⟩
    exact he
  · intro h
    exact ⟨_, h, rfl⟩

/-- A node that is found below a place is a child of it. -/
theorem mem_children_of_get? {place : Place} {n : String} {node : Node}
    (h : t.get? (place ++ [n]) = some node) : (n, node) ∈ t.children place := by
  have hbelow : (place ++ [n]).isEmpty = false := by simp
  rw [get?, hbelow, if_neg Bool.false_ne_true, List.lookup_eq_some_iff] at h
  obtain ⟨before, after, hnodes, -⟩ := h
  rw [mem_children, hnodes]
  exact List.mem_append_right _ List.mem_cons_self

/-- A sound tree has no two children of one name. -/
theorem Sound.nodup_children (h : t.Sound) (place : Place) :
    ((t.children place).map Prod.fst).Nodup := by
  have hdistinct : t.nodes.Pairwise fun e e' => e.1 ≠ e'.1 := List.pairwise_map.1 h.distinct
  rw [List.Nodup, List.pairwise_map, children_eq, List.pairwise_filterMap]
  refine hdistinct.imp fun hne x hx y hy heq => hne ?_
  rw [child?_eq_some.1 hx, child?_eq_some.1 hy, heq]

/-! ### Ways -/

/-- How a walk goes on from a place with a part, what it has to follow before the rest of its row,
and how many links that was. -/
inductive Leads (t : FileTree) (place : Place) (part : String) :
    Place → List String → Nat → Prop where
  | up (hpart : part = "..") : Leads t place part place.dropLast [] 0
  | directory {modified : Int} (hpart : part ≠ "..")
      (hnode : t.get? (place ++ [part]) = some (.directory modified)) :
      Leads t place part (place ++ [part]) [] 0
  | link {goal : Path} {modified : Int} (hpart : part ≠ "..")
      (hnode : t.get? (place ++ [part]) = some (.link goal modified)) :
      Leads t place part (if goal.isAbsolute then [] else place) (parts goal).1 1

variable {budget links count : Nat} {place there next : Place} {part : String}
  {ahead front rest : List String} {needs : Bool} {modified : Int} {target : Target}

/-- A walk with nothing left to go is over where it is. -/
theorem walk_nil {node : Node} (hnode : t.get? place = some node) :
    walk t true (budget + 1) links place [] needs = .ok (.found place node) := by
  rw [walk, hnode]

/-- A walk that has more to follow goes on in one of these ways. -/
theorem exists_leads_of_walk (hrest : rest ≠ [])
    (h : walk t true (budget + 1) links place (part :: rest) needs = .ok target) :
    ∃ next ahead count, t.Leads place part next ahead count ∧
      walk t true budget (links + count) next (ahead ++ rest) needs = .ok target := by
  have hmore : rest.isEmpty = false := by simp [hrest]
  rw [walk] at h
  by_cases hup : part = ".."
  · rw [if_pos (by simp [hup])] at h
    exact ⟨_, _, _, .up hup, h⟩
  rw [if_neg (by simp [hup])] at h
  by_cases hlong : maxNameBytes < part.utf8ByteSize
  · simp [hlong] at h
  rw [if_neg hlong] at h
  cases hnode : t.get? (place ++ [part]) with
  | none => simp [hnode, hmore] at h
  | some node =>
      simp only [hnode, hmore] at h
      cases node with
      | file content stamp => simp at h
      | directory stamp => exact ⟨_, _, _, .directory hup hnode, h⟩
      | link goal stamp =>
          by_cases hmany : maxLinks ≤ links
          · simp [hmany] at h
          · simp only [Bool.not_true, Bool.and_false, Bool.false_eq_true, if_false,
              if_neg hmany] at h
            exact ⟨_, _, _, .link hup hnode, h⟩

/-- So does a walk that comes to a directory, even when it has no more to follow. -/
theorem exists_walk_of_leads (hleads : t.Leads place part next ahead count)
    (h : walk t true (budget + 1) links place (part :: front) needs =
      .ok (.found there (.directory modified))) :
    ∃ budget links needs, walk t true budget links next (ahead ++ front) needs =
      .ok (.found there (.directory modified)) := by
  rw [walk] at h
  cases hleads with
  | up hpart =>
      rw [if_pos (by simp [hpart])] at h
      exact ⟨_, _, _, h⟩
  | directory hpart hnode =>
      rw [if_neg (by simp [hpart])] at h
      by_cases hlong : maxNameBytes < part.utf8ByteSize
      · simp [hlong] at h
      simp only [if_neg hlong, hnode] at h
      cases front with
      | nil =>
          simp only [List.isEmpty_nil, if_true, Except.ok.injEq, Target.found.injEq] at h
          obtain ⟨rfl, hsame⟩ := h
          exact ⟨1, links, needs, hsame ▸ walk_nil hnode⟩
      | cons _ _ => exact ⟨_, _, _, h⟩
  | link hpart hnode =>
      rw [if_neg (by simp [hpart])] at h
      by_cases hlong : maxNameBytes < part.utf8ByteSize
      · simp [hlong] at h
      simp only [if_neg hlong, hnode, Bool.not_true, Bool.and_false, Bool.false_eq_true,
        if_false] at h
      by_cases hmany : maxLinks ≤ links
      · simp [hmany] at h
      rw [if_neg hmany] at h
      exact ⟨_, _, _, h⟩

/-- A walk through the front of a row and a walk through all of it have the same way. -/
theorem walk_of_append {budget' : Nat} {needs' : Bool} (hrest : rest ≠ [])
    (hfront : walk t true budget' links place front needs' =
      .ok (.found there (.directory modified)))
    (hall : walk t true budget count place (front ++ rest) needs = .ok target) :
    ∃ budget links, walk t true budget links there rest needs = .ok target := by
  induction budget generalizing budget' links count place front needs' with
  | zero => simp [walk] at hall
  | succ budget ih =>
      cases budget' with
      | zero => simp [walk] at hfront
      | succ budget' =>
          cases front with
          | nil =>
              have hthere : place = there := by
                cases hnode : t.get? place with
                | none => simp [walk, hnode] at hfront
                | some node =>
                    rw [walk_nil hnode] at hfront
                    exact (Target.found.inj (Except.ok.inj hfront)).1
              exact ⟨budget + 1, count, hthere ▸ hall⟩
          | cons part front =>
              have hmore : front ++ rest ≠ [] := List.append_ne_nil_of_right_ne_nil front hrest
              obtain ⟨next, ahead, _, hleads, hall⟩ := exists_leads_of_walk hmore hall
              obtain ⟨_, _, _, hfront⟩ := exists_walk_of_leads hleads hfront
              rw [← List.append_assoc] at hall
              exact ih hfront hall

/-! ### Paths -/

/-- The parts of a text that a walk goes through. -/
def partsOf (cs : List Char) : List String :=
  ((Text.splitCharsFrom '/' [] cs).map String.ofList).filter fun s => s != "" && s != "."

theorem parts_eq (p : Path) : (parts p).1 = partsOf p.text.toList :=
  rfl

/-- What follows a slash adds its parts at the end. -/
theorem partsOf_append (as bs : List Char) :
    partsOf (as ++ '/' :: bs) = partsOf as ++ partsOf bs := by
  simp only [partsOf, Text.splitCharsFrom_append, List.map_append, List.filter_append]

/-- A component is one part. -/
theorem partsOf_text {c : Path.Component} (h : c.IsInner) : partsOf c.text.toList = [c.text] := by
  have hcounts : (c.text != "" && c.text != ".") = true := by
    cases c with
    | up => rfl
    | name s => simp [Path.Component.text, Path.IsName.notEmpty h, Path.IsName.notHere h]
    | root | here => cases h
  rw [partsOf, Path.splitCharsFrom_text h]
  simp [hcounts]

/-- A component that is joined to a path is its last part. -/
theorem parts_join_text (p : Path) {c : Path.Component} (h : c.IsInner) :
    (parts (p.join ⟨c.text⟩)).1 = (parts p).1 ++ [c.text] := by
  rw [Path.join_of_relative (Path.isAbsolute_text h), parts_eq, parts_eq, String.toList_append,
    Path.toList_lead, ← partsOf_text h]
  by_cases hp : p.text.toList = []
  · rw [hp, Path.leadChars_of_closed (Or.inl rfl)]
    rfl
  · by_cases hslash : p.text.toList.getLast? = some '/'
    · obtain ⟨front, hfront⟩ := List.getLast?_eq_some_iff.1 hslash
      rw [Path.leadChars_of_closed (Or.inr hslash), hfront, List.append_assoc,
        List.singleton_append, partsOf_append, partsOf_append, show partsOf [] = [] by decide,
        List.append_nil]
    · rw [Path.leadChars_of_open (not_or.2 ⟨hp, hslash⟩), List.append_assoc,
        List.singleton_append, partsOf_append]

/-- A path that leads on from another one begins where this one does, and has its parts first. -/
theorem parts_below (p : Path) {cs : List Path.Component} (h : ∀ c ∈ cs, c.IsInner) :
    (parts (p.below cs)).1 = (parts p).1 ++ cs.map Path.Component.text ∧
      (p.below cs).isAbsolute = p.isAbsolute := by
  induction cs generalizing p with
  | nil => exact ⟨(List.append_nil _).symm, rfl⟩
  | cons c cs ih =>
      obtain ⟨hc, hcs⟩ := List.forall_mem_cons.1 h
      obtain ⟨hparts, habsolute⟩ := ih (p.join ⟨c.text⟩) hcs
      constructor
      · refine hparts.trans ?_
        rw [parts_join_text p hc, List.append_assoc, List.map_cons, List.singleton_append]
      · refine habsolute.trans ?_
        rw [Path.isAbsolute_join, Path.isAbsolute_text hc, Bool.or_false]

/-- A path is followed by a walk through its parts. -/
theorem walk_of_resolve {follow : Bool} {p : Path} {target : Target}
    (h : t.resolve follow p = .ok target) :
    ∃ budget needs, walk t follow budget 0 (if p.isAbsolute then [] else t.current) (parts p).1
      needs = .ok target := by
  unfold resolve at h
  split at h
  · cases h
  · split at h
    · cases h
    · split at h
      · cases h
      · exact ⟨_, _, h⟩

/-- What has entries is a directory. -/
theorem exists_directory_of_entries {p : Path} {entries : List DirectoryEntry}
    (h : t.entries p = .ok entries) :
    ∃ place modified, t.resolve true p = .ok (.found place (.directory modified)) ∧
      entries.map DirectoryEntry.name = (t.children place).map Prod.fst := by
  unfold FileTree.entries at h
  split at h
  · cases h
  · cases h
  · next place modified hresolve =>
      obtain rfl := Except.ok.inj h
      refine ⟨place, modified, hresolve, ?_⟩
      rw [List.map_map]
      rfl
  · cases h

/-- What can be asked for is somewhere in the tree. -/
theorem exists_found_of_metadata {p : Path} {info : Metadata} (h : t.metadata p = .ok info) :
    ∃ place node, t.resolve true p = .ok (.found place node) := by
  unfold FileTree.metadata at h
  split at h
  · cases h
  · cases h
  · next place node hresolve => exact ⟨place, node, hresolve⟩

/-- A walk from a directory begins with one of its names. -/
theorem mem_children_of_walk {budget links : Nat} {place there : Place} {n : String}
    {rest : List String} {needs : Bool} {node : Node} (hn : n ≠ "..")
    (h : walk t true budget links place (n :: rest) needs = .ok (.found there node)) :
    n ∈ (t.children place).map Prod.fst := by
  cases budget with
  | zero => simp [walk] at h
  | succ budget =>
      rw [walk, if_neg (by simp [hn])] at h
      by_cases hlong : maxNameBytes < n.utf8ByteSize
      · simp [hlong] at h
      rw [if_neg hlong] at h
      cases hnode : t.get? (place ++ [n]) with
      | some child => exact List.mem_map_of_mem (mem_children_of_get? hnode)
      | none =>
          simp only [hnode] at h
          split at h <;> cases h

/-- What a path leads through stands in its directory. -/
theorem mem_entries_of_metadata {p : Path} {n : String} {rest : List Path.Component}
    {info : Metadata} {entries : List DirectoryEntry} (hn : Path.IsName n)
    (hrest : ∀ c ∈ rest, c.IsInner) (hentries : t.entries p = .ok entries)
    (hinfo : t.metadata (p.below (.name n :: rest)) = .ok info) :
    n ∈ entries.map DirectoryEntry.name := by
  obtain ⟨place, modified, hfront, hnames⟩ := exists_directory_of_entries hentries
  obtain ⟨there, node, hall⟩ := exists_found_of_metadata hinfo
  obtain ⟨budget', needs', hfront⟩ := walk_of_resolve hfront
  obtain ⟨budget, needs, hall⟩ := walk_of_resolve hall
  have hinner : ∀ c ∈ Path.Component.name n :: rest, c.IsInner :=
    List.forall_mem_cons.2 ⟨hn, hrest⟩
  obtain ⟨hparts, habsolute⟩ := parts_below p hinner
  rw [hparts, habsolute, List.map_cons] at hall
  obtain ⟨budget, links, hrest⟩ := walk_of_append (List.cons_ne_nil _ _) hfront hall
  rw [hnames]
  exact mem_children_of_walk hn.notUp hrest

/-! ### The view of a tree -/

/-- The names in a directory, unless it cannot be listed. -/
def names (t : FileTree) (unlistable : Path → Bool) (p : Path) : Except FileFault (List String) :=
  if unlistable p then .error FileView.denied else (t.entries p).map (List.map DirectoryEntry.name)

/-- The names in the view are those of the entries. -/
theorem exists_entries_of_names {unlistable : Path → Bool} {p : Path} {ns : List String}
    (h : t.names unlistable p = .ok ns) :
    ∃ entries, t.entries p = .ok entries ∧ ns = entries.map DirectoryEntry.name := by
  unfold names at h
  split at h
  · cases h
  · cases hentries : t.entries p with
    | error fault => simp [hentries, Except.map] at h
    | ok entries =>
        rw [hentries] at h
        exact ⟨entries, rfl, (Except.ok.inj h).symm⟩

/-- The view of a tree.  Some directories cannot be listed, and some paths cannot be reached. -/
def view (t : FileTree) (h : t.Sound) (unlistable unreachable : Path → Bool) : FileView where
  names := t.names unlistable
  metadata p := if unreachable p then .error FileView.denied else t.metadata p
  isName := by
    intro p ns hns n hn
    obtain ⟨entries, hentries, rfl⟩ := exists_entries_of_names hns
    obtain ⟨place, modified, -, hnames⟩ := exists_directory_of_entries hentries
    rw [hnames] at hn
    obtain ⟨x, hx, rfl⟩ := List.mem_map.1 hn
    exact h.isName _ (mem_children.1 hx) _ (List.mem_append_right _ List.mem_cons_self)
  listed := by
    intro p ns n rest info hns hn hrest hinfo
    obtain ⟨entries, hentries, rfl⟩ := exists_entries_of_names hns
    by_cases hunreachable : unreachable (p.below (.name n :: rest)) = true
    · simp [hunreachable] at hinfo
    · rw [if_neg hunreachable] at hinfo
      exact mem_entries_of_metadata hn hrest hentries hinfo

/-- The names in a tree are texts, so no two entries of a directory read alike. -/
theorem distinct_view (t : FileTree) (h : t.Sound) (unlistable unreachable : Path → Bool) :
    (t.view h unlistable unreachable).Distinct := by
  intro p ns hns
  obtain ⟨entries, hentries, rfl⟩ := exists_entries_of_names hns
  obtain ⟨place, modified, -, hnames⟩ := exists_directory_of_entries hentries
  rw [hnames]
  exact h.nodup_children place

/-- When everything can be listed and reached, a tree answers as its view shows. -/
theorem answers_perform (t : FileTree) (h : t.Sound) (op : FileOp) :
    (t.view h (fun _ => false) fun _ => false).Answers ⟨.files op, (t.perform op).1⟩ := by
  cases op with
  | metadata p => rfl
  | entries p =>
      have hnames : (t.view h (fun _ => false) fun _ => false).names p =
          (t.entries p).map (List.map DirectoryEntry.name) := rfl
      cases hentries : t.entries p with
      | error fault =>
          simp only [perform, hentries, FileView.Answers, FileView.Lists, hnames, Except.map]
          simp
      | ok entries =>
          simp only [perform, hentries, FileView.Answers, hnames, Except.map]
          exact ⟨_, rfl, List.Perm.refl _⟩
  | read | write | makeDirectories | rename | remove => trivial

end FileTree

end Courier
