import Courier.Proofs.Spool.Snapshots
import Courier.Proofs.Spool.Summaries
import Courier.Proofs.Wire.Messages

/-!
# The stored form of a status

A status is read back from the content of a status file with every item and all counts, as long as
its numbers have their widths and its moments a text of their own, and what is read from any content
is such.  A monitor that is loaded knows what the content of its status file says; a missing file, or one that
cannot be read, says nothing.

Main definitions:

- `StatusFile.ofBytes?` is what the content of a status file says.
- `Trace.Finds` says that a trace found a file with some content, or none.
- `Monitor.loaded` is the monitor that is loaded, as a function of this content.

Main statements:

- A status that fits is read back (`StatusFile.ofBytes?_toUTF8`), and what is read fits
  (`Item.keeps_of_ofJson`).
- Loading a monitor ends, with the one that is told by the content (`Monitor.exists_run_load`,
  `Monitor.eq_of_run_load`).
-/

namespace Courier

open Program Calendar

/-! ## Items -/

/-- Whether an item is stored without loss: its numbers have their widths, and its moment has a text
of its own. -/
structure Item.Keeps (i : Item) : Prop where
  fits : i.Fits
  regular : i.IsRegular

/-- An item that was read is stored without loss. -/
theorem Item.keeps_of_ofJson {i : Item} {j : Json} (h : Item.ofJson j = .ok i) : i.Keeps := by
  obtain ⟨f, -, h⟩ := Json.bind_eq_ok h
  obtain ⟨path, -, h⟩ := Json.bind_eq_ok h
  obtain ⟨hash, -, h⟩ := Json.bind_eq_ok h
  obtain ⟨lastModified, hmodified, h⟩ := Json.bind_eq_ok h
  obtain ⟨size, hsize, h⟩ := Json.bind_eq_ok h
  obtain ⟨used, -, h⟩ := Json.bind_eq_ok h
  obtain ⟨timeUsed, hused, h⟩ := Json.bind_eq_ok h
  obtain ⟨specialId, hid, h⟩ := Json.bind_eq_ok h
  cases h
  refine ⟨⟨?_, ?_, ?_⟩, ?_⟩
  · obtain ⟨value, hvalue⟩ := Json.Fields.required_eq_ok hmodified
    exact Json.fitsInt64_of_toInt64 hvalue
  · obtain ⟨value, hvalue⟩ := Json.Fields.required_eq_ok hsize
    exact Json.lt_of_toNat64 hvalue
  · intro id hmem
    obtain rfl : specialId = some id := hmem
    obtain ⟨value, hvalue⟩ := Json.Fields.optional_eq_ok hid
    exact Json.fitsInt64_of_toInt64 hvalue
  · intro m hmem
    obtain rfl : timeUsed = some m := hmem
    obtain ⟨value, hvalue⟩ := Json.Fields.optional_eq_ok hused
    exact Moment.isRegular_of_ofJson hvalue

namespace Items

/-- A row is made of the items that it was made from. -/
theorem mem_of_mem_ofList {items : List Item} {i : Item} (h : i ∈ ofList items) : i ∈ items := by
  have hfold : ∀ (rest : List Item) (row : Items), i ∈ rest.foldl put row → i ∈ rest ∨ i ∈ row := by
    intro rest
    induction rest with
    | nil => exact fun _ hi => Or.inr hi
    | cons j rest ih =>
        intro row hi
        rcases ih _ hi with hi | hi
        · exact Or.inl (List.mem_cons_of_mem j hi)
        · rcases Ordered.mem_put hi with rfl | hi
          · exact Or.inl List.mem_cons_self
          · exact Or.inr hi
  exact (hfold items [] h).resolve_right List.not_mem_nil

/-- The row of the items of a row is this row. -/
theorem ofList_of_isRow {items : Items} (h : items.IsRow) : ofList items = items := by
  apply eq_of_find?_eq (isRow_ofList items) h
  intro p
  rw [ofList, find?_foldl_put h]
  exact Option.or_none

end Items

/-! ## Status files -/

namespace StatusFile

/-- Whether a status is stored without loss. -/
structure Fits (s : StatusFile) : Prop where
  items : ∀ i ∈ s.items, i.Keeps
  counters : s.counters.Fits

/-- A status is read back from its JSON form. -/
theorem ofJson_toJson {s : StatusFile} (h : s.Fits) (today : Date) :
    ofJson today s.toJson = .ok s := by
  have hitems := Item.toListOf_map_toJson fun i hi => (h.items i hi).fits
  rw [Item.map_readBack_eq_iff.2 fun i hi => (h.items i hi).regular] at hitems
  simp [ofJson, toJson, Json.fields_object, hitems, Counters.ofJson_toJson h.counters]

theorem isWhole_toJson (s : StatusFile) : Json.IsWhole s.toJson := by
  have hitems : Json.AreWhole (s.items.map Item.toJson) :=
    Json.areWhole_iff.2 (List.forall_mem_map.2 fun i _ => i.isWhole_toJson)
  simp [toJson, Json.IsWhole, Json.AreWholeMembers, hitems, s.counters.isWhole_toJson]

/-- What the content of a status file says, if anything. -/
def ofBytes? (today : Date) (content : ByteArray) : Option StatusFile :=
  (String.fromUTF8? content).bind fun text => (Json.decode (ofJson today) text).toOption

/-- A status is read back from the content that is written for it. -/
theorem ofBytes?_toUTF8 {s : StatusFile} (h : s.Fits) (today : Date) :
    ofBytes? today s.toJson.indented.toUTF8 = some s := by
  have htext : String.fromUTF8? s.toJson.indented.toUTF8 = some s.toJson.indented :=
    dif_pos s.toJson.indented.isValidUTF8
  rw [ofBytes?, htext, Option.bind_some, Json.decode_indented s.isWhole_toJson
    (ofJson_toJson h today)]
  rfl

/-- The items of a status that was read are stored without loss. -/
theorem items_keep_of_ofJson {s : StatusFile} {today : Date} {j : Json}
    (h : ofJson today j = .ok s) : ∀ i ∈ s.items, i.Keeps := by
  obtain ⟨f, -, h⟩ := Json.bind_eq_ok h
  obtain ⟨items, hitems, h⟩ := Json.bind_eq_ok h
  obtain ⟨counters, -, h⟩ := Json.bind_eq_ok h
  cases h
  obtain ⟨value, hvalue⟩ := Json.Fields.required_eq_ok hitems
  cases value with
  | list values =>
      intro i hi
      obtain ⟨j, -, hread⟩ := Json.exists_of_mapM_eq_ok hvalue hi
      exact Item.keeps_of_ofJson hread
  | _ => exact nomatch hvalue

/-- The items that a status file says are stored without loss. -/
theorem keeps_of_ofBytes? {s : StatusFile} {today : Date} {content : ByteArray}
    (h : ofBytes? today content = some s) : ∀ i ∈ s.items, i.Keeps := by
  obtain ⟨text, -, hsome⟩ := Option.bind_eq_some_iff.1 h
  unfold Json.decode at hsome
  split at hsome
  · exact nomatch hsome
  · next j _ =>
      cases hread : ofJson today j with
      | error fault =>
          rw [hread] at hsome
          exact nomatch hsome
      | ok read =>
          rw [hread] at hsome
          obtain rfl : read = s := Option.some.inj hsome
          exact items_keep_of_ofJson hread

end StatusFile

/-! ## Loading -/

/-- Whether what is asked of a file is answered by its content, or by there being none. -/
def Exchange.Finds (p : Path) (content : Option ByteArray) : Exchange → Prop
  | ⟨.files (.metadata q), answer⟩ => q = p → answer.isOk = content.isSome
  | ⟨.files (.read q), answer⟩ => q = p → ∀ bytes, answer = .ok bytes ↔ content = some bytes
  | _ => True

/-- Whether a trace found a file with some content, or found none. -/
def Trace.Finds (p : Path) (content : Option ByteArray) (t : Trace) : Prop :=
  ∀ x ∈ t, x.Finds p content

theorem Trace.finds_append {p : Path} {content : Option ByteArray} {t u : Trace} :
    Trace.Finds p content (t ++ u) ↔ t.Finds p content ∧ u.Finds p content :=
  List.forall_mem_append

namespace Monitor

variable {p : Path} {content : Option ByteArray} {today : Date} {zone : Zone} {t : Trace} {job : Job}

/-- A file is said to exist when it has a content. -/
theorem eq_of_run_pathExists {found : Bool} (h : Run (Files.pathExists p) t found)
    (ht : t.Finds p content) : found = content.isSome := by
  obtain ⟨answer, u, rfl, hdone⟩ := Run.ask_iff.1 h
  obtain ⟨-, rfl⟩ := Run.done_iff.1 hdone
  exact (List.forall_mem_cons.1 ht).1 rfl

/-- The text of a file is that of its content. -/
theorem eq_of_run_readText {bytes : ByteArray} {text : Except FileFault String}
    (h : Run (Files.readText p) t text) (ht : t.Finds p (some bytes)) :
    text.toOption = String.fromUTF8? bytes := by
  obtain ⟨answer, u, rfl, hrest⟩ := Run.ask_iff.1 h
  obtain rfl : answer = .ok bytes := ((List.forall_mem_cons.1 ht).1 rfl bytes).2 rfl
  cases hvalid : String.fromUTF8? bytes with
  | none =>
      simp only [hvalid] at hrest
      rw [(Run.done_iff.1 hrest).2]
      rfl
  | some valid =>
      simp only [hvalid] at hrest
      rw [(Run.done_iff.1 hrest).2]
      rfl

/-- A status file is read as its content says. -/
theorem eq_of_run_readStatus? {state : Option StatusFile}
    (h : Run (readStatus? p today) t state) (ht : t.Finds p content) :
    state = content.bind (StatusFile.ofBytes? today) := by
  obtain ⟨u, found, v, rfl, hexists, hrest⟩ := Run.bind_iff.1 h
  obtain ⟨hu, hv⟩ := Trace.finds_append.1 ht
  obtain rfl := eq_of_run_pathExists hexists hu
  cases content with
  | none => exact (Run.done_iff.1 hrest).2
  | some bytes =>
      obtain ⟨v, text, w, rfl, hread, hend⟩ := Run.bind_iff.1 hrest
      have htext := eq_of_run_readText hread (Trace.finds_append.1 hv).1
      rw [Option.bind_some, StatusFile.ofBytes?, ← htext]
      cases text with
      | error fault => exact (Run.done_iff.1 hend).2
      | ok text => exact (Run.done_iff.1 hend).2

/-- The monitor of a job with what the content of its status file says. -/
def loaded (job : Job) (today : Date) (zone : Zone) (content : Option ByteArray) :
    Except SpoolFault Monitor :=
  match job.filter.mapM Regex.parse with
  | .error fault => .error (.filter fault)
  | .ok filter =>
      match content.bind (StatusFile.ofBytes? today) with
      | none => .ok (ofJob job filter today zone)
      | some state =>
          .ok { ofJob job filter today zone with
            items := .ofList state.items
            counters := state.counters }

/-- A monitor that is loaded knows items in order, which are stored without loss, and has nothing to
save. -/
theorem loaded_eq_ok {m : Monitor} (h : loaded job today zone content = .ok m) :
    ∃ filter, job.filter.mapM Regex.parse = .ok filter ∧
      m = { ofJob job filter today zone with items := m.items, counters := m.counters } ∧
      m.items.IsRow ∧ ∀ i ∈ m.items, i.Keeps := by
  unfold loaded at h
  split at h
  · exact nomatch h
  · next filter hfilter =>
      refine ⟨filter, hfilter, ?_⟩
      cases hstate : content.bind (StatusFile.ofBytes? today) with
      | none =>
          rw [hstate] at h
          obtain rfl := Except.ok.inj h
          exact ⟨rfl, Items.isRow_nil, List.forall_mem_nil _⟩
      | some state =>
          rw [hstate] at h
          obtain rfl := Except.ok.inj h
          refine ⟨rfl, Items.isRow_ofList state.items, ?_⟩
          intro i hi
          obtain ⟨bytes, -, hbytes⟩ := Option.bind_eq_some_iff.1 hstate
          exact StatusFile.keeps_of_ofBytes? hbytes i (Items.mem_of_mem_ofList hi)

/-- A monitor is loaded with the status that was written. -/
theorem loaded_of_stored {s : StatusFile} {filter : Option Regex}
    (hfilter : job.filter.mapM Regex.parse = .ok filter) (hs : s.Fits)
    (hrow : Items.IsRow s.items) :
    loaded job today zone (some s.toJson.indented.toUTF8) =
      .ok { ofJob job filter today zone with items := s.items, counters := s.counters } := by
  unfold loaded
  simp only [hfilter, Option.bind_some, StatusFile.ofBytes?_toUTF8 hs today,
    Items.ofList_of_isRow hrow]

/-- A monitor is loaded with what the content of its status file says. -/
theorem eq_of_run_load {result : Except SpoolFault Monitor}
    (h : Run (load job today zone) t result) (ht : t.Finds job.statusFile content) :
    result = loaded job today zone content := by
  simp only [load] at h
  unfold loaded
  cases hfilter : job.filter.mapM Regex.parse with
  | error fault =>
      rw [hfilter] at h
      exact (Run.done_iff.1 h).2
  | ok filter =>
      rw [hfilter] at h
      obtain ⟨u, state, v, rfl, hread, hend⟩ := Run.bind_iff.1 h
      obtain rfl := eq_of_run_readStatus? hread (Trace.finds_append.1 ht).1
      cases hstate : content.bind (StatusFile.ofBytes? today) with
      | none =>
          rw [hstate] at hend
          exact (Run.done_iff.1 hend).2
      | some state =>
          rw [hstate] at hend
          exact (Run.done_iff.1 hend).2

/-- To load a monitor, its status file is asked for and read. -/
theorem asks_load {P : Request → Prop} (hmetadata : P (.files (.metadata job.statusFile)))
    (hread : P (.files (.read job.statusFile))) (today : Date) (zone : Zone) :
    Asks P (load job today zone) := by
  have hexists : Asks P (Files.pathExists job.statusFile) :=
    asks_bind (asks_perform hmetadata) fun _ => asks_done _
  have htext : Asks P (Files.readText job.statusFile) := by
    apply asks_bind (asks_perform hread)
    intro bytes
    cases bytes with
    | error fault => exact asks_done _
    | ok bytes =>
        simp only
        split <;> exact asks_done _
  have hstatus : Asks P (readStatus? job.statusFile today) := by
    apply asks_bind hexists
    intro found
    cases found with
    | false => exact asks_done _
    | true =>
        apply asks_bind htext
        intro text
        cases text <;> exact asks_done _
  simp only [load]
  split
  · exact asks_done _
  · apply asks_bind hstatus
    intro state
    cases state <;> exact asks_done _

/-- Loading a monitor ends, whatever its status file holds. -/
theorem exists_run_load (job : Job) (today : Date) (zone : Zone) (content : Option ByteArray) :
    ∃ t, Run (load job today zone) t (loaded job today zone content) ∧
      t.Finds job.statusFile content := by
  have hasks : Asks (fun r => ∃ answer, Exchange.Finds job.statusFile content ⟨r, answer⟩)
      (load job today zone) := by
    apply asks_load
    · cases content with
      | none => exact ⟨.error .notFound, fun _ => rfl⟩
      | some bytes => exact ⟨.ok ⟨.file, bytes.size, 0⟩, fun _ => rfl⟩
    · cases content with
      | none => exact ⟨.error .notFound, fun _ bytes => by simp⟩
      | some bytes => exact ⟨.ok bytes, fun _ other => by simp⟩
  obtain ⟨t, result, hrun, ht⟩ := exists_run_of_asks hasks
  rw [eq_of_run_load hrun ht] at hrun
  exact ⟨t, hrun, ht⟩

end Monitor

end Courier
