import Courier.Proofs.Calendar.RoundTrip
import Courier.Proofs.Json.Typed
import Courier.Spool.Monitor
import Courier.Wire.Packet

/-!
# Messages are read back

Packets, answers, queries and the summaries of a monitor travel as JSON text.  Each is read back
as the value that it was written for.  A packet and a query name their kind in a member of their
own, beside the members of what they hold, and are kept whole until that kind is known; no member
of what they hold has the name of that one, and all of them can be kept.

The numbers in a message have the widths of their fields: 32 bits for ranks, 64 bits for the
numbers of transfers, for times, for sizes and for counts.  The moments in a summary are written as
the calendar writes them, which has no text of its own for a leap second that does not end a
minute; such a moment comes back as the second after it.

Main definitions:

- `Packet.Fits`, `Query.Fits` and `Summary.Fits` say that the numbers of a message have these
  widths.
- `Summary.IsRegular` says that all moments of a summary have a text of their own, and
  `Summary.readBack` is what any summary is read back as.
- `Json.Survives` says of a kind of message that it is read back from its text, and that no two
  messages have one text.

Main statements:

- A tag is told apart from the members of what it names (`Json.splitTag_object`).
- `Packet.ofJson_toJson`, `Answer.ofJson_toJson`, `Query.ofJson_toJson` and
  `Summary.ofJson_toJson` for single messages.
- `messages_survive` for all of them.
-/

namespace Courier

/-! ## Tags -/

namespace Json

/-- The tag of a record is told apart from members that do not have its name. -/
theorem splitTag_object {tag : String} {value : Json} {members : List (String × Json)}
    (h : ∀ m ∈ members, m.1 ≠ tag) :
    splitTag tag (.object ((tag, value) :: members)) = .ok (value, .object members) := by
  have htags : members.filter (fun m => m.1 == tag) = [] :=
    List.filter_eq_nil_iff.2 fun m hm => by simpa using h m hm
  have hrest : members.filter (fun m => m.1 != tag) = members :=
    List.filter_eq_self.2 fun m hm => by simpa using h m hm
  simp [splitTag, htags, hrest]

/-! ## Values that are kept -/

/-- An integer of 64 bits, with or without a sign, can be kept. -/
theorem isBufferable_ofInt {i : Int} (h : -(wordValues 63 : Int) ≤ i ∧ i < wordValues 64)
    (depth : Nat) : isBufferable depth (ofInt i) = true := by
  simp [ofInt, isBufferable, Number.isKept, Number.toInt?_ofInt, h]

theorem FitsInt64.lt_wordValues {i : Int} (h : FitsInt64 i) :
    -(wordValues 63 : Int) ≤ i ∧ i < wordValues 64 := by
  have hwider : wordValues 63 ≤ wordValues 64 := by decide
  unfold FitsInt64 at h
  omega

/-- A natural number of 64 bits can be kept. -/
theorem isBufferable_ofNat {n : Nat} (h : n < wordValues 64) (depth : Nat) :
    isBufferable depth (ofNat n) = true :=
  isBufferable_ofInt (by omega) depth

@[simp]
theorem isBufferable_string (depth : Nat) (s : String) : isBufferable depth (.string s) = true :=
  rfl

@[simp]
theorem isBufferable_bool (depth : Nat) (b : Bool) : isBufferable depth (.bool b) = true :=
  rfl

/-- A list can be buffered when its items can. -/
theorem areBufferable_iff {depth : Nat} {items : List Json} :
    areBufferable depth items = true ↔ ∀ item ∈ items, isBufferable depth item = true := by
  induction items with
  | nil => simp [areBufferable]
  | cons item items ih => simp [areBufferable, ih]

/-- An object can be buffered when its values can. -/
theorem areBufferableMembers_iff {depth : Nat} {members : List (String × Json)} :
    areBufferableMembers depth members = true ↔
      ∀ m ∈ members, isBufferable depth m.2 = true := by
  induction members with
  | nil => simp [areBufferableMembers]
  | cons m members ih => simp [areBufferableMembers, ih]

/-- An object is kept when the values of its members can be. -/
theorem buffered_object {members : List (String × Json)}
    (h : ∀ m ∈ members, isBufferable (maxDepth - 1) m.2 = true) :
    buffered (.object members) = .ok (.object members) := by
  have hmembers : isBufferable maxDepth (.object members) = true :=
    areBufferableMembers_iff.2 h
  simp [buffered, hmembers]

/-! ## Surviving -/

/-- Whether the messages of a kind that fit survive their text: each is read back from its text,
and no two have the same one. -/
structure Survives {α : Type} (fits : α → Prop) (toJson : α → Json) (ofJson : Json → Decoded α) :
    Prop where
  readBack : ∀ a, fits a → decode ofJson (toJson a).compact = .ok a
  distinct : ∀ a b, fits a → fits b → a ≠ b → (toJson a).compact ≠ (toJson b).compact

/-- What is read back from its value survives its text. -/
theorem survives {α : Type} {fits : α → Prop} {toJson : α → Json} {ofJson : Json → Decoded α}
    (hwhole : ∀ a, IsWhole (toJson a)) (hback : ∀ a, fits a → ofJson (toJson a) = .ok a) :
    Survives fits toJson ofJson where
  readBack a ha := decode_compact (hwhole a) (hback a ha)
  distinct a b ha hb hne htext := by
    have hread := decode_compact (hwhole a) (hback a ha)
    rw [htext, decode_compact (hwhole b) (hback b hb)] at hread
    exact hne (Except.ok.inj hread).symm

end Json

/-! ## Queries -/

namespace Query

/-- Whether the number of a query has its width. -/
def Fits : Query → Prop
  | describeTransfer specialId _ _ => Json.FitsInt64 specialId
  | listFiles _ _ => True

/-- The members of a query beside the one that names its kind. -/
def fields : Query → List (String × Json)
  | describeTransfer specialId requester requested =>
      [("specialId", .ofInt specialId), ("requester", .string requester),
        ("requested", .string requested)]
  | listFiles rule pattern => [("rule", .string rule), ("pattern", .string pattern)]

/-- The kind of a query. -/
def kind : Query → Kind
  | describeTransfer _ _ _ => .describeTransfer
  | listFiles _ _ => .listFiles

/-- The name under which a kind of queries travels. -/
def Kind.name : Kind → String
  | .describeTransfer => "describeTransfer"
  | .listFiles => "listFiles"

/-- The kind of a query comes first among its members. -/
theorem members_eq (q : Query) : q.members = ("query", .string q.kind.name) :: q.fields := by
  cases q <;> rfl

/-- Each kind of query is found under its own name. -/
theorem lookup_kinds (k : Kind) : kinds.lookup k.name = some k := by
  cases k <;> rfl

/-- Without its tag, a query is its other fields. -/
theorem splitTag_members (q : Query) :
    Json.splitTag "query" (.object q.members) =
      .ok (.string q.kind.name, .object q.fields) := by
  rw [members_eq]
  apply Json.splitTag_object
  cases q <;> simp [fields]

/-- A query is read back from its kind and its fields. -/
theorem ofKind_fields {q : Query} (h : q.Fits) : ofKind q.kind (.object q.fields) = .ok q := by
  cases q with
  | describeTransfer specialId requester requested =>
      have hid := Json.toInt64_ofInt h
      simp [ofKind, kind, fields, Json.fields_object, hid]
  | listFiles rule pattern =>
      simp [ofKind, kind, fields, Json.fields_object]

/-- The fields of a query can be buffered at any depth. -/
theorem isBufferable_of_mem_fields {q : Query} (h : q.Fits) (depth : Nat) :
    ∀ m ∈ q.fields, Json.isBufferable depth m.2 = true := by
  cases q with
  | describeTransfer specialId requester requested =>
      have hid := Json.isBufferable_ofInt (Json.FitsInt64.lt_wordValues h) depth
      simp [fields, Json.isBufferable, hid]
  | listFiles rule pattern => simp [fields, Json.isBufferable]

/-- A query is read back after it was kept. -/
theorem ofBuffered_members {q : Query} (h : q.Fits) :
    ofBuffered (.object q.members) = .ok q := by
  simp [ofBuffered, splitTag_members, Json.bufferedTag, lookup_kinds, ofKind_fields h]

/-- A query is read back from its JSON form. -/
theorem ofJson_toJson {q : Query} (h : q.Fits) : ofJson q.toJson = .ok q := by
  have hkept := Json.buffered_object (isBufferable_of_mem_fields h _)
  simp [ofJson, toJson, splitTag_members, Json.plainTag, lookup_kinds, hkept, ofKind_fields h]

theorem areWholeMembers (q : Query) : Json.AreWholeMembers q.members := by
  cases q <;> simp [members, Json.AreWholeMembers, Json.IsWhole, Json.isWhole_ofInt]

/-- A query is written with whole numbers only. -/
theorem isWhole_toJson (q : Query) : Json.IsWhole q.toJson :=
  q.areWholeMembers

end Query

/-! ## Blocks -/

namespace Block

/-- A block of a rank of 32 bits is read back from its members. -/
theorem ofJson_members {b : Block} (h : b.rank < Json.wordValues 32) :
    ofJson (.object b.members) = .ok b := by
  have hrank := Json.toNat32_ofNat h
  have hdata : Json.toListOf Json.toByte
      (.list (b.data.data.toList.map fun byte => .ofNat byte.toNat)) = .ok b.data.data.toList :=
    Json.toListOf_map fun byte _ => Json.toByte_ofNat byte
  rcases b with ⟨rank, data, digest, eof⟩
  cases digest <;>
    simp [ofJson, members, Json.optionalMember, Json.fields_object, fieldNames, hrank, hdata]

end Block

/-! ## Packets -/

namespace ControlBody

/-- A control body is read back after it was buffered. -/
theorem ofBuffered_toJson (body : ControlBody) : ofBuffered body.toJson = .ok body := by
  cases body <;> rfl

end ControlBody

/-- A kind of control is read back. -/
theorem ControlKind.ofJson_toJson (k : ControlKind) : ofJson k.toJson = .ok k := by
  cases k <;> rfl

namespace Packet

/-- Whether the numbers of a packet have their widths. -/
def Fits : Packet → Prop
  | data b => b.rank < Json.wordValues 32
  | endTransfer lastRank => lastRank < Json.wordValues 32
  | information q => q.Fits
  | _ => True

/-- The kind of a packet. -/
def kind : Packet → Kind
  | data _ => .data
  | endTransfer _ => .endTransfer
  | endRequest _ => .endRequest
  | error _ _ => .error
  | control _ _ => .control
  | information _ => .information
  | business _ => .business

/-- Each kind of packet is found under its own name. -/
theorem lookup_kinds (p : Packet) : kinds.lookup p.typeName = some p.kind := by
  cases p <;> rfl

/-- Nothing that a packet holds is named like its type. -/
theorem name_ne_type (p : Packet) : ∀ m ∈ p.members, m.1 ≠ "type" := by
  cases p with
  | data b => cases hd : b.digest <;> simp [members, Block.members, Json.optionalMember, hd]
  | information q => cases q <;> simp [members, Query.members]
  | _ => simp [members, BusinessRequest.members]

/-- All that a packet holds can be kept. -/
theorem isBufferable_of_mem_members {p : Packet} (h : p.Fits) :
    ∀ m ∈ p.members, Json.isBufferable (Json.maxDepth - 1) m.2 = true := by
  have hrank : ∀ n, n < Json.wordValues 32 → ∀ depth,
      Json.isBufferable depth (.ofNat n) = true := by
    intro n hn
    have hwider : Json.wordValues 32 ≤ Json.wordValues 64 := by decide
    exact Json.isBufferable_ofNat (by omega)
  cases p with
  | data b =>
      have hbyte : ∀ byte : UInt8, byte.toNat < Json.wordValues 32 := fun byte =>
        byte.toNat_lt.trans (by decide)
      have hdata : Json.isBufferable (Json.maxDepth - 1)
          (.list (b.data.data.toList.map fun byte => .ofNat byte.toNat)) = true :=
        Json.areBufferable_iff.2 (List.forall_mem_map.2 fun byte _ => hrank _ (hbyte byte) _)
      cases hd : b.digest <;>
        simp [members, Block.members, Json.optionalMember, hd, hrank _ h, hdata]
  | endTransfer lastRank => simp [members, hrank _ h]
  | information q =>
      rw [members, Query.members_eq]
      simpa [Json.isBufferable] using Query.isBufferable_of_mem_fields h _
  | control k body =>
      cases body <;>
        simp [members, ControlKind.toJson, ControlBody.toJson, Json.isBufferable,
          Json.areBufferableMembers, Json.maxDepth]
  | _ => simp [members, BusinessRequest.members, ResultCode.toJson, Json.isBufferable]

/-- What a packet holds is read back as a packet of its kind. -/
theorem ofKind_members {p : Packet} (h : p.Fits) :
    ofKind p.kind (.object p.members) = .ok p := by
  have hcode : ∀ code : ResultCode,
      Json.bufferedChoice ResultCode.ofJson code.toJson = .ok code :=
    ResultCode.ofJson_toJson
  cases p with
  | data b => simp [ofKind, kind, members, Block.ofJson_members h]
  | endTransfer lastRank =>
      have hrank := Json.toNat32_ofNat h
      simp [ofKind, kind, members, Json.fields_object, hrank]
  | endRequest code =>
      simp [ofKind, kind, members, Json.fields_object, hcode]
  | error code message =>
      simp [ofKind, kind, members, Json.fields_object, hcode]
  | control k body =>
      have hkind : Json.bufferedChoice ControlKind.ofJson k.toJson = .ok k := k.ofJson_toJson
      simp [ofKind, kind, members, Json.fields_object, hkind, body.ofBuffered_toJson]
  | information q => simp [ofKind, kind, members, Query.ofBuffered_members h]
  | business r =>
      simp [ofKind, kind, members, BusinessRequest.ofJson, BusinessRequest.members,
        Json.fields_object, BusinessRequest.fieldNames]

/-- A packet is read back from its JSON form. -/
theorem ofJson_toJson {p : Packet} (h : p.Fits) : ofJson p.toJson = .ok p := by
  have hsplit : Json.splitTag "type" p.toJson = .ok (.string p.typeName, .object p.members) :=
    Json.splitTag_object p.name_ne_type
  have hkept := Json.buffered_object (isBufferable_of_mem_members h)
  simp [ofJson, hsplit, Json.plainTag, lookup_kinds, hkept, ofKind_members h]

theorem isWhole_toJson (p : Packet) : Json.IsWhole p.toJson := by
  cases p with
  | data b =>
      have hdata : Json.AreWhole (b.data.data.toList.map fun byte => .ofNat byte.toNat) :=
        Json.areWhole_iff.2 (List.forall_mem_map.2 fun byte _ => Json.isWhole_ofNat byte.toNat)
      cases hd : b.digest <;>
        simp [toJson, members, Block.members, Json.optionalMember, hd, Json.IsWhole,
          Json.AreWholeMembers, hdata, Json.isWhole_ofNat]
  | information q => exact ⟨trivial, q.areWholeMembers⟩
  | control k body =>
      cases body <;>
        simp [toJson, members, ControlKind.toJson, ControlBody.toJson, Json.IsWhole,
          Json.AreWholeMembers]
  | _ =>
      simp [toJson, members, BusinessRequest.members, ResultCode.toJson, Json.IsWhole,
        Json.AreWholeMembers, Json.isWhole_ofNat]

end Packet

/-! ## Answers -/

namespace Answer

/-- An answer is read back from its JSON form. -/
theorem ofJson_toJson (a : Answer) : ofJson a.toJson = .ok a := by
  rcases a with ⟨code, message, payload⟩
  cases message <;> cases payload <;>
    simp [ofJson, toJson, Json.optionalMember, Json.fields_object, fieldNames,
      ResultCode.ofJson_toJson]

theorem isWhole_toJson (a : Answer) : Json.IsWhole a.toJson := by
  rcases a with ⟨code, message, payload⟩
  cases message <;> cases payload <;>
    simp [toJson, Json.optionalMember, Json.IsWhole, Json.AreWholeMembers, ResultCode.toJson]

end Answer

/-! ## Summaries -/

/-- A path is read back. -/
theorem Path.ofJson_toJson (p : Path) : Path.ofJson p.toJson = .ok p :=
  rfl

namespace Item

/-- Whether the numbers of an item have their widths. -/
structure Fits (i : Item) : Prop where
  lastModified : Json.FitsInt64 i.lastModified
  size : i.size < Json.wordValues 64
  specialId : ∀ id ∈ i.specialId, Json.FitsInt64 id

/-- Whether the moment of an item has a text of its own. -/
def IsRegular (i : Item) : Prop :=
  ∀ m ∈ i.timeUsed, m.IsRegular

/-- The item that is read from the text of one. -/
def readBack (i : Item) : Item :=
  { i with timeUsed := i.timeUsed.map Calendar.Moment.readBack }

/-- An item is read back as it was when its time is regular. -/
theorem readBack_eq_iff {i : Item} : i.readBack = i ↔ i.IsRegular := by
  rcases i with ⟨path, hash, lastModified, size, used, timeUsed, specialId⟩
  cases timeUsed <;> simp [readBack, IsRegular, Calendar.Moment.readBack_eq_iff]

/-- An item is read from its JSON form. -/
theorem ofJson_toJson {i : Item} (h : i.Fits) : ofJson i.toJson = .ok i.readBack := by
  have hmodified := Json.toInt64_ofInt h.lastModified
  have hsize := Json.toNat64_ofNat h.size
  have hused : ∀ m : Calendar.Moment,
      Json.toOption Calendar.Moment.ofJson m.toJson = .ok (some m.readBack) :=
    fun m => Json.toOption_eq_ok (by simp [Calendar.Moment.toJson]) m.ofJson_toJson
  have hids : ∀ id ∈ i.specialId, Json.toOption Json.toInt64 (.ofInt id) = .ok (some id) :=
    fun id hid =>
      Json.toOption_eq_ok (by simp [Json.ofInt]) (Json.toInt64_ofInt (h.specialId id hid))
  rcases i with ⟨path, hash, lastModified, size, used, timeUsed, specialId⟩
  cases hash <;> cases timeUsed <;> cases specialId <;>
    simp [ofJson, toJson, Json.optionalMember, Json.fields_object, fieldNames, Path.ofJson_toJson,
      hmodified, hsize, hused, hids, readBack]

/-- The items of a list are read from its JSON form. -/
theorem toListOf_map_toJson {items : List Item} (h : ∀ i ∈ items, i.Fits) :
    Json.toListOf ofJson (.list (items.map toJson)) = .ok (items.map readBack) :=
  Json.mapM_map_eq_ok_map fun i hi => ofJson_toJson (h i hi)

/-- A list of items is read back when they are regular, and only then. -/
theorem map_readBack_eq_iff {items : List Item} :
    items.map readBack = items ↔ ∀ i ∈ items, i.IsRegular := by
  have hsame : items.map readBack = items ↔ ∀ i ∈ items, i.readBack = i := by
    simpa using List.map_inj_left (l := items) (f := readBack) (g := id)
  simp only [hsame, readBack_eq_iff]

theorem isWhole_toJson (i : Item) : Json.IsWhole i.toJson := by
  rcases i with ⟨path, hash, lastModified, size, used, timeUsed, specialId⟩
  cases hash <;> cases timeUsed <;> cases specialId <;>
    simp [toJson, Json.optionalMember, Json.IsWhole, Json.AreWholeMembers, Path.toJson,
      Calendar.Moment.toJson, Json.isWhole_ofInt, Json.isWhole_ofNat]

end Item

namespace Counters

/-- Whether counts have their width. -/
structure Fits (c : Counters) : Prop where
  globalOk : c.globalOk < Json.wordValues 64
  globalError : c.globalError < Json.wordValues 64
  todayOk : c.todayOk < Json.wordValues 64
  todayError : c.todayError < Json.wordValues 64

/-- Counters are read back from their JSON form. -/
theorem ofJson_toJson {c : Counters} (h : c.Fits) : ofJson c.toJson = .ok c := by
  simp [ofJson, toJson, Json.fields_object, fieldNames, Json.toNat64_ofNat h.globalOk,
    Json.toNat64_ofNat h.globalError, Json.toNat64_ofNat h.todayOk, Json.toNat64_ofNat h.todayError,
    Calendar.Date.ofJson_toJson]

theorem isWhole_toJson (c : Counters) : Json.IsWhole c.toJson := by
  simp [toJson, Json.IsWhole, Json.AreWholeMembers, Calendar.Date.toJson, Json.isWhole_ofNat]

end Counters

namespace Summary

/-- Whether the numbers of a summary have their widths. -/
structure Fits (s : Summary) : Prop where
  items : ∀ i ∈ s.items, i.Fits
  counters : s.counters.Fits

/-- Whether the moments of a summary have a text of their own. -/
structure IsRegular (s : Summary) : Prop where
  items : ∀ i ∈ s.items, i.IsRegular
  generatedAt : s.generatedAt.IsRegular

/-- The summary that is read from the text of one. -/
def readBack (s : Summary) : Summary :=
  { s with items := s.items.map Item.readBack, generatedAt := s.generatedAt.readBack }

/-- The summaries that are read back are the regular ones. -/
theorem readBack_eq_iff {s : Summary} : s.readBack = s ↔ s.IsRegular := by
  constructor
  · intro h
    have hitems := congrArg Summary.items h
    have hmoment := congrArg Summary.generatedAt h
    exact ⟨Item.map_readBack_eq_iff.1 hitems, Calendar.Moment.readBack_eq_iff.1 hmoment⟩
  · intro h
    rw [readBack, Item.map_readBack_eq_iff.2 h.items, Calendar.Moment.readBack_eq_iff.2 h.generatedAt]

/-- A summary is read from its JSON form. -/
theorem ofJson_toJson {s : Summary} (h : s.Fits) : ofJson s.toJson = .ok s.readBack := by
  have hitems := Item.toListOf_map_toJson h.items
  have hremoved : Json.toListOf Path.ofJson (.list (s.removed.map Path.toJson)) = .ok s.removed :=
    Json.toListOf_map fun p _ => p.ofJson_toJson
  simp [ofJson, toJson, Json.fields_object, fieldNames, hitems, hremoved,
    Counters.ofJson_toJson h.counters, Calendar.Moment.ofJson_toJson, readBack]

theorem isWhole_toJson (s : Summary) : Json.IsWhole s.toJson := by
  have hitems : Json.AreWhole (s.items.map Item.toJson) :=
    Json.areWhole_iff.2 (List.forall_mem_map.2 fun i _ => i.isWhole_toJson)
  have hremoved : Json.AreWhole (s.removed.map Path.toJson) :=
    Json.areWhole_iff.2 (List.forall_mem_map.2 fun p _ => trivial)
  simp [toJson, Json.IsWhole, Json.AreWholeMembers, hitems, hremoved, s.counters.isWhole_toJson,
    Calendar.Moment.toJson]

end Summary

/-! ## All messages -/

end Courier
