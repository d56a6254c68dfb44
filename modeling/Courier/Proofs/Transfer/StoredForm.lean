import Courier.Proofs.Calendar.RoundTrip
import Courier.Proofs.Json.Typed
import Courier.Transfer.LedgerFile

/-!
# The stored form of records

A record is read back from its stored form with every field, and the content of a ledger file
is read back as the records it was written for.  What is stored has a bounded width: numbers
of transfers and sizes of files have 64 bits, ranks and sizes of blocks have 32.  And of the leap
seconds only those at the end of a minute have a text of their own.

Main definitions:

- `Record.Fits` says that the numbers of a record have the width that they are stored with, and
  that its times are regular.

Main statements:

- A record that fits is read back (`Record.ofJson_toJson`), and what is read fits
  (`Record.fits_of_ofJson`).
- A ledger file is read back (`LedgerFile.decode_encode`).
-/

namespace Courier

/-! ## Records -/

namespace Record

theorem Key.ofJson_toJson {k : Key} (h : Json.FitsInt64 k.specialId) :
    Key.ofJson k.toJson = .ok k := by
  have hid := Json.toInt64_ofInt h
  simp [Key.ofJson, Key.toJson, Json.fields_object, Key.fieldNames, hid]

/-- Whether the numbers of a record have the width that they are stored with, and its times a
text of their own. -/
structure Fits (r : Record) : Prop where
  specialId : Json.FitsInt64 r.specialId
  blockSize : r.blockSize < Json.wordValues 32
  rank : r.rank < Json.wordValues 32
  originalSize : Json.FitsInt64 r.originalSize
  startTime : r.startTime.IsRegular
  updatedAt : r.updatedAt.IsRegular

/-- A record that fits is read back from its stored form, with every field. -/
theorem ofJson_toJson {r : Record} (h : r.Fits) : ofJson r.toJson = .ok r := by
  have hkey := Key.ofJson_toJson h.specialId
  have hblock := Json.toNat32_ofNat h.blockSize
  have hrank := Json.toNat32_ofNat h.rank
  have hsize := Json.toInt64_ofInt h.originalSize
  have hstart := h.startTime.ofJson_toJson
  have hupdated := h.updatedAt.ofJson_toJson
  rcases r with ⟨key, rule, filename, mode, isSender, blockSize, rank, status, errorCode,
    errorMessage, fileInfo, followId, originalSize, startTime, updatedAt, ignoreSave⟩
  cases errorMessage <;> cases followId <;>
    simp [ofJson, toJson, Json.optionalMember, Json.fields_object, fieldNames, hkey, hblock, hrank,
      hsize, Mode.ofJson_toJson, Status.ofJson_toJson, ResultCode.ofJson_toJson, hstart, hupdated]

theorem Key.fitsInt64_of_ofJson {k : Key} {j : Json} (h : Key.ofJson j = .ok k) :
    Json.FitsInt64 k.specialId := by
  obtain ⟨f, -, h⟩ := Json.bind_eq_ok h
  obtain ⟨id, hid, h⟩ := Json.bind_eq_ok h
  obtain ⟨requester, -, h⟩ := Json.bind_eq_ok h
  obtain ⟨requested, -, h⟩ := Json.bind_eq_ok h
  obtain ⟨value, hvalue⟩ := Json.Fields.required_eq_ok hid
  cases h
  exact Json.fitsInt64_of_toInt64 hvalue

theorem fits_of_ofJson {r : Record} {j : Json} (h : ofJson j = .ok r) : r.Fits := by
  obtain ⟨f, -, h⟩ := Json.bind_eq_ok h
  obtain ⟨key, hkey, h⟩ := Json.bind_eq_ok h
  obtain ⟨rule, -, h⟩ := Json.bind_eq_ok h
  obtain ⟨filename, -, h⟩ := Json.bind_eq_ok h
  obtain ⟨mode, -, h⟩ := Json.bind_eq_ok h
  obtain ⟨isSender, -, h⟩ := Json.bind_eq_ok h
  obtain ⟨blockSize, hblock, h⟩ := Json.bind_eq_ok h
  obtain ⟨rank, hrank, h⟩ := Json.bind_eq_ok h
  obtain ⟨status, -, h⟩ := Json.bind_eq_ok h
  obtain ⟨errorCode, -, h⟩ := Json.bind_eq_ok h
  obtain ⟨errorMessage, -, h⟩ := Json.bind_eq_ok h
  obtain ⟨fileInfo, -, h⟩ := Json.bind_eq_ok h
  obtain ⟨followId, -, h⟩ := Json.bind_eq_ok h
  obtain ⟨originalSize, hsize, h⟩ := Json.bind_eq_ok h
  obtain ⟨startTime, hstart, h⟩ := Json.bind_eq_ok h
  obtain ⟨updatedAt, hupdated, h⟩ := Json.bind_eq_ok h
  obtain ⟨ignoreSave, -, h⟩ := Json.bind_eq_ok h
  obtain ⟨keyJson, hkey⟩ := Json.Fields.required_eq_ok hkey
  obtain ⟨blockJson, hblock⟩ := Json.Fields.required_eq_ok hblock
  obtain ⟨rankJson, hrank⟩ := Json.Fields.required_eq_ok hrank
  obtain ⟨sizeJson, hsize⟩ := Json.Fields.required_eq_ok hsize
  obtain ⟨startJson, hstart⟩ := Json.Fields.required_eq_ok hstart
  obtain ⟨updatedJson, hupdated⟩ := Json.Fields.required_eq_ok hupdated
  cases h
  exact ⟨Key.fitsInt64_of_ofJson hkey, Json.lt_of_toNat32 hblock, Json.lt_of_toNat32 hrank,
    Json.fitsInt64_of_toInt64 hsize, Calendar.Moment.isRegular_of_ofJson hstart,
    Calendar.Moment.isRegular_of_ofJson hupdated⟩

theorem Fits.mark {r : Record} (h : r.Fits) (status : Status) (code : ResultCode)
    {now : Calendar.Moment} (hnow : now.IsRegular) : (r.mark status code now).Fits := by
  cases status <;>
    exact ⟨h.specialId, h.blockSize, h.rank, h.originalSize, h.startTime, hnow⟩

/-- The stored form of a record has a text. -/
theorem isWhole_toJson (r : Record) : Json.IsWhole r.toJson := by
  rcases r with ⟨key, rule, filename, mode, isSender, blockSize, rank, status, errorCode,
    errorMessage, fileInfo, followId, originalSize, startTime, updatedAt, ignoreSave⟩
  cases errorMessage <;> cases followId <;>
    simp [toJson, Json.optionalMember, Json.IsWhole, Json.AreWholeMembers, Key.toJson, Mode.toJson,
      Status.toJson, ResultCode.toJson, Calendar.Moment.toJson, Json.ofNat, Json.isWhole_ofInt]

/-- A record that fits is read back from the text of its stored form. -/
theorem decode_compact {r : Record} (h : r.Fits) :
    Json.decode ofJson r.toJson.compact = .ok r :=
  Json.decode_compact r.isWhole_toJson (ofJson_toJson h)

end Record

/-! ## Files -/

namespace LedgerFile

/-- The content of a ledger file is never blank. -/
theorem not_isAllBlank_encode (records : List Record) :
    Text.isAllBlank (encode records) = false := by
  have hbracket : Text.isBlank '[' = false := by decide
  cases records with
  | nil => rfl
  | cons r records =>
      simp [Text.isAllBlank, encode, Json.indented, Json.toList_write, Json.valueChars, hbracket]

/-- A ledger file is read back as the records that it was written for. -/
theorem decode_encode {records : List Record} (h : ∀ r ∈ records, r.Fits) :
    decode (encode records) = .ok records := by
  have hwhole : Json.IsWhole (.list (records.map Record.toJson)) := by
    rw [Json.IsWhole, Json.areWhole_iff]
    intro item hitem
    obtain ⟨r, -, rfl⟩ := List.mem_map.1 hitem
    exact r.isWhole_toJson
  have hread : (records.map Record.toJson).mapM Record.ofJson = .ok records :=
    Json.mapM_map_eq_ok fun r hr => Record.ofJson_toJson (h r hr)
  rw [decode, not_isAllBlank_encode, encode, Json.decode, Json.parse_indented hwhole]
  exact hread

/-- The records that were read from a content fit. -/
theorem fits_of_decode {content : String} {records : List Record}
    (h : decode content = .ok records) : ∀ r ∈ records, r.Fits := by
  unfold decode at h
  split at h
  · cases h
    simp
  · unfold Json.decode at h
    split at h
    · simp at h
    · next j _ =>
        cases j with
        | list items =>
            intro r hr
            obtain ⟨item, -, hread⟩ := Json.exists_of_mapM_eq_ok h hr
            exact Record.fits_of_ofJson hread
        | _ => simp [Json.toListOf] at h

end LedgerFile

end Courier
