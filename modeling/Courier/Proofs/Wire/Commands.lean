import Courier.Proofs.Calendar.RoundTrip
import Courier.Proofs.Json.Typed
import Courier.Wire.Packet

/-!
# Commands are read back

A command travels as JSON or in words.  As JSON it is read back whole.  In words it is read back
exactly where its hosts are words, its comment is the usual one and its time is said in full by a
row of digits: an empty host shifts the words after it, and nothing else of a command has a word.
Whatever was read from words can be written in words again.

Main definitions:

- `Text.IsWord` says that a text is one word.
- `Command.InWords` says that words hold all of a command.

Main statements:

- Words are cut at a blank (`Text.wordsFrom_append_blank`).
- `Command.decode_encode` for JSON; `Command.ofPlain_plain` and `Command.inWords_of_ofPlain` for
  words.
- `Command.forms` for both forms together.  A leap second that is not at the end of its minute comes
  back from neither, and one that is comes back from both (`Command.forms_leapSecond`).
-/

namespace Courier

/-! ## Words -/

namespace Text

/-- Whether a text is one word: it is not empty and holds no blank. -/
structure IsWord (s : String) : Prop where
  nonempty : s ≠ ""
  unblank : ∀ c ∈ s.toList, isBlank c = false

/-- Words are cut at a blank. -/
theorem wordsFrom_append_blank {c : Char} (hc : isBlank c = true) (word cs rest : List Char) :
    wordsFrom word (cs ++ c :: rest) = wordsFrom word cs ++ wordsFrom [] rest := by
  induction cs generalizing word with
  | nil =>
      by_cases hword : word.isEmpty
      · simp [wordsFrom, hc, hword]
      · simp [wordsFrom, hc, hword]
  | cons d cs ih =>
      by_cases hd : isBlank d = true
      · by_cases hword : word.isEmpty
        · simp [wordsFrom, hd, hword, ih]
        · simp [wordsFrom, hd, hword, ih]
      · simp [wordsFrom, hd, ih]

/-- Characters without a blank end the word that was begun. -/
theorem wordsFrom_of_unblank {word cs : List Char} (hne : word.reverse ++ cs ≠ [])
    (h : ∀ c ∈ cs, isBlank c = false) : wordsFrom word cs = [word.reverse ++ cs] := by
  induction cs generalizing word with
  | nil =>
      have hword : word ≠ [] := by simpa using hne
      simp [wordsFrom, hword]
  | cons c cs ih =>
      have hc : isBlank c = false := h c List.mem_cons_self
      have hrest : wordsFrom (c :: word) cs = [(c :: word).reverse ++ cs] :=
        ih (by simp) fun d hd => h d (List.mem_cons_of_mem c hd)
      simpa [wordsFrom, hc] using hrest

/-- A word is its only word. -/
theorem words_of_isWord {s : String} (h : IsWord s) : words s = [s] := by
  have hne : s.toList ≠ [] := by simpa using h.nonempty
  rw [words, wordsFrom_of_unblank (by simpa using hne) h.unblank]
  simp

/-- The words of two texts with a space between them. -/
theorem words_append_space (s t : String) : words (s ++ " " ++ t) = words s ++ words t := by
  have hspace : isBlank ' ' = true := by decide
  have hchars : (s ++ " " ++ t).toList = s.toList ++ ' ' :: t.toList := by simp
  rw [words, hchars, wordsFrom_append_blank hspace, List.map_append]
  rfl

theorem isWord_of_mem_words {s w : String} (h : w ∈ words s) : IsWord w := by
  obtain ⟨cs, hcs, rfl⟩ := List.mem_map.1 h
  have hne := ne_nil_of_mem_words hcs
  have hblank := not_isBlank_of_mem_words (by simp) hcs
  exact ⟨by simpa using hne, by simpa using hblank⟩

end Text

open Calendar (Timestamp)
open Text (IsWord)

namespace Command

/-! ## Numbers in words -/

/-- The characters of a number: its digits, after a minus sign when it is negative. -/
theorem toList_toString (i : Int) :
    (toString i).toList = (if i < 0 then ['-'] else []) ++ Nat.toDigits 10 i.natAbs := by
  cases i with
  | ofNat n => simp [toString, Int.repr, Nat.repr]
  | negSucc n => simp [toString, Int.repr, Nat.repr, Int.negSucc_lt_zero]

theorem isWord_toString (i : Int) : IsWord (toString i) := by
  obtain ⟨hne, hdigits⟩ := Json.areDigits_toDigits i.natAbs
  constructor
  · intro hempty
    have hchars := congrArg String.toList hempty
    rw [toList_toString] at hchars
    simp [hne] at hchars
  · intro c hc
    rw [toList_toString] at hc
    rcases List.mem_append.1 hc with hc | hc
    · split_ifs at hc
      · rw [List.mem_singleton.1 hc]
        rfl
      · cases hc
    · exact Calendar.not_isBlank_of_isDigit (hdigits c hc)

theorem natOfDigits?_toDigits (n : Nat) : natOfDigits? (Nat.toDigits 10 n) = some n := by
  obtain ⟨hne, hdigits⟩ := Json.areDigits_toDigits n
  have hall : (Nat.toDigits 10 n).all Char.isDigit = true := List.all_eq_true.2 hdigits
  simp [natOfDigits?, hne, hall, Json.digitsValue_toDigits]

/-- A number of 64 bits is read back from its word. -/
theorem readId?_toString {i : Int} (h : Json.FitsInt64 i) : readId? (toString i) = some i := by
  have hdigits := natOfDigits?_toDigits i.natAbs
  have hbounds : -(Json.wordValues 63 : Int) ≤ i ∧ i < Json.wordValues 63 := by
    unfold Json.FitsInt64 at h
    omega
  unfold readId?
  rw [toList_toString]
  by_cases hneg : i < 0
  · have hi : -(i.natAbs : Int) = i := by omega
    simp only [hneg, if_true, List.singleton_append, hdigits, Option.pure_def,
      Option.bind_eq_bind, Option.bind_some, Option.map_some, hi]
    simp [hbounds]
  · have hi : (i.natAbs : Int) = i := by omega
    obtain ⟨hne, hall⟩ := Json.areDigits_toDigits i.natAbs
    obtain ⟨d, ds, hds⟩ := List.exists_cons_of_ne_nil hne
    rw [hds] at hdigits hall ⊢
    have hd : d.isDigit = true := hall d List.mem_cons_self
    have hplus : d ≠ '+' := by rintro rfl; simp at hd
    have hminus : d ≠ '-' := by rintro rfl; simp at hd
    simp [hneg, hdigits, hi, hbounds, hplus, hminus]

/-! ## Commands in words -/

/-- Whether words hold all of a command. -/
structure InWords (c : Command) : Prop where
  requested : IsWord c.requested
  requester : IsWord c.requester
  specialId : Json.FitsInt64 c.specialId
  restartTime : ∀ t ∈ c.restartTime, t.HasDigits
  comment : c.comment = requestComment

theorem fitsInt64_of_readId? {word : String} {i : Int} (h : readId? word = some i) :
    Json.FitsInt64 i := by
  have hbounds := (Option.filter_eq_some_iff.1 h).2
  simp only [decide_eq_true_eq] at hbounds
  unfold Json.FitsInt64
  omega

/-- What was read from words can be said in words. -/
theorem inWords_of_ofPlain {text : String} {c : Command} (h : ofPlain text = .ok c) :
    c.InWords := by
  unfold ofPlain at h
  split at h
  · next c' hwords =>
      cases h
      have hword : ∀ w ∈ Text.words text, IsWord w := fun w => Text.isWord_of_mem_words
      generalize Text.words text = words at hwords hword
      unfold ofWords at hwords
      split at hwords
      · next requested requester id =>
          obtain ⟨specialId, hid, hwords⟩ := Option.bind_eq_some_iff.1 hwords
          cases hwords
          exact ⟨hword requested (by simp), hword requester (by simp), fitsInt64_of_readId? hid,
            by simp [about], rfl⟩
      · next requested requester id time =>
          obtain ⟨specialId, hid, hwords⟩ := Option.bind_eq_some_iff.1 hwords
          obtain ⟨restartTime, htime, hwords⟩ := Option.bind_eq_some_iff.1 hwords
          cases hwords
          have hdigits := Timestamp.hasDigits_of_ofDigits? (hword time (by simp)).unblank htime
          exact ⟨hword requested (by simp), hword requester (by simp), fitsInt64_of_readId? hid,
            by simpa [about] using hdigits, rfl⟩
      · cases hwords
  · cases h

/-- The digits of a timestamp make a word. -/
theorem isWord_digits {t : Timestamp} (h : t.HasDigits) : IsWord t.digits := by
  have hyear : Calendar.yearChars t.date.year = Calendar.padded 4 t.date.year.toNat :=
    if_pos h.year
  have hfield := Calendar.areDigits_padded
  constructor
  · intro hempty
    have hchars := congrArg String.toList hempty
    simp [Timestamp.digits, hyear, (hfield 4 _).1] at hchars
  · intro c hc
    have hdigit : c.isDigit = true := by
      simp only [Timestamp.digits, hyear, String.toList_ofList, List.mem_append] at hc
      rcases hc with ((((hc | hc) | hc) | hc) | hc) | hc <;> exact (hfield _ _).2 c hc
    exact Calendar.not_isBlank_of_isDigit hdigit

/-- The words of a command that can be said in words. -/
theorem words_plain {c : Command} (h : c.InWords) :
    Text.words c.plain = [c.requested, c.requester, toString c.specialId] ++
      (c.restartTime.map Timestamp.digits).toList := by
  have hid := Text.words_of_isWord (isWord_toString c.specialId)
  have hrequested := Text.words_of_isWord h.requested
  have hrequester := Text.words_of_isWord h.requester
  have hstart : Text.words (c.requested ++ " " ++ c.requester ++ " " ++ toString c.specialId) =
      [c.requested, c.requester, toString c.specialId] := by
    rw [Text.words_append_space, Text.words_append_space, hrequested, hrequester, hid]
    rfl
  unfold plain
  cases htime : c.restartTime with
  | none => exact hstart
  | some t =>
      have hdigits := Text.words_of_isWord (isWord_digits (h.restartTime t htime))
      rw [Text.words_append_space, hstart, hdigits]
      rfl

/-- What can be said in words is read back from them. -/
theorem ofPlain_plain {c : Command} (h : c.InWords) : ofPlain c.plain = .ok c := by
  have hid := readId?_toString h.specialId
  have hread : ofWords (Text.words c.plain) = some c := by
    rw [words_plain h]
    rcases c with ⟨requested, requester, specialId, restartTime, comment⟩
    obtain rfl : comment = requestComment := h.comment
    cases restartTime with
    | none =>
        simp only [Option.map_none, Option.toList_none, List.append_nil, ofWords, hid]
        rfl
    | some t =>
        have htime := Timestamp.ofDigits?_digits (h.restartTime t rfl)
        simp only [Option.map_some, Option.toList_some, List.cons_append, List.nil_append,
          ofWords, hid, htime]
        rfl
  rw [ofPlain, hread]

/-! ## Commands as JSON -/

/-- The command that is read from the JSON form of one. -/
def readBack (c : Command) : Command :=
  { c with restartTime := c.restartTime.map Timestamp.readBack }

/-- The commands that are read back are those with a regular time or none. -/
theorem readBack_eq_iff {c : Command} : c.readBack = c ↔ ∀ t ∈ c.restartTime, t.IsRegular := by
  rcases c with ⟨requested, requester, specialId, restartTime, comment⟩
  cases restartTime <;> simp [readBack, Timestamp.readBack_eq_iff]

/-- A command is read from its JSON form. -/
theorem ofJson_toJson {c : Command} (h : Json.FitsInt64 c.specialId) :
    ofJson c.toJson = .ok c.readBack := by
  have hid := Json.toInt64_ofInt h
  have htime : ∀ t : Timestamp, Json.toOption Timestamp.ofJson t.toJson = .ok (some t.readBack) :=
    fun t => Json.toOption_eq_ok (by simp [Timestamp.toJson]) t.ofJson_toJson
  rcases c with ⟨requested, requester, specialId, restartTime, comment⟩
  by_cases hcomment : comment = "" <;> cases restartTime <;>
    simp [ofJson, toJson, hcomment, Json.optionalMember, Json.fields_object, fieldNames, hid, htime,
      readBack]

theorem isWhole_toJson (c : Command) : Json.IsWhole c.toJson := by
  rcases c with ⟨requested, requester, specialId, restartTime, comment⟩
  by_cases hcomment : comment = "" <;> cases restartTime <;>
    simp [toJson, hcomment, Json.optionalMember, Json.IsWhole, Json.AreWholeMembers,
      Timestamp.toJson, Json.isWhole_ofInt]

/-- A command is read from its JSON text. -/
theorem decode_encode {c : Command} (h : Json.FitsInt64 c.specialId) :
    decode c.encode = .ok c.readBack := by
  rw [decode, encode, Json.decode_compact c.isWhole_toJson (ofJson_toJson h)]

/-! ## Both forms -/

/-- The body of a packet holds a command as JSON or in words. -/
theorem decode_encode_json {c : Command} (h : Json.FitsInt64 c.specialId) :
    (ControlBody.encode c true).decode = .ok c.readBack :=
  decode_encode h

theorem decode_encode_plain (c : Command) : (ControlBody.encode c false).decode = ofPlain c.plain :=
  rfl

/-- A command of a 64-bit number is read back from its JSON form exactly where its time, if it has
one, is regular, and from words exactly where moreover its hosts are words, its comment is the usual
one, and the time has no fraction of a second and a year of four digits.  Whatever was read from
words is read from them again when it is written anew. -/
theorem forms (c : Command) (h : Json.FitsInt64 c.specialId) :
    ((ControlBody.encode c true).decode = .ok c ↔ ∀ t ∈ c.restartTime, t.IsRegular) ∧
    ((ControlBody.encode c false).decode = .ok c ↔
      (c.requested ≠ "" ∧ ∀ a ∈ c.requested.toList, Text.isBlank a = false) ∧
      (c.requester ≠ "" ∧ ∀ a ∈ c.requester.toList, Text.isBlank a = false) ∧
      c.comment = requestComment ∧
      ∀ t ∈ c.restartTime, t.IsRegular ∧ t.time.fraction = 0 ∧
        0 ≤ t.date.year ∧ t.date.year ≤ 9999) ∧
    ∀ text d, ofPlain text = .ok d → ofPlain d.plain = .ok d := by
  refine ⟨?_, ⟨fun hread => ?_, fun hwords => ?_⟩, fun text d hread => ?_⟩
  · rw [decode_encode_json h, Except.ok.injEq, readBack_eq_iff]
  · have hin : c.InWords := inWords_of_ofPlain hread
    refine ⟨⟨hin.requested.nonempty, hin.requested.unblank⟩,
      ⟨hin.requester.nonempty, hin.requester.unblank⟩, hin.comment, fun t ht => ?_⟩
    obtain ⟨hregular, hfraction, hyear⟩ := hin.restartTime t ht
    exact ⟨hregular, hfraction, hyear⟩
  · obtain ⟨hrequested, hrequester, hcomment, htime⟩ := hwords
    refine ofPlain_plain ⟨⟨hrequested.1, hrequested.2⟩, ⟨hrequester.1, hrequester.2⟩, h,
      fun t ht => ?_, hcomment⟩
    obtain ⟨hregular, hfraction, hyear⟩ := htime t ht
    exact ⟨hregular, hfraction, hyear⟩
  · exact ofPlain_plain (inWords_of_ofPlain hread)

/-- A command with a time comes back from both forms; without the host that was asked, it comes
back from JSON alone. -/
theorem forms_sample :
    let time : Timestamp := ⟨⟨2026, 3, 14, by decide⟩, ⟨9, 26, 53, 0, by decide⟩⟩
    let c := about "hostb" "hosta" 42 (some time)
    let nameless := about "" "hosta" 42 (some time)
    Json.FitsInt64 42 ∧
      (ControlBody.encode c true).decode = .ok c ∧ (ControlBody.encode c false).decode = .ok c ∧
      (ControlBody.encode nameless true).decode = .ok nameless ∧
      (ControlBody.encode nameless false).decode ≠ .ok nameless := by
  intro time c nameless
  have hfits : Json.FitsInt64 42 := by decide
  obtain ⟨hjson, hplain, -⟩ := forms c hfits
  obtain ⟨hjson', hplain', -⟩ := forms nameless hfits
  have hhostb : "hostb" ≠ "" ∧ ∀ a ∈ "hostb".toList, Text.isBlank a = false :=
    ⟨by decide, by simp [Text.isBlank]⟩
  have hhosta : "hosta" ≠ "" ∧ ∀ a ∈ "hosta".toList, Text.isBlank a = false :=
    ⟨by decide, by simp [Text.isBlank]⟩
  have hregular : ∀ t ∈ c.restartTime, t.IsRegular := by
    rintro t ⟨⟩
    decide
  have htime : ∀ t ∈ c.restartTime, t.IsRegular ∧ t.time.fraction = 0 ∧
      0 ≤ t.date.year ∧ t.date.year ≤ 9999 := by
    rintro t ⟨⟩
    decide
  exact ⟨hfits, hjson.2 hregular, hplain.2 ⟨hhostb, hhosta, rfl, htime⟩, hjson'.2 hregular,
    fun hread => (hplain'.1 hread).1.1 rfl⟩

/-- Two commands with leap seconds.  One that is not at the end of its minute is written as the next
second, so the command does not come back, not even from JSON.  One at the end of the day has more
than a second's worth of nanoseconds and comes back in words all the same. -/
theorem forms_leapSecond :
    let stray : Timestamp := ⟨⟨2026, 3, 14, by decide⟩, ⟨23, 56, 4, 1333333333, by decide⟩⟩
    let leap : Timestamp := ⟨⟨2016, 12, 31, by decide⟩, ⟨23, 59, 59, 1000000000, by decide⟩⟩
    (ControlBody.encode (about "hostb" "hosta" 42 (some stray)) true).decode ≠
        .ok (about "hostb" "hosta" 42 (some stray)) ∧
      leap.time.nano ≠ 0 ∧
      (ControlBody.encode (about "hostb" "hosta" 42 (some leap)) false).decode =
        .ok (about "hostb" "hosta" 42 (some leap)) := by
  intro stray leap
  have hfits : Json.FitsInt64 42 := by decide
  have hstray : ¬ stray.IsRegular := by decide
  have hleap : (about "hostb" "hosta" 42 (some leap)).InWords := by
    refine ⟨⟨by decide, by simp [about, Text.isBlank]⟩, ⟨by decide, by simp [about, Text.isBlank]⟩,
      hfits, ?_, rfl⟩
    rintro t ⟨⟩
    exact ⟨by decide, by decide, by decide⟩
  refine ⟨?_, by decide, ?_⟩
  · rw [decode_encode_json hfits, ne_eq, Except.ok.injEq, readBack_eq_iff]
    exact fun hall => hstray (hall stray rfl)
  · rw [decode_encode_plain]
    exact ofPlain_plain hleap

end Command

end Courier
