import Courier.Calendar.Moment
import Courier.Proofs.Json.Typed
import Mathlib.Algebra.Group.Nat.Defs
import Mathlib.Data.List.TakeWhile
import Mathlib.Tactic.SplitIfs

/-!
# Times are read back

The text of a date is read back as what it was written for, and so is the text of a time of day,
of a timestamp and of a moment, to the nanosecond and through the leap seconds at the end of a
minute.  A leap second anywhere else is written as the second after it and read back as that
second, so times are read back exactly where they are regular.  A row of fourteen digits says less:
it is read back exactly where the timestamp is also without a fraction of a second and has a year of
four digits.

Main definitions:

- `TimeOfDay.IsRegular`, `Timestamp.IsRegular` and `Moment.IsRegular` say that a leap second, if
  there is one, ends a minute.
- `TimeOfDay.readBack`, `Timestamp.readBack` and `Moment.readBack` are what is read from a text.
- `Timestamp.HasDigits` says that a row of digits holds all of a timestamp.

Main statements:

- A padded number is read back at its width (`field_padded`), and a year with its sign
  (`readYear_yearChars`).
- `Date.read_chars`, `TimeOfDay.read_chars`, `Timestamp.parse?_text` and `Moment.parse?_text`
  for dates, times of day, timestamps and moments.
- What is read is regular (`TimeOfDay.isRegular_of_read`, `Moment.isRegular_of_parse?`).
- `Timestamp.ofDigits?_digits` and `Timestamp.hasDigits_of_ofDigits?` for rows of digits.
-/

namespace Courier.Calendar

open Json (AreDigits NoDigit areDigits_toDigits)
open Text (isBlank)

/-! ## Numbers -/

/-- A number that is filled up with zeros is written in digits. -/
theorem areDigits_padded (width n : Nat) : AreDigits (padded width n) := by
  obtain ⟨hne, hdigits⟩ := areDigits_toDigits n
  refine ⟨by simp [padded, hne], ?_⟩
  intro c hc
  rcases List.mem_append.1 hc with hc | hc
  · rw [List.eq_of_mem_replicate hc]
    rfl
  · exact hdigits c hc

theorem not_isBlank_of_isDigit {c : Char} (h : c.isDigit = true) : isBlank c = false := by
  have hc := Json.toNat_of_isDigit h
  unfold isBlank
  grind

/-- No blanks are skipped before digits. -/
theorem skipBlanks_append {ds : List Char} (h : AreDigits ds) (rest : List Char) :
    skipBlanks (ds ++ rest) = ds ++ rest := by
  obtain ⟨hne, hdigits⟩ := h
  obtain ⟨d, ds, rfl⟩ := List.exists_cons_of_ne_nil hne
  have hd : isBlank d = false := not_isBlank_of_isDigit (hdigits d List.mem_cons_self)
  simp [skipBlanks, hd]

/-- Digits are read up to the width of a number. -/
theorem number_append {ds : List Char} (h : AreDigits ds) (rest : List Char) :
    number ds.length (ds ++ rest) = some (Json.digitsValue ds, rest) := by
  obtain ⟨hne, hdigits⟩ := h
  have htake : ds.takeWhile Char.isDigit = ds := List.takeWhile_eq_self_iff.2 hdigits
  simp [number, htake, hne]

/-- A padded number that fits its width is read back. -/
theorem number_padded (width n : Nat) (hw : 0 < width) (hn : n < 10 ^ width)
    (rest : List Char) : number width (padded width n ++ rest) = some (n, rest) := by
  have hlen := length_padded ((Nat.length_toDigits_le_iff (by omega) hw).2 hn)
  have hread := number_append (areDigits_padded width n) rest
  rwa [hlen, digitsValue_padded] at hread

/-- A field of a fixed width is read back, whatever follows it. -/
theorem field_padded (width n : Nat) (hw : 0 < width) (hn : n < 10 ^ width)
    (rest : List Char) : field width (padded width n ++ rest) = some (n, rest) := by
  rw [field, skipBlanks_append (areDigits_padded width n), number_padded width n hw hn]

/-- A padded number is read back whole, up to the first character that is no digit. -/
theorem wholeNumber_padded (width n : Nat) {rest : List Char} (hr : NoDigit rest) :
    wholeNumber (padded width n ++ rest) = some (n, rest) := by
  obtain ⟨hne, hdigits⟩ := areDigits_padded width n
  have htake : (padded width n ++ rest).takeWhile Char.isDigit = padded width n := by
    rw [List.takeWhile_append_of_pos hdigits]
    cases rest with
    | nil => simp
    | cons c rest =>
        have hc : c.isDigit = false := hr c rfl
        simp [hc]
  rw [wholeNumber, number, List.take_length, htake]
  simp [hne, digitsValue_padded]

/-- A year of four digits is read back, whatever follows. -/
theorem readYear_padded {year : Int} (h : 0 ≤ year ∧ year ≤ 9999) (rest : List Char) :
    readYear (padded 4 year.toNat ++ rest) = some (year, rest) := by
  have hread := number_padded 4 year.toNat (by omega) (by omega) rest
  obtain ⟨hne, hdigits⟩ := areDigits_padded 4 year.toNat
  have hskip := skipBlanks_append (areDigits_padded 4 year.toNat) rest
  obtain ⟨d, ds, hds⟩ := List.exists_cons_of_ne_nil hne
  rw [hds] at hread hskip hdigits ⊢
  have hd : d.isDigit = true := hdigits d List.mem_cons_self
  have hplus : d ≠ '+' := by rintro rfl; simp at hd
  have hminus : d ≠ '-' := by rintro rfl; simp at hd
  rw [readYear, hskip]
  simp [hplus, hminus] at hread ⊢
  exact ⟨year.toNat, hread, by omega⟩

/-- A year is read back with its sign. -/
theorem readYear_yearChars (year : Int) (rest : List Char) (hr : NoDigit rest) :
    readYear (yearChars year ++ rest) = some (year, rest) := by
  unfold yearChars
  split
  · next h => exact readYear_padded h rest
  · next h =>
      have hread := wholeNumber_padded 4 year.natAbs hr
      have hplus : isBlank '+' = false := by decide
      have hminus : isBlank '-' = false := by decide
      generalize hn : year.natAbs = n at hread ⊢
      by_cases hneg : year < 0
      · simp [readYear, skipBlanks, hneg, hminus, hread]
        omega
      · simp [readYear, skipBlanks, hneg, hplus, hread]
        omega

/-! ## Dates -/

/-- No month has more than 31 days. -/
theorem daysIn_le (year : Int) (month : Nat) : daysIn year month ≤ 31 := by
  unfold daysIn
  grind

/-- A date is read back from the front of a text. -/
theorem Date.read_chars (d : Date) (rest : List Char) :
    Date.read (d.chars ++ rest) = some (d, rest) := by
  have hvalid := d.valid
  simp only [isDate, Bool.and_eq_true, decide_eq_true_eq] at hvalid
  have hdays := daysIn_le d.year d.month
  have hmonth := fun rest => field_padded 2 d.month (by omega) (by omega) rest
  have hday := fun rest => field_padded 2 d.day (by omega) (by omega) rest
  have hyear := fun rest => readYear_yearChars d.year ('-' :: rest) (by simp [NoDigit])
  have hminus : ∀ cs, skipBlanks ('-' :: cs) = '-' :: cs := fun cs => rfl
  simp [Date.read, Date.chars, hyear, hmonth, hday, hminus, literal]

/-! ## Times of day -/

/-- The fraction of a second is read back. -/
theorem TimeOfDay.readFraction_fractionChars (nanos : Nat) (h : nanos < nanosPerSecond)
    {rest : List Char} (hr : ∀ c ∈ rest.head?, c.isDigit = false ∧ c ≠ '.') :
    readFraction (fractionChars nanos ++ rest) = some (nanos, rest) := by
  have hread : ∀ width n, 0 < width → width ≤ 9 → n < 10 ^ width →
      readFraction ('.' :: (padded width n ++ rest)) = some (n * 10 ^ (9 - width), rest) := by
    intro width n hw hle hn
    obtain ⟨hne, hdigits⟩ := areDigits_padded width n
    have hlen := length_padded ((Nat.length_toDigits_le_iff (by omega) hw).2 hn)
    have htake : (padded width n ++ rest).takeWhile Char.isDigit = padded width n := by
      rw [List.takeWhile_append_of_pos hdigits]
      cases rest with
      | nil => simp
      | cons c rest => simp [(hr c rfl).1]
    have hkept : (padded width n).take 9 = padded width n :=
      List.take_of_length_le (by omega)
    simp [readFraction, htake, hkept, hne, digitsValue_padded, hlen]
  unfold nanosPerSecond at h
  unfold fractionChars
  split_ifs with h1 h2 h3
  · subst h1
    cases rest with
    | nil => rfl
    | cons c rest =>
        have hc : c ≠ '.' := (hr c rfl).2
        simp [readFraction, hc]
  · rw [List.cons_append, hread 3 _ (by omega) (by omega) (by omega)]
    simp
    omega
  · rw [List.cons_append, hread 6 _ (by omega) (by omega) (by omega)]
    simp
    omega
  · rw [List.cons_append, hread 9 _ (by omega) (by omega) (by omega)]
    simp

/-- Whether a leap second, if it is one, ends a minute. -/
def TimeOfDay.IsRegular (t : TimeOfDay) : Prop :=
  t.nano < nanosPerSecond ∨ t.second = 59

instance (t : TimeOfDay) : Decidable t.IsRegular :=
  inferInstanceAs (Decidable (_ ∨ _))

/-- The time that is made from the parts that a time is shown with. -/
def TimeOfDay.readBack (t : TimeOfDay) : TimeOfDay :=
  (ofShown? t.hour t.minute t.shownSecond t.fraction).getD t

/-- There is a time with the parts that a time is shown with. -/
theorem TimeOfDay.ofShown?_shownSecond (t : TimeOfDay) :
    ofShown? t.hour t.minute t.shownSecond t.fraction = some t.readBack := by
  have hvalid := t.valid
  simp only [isTime, Bool.and_eq_true, decide_eq_true_eq] at hvalid
  have hsome : (ofShown? t.hour t.minute t.shownSecond t.fraction).isSome := by
    unfold ofShown? of? isTime shownSecond fraction nanosPerSecond at *
    by_cases h : t.second + t.nano / 1000000000 = 60
    · have hnano : 1000000000 + t.nano % 1000000000 < 2 * 1000000000 := by omega
      simp [h, hvalid, hnano]
    · have hsecond : t.second + t.nano / 1000000000 < 60 := by omega
      have hnano : t.nano % 1000000000 < 2 * 1000000000 := by omega
      simp [h, hvalid, hsecond, hnano]
  obtain ⟨shown, hshown⟩ := Option.isSome_iff_exists.1 hsome
  rw [readBack, hshown, Option.getD_some]

/-- A time is made again from the parts that it is shown with when it is regular. -/
theorem TimeOfDay.IsRegular.readBack_eq {t : TimeOfDay} (h : t.IsRegular) : t.readBack = t := by
  have hvalid := t.valid
  simp only [isTime, Bool.and_eq_true, decide_eq_true_eq] at hvalid
  have hself := of?_self t
  have hshown : ofShown? t.hour t.minute t.shownSecond t.fraction = some t := by
    unfold IsRegular ofShown? shownSecond fraction nanosPerSecond at *
    by_cases hleap : t.second + t.nano / 1000000000 = 60
    · have hsecond : t.second = 59 := by omega
      have hnano : 1000000000 + t.nano % 1000000000 = t.nano := by omega
      rw [if_pos hleap, hnano, ← hsecond, hself]
    · have hnano : t.nano % 1000000000 = t.nano := by omega
      have hsecond : t.second + t.nano / 1000000000 = t.second := by omega
      rw [if_neg hleap, hnano, hsecond, hself]
  rw [readBack, hshown, Option.getD_some]

/-- What is made from a shown second and a fraction of one is regular. -/
theorem TimeOfDay.isRegular_of_ofShown? {hour minute shown fraction : Nat} {t : TimeOfDay}
    (hfraction : fraction < nanosPerSecond) (h : ofShown? hour minute shown fraction = some t) :
    t.IsRegular := by
  unfold ofShown? of? at h
  split_ifs at h <;> cases h
  · exact Or.inr rfl
  · exact Or.inl hfraction

/-- The times that are read back are the regular ones. -/
theorem TimeOfDay.readBack_eq_iff {t : TimeOfDay} : t.readBack = t ↔ t.IsRegular := by
  refine ⟨fun h => ?_, fun h => h.readBack_eq⟩
  have hshown := t.ofShown?_shownSecond
  rw [h] at hshown
  exact isRegular_of_ofShown? (Nat.mod_lt _ (by decide)) hshown

/-- The time that a text says is read from it, when nothing that follows extends its fraction. -/
theorem TimeOfDay.read_chars (t : TimeOfDay) (rest : List Char)
    (hr : ∀ c ∈ rest.head?, c.isDigit = false ∧ c ≠ '.') :
    TimeOfDay.read (t.chars ++ rest) = some (t.readBack, rest) := by
  have hvalid := t.valid
  simp only [isTime, Bool.and_eq_true, decide_eq_true_eq] at hvalid
  have hshown : t.shownSecond < 10 ^ 2 := by
    unfold shownSecond nanosPerSecond at *
    omega
  have hfraction := readFraction_fractionChars t.fraction
    (Nat.mod_lt _ (by decide)) hr
  have hhour := fun rest => field_padded 2 t.hour (by omega) (by omega) rest
  have hminute := fun rest =>
    field_padded 2 t.minute (by omega) (by omega) rest
  have hsecond := fun rest => field_padded 2 t.shownSecond (by omega) hshown rest
  have hcolon : ∀ cs, skipBlanks (':' :: cs) = ':' :: cs := fun cs => rfl
  simp [TimeOfDay.read, TimeOfDay.chars, hhour, hminute, hsecond, hcolon, literal, hfraction,
    ofShown?_shownSecond]

/-! ## Timestamps -/

/-- A date is read back from its text. -/
theorem Date.parse?_text (d : Date) : Date.parse? d.text = some d := by
  have hread := d.read_chars []
  rw [List.append_nil] at hread
  have hend : skipBlanks [] = [] := rfl
  simp [Date.parse?, Date.text, hread, hend]

theorem Date.ofJson_toJson (d : Date) : Date.ofJson d.toJson = .ok d := by
  simp [Date.ofJson, Date.toJson, Json.toText, bind, Except.bind, Date.parse?_text]

/-- Whether a leap second, if it is one, ends a minute. -/
def Timestamp.IsRegular (t : Timestamp) : Prop :=
  t.time.IsRegular

instance (t : Timestamp) : Decidable t.IsRegular :=
  inferInstanceAs (Decidable t.time.IsRegular)

/-- The timestamp that is read from the text of one. -/
def Timestamp.readBack (t : Timestamp) : Timestamp :=
  { t with time := t.time.readBack }

/-- The timestamps that are read back as they were are the regular ones. -/
theorem Timestamp.readBack_eq_iff {t : Timestamp} : t.readBack = t ↔ t.IsRegular := by
  rcases t with ⟨date, time⟩
  simp [readBack, IsRegular, TimeOfDay.readBack_eq_iff]

/-- A timestamp is read from its text as the moment that this shows. -/
theorem Timestamp.parse?_text (t : Timestamp) : Timestamp.parse? t.text = some t.readBack := by
  have hdate := fun rest => Date.read_chars t.date rest
  have htime := TimeOfDay.read_chars t.time [] (by simp)
  rw [List.append_nil] at htime
  have hletter : ∀ cs, skipBlanks ('T' :: cs) = 'T' :: cs := fun cs => rfl
  have hend : skipBlanks [] = [] := rfl
  simp [Timestamp.parse?, Timestamp.text, Timestamp.chars, hdate, htime, hletter, hend, literal,
    Timestamp.readBack]

theorem Timestamp.ofJson_toJson (t : Timestamp) : Timestamp.ofJson t.toJson = .ok t.readBack := by
  simp [Timestamp.ofJson, Timestamp.toJson, Json.toText, bind, Except.bind,
    Timestamp.parse?_text]

/-! ## Rows of digits -/

/-- Whether a row of fourteen digits says all of a timestamp: it is regular, there is no fraction
of a second, and the year has four digits. -/
structure Timestamp.HasDigits (t : Timestamp) : Prop where
  regular : t.IsRegular
  fraction : t.time.fraction = 0
  year : 0 ≤ t.date.year ∧ t.date.year ≤ 9999

/-- The second that is shown has two digits. -/
theorem TimeOfDay.shownSecond_lt (t : TimeOfDay) : t.shownSecond < 100 := by
  have hvalid := t.valid
  simp only [isTime, Bool.and_eq_true, decide_eq_true_eq] at hvalid
  unfold shownSecond nanosPerSecond at *
  omega

/-- A timestamp is read back from its row of digits. -/
theorem Timestamp.ofDigits?_digits {t : Timestamp} (h : t.HasDigits) :
    Timestamp.ofDigits? t.digits = some t := by
  have hdate := t.date.valid
  have htime := t.time.valid
  simp only [isDate, isTime, Bool.and_eq_true, decide_eq_true_eq] at hdate htime
  have hdays := daysIn_le t.date.year t.date.month
  have hyear : yearChars t.date.year = padded 4 t.date.year.toNat := if_pos h.year
  have hmonth := fun rest => field_padded 2 t.date.month (by omega) (by omega) rest
  have hday := fun rest => field_padded 2 t.date.day (by omega) (by omega) rest
  have hhour := fun rest => field_padded 2 t.time.hour (by omega) (by omega) rest
  have hminute := fun rest => field_padded 2 t.time.minute (by omega) (by omega) rest
  have hsecond := field_padded 2 t.time.shownSecond (by omega) t.time.shownSecond_lt []
  rw [List.append_nil] at hsecond
  have hshown := t.time.ofShown?_shownSecond
  rw [h.fraction, h.regular.readBack_eq] at hshown
  simp [ofDigits?, digits, hyear, readYear_padded h.year, hmonth, hday, hhour, hminute, hsecond,
    hshown]

/-- The time that a written second without a fraction stands for has none. -/
theorem TimeOfDay.fraction_of_ofShown? {hour minute shown : Nat} {t : TimeOfDay}
    (h : ofShown? hour minute shown 0 = some t) : t.fraction = 0 := by
  unfold ofShown? of? at h
  split_ifs at h <;> cases h <;> simp [fraction]

/-- A row of digits is less than the power of ten of its length. -/
theorem digitsValue_lt {ds : List Char} (h : ∀ c ∈ ds, c.isDigit = true) :
    Json.digitsValue ds < 10 ^ ds.length := by
  induction ds with
  | nil => decide
  | cons c ds ih =>
      have hrest := ih fun d hd => h d (List.mem_cons_of_mem c hd)
      have hfirst := Json.toNat_of_isDigit (h c List.mem_cons_self)
      have hvalue : Json.digitsValue [c] ≤ 9 := by
        simp [Json.digitsValue, Json.digitValue]
        omega
      have hscaled := Nat.mul_le_mul_left (10 ^ ds.length) hvalue
      rw [← List.singleton_append, Json.digitsValue_append, List.length_append, Nat.pow_add]
      simp only [List.length_singleton, Nat.pow_one, Nat.pow_eq] at hscaled ⊢
      omega

/-- What was read as a number is below the power of ten of its width. -/
theorem number_lt {width n : Nat} {cs rest : List Char}
    (h : number width cs = some (n, rest)) : n < 10 ^ width := by
  unfold number at h
  extract_lets digits at h
  split_ifs at h
  cases h
  have hvalue : Json.digitsValue digits < 10 ^ digits.length :=
    digitsValue_lt fun c hc => List.mem_takeWhile_imp hc
  have hlen : digits.length ≤ width :=
    (List.takeWhile_prefix _).length_le.trans (List.length_take_le width cs)
  exact hvalue.trans_le (Nat.pow_le_pow_right (by omega) hlen)

/-- No digit is left where a number was read whole, and nothing new is. -/
theorem noDigit_of_wholeNumber {n : Nat} {cs rest : List Char}
    (h : wholeNumber cs = some (n, rest)) : NoDigit rest ∧ rest ⊆ cs := by
  unfold wholeNumber number at h
  extract_lets digits at h
  split_ifs at h
  cases h
  have hdigits : digits = cs.takeWhile Char.isDigit := by simp only [digits, List.take_length]
  have hsplit : cs.takeWhile Char.isDigit ++ cs.dropWhile Char.isDigit = cs :=
    List.takeWhile_append_dropWhile
  have hrest : (cs.takeWhile Char.isDigit ++ cs.dropWhile Char.isDigit).drop digits.length =
      cs.dropWhile Char.isDigit := by
    rw [hdigits, List.drop_left]
  rw [hsplit] at hrest
  refine ⟨?_, List.drop_subset _ _⟩
  intro c hc
  rw [hrest, ← List.find?_not_eq_head?_dropWhile Char.isDigit] at hc
  simpa using List.find?_some hc

/-- Where neither a blank nor a digit comes next, there is no number. -/
theorem field_eq_none {width : Nat} {cs : List Char} (hblank : ∀ c ∈ cs, isBlank c = false)
    (hdigit : NoDigit cs) : field width cs = none := by
  cases cs with
  | nil => simp [field, skipBlanks, number]
  | cons c cs =>
      have hc : isBlank c = false := hblank c List.mem_cons_self
      have hnone : ((c :: cs).take width).takeWhile Char.isDigit = [] := by
        cases width with
        | zero => rfl
        | succ width => simp [hdigit c rfl]
      simp [field, skipBlanks, hc, number, hnone]

/-- A row of digits without blanks holds a year of four digits: a year with a sign takes all
the digits that follow, and leaves none for the month. -/
theorem year_of_readYear {year : Int} {cs rest : List Char}
    (hblank : ∀ c ∈ cs, isBlank c = false) (h : readYear cs = some (year, rest))
    (hmonth : (field 2 rest).isSome) : 0 ≤ year ∧ year ≤ 9999 := by
  have hskip : skipBlanks cs = cs := by
    cases cs with
    | nil => rfl
    | cons c cs => simp [skipBlanks, hblank c List.mem_cons_self]
  have hsigned : ∀ {c n tail}, cs = c :: tail → wholeNumber tail = some (n, rest) → False := by
    intro c n tail hcs hread
    obtain ⟨hdigit, hsub⟩ := noDigit_of_wholeNumber hread
    have hnone : field 2 rest = none := by
      refine field_eq_none (fun d hd => hblank d ?_) hdigit
      rw [hcs]
      exact List.mem_cons_of_mem c (hsub hd)
    rw [hnone] at hmonth
    cases hmonth
  unfold readYear at h
  rw [hskip] at h
  split at h
  · obtain ⟨⟨n, tail⟩, hread, hpair⟩ := Option.map_eq_some_iff.1 h
    cases hpair
    exact (hsigned rfl hread).elim
  · obtain ⟨⟨n, tail⟩, hread, hpair⟩ := Option.map_eq_some_iff.1 h
    cases hpair
    exact (hsigned rfl hread).elim
  · obtain ⟨⟨n, tail⟩, hread, hpair⟩ := Option.map_eq_some_iff.1 h
    cases hpair
    have hlt := number_lt hread
    omega

/-- A timestamp that was read from a row of digits without blanks is said in full by one. -/
theorem Timestamp.hasDigits_of_ofDigits? {s : String} {t : Timestamp}
    (hblank : ∀ c ∈ s.toList, isBlank c = false) (h : Timestamp.ofDigits? s = some t) :
    t.HasDigits := by
  unfold ofDigits? at h
  obtain ⟨⟨year, cs⟩, hyear, h⟩ := Option.bind_eq_some_iff.1 h
  obtain ⟨⟨month, cs⟩, hmonth, h⟩ := Option.bind_eq_some_iff.1 h
  obtain ⟨⟨day, cs⟩, -, h⟩ := Option.bind_eq_some_iff.1 h
  obtain ⟨⟨hour, cs⟩, -, h⟩ := Option.bind_eq_some_iff.1 h
  obtain ⟨⟨minute, cs⟩, -, h⟩ := Option.bind_eq_some_iff.1 h
  obtain ⟨⟨second, cs⟩, -, h⟩ := Option.bind_eq_some_iff.1 h
  simp only [Option.ite_none_right_eq_some] at h
  obtain ⟨-, h⟩ := h
  obtain ⟨date, hdate, h⟩ := Option.bind_eq_some_iff.1 h
  obtain ⟨time, htime, h⟩ := Option.bind_eq_some_iff.1 h
  cases h
  have hyears := year_of_readYear hblank hyear (Option.isSome_of_eq_some hmonth)
  have hfraction := TimeOfDay.fraction_of_ofShown? htime
  have hregular := TimeOfDay.isRegular_of_ofShown? (by decide) htime
  unfold Date.of? at hdate
  split_ifs at hdate
  cases hdate
  exact ⟨hregular, hfraction, hyears⟩

/-! ## Moments -/

/-- A timestamp no seconds later is the same one. -/
theorem Timestamp.plusSeconds?_zero (t : Timestamp) : t.plusSeconds? 0 = some t := by
  have hvalid := t.time.valid
  simp only [isTime, Bool.and_eq_true, decide_eq_true_eq] at hvalid
  have hself := TimeOfDay.of?_self t.time
  have hday : ((t.time.hour * 60 + t.time.minute) * 60 + t.time.second : Int) / 86400 = 0 := by
    omega
  have hrest : (((t.time.hour * 60 + t.time.minute) * 60 + t.time.second : Int) % 86400).toNat =
      (t.time.hour * 60 + t.time.minute) * 60 + t.time.second := by
    omega
  have hhour : ((t.time.hour * 60 + t.time.minute) * 60 + t.time.second) / 3600 =
      t.time.hour := by omega
  have hminute : ((t.time.hour * 60 + t.time.minute) * 60 + t.time.second) / 60 % 60 =
      t.time.minute := by omega
  have hsecond : ((t.time.hour * 60 + t.time.minute) * 60 + t.time.second) % 60 =
      t.time.second := by omega
  simp only [plusSeconds?, Int.add_zero, hday, hrest, hhour, hminute, hsecond, hself,
    Date.plusDays?]
  rfl

/-- Whether a leap second, if it is one, ends a minute. -/
def Moment.IsRegular (m : Moment) : Prop :=
  m.utc.IsRegular

instance (m : Moment) : Decidable m.IsRegular :=
  inferInstanceAs (Decidable m.utc.IsRegular)

/-- The moment that is read from the text of one. -/
def Moment.readBack (m : Moment) : Moment :=
  ⟨m.utc.readBack⟩

/-- The moments that are read back as they were are the regular ones. -/
theorem Moment.readBack_eq_iff {m : Moment} : m.readBack = m ↔ m.IsRegular := by
  rcases m with ⟨utc⟩
  simp [readBack, IsRegular, Timestamp.readBack_eq_iff]

/-- A moment is read from its text as the one that this shows. -/
theorem Moment.parse?_text (m : Moment) : Moment.parse? m.text = some m.readBack := by
  have hdate := fun rest => Date.read_chars m.utc.date rest
  have htime := TimeOfDay.read_chars m.utc.time ['Z'] (by rintro c ⟨⟩; decide)
  have hzone : readZone (skipBlanks ['Z']) = some (0, []) := rfl
  have hend : skipBlanks [] = [] := rfl
  simp [Moment.parse?, readOnDate, Moment.text, Timestamp.chars, hdate, htime, hzone, hend,
    Timestamp.plusSeconds?_zero, Moment.readBack, Timestamp.readBack]

theorem Moment.ofJson_toJson (m : Moment) : Moment.ofJson m.toJson = .ok m.readBack := by
  simp [Moment.ofJson, Moment.toJson, Json.toText, bind, Except.bind, Moment.parse?_text]

/-- A regular moment is read back from its JSON form. -/
theorem Moment.IsRegular.ofJson_toJson {m : Moment} (h : m.IsRegular) :
    Moment.ofJson m.toJson = .ok m := by
  rw [Moment.ofJson_toJson, readBack_eq_iff.2 h]

/-! ## What is read is regular -/

/-- The fraction that is read is less than a second. -/
theorem TimeOfDay.lt_of_readFraction {cs rest : List Char} {nanos : Nat}
    (h : readFraction cs = some (nanos, rest)) : nanos < nanosPerSecond := by
  unfold readFraction at h
  split at h
  · next tail =>
      extract_lets digits kept at h
      split_ifs at h
      cases h
      have hlength : kept.length ≤ 9 := List.length_take_le 9 digits
      have hvalue : Json.digitsValue kept < 10 ^ kept.length :=
        digitsValue_lt fun c hc => List.mem_takeWhile_imp (List.mem_of_mem_take hc)
      calc Json.digitsValue kept * Nat.pow 10 (9 - kept.length)
          < 10 ^ kept.length * 10 ^ (9 - kept.length) :=
            Nat.mul_lt_mul_of_pos_right hvalue (Nat.pow_pos (by decide))
        _ = nanosPerSecond := by
            rw [← Nat.pow_add, Nat.add_sub_cancel' hlength]
            rfl
  · cases h
    decide

/-- A second 60 that is read is a leap second at the end of its minute. -/
theorem TimeOfDay.isRegular_of_read {cs rest : List Char} {t : TimeOfDay}
    (h : TimeOfDay.read cs = some (t, rest)) : t.IsRegular := by
  obtain ⟨⟨hour, cs⟩, -, h⟩ := Option.bind_eq_some_iff.1 h
  obtain ⟨cs, -, h⟩ := Option.bind_eq_some_iff.1 h
  obtain ⟨⟨minute, cs⟩, -, h⟩ := Option.bind_eq_some_iff.1 h
  obtain ⟨cs, -, h⟩ := Option.bind_eq_some_iff.1 h
  obtain ⟨⟨second, cs⟩, -, h⟩ := Option.bind_eq_some_iff.1 h
  obtain ⟨⟨fraction, cs⟩, hfraction, h⟩ := Option.bind_eq_some_iff.1 h
  obtain ⟨time, htime, h⟩ := Option.bind_eq_some_iff.1 h
  cases h
  exact isRegular_of_ofShown? (lt_of_readFraction hfraction) htime

/-- Whole minutes keep a time regular. -/
theorem Timestamp.IsRegular.plusSeconds? {t u : Timestamp} (ht : t.IsRegular) {minutes : Int}
    (h : t.plusSeconds? (minutes * 60) = some u) : u.IsRegular := by
  have hvalid := t.time.valid
  simp only [isTime, Bool.and_eq_true, decide_eq_true_eq] at hvalid
  obtain ⟨date, -, h⟩ := Option.bind_eq_some_iff.1 h
  obtain ⟨time, htime, h⟩ := Option.bind_eq_some_iff.1 h
  cases h
  unfold TimeOfDay.of? at htime
  split_ifs at htime
  cases htime
  refine ht.imp id fun hsecond => ?_
  simp only [hsecond]
  omega

/-- An offset is one of whole minutes. -/
theorem Moment.minutes_of_readOffset {cs rest : List Char} {offset : Int}
    (h : readOffset cs = some (offset, rest)) : ∃ minutes, offset = minutes * 60 := by
  obtain ⟨⟨negative, cs⟩, -, h⟩ := Option.bind_eq_some_iff.1 h
  obtain ⟨⟨hours, cs⟩, -, h⟩ := Option.bind_eq_some_iff.1 h
  obtain ⟨⟨minutes, cs⟩, -, h⟩ := Option.bind_eq_some_iff.1 h
  simp only [Option.ite_none_left_eq_some] at h
  obtain ⟨-, h⟩ := h
  cases h
  cases negative with
  | false => exact ⟨hours * 60 + minutes, rfl⟩
  | true => exact ⟨-(hours * 60 + minutes), (Int.neg_mul _ _).symm⟩

/-- The offset of a zone that is read is a number of minutes. -/
theorem Moment.minutes_of_readZone {cs rest : List Char} {offset : Int}
    (h : readZone cs = some (offset, rest)) : ∃ minutes, offset = minutes * 60 := by
  unfold readZone at h
  split at h
  · cases h
    exact ⟨0, rfl⟩
  · cases h
    exact ⟨0, rfl⟩
  · split_ifs at h
    · cases h
      exact ⟨0, rfl⟩
    · exact minutes_of_readOffset h
  · exact minutes_of_readOffset h

/-- A moment that was read on a date is regular, whatever the zone it was given in. -/
theorem Moment.isRegular_of_readOnDate {date : Date} {cs : List Char} {m : Moment}
    (h : readOnDate date cs = some m) : m.IsRegular := by
  obtain ⟨⟨time, cs⟩, htime, h⟩ := Option.bind_eq_some_iff.1 h
  obtain ⟨⟨offset, cs⟩, hoffset, h⟩ := Option.bind_eq_some_iff.1 h
  simp only [Option.ite_none_left_eq_some] at h
  obtain ⟨-, h⟩ := h
  obtain ⟨utc, hutc, h⟩ := Option.bind_eq_some_iff.1 h
  cases h
  have hregular : Timestamp.IsRegular ⟨date, time⟩ := TimeOfDay.isRegular_of_read htime
  obtain ⟨minutes, rfl⟩ := minutes_of_readZone hoffset
  rw [← Int.neg_mul] at hutc
  exact hregular.plusSeconds? hutc

/-- So every moment that is read is regular: the minutes of its zone leave the second as it is. -/
theorem Moment.isRegular_of_parse? {s : String} {m : Moment} (h : Moment.parse? s = some m) :
    m.IsRegular := by
  obtain ⟨⟨date, cs⟩, -, h⟩ := Option.bind_eq_some_iff.1 h
  simp only at h
  split at h
  · exact isRegular_of_readOnDate h
  · exact isRegular_of_readOnDate h
  · exact isRegular_of_readOnDate h
  · cases h

theorem Moment.isRegular_of_ofJson {j : Json} {m : Moment} (h : Moment.ofJson j = .ok m) :
    m.IsRegular := by
  obtain ⟨s, -, h⟩ := Json.bind_eq_ok h
  cases hparse : parse? s with
  | none => simp [hparse] at h
  | some read =>
      obtain rfl : read = m := by simpa [hparse] using h
      exact isRegular_of_parse? hparse

end Courier.Calendar
