import Courier.Proofs.Json.Text

/-!
# JSON text is read back

Every value that has a text is read back from it, in either layout.  The reader is followed
token by token over the characters that the writer appends; its bound only has to exceed
their number.

Main statements:

- A number is read back from its characters when nothing that follows extends it
  (`readNumber_magnitudeChars`), and a string up to its closing quote
  (`readString_stringChars`).
- A value is read back from its characters (`readValue_valueChars`), and so a whole text is
  read back (`parse_compact`, `parse_indented`).
-/

namespace Courier.Json

/-! ## Space -/

theorem skipSpace_cons {c : Char} (h : isSpace c = false) (rest : List Char) :
    skipSpace (c :: rest) = c :: rest := by
  simp [skipSpace, h]

theorem skipSpace_breakChars (layout : Layout) (depth : Nat) (rest : List Char) :
    skipSpace (layout.breakChars depth ++ rest) = skipSpace rest := by
  have hspace : ∀ c ∈ layout.breakChars depth, isSpace c = true := by
    intro c hc
    cases layout with
    | compact => simp [Layout.breakChars] at hc
    | indented =>
        simp only [Layout.breakChars, List.mem_cons, List.mem_replicate] at hc
        rcases hc with rfl | ⟨-, rfl⟩ <;> rfl
  exact List.dropWhile_append_of_pos hspace

/-! ## Numbers -/

/-- Whether a text does not extend a number that stands before it. -/
def EndsNumber (rest : List Char) : Prop :=
  ∀ c ∈ rest.head?, c.isDigit = false ∧ c ≠ '.' ∧ c ≠ 'e' ∧ c ≠ 'E'

theorem EndsNumber.noDigit {rest : List Char} (h : EndsNumber rest) : NoDigit rest :=
  fun c hc => (h c hc).1

/-- Digits are taken up to the first character that is none. -/
theorem takeDigits_append {ds rest : List Char} (hd : ∀ c ∈ ds, c.isDigit = true)
    (hr : NoDigit rest) : takeDigits (ds ++ rest) = (ds, rest) := by
  rw [takeDigits, List.takeWhile_append_of_pos hd, List.dropWhile_append_of_pos hd]
  cases rest with
  | nil => simp
  | cons c rest =>
      have hc : c.isDigit = false := hr c rfl
      simp [hc]

/-- An exponent does not begin with a digit, and not with a point either. -/
theorem head_exponentChars (exponent : Option (Bool × List Char)) {rest : List Char}
    (hr : EndsNumber rest) :
    ∀ c ∈ (exponentChars exponent ++ rest).head?, c.isDigit = false ∧ c ≠ '.' := by
  intro c hc
  cases exponent with
  | none => exact ⟨(hr c hc).1, (hr c hc).2.1⟩
  | some e =>
      obtain rfl : 'e' = c := by simpa [exponentChars] using hc
      decide

/-- An exponent is read back. -/
theorem readExponent_exponentChars {exponent : Option (Bool × List Char)} {rest : List Char}
    (he : ∀ e ∈ exponent, AreDigits e.2) (hr : EndsNumber rest) :
    readExponent (exponentChars exponent ++ rest) = some (exponent, rest) := by
  rcases exponent with _ | ⟨negative, ds⟩
  · cases rest with
    | nil => rfl
    | cons c rest =>
        obtain ⟨-, -, h1, h2⟩ := hr c rfl
        simp [exponentChars, readExponent, h1, h2]
  · obtain ⟨hne, hd⟩ := he (negative, ds) rfl
    have htake := takeDigits_append hd hr.noDigit
    obtain ⟨d, ds, rfl⟩ := List.exists_cons_of_ne_nil hne
    simp only [List.cons_append] at hd htake
    cases negative with
    | true => simp [exponentChars, readExponent, htake]
    | false =>
        have hdigit : d.isDigit = true := hd d List.mem_cons_self
        have hplus : d ≠ '+' := by rintro rfl; simp at hdigit
        have hminus : d ≠ '-' := by rintro rfl; simp at hdigit
        simp only [exponentChars, readExponent, List.cons_append, List.nil_append, beq_self_eq_true,
          Bool.true_or, if_true, Bool.false_eq_true, if_false]
        split
        · next h => split at h <;> simp_all
        · next h => split at h <;> simp_all

/-- A fraction is read back. -/
theorem readFraction_fractionChars {fraction : Option (List Char)} {rest : List Char}
    (hf : ∀ ds ∈ fraction, AreDigits ds)
    (hr : ∀ c ∈ rest.head?, c.isDigit = false ∧ c ≠ '.') :
    readFraction (fractionChars fraction ++ rest) = some (fraction, rest) := by
  cases fraction with
  | none =>
      cases rest with
      | nil => rfl
      | cons c rest =>
          have hc : c ≠ '.' := (hr c rfl).2
          simp [fractionChars, readFraction, hc]
  | some ds =>
      obtain ⟨hne, hd⟩ := hf ds rfl
      have htake := takeDigits_append hd fun c hc => (hr c hc).1
      obtain ⟨d, ds, rfl⟩ := List.exists_cons_of_ne_nil hne
      rw [List.cons_append] at htake
      simp [fractionChars, readFraction, htake]

/-- A number is read back from its characters, when nothing that follows extends it. -/
theorem readNumber_magnitudeChars {n : Number} {rest : List Char} (hn : n.WellFormed)
    (hr : EndsNumber rest) :
    readNumber n.negative (magnitudeChars n ++ rest) = some (n, rest) := by
  rcases n with ⟨negative, whole, fraction, exponent⟩
  obtain ⟨⟨hne, hd⟩, hlead, hf, he⟩ := hn
  have hexp := head_exponentChars exponent hr
  have hfrac : NoDigit (fractionChars fraction ++ (exponentChars exponent ++ rest)) := by
    cases fraction with
    | none => exact fun c hc => (hexp c hc).1
    | some ds => simp [NoDigit, fractionChars]
  have htake := takeDigits_append hd hfrac
  have hread := readFraction_fractionChars hf hexp
  have hread' := readExponent_exponentChars he hr
  rw [readNumber]
  simp only [magnitudeChars, List.append_assoc, htake]
  split
  · next h => simp_all
  · next h => simp_all
  · next h => simp_all

/-! ## Strings -/

theorem hexValue?_hexDigit (n : Nat) : hexValue? (hexDigit n) = some (n % 16) := by
  have hall : ∀ k < 16, hexValue? (Nat.digitChar k) = some k := by decide
  exact hall (n % 16) (Nat.mod_lt _ (by omega))

/-- Each character of a string is read back as one code unit. -/
theorem readUnits_escapeChars (bound : Nat) (units : List Nat) (c : Char) (rest : List Char) :
    readUnits (bound + 1) units (escapeChars c ++ rest) =
      readUnits bound (c.toNat :: units) rest := by
  unfold escapeChars
  split_ifs with h1 h2 h3 h4 h5 h6 h7 h8
  · simp [h1, readUnits, simpleEscape?]
  · simp [h2, readUnits, simpleEscape?]
  · simp [h3, readUnits, simpleEscape?]
  · simp [h4, readUnits, simpleEscape?]
  · simp [h5, readUnits, simpleEscape?]
  · simp [h6, readUnits, simpleEscape?]
  · simp [h7, readUnits, simpleEscape?]
  · have hzero : hexValue? '0' = some 0 := by decide
    have hvalue : c.toNat / 16 % 16 * 16 + c.toNat % 16 = c.toNat := by omega
    simp [readUnits, readHex4, hzero, hexValue?_hexDigit, hvalue]
  · simp [readUnits, h2, h8]

/-- A string is read back as its code points, up to its closing quote. -/
theorem readUnits_stringChars {bound : Nat} {cs : List Char} (h : cs.length < bound)
    (units : List Nat) (rest : List Char) :
    readUnits bound units (cs.flatMap escapeChars ++ '"' :: rest) =
      some (units.reverse ++ cs.map Char.toNat, rest) := by
  induction cs generalizing bound units with
  | nil =>
      obtain ⟨bound, rfl⟩ := Nat.exists_eq_add_one_of_ne_zero (Nat.ne_of_gt h)
      simp [readUnits]
  | cons c cs ih =>
      obtain ⟨bound, rfl⟩ := Nat.exists_eq_add_one_of_ne_zero (Nat.ne_zero_of_lt h)
      rw [List.flatMap_cons, List.append_assoc, readUnits_escapeChars,
        ih (by simpa using h)]
      simp

theorem toNat_not_surrogate (c : Char) : ¬ (0xD800 ≤ c.toNat ∧ c.toNat ≤ 0xDFFF) := by
  have hvalid := c.valid
  simp only [UInt32.isValidChar, Nat.isValidChar] at hvalid
  have hval : c.val.toNat = c.toNat := rfl
  omega

/-- Code points of characters are joined to these characters. -/
theorem joinUnits_map_toNat (done cs : List Char) :
    joinUnits done (cs.map Char.toNat) = some (done.reverse ++ cs) := by
  induction cs generalizing done with
  | nil => simp [joinUnits]
  | cons c cs ih =>
      have hc := toNat_not_surrogate c
      have hlow : ¬ (0xD800 ≤ c.toNat ∧ c.toNat ≤ 0xDBFF) := by omega
      have hhigh : ¬ (0xDC00 ≤ c.toNat ∧ c.toNat ≤ 0xDFFF) := by omega
      cases cs with
      | nil => simp [joinUnits, hc, Char.ofNat_toNat]
      | cons d cs =>
          have hrest := ih (c :: done)
          simp only [List.map_cons] at hrest ⊢
          rw [joinUnits]
          simp only [Bool.and_eq_true, decide_eq_true_eq, hlow, hhigh, if_false,
            Char.ofNat_toNat, hrest]
          simp

/-- The characters of a string are no fewer than the string has. -/
theorem length_le_flatMap_escapeChars (cs : List Char) :
    cs.length ≤ (cs.flatMap escapeChars).length := by
  have hpos : ∀ c, 0 < (escapeChars c).length := by
    intro c
    unfold escapeChars
    split_ifs <;> simp
  induction cs with
  | nil => simp
  | cons c cs ih =>
      have := hpos c
      simp only [List.flatMap_cons, List.length_cons, List.length_append]
      omega

/-- A string is read back after its opening quote. -/
theorem readString_stringChars (s : String) (rest : List Char) :
    readString (stringChars s ++ rest) = some (some s, rest) := by
  have hlen := length_le_flatMap_escapeChars s.toList
  rw [stringChars, List.append_assoc, List.cons_append, List.nil_append]
  have hbound : s.toList.length <
      (s.toList.flatMap escapeChars ++ '"' :: rest).length + 1 := by
    rw [List.length_append]
    omega
  rw [readString, readUnits_stringChars hbound]
  simp [joinUnits_map_toNat]

/-! ## Values -/

theorem readValue_breakChars (bound depth : Nat) (layout : Layout) (cs : List Char) :
    readValue bound (layout.breakChars depth ++ cs) = readValue bound cs := by
  cases bound with
  | zero => rfl
  | succ bound => rw [readValue, readValue, skipSpace_breakChars]

theorem readItems_breakChars (bound depth : Nat) (layout : Layout) (done : List Json)
    (cs : List Char) :
    readItems bound done (layout.breakChars depth ++ cs) = readItems bound done cs := by
  cases bound with
  | zero => rfl
  | succ bound => rw [readItems, readItems, readValue_breakChars]

theorem readMembers_breakChars (bound depth : Nat) (layout : Layout)
    (done : List (Option String × Json)) (cs : List Char) :
    readMembers bound done (layout.breakChars depth ++ cs) = readMembers bound done cs := by
  cases bound with
  | zero => rfl
  | succ bound => rw [readMembers, readMembers, skipSpace_breakChars]

/-- The text after the colon of a member is read as the value alone. -/
theorem readValue_colonChars (bound : Nat) (layout : Layout) (cs : List Char) :
    ∃ gap, layout.colonChars = ':' :: gap ∧
      readValue bound (gap ++ cs) = readValue bound cs := by
  cases layout with
  | compact => exact ⟨[], rfl, rfl⟩
  | indented =>
      refine ⟨[' '], rfl, ?_⟩
      cases bound with
      | zero => rfl
      | succ bound =>
          have hskip : skipSpace (' ' :: cs) = skipSpace cs := rfl
          rw [List.cons_append, List.nil_append, readValue, readValue, hskip]

theorem endsNumber_cons {c : Char} (h : c ∈ [',', ']', '}', '\n']) (rest : List Char) :
    EndsNumber (c :: rest) := by
  intro d hd
  obtain rfl : c = d := by simpa using hd
  simp only [List.mem_cons, List.not_mem_nil, or_false] at h
  rcases h with rfl | rfl | rfl | rfl <;> decide

theorem endsNumber_breakChars {c : Char} (h : c ∈ [',', ']', '}', '\n']) (layout : Layout)
    (depth : Nat) (rest : List Char) :
    EndsNumber (layout.breakChars depth ++ c :: rest) := by
  cases layout with
  | compact => exact endsNumber_cons h rest
  | indented => exact endsNumber_cons (by simp) _

theorem endsNumber_itemsChars {layout : Layout} {depth : Nat} {rest : List Char}
    (h : EndsNumber rest) (items : List Json) :
    EndsNumber (itemsChars layout depth false items ++ rest) := by
  cases items with
  | nil => exact h
  | cons item items => exact endsNumber_cons (by simp) _

theorem endsNumber_membersChars {layout : Layout} {depth : Nat} {rest : List Char}
    (h : EndsNumber rest) (members : List (String × Json)) :
    EndsNumber (membersChars layout depth false members ++ rest) := by
  cases members with
  | nil => exact h
  | cons m members => exact endsNumber_cons (by simp) _

/-- A digit begins neither a keyword nor a string, a list, an object or a sign. -/
theorem ne_of_isDigit {d : Char} (h : d.isDigit = true) :
    isSpace d = false ∧ d ∉ ['n', 't', 'f', '"', '[', ']', '{', '}', '-'] := by
  have hd := toNat_of_isDigit h
  have hne : ∀ c : Char, (c.toNat < 48 ∨ 57 < c.toNat) → d ≠ c := by
    rintro c hc rfl
    omega
  constructor
  · simp [isSpace, hne ' ' (by decide), hne '\n' (by decide), hne '\t' (by decide),
      hne '\r' (by decide)]
  · intro hmem
    simp only [List.mem_cons, List.not_mem_nil, or_false] at hmem
    rcases hmem with rfl | rfl | rfl | rfl | rfl | rfl | rfl | rfl | rfl <;> simp at hd

/-- The text of a value begins with a character that is no space and closes nothing. -/
theorem head_valueChars {j : Json} (h : IsWhole j) (layout : Layout) (depth : Nat) :
    ∃ c cs, valueChars layout depth j = c :: cs ∧ isSpace c = false ∧ c ≠ ']' := by
  cases j with
  | null => exact ⟨'n', _, by rw [valueChars], by decide, by decide⟩
  | bool b => cases b <;> exact ⟨_, _, by simp [valueChars]; exact ⟨rfl, rfl⟩, by decide, by decide⟩
  | string s => exact ⟨'"', _, by rw [valueChars], by decide, by decide⟩
  | broken => simp [IsWhole] at h
  | list items =>
      cases items with
      | nil => exact ⟨'[', _, by rw [valueChars], by decide, by decide⟩
      | cons item items => exact ⟨'[', _, by rw [valueChars], by decide, by decide⟩
  | object members =>
      cases members with
      | nil => exact ⟨'{', _, by rw [valueChars], by decide, by decide⟩
      | cons m members => exact ⟨'{', _, by rw [valueChars], by decide, by decide⟩
  | number n =>
      rw [IsWhole] at h
      obtain ⟨d, ds, hds⟩ := List.exists_cons_of_ne_nil h.whole.1
      have hdigit := ne_of_isDigit (h.whole.2 d (hds ▸ List.mem_cons_self))
      rw [valueChars, magnitudeChars, hds]
      cases n.negative with
      | true => exact ⟨'-', _, rfl, by decide, by decide⟩
      | false => exact ⟨d, _, rfl, hdigit.1, by rintro rfl; simp at hdigit⟩

/-- A number is read back with its sign. -/
theorem readValue_number {n : Number} (hn : n.WellFormed) (bound : Nat) {rest : List Char}
    (hr : EndsNumber rest) :
    readValue (bound + 1) ((if n.negative then ['-'] else []) ++ magnitudeChars n ++ rest) =
      some (.number n, rest) := by
  have hread := readNumber_magnitudeChars hn hr
  cases hsign : n.negative with
  | true =>
      rw [hsign] at hread
      simp [readValue, skipSpace, isSpace, hread]
  | false =>
      rw [hsign] at hread
      obtain ⟨d, ds, hds⟩ := List.exists_cons_of_ne_nil hn.whole.1
      have hdigit := ne_of_isDigit (hn.whole.2 d (hds ▸ List.mem_cons_self))
      simp only [magnitudeChars, hds, List.cons_append, List.append_assoc] at hread ⊢
      simp only [Bool.false_eq_true, if_false, List.nil_append]
      rw [readValue, skipSpace_cons hdigit.1]
      -- the first character is a digit, so that none of the other tokens begins here
      split
      all_goals first
        | (next h => obtain ⟨rfl, -⟩ := List.cons.inj h; simp at hdigit)
        | simp [hread]

theorem ofMembers_map (members : List (String × Json)) :
    ofMembers (members.map fun m => (some m.1, m.2)) = .object members := by
  simp [ofMembers, Function.comp_def]

mutual

/-- A value is read back from its characters. -/
theorem readValue_valueChars (layout : Layout) :
    (bound depth : Nat) → (j : Json) → (rest : List Char) → IsWhole j →
      (valueChars layout depth j).length < bound → EndsNumber rest →
      readValue bound (valueChars layout depth j ++ rest) = some (j, rest)
  | bound + 1, depth, .null, rest, _, _, _ => by
      simp [valueChars, readValue, skipSpace, isSpace, dropKeyword]
  | bound + 1, depth, .bool b, rest, _, _, _ => by
      cases b <;> simp [valueChars, readValue, skipSpace, isSpace, dropKeyword]
  | bound + 1, depth, .number n, rest, h, _, hr => by
      rw [valueChars]
      exact readValue_number (by rwa [IsWhole] at h) bound hr
  | bound + 1, depth, .string s, rest, _, _, _ => by
      simp [valueChars, readValue, skipSpace, isSpace, readString_stringChars]
  | bound + 1, depth, .list [], rest, _, _, _ => by
      simp [valueChars, readValue, skipSpace, isSpace]
  | bound + 1, depth, .list (item :: items), rest, h, hb, hr => by
      rw [IsWhole, AreWhole] at h
      have hitems := readItems_itemsChars layout bound depth (depth + 1) item items rest []
        h.1 h.2 (by simp [valueChars, itemsChars, commaChars] at hb ⊢; omega)
      obtain ⟨c, cs, hc, hspace, hclose⟩ := head_valueChars h.1 layout (depth + 1)
      rw [valueChars, itemsChars]
      simp only [commaChars, if_true, List.nil_append, List.cons_append, List.append_assoc]
      rw [readValue, skipSpace_cons (by decide)]
      simp only [skipSpace_breakChars]
      rw [hc] at hitems ⊢
      rw [List.cons_append, skipSpace_cons hspace]
      simpa [hclose] using hitems
  | bound + 1, depth, .object [], rest, _, _, _ => by
      simp [valueChars, readValue, skipSpace, isSpace]
  | bound + 1, depth, .object ((name, value) :: members), rest, h, hb, hr => by
      rw [IsWhole, AreWholeMembers] at h
      have hmembers := readMembers_membersChars layout bound depth (depth + 1) name value members
        rest [] h.1 h.2 (by simp [valueChars, membersChars, commaChars] at hb ⊢; omega)
      rw [valueChars, membersChars]
      simp only [commaChars, if_true, List.nil_append, List.cons_append, List.append_assoc]
      rw [readValue, skipSpace_cons (by decide)]
      simp only [skipSpace_breakChars]
      rw [skipSpace_cons (by decide)]
      rw [List.reverse_nil, List.nil_append, ofMembers_map] at hmembers
      exact hmembers

/-- The items of a list are read back, up to its closing bracket. -/
theorem readItems_itemsChars (layout : Layout) :
    (bound depth inner : Nat) → (item : Json) → (items : List Json) → (rest : List Char) →
      (done : List Json) → IsWhole item → AreWhole items →
      (valueChars layout inner item ++ itemsChars layout inner false items).length + 1 < bound →
      readItems bound done (valueChars layout inner item ++
        (itemsChars layout inner false items ++ (layout.breakChars depth ++ ']' :: rest))) =
        some (.list (done.reverse ++ item :: items), rest)
  | bound + 1, depth, inner, item, [], rest, done, h, _, hb => by
      have hclose := endsNumber_breakChars (c := ']') (by simp) layout depth rest
      rw [itemsChars, List.append_nil] at hb
      rw [readItems, itemsChars, List.nil_append,
        readValue_valueChars layout bound inner item _ h (by omega) hclose]
      simp only [skipSpace_breakChars]
      rw [skipSpace_cons (by decide)]
      simp
  | bound + 1, depth, inner, item, next :: items, rest, done, h, hs, hb => by
      have hclose := endsNumber_breakChars (c := ']') (by simp) layout depth rest
      rw [AreWhole] at hs
      have hrest := readItems_itemsChars layout bound depth inner next items rest (item :: done)
        hs.1 hs.2 (by simp [itemsChars, commaChars] at hb ⊢; omega)
      rw [readItems, readValue_valueChars layout bound inner item _ h
        (by simp only [List.length_append] at hb; omega)
        (endsNumber_itemsChars hclose (next :: items))]
      simp only [itemsChars, commaChars, Bool.false_eq_true, if_false, List.cons_append,
        List.nil_append, List.append_assoc]
      rw [skipSpace_cons (by decide)]
      simpa [readItems_breakChars] using hrest

/-- The members of an object are read back, up to its closing brace. -/
theorem readMembers_membersChars (layout : Layout) :
    (bound depth inner : Nat) → (name : String) → (value : Json) →
      (members : List (String × Json)) → (rest : List Char) →
      (done : List (Option String × Json)) → IsWhole value → AreWholeMembers members →
      ('"' :: (stringChars name ++ (layout.colonChars ++ (valueChars layout inner value ++
        membersChars layout inner false members)))).length < bound →
      readMembers bound done ('"' :: (stringChars name ++ (layout.colonChars ++
        (valueChars layout inner value ++ (membersChars layout inner false members ++
          (layout.breakChars depth ++ '}' :: rest)))))) =
        some (ofMembers (done.reverse ++ ((name, value) :: members).map fun m =>
          (some m.1, m.2)), rest)
  | bound + 1, depth, inner, name, value, [], rest, done, h, _, hb => by
      have hclose := endsNumber_breakChars (c := '}') (by simp) layout depth rest
      obtain ⟨gap, hgap, hvalue⟩ := readValue_colonChars bound layout
        (valueChars layout inner value ++ (layout.breakChars depth ++ '}' :: rest))
      rw [readValue_valueChars layout bound inner value _ h
        (by simp only [List.length_append, List.length_cons] at hb; omega) hclose] at hvalue
      rw [readMembers, skipSpace_cons (by decide)]
      simp only [readString_stringChars, hgap, membersChars, List.nil_append, List.cons_append]
      rw [skipSpace_cons (by decide)]
      simp only [hvalue, skipSpace_breakChars]
      rw [skipSpace_cons (by decide)]
      simp
  | bound + 1, depth, inner, name, value, (name', value') :: members, rest, done, h, hs, hb => by
      have hclose := endsNumber_breakChars (c := '}') (by simp) layout depth rest
      rw [AreWholeMembers] at hs
      have hrest := readMembers_membersChars layout bound depth inner name' value' members rest
        ((some name, value) :: done) hs.1 hs.2 (by
          simp [membersChars, commaChars] at hb ⊢; omega)
      obtain ⟨gap, hgap, hvalue⟩ := readValue_colonChars bound layout
        (valueChars layout inner value ++
          (membersChars layout inner false ((name', value') :: members) ++
            (layout.breakChars depth ++ '}' :: rest)))
      rw [readValue_valueChars layout bound inner value _ h
        (by simp only [List.length_append, List.length_cons] at hb; omega)
        (endsNumber_membersChars hclose _)] at hvalue
      rw [readMembers, skipSpace_cons (by decide)]
      simp only [readString_stringChars, hgap, List.cons_append]
      rw [skipSpace_cons (by decide)]
      simp only [hvalue]
      simp only [membersChars, commaChars, Bool.false_eq_true, if_false, List.cons_append,
        List.nil_append, List.append_assoc]
      rw [skipSpace_cons (by decide)]
      simpa [readMembers_breakChars] using hrest

end

/-! ## Texts -/

/-- A whole text is read back from the characters of a value. -/
theorem parse_of_toList (layout : Layout) {s : String} {j : Json} (h : IsWhole j)
    (hs : s.toList = valueChars layout 0 j) : parse s = some j := by
  have hread := readValue_valueChars layout ((valueChars layout 0 j).length + 1) 0 j [] h
    (by omega) (by simp [EndsNumber])
  rw [List.append_nil] at hread
  simp [parse, hs, hread, skipSpace]

/-- A value is read back from its text without any space. -/
theorem parse_compact {j : Json} (h : IsWhole j) : parse j.compact = some j :=
  parse_of_toList .compact h (by simp [compact, toList_write])

theorem parse_indented {j : Json} (h : IsWhole j) : parse j.indented = some j :=
  parse_of_toList .indented h (by simp [indented, toList_write])

end Courier.Json
