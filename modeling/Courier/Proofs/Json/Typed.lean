import Courier.Json.Decode
import Courier.Proofs.Json.RoundTrip

/-!
# Typed values are read back

What the readers of typed values give for values that were written from typed values, and what
is known of a value that they accepted.  Numbers have a bounded width: what does not fit its
width is not read.

Main definitions:

- `Json.FitsInt64` says that a number is a signed integer of 64 bits.

Main statements:

- Numbers that fit are read back (`toInt64_ofInt`, `toNatBelow_ofNat`), and what is read fits.
- The items of a list are read back when each of them is (`toListOf_map`), and the members of an
  object are its fields (`fields_object`), among which the wanted one is found by simplification
  (`Fields.required_cons`, `Fields.optional_cons`, `Fields.withDefault_cons`).
- What is read back from its value is read back from the text of that value (`decode_compact`).
-/

namespace Courier.Json

/-! ## Numbers of a bounded width -/

/-- Whether a number is a signed integer of 64 bits. -/
def FitsInt64 (i : Int) : Prop :=
  -(wordValues 63 : Int) ≤ i ∧ i ≤ (wordValues 63 : Int) - 1

instance (i : Int) : Decidable (FitsInt64 i) :=
  inferInstanceAs (Decidable (_ ∧ _))

/-- A signed number of 64 bits is read back. -/
theorem toInt64_ofInt {i : Int} (h : FitsInt64 i) : toInt64 (ofInt i) = .ok i := by
  unfold FitsInt64 at h
  simp only [toInt64, toIntBetween, ofInt, Number.toInt?_ofInt, if_pos h]

/-- A natural number below the bound of its width is read back. -/
theorem toNatBelow_ofNat {bound n : Nat} (h : n < bound) :
    toNatBelow bound (ofNat n) = .ok n := by
  have hbounds : (0 : Int) ≤ n ∧ (n : Int) ≤ (bound : Int) - 1 := by omega
  simp only [toNatBelow, toIntBetween, ofNat, ofInt, Number.toInt?_ofInt, if_pos hbounds]
  rfl

/-- A number of 32 bits is read back. -/
theorem toNat32_ofNat {n : Nat} (h : n < wordValues 32) : toNat32 (ofNat n) = .ok n :=
  toNatBelow_ofNat h

/-- A number of 64 bits is read back. -/
theorem toNat64_ofNat {n : Nat} (h : n < wordValues 64) : toNat64 (ofNat n) = .ok n :=
  toNatBelow_ofNat h

/-- A byte is read back. -/
theorem toByte_ofNat (byte : UInt8) : toByte (ofNat byte.toNat) = .ok byte := by
  have hbound : byte.toNat < wordValues 8 := byte.toNat_lt
  rw [toByte, toNatBelow_ofNat hbound]
  simp [Except.map]

/-- An integer that was read lies between the bounds. -/
theorem toIntBetween_eq_ok {low high i : Int} {j : Json} (h : toIntBetween low high j = .ok i) :
    low ≤ i ∧ i ≤ high := by
  cases j with
  | number n =>
      simp only [toIntBetween] at h
      split at h
      · simp at h
      · split at h
        · next hbounds =>
            cases h
            exact hbounds
        · simp at h
  | _ => simp [toIntBetween] at h

/-- What is read as a signed number of 64 bits is one. -/
theorem fitsInt64_of_toInt64 {i : Int} {j : Json} (h : toInt64 j = .ok i) : FitsInt64 i :=
  toIntBetween_eq_ok h

/-- What is read as a number below a bound is below it. -/
theorem lt_of_toNatBelow {bound n : Nat} {j : Json} (h : toNatBelow bound j = .ok n) :
    n < bound := by
  simp only [toNatBelow] at h
  cases hread : toIntBetween 0 ((bound : Int) - 1) j with
  | error fault => simp [hread, Except.map] at h
  | ok i =>
      have hbounds := toIntBetween_eq_ok hread
      obtain rfl : i.toNat = n := by simpa [hread, Except.map] using h
      omega

theorem lt_of_toNat32 {n : Nat} {j : Json} (h : toNat32 j = .ok n) : n < wordValues 32 :=
  lt_of_toNatBelow h

theorem lt_of_toNat64 {n : Nat} {j : Json} (h : toNat64 j = .ok n) : n < wordValues 64 :=
  lt_of_toNatBelow h

/-! ## Readings in parts -/

@[simp]
theorem pure_eq_ok {α : Type} (a : α) : (pure a : Decoded α) = .ok a :=
  rfl

@[simp]
theorem ok_bind {α β : Type} (a : α) (next : α → Decoded β) :
    ((.ok a : Decoded α) >>= next) = next a :=
  rfl

@[simp]
theorem ok_map {α β : Type} (a : α) (f : α → β) : (.ok a : Decoded α).map f = .ok (f a) :=
  rfl

@[simp]
theorem toText_string (s : String) : toText (.string s) = .ok s :=
  rfl

@[simp]
theorem toBool_bool (b : Bool) : toBool (.bool b) = .ok b :=
  rfl

/-- A reading in two parts has read both. -/
theorem bind_eq_ok {α β : Type} {x : Decoded α} {next : α → Decoded β} {b : β}
    (h : (x >>= next) = .ok b) : ∃ a, x = .ok a ∧ next a = .ok b := by
  cases x with
  | error fault => simp [bind, Except.bind] at h
  | ok a => exact ⟨a, rfl, h⟩

/-- Every value of a list that was read has been an item. -/
theorem exists_of_mapM_eq_ok {α : Type} {item : Json → Decoded α} {items : List Json}
    {values : List α} {a : α} (h : items.mapM item = .ok values) (ha : a ∈ values) :
    ∃ j ∈ items, item j = .ok a := by
  induction items generalizing values with
  | nil =>
      cases h
      simp at ha
  | cons j items ih =>
      rw [List.mapM_cons] at h
      obtain ⟨b, hb, h⟩ := bind_eq_ok h
      obtain ⟨rest, hrest, h⟩ := bind_eq_ok h
      cases h
      rcases List.mem_cons.1 ha with rfl | ha
      · exact ⟨j, List.mem_cons_self, hb⟩
      · obtain ⟨j', hj', hread⟩ := ih hrest ha
        exact ⟨j', List.mem_cons_of_mem j hj', hread⟩

/-- Items are read as a list when each of them is read. -/
theorem mapM_map_eq_ok_map {α β : Type} {item : Json → Decoded β} {form : α → Json} {back : α → β}
    {values : List α} (h : ∀ a ∈ values, item (form a) = .ok (back a)) :
    (values.map form).mapM item = .ok (values.map back) := by
  induction values with
  | nil => rfl
  | cons a values ih =>
      rw [List.map_cons, List.mapM_cons, h a List.mem_cons_self,
        ih fun b hb => h b (List.mem_cons_of_mem a hb)]
      rfl

/-- Items are read back as a list when each of them is read back. -/
theorem mapM_map_eq_ok {α : Type} {item : Json → Decoded α} {form : α → Json} {values : List α}
    (h : ∀ a ∈ values, item (form a) = .ok a) : (values.map form).mapM item = .ok values := by
  have hread := mapM_map_eq_ok_map h
  rwa [List.map_id'] at hread

/-- A list is read back when its items are. -/
theorem toListOf_map {α : Type} {item : Json → Decoded α} {form : α → Json} {values : List α}
    (h : ∀ a ∈ values, item (form a) = .ok a) :
    toListOf item (.list (values.map form)) = .ok values :=
  mapM_map_eq_ok h

/-- A value that is not `null` is read as a present one. -/
theorem toOption_eq_ok {α : Type} {value : Json → Decoded α} {j : Json} {a : α}
    (hj : j ≠ .null) (h : value j = .ok a) : toOption value j = .ok (some a) := by
  cases j <;> simp_all [toOption, Except.map]

/-- A value that may be null and was read has been read as the value itself. -/
theorem eq_ok_of_toOption {α : Type} {value : Json → Decoded α} {j : Json} {a : α}
    (h : toOption value j = .ok (some a)) : value j = .ok a := by
  unfold toOption at h
  split at h
  · exact nomatch h
  · cases hread : value j with
    | error fault => simp [hread, Except.map] at h
    | ok b =>
        simp only [hread, ok_map, Except.ok.injEq, Option.some.injEq] at h
        rw [h]

@[simp]
theorem toOption_toText (s : String) : toOption toText (.string s) = .ok (some s) :=
  rfl

/-! ## Fields -/

namespace Fields

variable {α : Type} {f : Fields} {name other : String} {j : Json} {value : Json → Decoded α}
  {a : α}

/-- The first field of a name counts. -/
@[simp]
theorem required_cons : required ((name, j) :: f) name value = value j := by
  simp [required]

/-- Fields of other names are passed over. -/
@[simp]
theorem required_cons_of_ne (h : name ≠ other) :
    required ((other, j) :: f) name value = required f name value := by
  simp only [required, List.lookup_cons, beq_false_of_ne h]

@[simp]
theorem optional_nil : optional [] name value = .ok none :=
  rfl

@[simp]
theorem optional_cons : optional ((name, j) :: f) name value = toOption value j := by
  simp [optional]

@[simp]
theorem optional_cons_of_ne (h : name ≠ other) :
    optional ((other, j) :: f) name value = optional f name value := by
  simp only [optional, List.lookup_cons, beq_false_of_ne h]

/-- A field that is missing has its default. -/
@[simp]
theorem withDefault_nil : withDefault [] name a value = .ok a :=
  rfl

@[simp]
theorem withDefault_cons : withDefault ((name, j) :: f) name a value = value j := by
  simp [withDefault]

@[simp]
theorem withDefault_cons_of_ne (h : name ≠ other) :
    withDefault ((other, j) :: f) name a value = withDefault f name a value := by
  simp only [withDefault, List.lookup_cons, beq_false_of_ne h]

/-- What a required field gives was read from some value. -/
theorem required_eq_ok (h : f.required name value = .ok a) : ∃ j, value j = .ok a := by
  unfold required at h
  split at h
  · next j _ => exact ⟨j, h⟩
  · simp at h

/-- What an optional field gives was read from some value. -/
theorem optional_eq_ok (h : f.optional name value = .ok (some a)) : ∃ j, value j = .ok a := by
  unfold optional at h
  split at h
  · next j _ => exact ⟨j, eq_ok_of_toOption h⟩
  · exact nomatch h

/-- What a field with a default gives was read from some value or is the default. -/
theorem withDefault_eq_ok {b : α} (h : f.withDefault name a value = .ok b) :
    b = a ∨ ∃ j, value j = .ok b := by
  unfold withDefault at h
  split at h
  · next j _ => exact Or.inr ⟨j, h⟩
  · exact Or.inl (Except.ok.inj h).symm

/-- A field that is absent or was read has a value with a width, if its default does. -/
theorem lt_of_withDefault {bound usual n : Nat} (husual : usual < bound)
    (h : f.withDefault name usual (toNatBelow bound) = .ok n) : n < bound := by
  rcases withDefault_eq_ok h with rfl | ⟨j, hread⟩
  · exact husual
  · exact lt_of_toNatBelow hread

end Fields

/-- An object whose names are all known and different gives its members as fields. -/
theorem fields_object {names : List String} {members : List (String × Json)}
    (hknown : ∀ m ∈ members, names.contains m.1 = true)
    (hdistinct : (members.map Prod.fst).Nodup) :
    fields names (.object members) = .ok members := by
  have hrepeat : ∀ ms : Fields, (ms.map Prod.fst).Nodup → repeatedName? ms = none := by
    intro ms hms
    induction ms with
    | nil => rfl
    | cons m ms ih =>
        rw [List.map_cons, List.nodup_cons] at hms
        have hany : (ms.any fun n => n.1 == m.1) = false := by
          rw [List.any_eq_false]
          intro n hn hname
          exact hms.1 (List.mem_map.2 ⟨n, hn, by simpa using hname⟩)
        simp [repeatedName?, hany, ih hms.2]
  have hfilter : (members.filter fun m => names.contains m.1) = members :=
    List.filter_eq_self.2 hknown
  simp only [fields, hfilter, hrepeat members hdistinct]

/-! ## Texts -/

/-- What is read back from its value is read back from the text of that value. -/
theorem decode_compact {α : Type} {value : Json → Decoded α} {j : Json} {a : α} (hj : IsWhole j)
    (h : value j = .ok a) : decode value j.compact = .ok a := by
  rw [decode, parse_compact hj]
  exact h

/-- A value is read back from its indented text. -/
theorem decode_indented {α : Type} {value : Json → Decoded α} {j : Json} {a : α} (hj : IsWhole j)
    (h : value j = .ok a) : decode value j.indented = .ok a := by
  rw [decode, parse_indented hj]
  exact h

end Courier.Json
