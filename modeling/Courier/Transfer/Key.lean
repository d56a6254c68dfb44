import Courier.Json.Decode

/-!
# Keys of transfers

A transfer is known by a number together with the host that asked for it and the host that
was asked.

Main definitions:

- `Record.Key` is the identity of a transfer and `Record.Key.text` its text.
- `Record.Key.precedes` is the order in which transfers are listed: by number, then by
  requester, then by the requested host.

Main statements:

- The order is strict and total (`precedes_irrefl`, `precedes_trans`, `precedes_total`).
-/

namespace Courier

/-- The identity of a transfer. -/
structure Record.Key where
  /-- The number that the requester gave the transfer. -/
  specialId : Int
  /-- The host that asked for the transfer. -/
  requester : String
  requested : String
deriving DecidableEq, Repr, Inhabited

namespace Record.Key

/-- The text of a key. -/
def text (k : Key) : String :=
  toString k.specialId ++ " (" ++ k.requester ++ " -> " ++ k.requested ++ ")"

/-! ## Order -/

/-- Whether a key is listed before another one. -/
def precedes (a b : Key) : Bool :=
  a.specialId < b.specialId ||
    (a.specialId == b.specialId &&
      (a.requester < b.requester || (a.requester == b.requester && a.requested < b.requested)))

/-- Of two different texts one comes before the other. -/
theorem text_lt_or_lt {s t : String} (h : s ≠ t) : s < t ∨ t < s := by
  by_cases h1 : s < t
  · exact Or.inl h1
  · by_cases h2 : t < s
    · exact Or.inr h2
    · exact absurd (String.le_antisymm (String.not_lt.1 h2) (String.not_lt.1 h1)) h

/-- What the order says, part by part. -/
theorem precedes_iff {a b : Key} :
    a.precedes b = true ↔ a.specialId < b.specialId ∨
      (a.specialId = b.specialId ∧ (a.requester < b.requester ∨
        (a.requester = b.requester ∧ a.requested < b.requested))) := by
  simp [precedes]

/-- No key comes before itself. -/
theorem precedes_irrefl (a : Key) : a.precedes a = false := by
  rw [Bool.eq_false_iff]
  intro h
  rcases precedes_iff.1 h with h | ⟨_, h | ⟨_, h⟩⟩
  · exact Int.lt_irrefl _ h
  · exact String.lt_irrefl _ h
  · exact String.lt_irrefl _ h

/-- The order is transitive. -/
theorem precedes_trans {a b c : Key} (h : a.precedes b = true) (k : b.precedes c = true) :
    a.precedes c = true := by
  rw [precedes_iff] at h k ⊢
  rcases h with h | ⟨h, h'⟩
  · rcases k with k | ⟨k, _⟩
    · exact Or.inl (Int.lt_trans h k)
    · exact Or.inl (k ▸ h)
  · rcases k with k | ⟨k, k'⟩
    · exact Or.inl (h ▸ k)
    · refine Or.inr ⟨h.trans k, ?_⟩
      rcases h' with h' | ⟨h', h''⟩
      · rcases k' with k' | ⟨k', _⟩
        · exact Or.inl (String.lt_trans h' k')
        · exact Or.inl (k' ▸ h')
      · rcases k' with k' | ⟨k', k''⟩
        · exact Or.inl (h' ▸ k')
        · exact Or.inr ⟨h'.trans k', String.lt_trans h'' k''⟩

/-- Of two different keys one comes before the other. -/
theorem precedes_total {a b : Key} (h : a ≠ b) :
    a.precedes b = true ∨ b.precedes a = true := by
  simp only [precedes_iff]
  by_cases h1 : a.specialId = b.specialId
  · by_cases h2 : a.requester = b.requester
    · have h3 : a.requested ≠ b.requested := by
        intro h3
        apply h
        cases a
        cases b
        simp_all
      rcases text_lt_or_lt h3 with h4 | h4
      · exact Or.inl (Or.inr ⟨h1, Or.inr ⟨h2, h4⟩⟩)
      · exact Or.inr (Or.inr ⟨h1.symm, Or.inr ⟨h2.symm, h4⟩⟩)
    · rcases text_lt_or_lt h2 with h4 | h4
      · exact Or.inl (Or.inr ⟨h1, Or.inl h4⟩)
      · exact Or.inr (Or.inr ⟨h1.symm, Or.inl h4⟩)
  · rcases Int.lt_or_gt_of_ne h1 with h4 | h4
    · exact Or.inl (Or.inl h4)
    · exact Or.inr (Or.inl h4)

/-! ## JSON -/

/-- The fields of a key. -/
def fieldNames : List String := ["specialId", "requester", "requested"]

/-- A key as an object. -/
def toJson (k : Key) : Json :=
  .object [("specialId", .ofInt k.specialId), ("requester", .string k.requester),
    ("requested", .string k.requested)]

/-- Read a key. -/
def ofJson (j : Json) : Json.Decoded Key := do
  let f ← Json.fields fieldNames j
  let specialId ← f.required "specialId" Json.toInt64
  let requester ← f.required "requester" Json.toText
  let requested ← f.required "requested" Json.toText
  return { specialId, requester, requested }

end Record.Key

end Courier
