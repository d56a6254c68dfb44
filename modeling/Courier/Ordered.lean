/-!
# Rows in order

A row of values kept in ascending order by a comparison, with at most one value in each
place.  Two values share a place when neither comes before the other.

Main definitions:

- `Ordered.put` inserts a value, or replaces the one that shares its place.
- `Ordered.Ascending` says that a row is in strictly ascending order.

Main statements:

- The members after an insertion are the new value and old ones (`mem_put`), the new value
  is among them (`mem_put_self`), and old ones in other places stay (`mem_put_of_mem`).
- Insertion keeps a row ascending (`ascending_put`).
- A row in ascending order is what inserting its members makes of them
  (`foldl_put_of_ascending`).
-/

namespace Courier.Ordered

variable {α : Type}

/-- Insert a value at its place, or replace the value there. -/
def put (before : α → α → Bool) (a : α) : List α → List α
  | [] => [a]
  | b :: rest =>
      if before a b then a :: b :: rest
      else if before b a then b :: put before a rest
      else a :: rest

/-- Whether a row is in strictly ascending order. -/
def Ascending (before : α → α → Bool) (row : List α) : Prop :=
  row.Pairwise fun a b => before a b = true

/-- The members after an insertion are the new value and old ones. -/
theorem mem_put {before : α → α → Bool} {a c : α} {row : List α} (h : c ∈ put before a row) :
    c = a ∨ c ∈ row := by
  induction row with
  | nil => simpa [put] using h
  | cons b rest ih =>
      simp only [put] at h
      split at h
      · simpa using h
      · split at h
        · rcases List.mem_cons.1 h with h | h
          · exact Or.inr (h ▸ List.mem_cons_self)
          · rcases ih h with h | h
            · exact Or.inl h
            · exact Or.inr (List.mem_cons_of_mem _ h)
        · rcases List.mem_cons.1 h with h | h
          · exact Or.inl h
          · exact Or.inr (List.mem_cons_of_mem _ h)

/-- The new value is a member after its insertion. -/
theorem mem_put_self (before : α → α → Bool) (a : α) (row : List α) :
    a ∈ put before a row := by
  induction row with
  | nil => simp [put]
  | cons b rest ih =>
      simp only [put]
      split
      · exact List.mem_cons_self
      · split
        · exact List.mem_cons_of_mem _ ih
        · exact List.mem_cons_self

/-- A value in another place stays after an insertion. -/
theorem mem_put_of_mem {before : α → α → Bool} {a c : α} {row : List α} (hc : c ∈ row)
    (hne : before a c = true ∨ before c a = true) : c ∈ put before a row := by
  induction row with
  | nil => simp at hc
  | cons b rest ih =>
      simp only [put]
      split
      · exact List.mem_cons_of_mem _ hc
      · next h1 =>
          split
          · rcases List.mem_cons.1 hc with rfl | hc
            · exact List.mem_cons_self
            · exact List.mem_cons_of_mem _ (ih hc)
          · next h2 =>
              rcases List.mem_cons.1 hc with rfl | hc
              · rcases hne with h | h
                · exact absurd h h1
                · exact absurd h h2
              · exact List.mem_cons_of_mem _ hc

/-- Insertion keeps a row ascending. -/
theorem ascending_put {before : α → α → Bool}
    (trans : ∀ {a b c : α}, before a b = true → before b c = true → before a c = true)
    (replace : ∀ {a b c : α}, before a b = false → before b a = false →
      before b c = true → before a c = true)
    {a : α} {row : List α} (h : Ascending before row) : Ascending before (put before a row) := by
  induction row with
  | nil => simp [put, Ascending]
  | cons b rest ih =>
      have hb := (List.pairwise_cons.1 h).1
      have hrest := (List.pairwise_cons.1 h).2
      simp only [put]
      split
      · next h1 =>
          refine List.pairwise_cons.2 ⟨?_, h⟩
          intro c hc
          rcases List.mem_cons.1 hc with rfl | hc
          · exact h1
          · exact trans h1 (hb c hc)
      · next h1 =>
          split
          · next h2 =>
              refine List.pairwise_cons.2 ⟨?_, ih hrest⟩
              intro c hc
              rcases mem_put hc with rfl | hc
              · exact h2
              · exact hb c hc
          · next h2 =>
              refine List.pairwise_cons.2 ⟨?_, hrest⟩
              intro c hc
              exact replace (by simpa using h1) (by simpa using h2) (hb c hc)

/-- A value that comes after all others is put at the end. -/
theorem put_eq_append {before : α → α → Bool}
    (asymm : ∀ {a b : α}, before a b = true → before b a = false) {a : α} {row : List α}
    (h : ∀ b ∈ row, before b a = true) : put before a row = row ++ [a] := by
  induction row with
  | nil => rfl
  | cons b rest ih =>
      have hb : before b a = true := h b List.mem_cons_self
      simp only [put, asymm hb, hb, Bool.false_eq_true, if_false, if_true, List.cons_append]
      rw [ih fun c hc => h c (List.mem_cons_of_mem b hc)]

/-- Values in ascending order stay as they are when they are put one after the other. -/
theorem foldl_put_of_ascending {before : α → α → Bool}
    (asymm : ∀ {a b : α}, before a b = true → before b a = false) {row rest : List α}
    (h : Ascending before (row ++ rest)) :
    rest.foldl (fun row a => put before a row) row = row ++ rest := by
  induction rest generalizing row with
  | nil => simp
  | cons a rest ih =>
      have hlast : ∀ b ∈ row, before b a = true := fun b hb =>
        (List.pairwise_append.1 h).2.2 b hb a List.mem_cons_self
      rw [List.foldl_cons, put_eq_append asymm hlast]
      rw [List.append_cons] at h
      rw [ih h, List.append_assoc, List.singleton_append]

end Courier.Ordered
