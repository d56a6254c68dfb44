import Courier.Files.Path
import Courier.Transfer.Key

/-!
# The order of paths

Paths are listed component by component.  Two paths that are the same share their place in
this order, and of two others one comes before the other.

Main statements:

- The order is strict (`precedes_irrefl`, `precedes_trans`), and paths of which neither comes
  first are the same (`same_of_not_precedes`).
- The same paths have the same place (`precedes_congr`).
-/

namespace Courier.Path

/-! ## Components -/

namespace Component

variable {a b c : Component}

theorem precedes_irrefl (a : Component) : a.precedes a = false := by
  cases a with
  | name s => exact decide_eq_false (String.lt_irrefl s)
  | _ => rfl

/-- Names are in the order of their texts. -/
theorem name_precedes_name {s t : String} : (name s).precedes (name t) = true ↔ s < t :=
  decide_eq_true_iff

theorem precedes_trans (h : a.precedes b = true) (k : b.precedes c = true) :
    a.precedes c = true := by
  cases a with
  | name s =>
      cases b with
      | name t =>
          cases c with
          | name u =>
              have hlt := String.lt_trans (name_precedes_name.1 h) (name_precedes_name.1 k)
              exact name_precedes_name.2 hlt
          | _ => simp [precedes, rank] at k
      | _ => simp [precedes, rank] at h
  | _ => cases b <;> cases c <;> simp [precedes, rank] at h k ⊢

/-- Of two different components one comes before the other. -/
theorem precedes_total (h : a ≠ b) : a.precedes b = true ∨ b.precedes a = true := by
  cases a with
  | name s =>
      cases b with
      | name t =>
          have hlt := Record.Key.text_lt_or_lt fun heq => h (congrArg name heq)
          exact hlt.imp name_precedes_name.2 name_precedes_name.2
      | _ => simp [precedes, rank]
  | _ => cases b <;> simp [precedes, rank] at h ⊢

end Component

/-! ## Rows of components -/

theorem precedesComponents_cons {a b : Component} {as bs : List Component} :
    precedesComponents (a :: as) (b :: bs) = true ↔
      a.precedes b = true ∨ (a = b ∧ precedesComponents as bs = true) := by
  simp [precedesComponents]

theorem precedesComponents_irrefl (as : List Component) : precedesComponents as as = false := by
  induction as with
  | nil => rfl
  | cons a as ih => simp [precedesComponents, Component.precedes_irrefl, ih]

theorem precedesComponents_trans {as bs cs : List Component}
    (h : precedesComponents as bs = true) (k : precedesComponents bs cs = true) :
    precedesComponents as cs = true := by
  induction as generalizing bs cs with
  | nil =>
      cases cs with
      | nil => cases bs <;> simp [precedesComponents] at h k
      | cons c cs => rfl
  | cons a as ih =>
      cases bs with
      | nil => simp [precedesComponents] at h
      | cons b bs =>
          cases cs with
          | nil => simp [precedesComponents] at k
          | cons c cs =>
              rw [precedesComponents_cons] at h k ⊢
              rcases h with h | ⟨rfl, h⟩
              · rcases k with k | ⟨rfl, _⟩
                · exact Or.inl (Component.precedes_trans h k)
                · exact Or.inl h
              · rcases k with k | ⟨rfl, k⟩
                · exact Or.inl k
                · exact Or.inr ⟨rfl, ih h k⟩

/-- Of two different rows one comes before the other. -/
theorem precedesComponents_total {as bs : List Component} (h : as ≠ bs) :
    precedesComponents as bs = true ∨ precedesComponents bs as = true := by
  induction as generalizing bs with
  | nil =>
      cases bs with
      | nil => exact absurd rfl h
      | cons b bs => exact Or.inl rfl
  | cons a as ih =>
      cases bs with
      | nil => exact Or.inr rfl
      | cons b bs =>
          rw [precedesComponents_cons, precedesComponents_cons]
          by_cases hab : a = b
          · subst hab
            have hrest : as ≠ bs := fun heq => h (congrArg _ heq)
            exact (ih hrest).imp (fun hlt => Or.inr ⟨rfl, hlt⟩) fun hlt => Or.inr ⟨rfl, hlt⟩
          · exact (Component.precedes_total hab).imp Or.inl Or.inl

/-! ## Paths -/

variable {p q r s : Path}

/-- No path comes before itself. -/
theorem precedes_irrefl (p : Path) : p.precedes p = false :=
  precedesComponents_irrefl p.components

/-- The order is transitive. -/
theorem precedes_trans (h : p.precedes q = true) (k : q.precedes r = true) :
    p.precedes r = true :=
  precedesComponents_trans h k

/-- The same paths have the same place. -/
theorem precedes_congr (hp : p.same q = true) (hr : r.same s = true) :
    p.precedes r = q.precedes s := by
  simp only [precedes, same_iff.1 hp, same_iff.1 hr]

/-- Two paths of which neither comes first are the same. -/
theorem same_of_not_precedes (h : p.precedes q = false) (k : q.precedes p = false) :
    p.same q = true := by
  rw [same_iff]
  by_cases heq : p.components = q.components
  · exact heq
  · rcases precedesComponents_total heq with hlt | hlt
    · exact absurd hlt (Bool.eq_false_iff.1 h)
    · exact absurd hlt (Bool.eq_false_iff.1 k)

/-- A path that comes before another one is not the same. -/
theorem not_same_of_precedes (h : p.precedes q = true) : p.same q = false := by
  rw [Bool.eq_false_iff]
  intro hsame
  rw [precedes_congr hsame (same_refl q), precedes_irrefl] at h
  exact Bool.false_ne_true h

/-- Being the same as a path is the same for the same paths. -/
theorem same_congr (h : p.same q = true) (r : Path) : p.same r = q.same r := by
  simp only [same, same_iff.1 h]

theorem same_comm (p q : Path) : p.same q = q.same p := by
  simp only [same, Bool.beq_comm]

end Courier.Path
