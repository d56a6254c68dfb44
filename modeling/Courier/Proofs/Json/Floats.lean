import Courier.Json.Float
import Courier.Proofs.Json.Text
import Mathlib.Data.List.TakeWhile

/-!
# The text of floating-point numbers

Every floating-point number is written with at least one digit in each of its parts, and a leading
zero stands alone.  So what is written is a number again, whether or not it is the same one.

Main statements:

- A decimal loses no digit but the zeros it ends in (`Decimal.normalize_digits_eq_zero`).
- The number that a floating-point number is written as is well formed (`Number.wellFormed_ofFloat`).
-/

namespace Courier

/-! ## Zeros at the end -/

namespace Json

/-- Zeros have no value. -/
theorem digitsValue_of_zeros {cs : List Char} (h : ∀ c ∈ cs, c = '0') : digitsValue cs = 0 := by
  induction cs with
  | nil => rfl
  | cons c cs ih =>
      obtain ⟨rfl, hcs⟩ := List.forall_mem_cons.1 h
      rw [← List.singleton_append, digitsValue_append, ih hcs]
      simp [digitsValue, digitValue]

/-- A number is at least the power of ten that the zeros at its end stand for. -/
theorem pow_le_of_zeros {n : Nat} (hn : n ≠ 0) :
    Nat.pow 10 ((Nat.toDigits 10 n).reverse.takeWhile (· == '0')).length ≤ n := by
  have hsplit : Nat.toDigits 10 n =
      ((Nat.toDigits 10 n).reverse.dropWhile (· == '0')).reverse ++
        ((Nat.toDigits 10 n).reverse.takeWhile (· == '0')).reverse := by
    rw [← List.reverse_append, List.takeWhile_append_dropWhile, List.reverse_reverse]
  have hvalue := digitsValue_toDigits n
  rw [hsplit, digitsValue_append, List.length_reverse] at hvalue
  have hzeros : digitsValue ((Nat.toDigits 10 n).reverse.takeWhile (· == '0')).reverse = 0 := by
    apply digitsValue_of_zeros
    intro c hc
    simpa using List.mem_takeWhile_imp (List.mem_reverse.1 hc)
  rw [hzeros, Nat.add_zero] at hvalue
  -- What stands before the zeros counts, because the number is not zero.
  have hfront : digitsValue ((Nat.toDigits 10 n).reverse.dropWhile (· == '0')).reverse ≠ 0 := by
    intro hfront
    rw [hfront, Nat.mul_zero] at hvalue
    exact hn hvalue.symm
  calc Nat.pow 10 _ = Nat.pow 10 _ * 1 := (Nat.mul_one _).symm
    _ ≤ Nat.pow 10 _ * _ := Nat.mul_le_mul_left _ (Nat.pos_of_ne_zero hfront)
    _ = n := hvalue

end Json

namespace Decimal

theorem pow_pos (n : Nat) : 0 < Nat.pow 10 n :=
  Nat.pow_pos (by omega)

/-- A decimal loses no digit but the zeros it ends in. -/
theorem normalize_digits_eq_zero {d : Decimal} (h : d.normalize.digits = 0) :
    d.normalize.exponent = 0 := by
  unfold normalize at h ⊢
  dsimp only at h ⊢
  by_cases hzero : d.digits = 0
  · rw [if_pos hzero]
  · rw [if_neg hzero] at h
    have hpos := Nat.div_pos (Json.pow_le_of_zeros hzero) (pow_pos _)
    exact absurd h (Nat.ne_of_gt hpos)

end Decimal

/-! ## Numbers -/

namespace Json

variable {ds es : List Char}

theorem AreDigits.append_right (hds : AreDigits ds) (hes : ∀ c ∈ es, c.isDigit = true) :
    AreDigits (ds ++ es) := by
  refine ⟨List.append_ne_nil_of_left_ne_nil hds.1 es, ?_⟩
  rw [List.forall_mem_append]
  exact ⟨hds.2, hes⟩

theorem AreDigits.append_left (hds : AreDigits ds) (hes : ∀ c ∈ es, c.isDigit = true) :
    AreDigits (es ++ ds) := by
  refine ⟨List.append_ne_nil_of_right_ne_nil es hds.1, ?_⟩
  rw [List.forall_mem_append]
  exact ⟨hes, hds.2⟩

theorem AreDigits.take (hds : AreDigits ds) {n : Nat} (hn : 0 < n) : AreDigits (ds.take n) := by
  refine ⟨?_, fun c hc => hds.2 c (List.mem_of_mem_take hc)⟩
  rw [Ne, List.take_eq_nil_iff, not_or]
  exact ⟨Nat.ne_of_gt hn, hds.1⟩

theorem AreDigits.drop (hds : AreDigits ds) {n : Nat} (hn : n < ds.length) :
    AreDigits (ds.drop n) := by
  refine ⟨?_, fun c hc => hds.2 c (List.mem_of_mem_drop hc)⟩
  rw [Ne, List.drop_eq_nil_iff]
  omega

theorem isDigit_of_mem_replicate {n : Nat} : ∀ c ∈ List.replicate n '0', c.isDigit = true := by
  intro c hc
  rw [List.eq_of_mem_replicate hc]
  rfl

theorem areDigits_zero : AreDigits ['0'] :=
  areDigits_toDigits 0

namespace Number

/-- Digits that are set out are well formed, unless they are zeros in front. -/
theorem wellFormed_ofDecimal (negative : Bool) {d : Decimal} (h : d.digits = 0 → d.exponent = 0) :
    (ofDecimal negative d).WellFormed := by
  have hdigits := areDigits_toDigits d.digits
  have hlength : 0 < (Nat.toDigits 10 d.digits).length := List.length_pos_iff.2 hdigits.1
  have hleading : (Nat.toDigits 10 d.digits).head? = some '0' →
      Nat.toDigits 10 d.digits = ['0'] ∧ d.exponent = 0 := by
    intro hhead
    have halone := toDigits_of_head?_eq_zero hhead
    have hvalue := congrArg digitsValue halone
    rw [digitsValue_toDigits] at hvalue
    exact ⟨halone, h hvalue⟩
  unfold ofDecimal
  dsimp only
  split
  · exact
      { whole := hdigits.append_right isDigit_of_mem_replicate
        leading := by
          intro hhead
          dsimp only at hhead ⊢
          rw [List.head?_append, List.head?_eq_some_head hdigits.1, Option.some_or,
            ← List.head?_eq_some_head hdigits.1] at hhead
          obtain ⟨halone, hexponent⟩ := hleading hhead
          rw [halone, hexponent]
          rfl
        fraction := by
          rintro ds ⟨⟩
          exact areDigits_zero
        exponent := by
          rintro e ⟨⟩ }
  · next hfar =>
      split
      · next hpoint =>
          simp only [Bool.and_eq_true, decide_eq_true_eq] at hfar hpoint
          have hinside : ((Nat.toDigits 10 d.digits).length + d.exponent).toNat <
              (Nat.toDigits 10 d.digits).length := by omega
          exact
            { whole := hdigits.take (by omega)
              leading := by
                intro hhead
                rw [List.head?_take, if_neg (by omega)] at hhead
                have hexponent := (hleading hhead).2
                omega
              fraction := by
                rintro ds ⟨⟩
                exact hdigits.drop hinside
              exponent := by
                rintro e ⟨⟩ }
      · split
        · exact
            { whole := areDigits_zero
              leading := fun _ => rfl
              fraction := by
                rintro ds ⟨⟩
                exact hdigits.append_left isDigit_of_mem_replicate
              exponent := by
                rintro e ⟨⟩ }
        · obtain ⟨c, cs, hcs⟩ := List.exists_cons_of_ne_nil hdigits.1
          exact
            { whole := hdigits.take Nat.one_pos
              leading := by
                intro hhead
                rw [hcs] at hhead ⊢
                rw [List.take_succ_cons, List.take_zero] at hhead ⊢
                rw [Option.some.inj hhead]
              fraction := by
                intro ds hds
                dsimp only at hds
                split at hds
                · cases hds
                · next hlong =>
                    obtain rfl := Option.some.inj hds
                    exact hdigits.drop (by omega)
              exponent := by
                rintro e ⟨⟩
                exact areDigits_toDigits _ }

/-- The number that a floating-point number is written as is well formed. -/
theorem wellFormed_ofFloat (f : Float) : (ofFloat f).WellFormed := by
  unfold ofFloat
  split
  · exact
      { whole := areDigits_zero
        leading := fun _ => rfl
        fraction := by
          rintro ds ⟨⟩
          exact areDigits_zero
        exponent := by
          rintro e ⟨⟩ }
  · exact wellFormed_ofDecimal _ Decimal.normalize_digits_eq_zero

end Number

end Json

end Courier
