import Mathlib.Algebra.Field.Rat
import Mathlib.Algebra.Order.Field.Basic
import Mathlib.Data.Nat.Cast.Field
import Mathlib.Data.Rat.Cast.Defs
import PageObjects.Json.Binary64

/-!
# The numbers of binary64

A finite binary64 number is the rational number `± mantissa · 2 ^ exponent`. Which integer it is equal to is
computed by a division of natural numbers, that of the mantissa by the power of two or of their product by
one.

* `Binary64.value?`: the number that a binary64 number is.
* **`Binary64.whole?_eq_some_iff`**: the integer that is computed is the one that the number is equal to.
-/

namespace PageObjects.Binary64

/-- The number that a binary64 number is; infinities and NaN are none. -/
def value? : Binary64 → Option ℚ
  | .finite negative mantissa exponent =>
    some ((if negative then -1 else 1) * (mantissa * (2 : ℚ) ^ exponent))
  | _ => none

theorem scaled_pos (n : Nat) (k : Int) : 0 < (scaled n k).2 := by
  unfold scaled
  split
  · exact Nat.one_pos
  · exact Nat.pow_pos (by decide)

/-- The fraction is the number that is scaled. -/
theorem scaled_value (n : Nat) (k : Int) :
    ((scaled n k).1 : ℚ) / (scaled n k).2 = n * (2 : ℚ) ^ k := by
  unfold scaled
  split
  · rename_i hk
    obtain ⟨m, rfl⟩ := Int.eq_ofNat_of_zero_le hk
    simp
  · rename_i hk
    obtain ⟨m, hm⟩ := Int.eq_ofNat_of_zero_le (show 0 ≤ -k by omega)
    obtain rfl : k = -(m : Int) := by omega
    simp [div_eq_mul_inv]

/-- A fraction is an integer when the division leaves nothing, and then it is the quotient. -/
theorem div_eq_int_iff {n d : Nat} {z : Int} (hd : 0 < d) :
    (n : ℚ) / d = z ↔ n % d = 0 ∧ z = (n / d : Nat) := by
  have hne : (d : ℚ) ≠ 0 := by exact_mod_cast hd.ne'
  constructor
  · intro h
    have hproduct : (n : Int) = z * d := by
      have hq : (n : ℚ) = z * d := (div_eq_iff hne).mp h
      exact_mod_cast hq
    have hdvd : d ∣ n := Int.natCast_dvd_natCast.mp ⟨z, by rw [hproduct, mul_comm]⟩
    refine ⟨Nat.mod_eq_zero_of_dvd hdvd, ?_⟩
    rw [Int.natCast_div, hproduct, Int.mul_ediv_cancel _ (by exact_mod_cast hd.ne')]
  · rintro ⟨hmod, rfl⟩
    rw [Int.cast_natCast, Nat.cast_div (Nat.dvd_of_mod_eq_zero hmod) hne]

/-- **The integer of a number** is the one that it is equal to. -/
theorem whole?_eq_some_iff {r : Binary64} {n : Int} : r.whole? = some n ↔ r.value? = some (n : ℚ) := by
  cases r with
  | infinity negative => simp [whole?, value?]
  | nan => simp [whole?, value?]
  | finite negative mantissa exponent =>
    have hpos := scaled_pos mantissa exponent
    have hvalue := scaled_value mantissa exponent
    simp only [whole?, value?, ← hvalue]
    cases negative with
    | false =>
      simp only [Bool.false_eq_true, if_false, one_mul, Option.some_inj, div_eq_int_iff hpos]
      split
      · rename_i hmod
        rw [beq_iff_eq] at hmod
        simp [hmod, eq_comm]
      · rename_i hmod
        rw [beq_iff_eq] at hmod
        simp [hmod]
    | true =>
      have hsign : ∀ q : ℚ, -1 * q = n ↔ q = (-n : Int) := by
        intro q
        rw [Int.cast_neg, neg_one_mul, neg_eq_iff_eq_neg]
      simp only [if_true, Option.some_inj, hsign, div_eq_int_iff hpos]
      split
      · rename_i hmod
        rw [beq_iff_eq] at hmod
        simp [hmod, neg_eq_iff_eq_neg, eq_comm]
      · rename_i hmod
        rw [beq_iff_eq] at hmod
        simp [hmod]

end PageObjects.Binary64
