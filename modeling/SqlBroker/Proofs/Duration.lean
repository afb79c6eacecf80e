import Mathlib.Algebra.Order.Field.Power
import Mathlib.Tactic.Linarith
import SqlBroker.Duration
import SqlBroker.Proofs.Decimal.Whole

/-!
# Which floats are lengths of time

A float of seconds is a length of time if it is a number from zero on and less than 2 ^ 64, which is
more seconds than a length can have; the negative zero is zero. Rounding to nanoseconds makes no
float as large as that: it changes only those with a fraction, and these are less than 2 ^ 53.

Headlines:
* **`Duration.isSome_ofSeconds?_iff`**: which floats of seconds are lengths of time.
-/

namespace SqlBroker

open Decimal

namespace Decimal.Binary64

variable (x : Binary64)

/-! ## Signs and sizes -/

theorem size_pos : 0 < x.size.2 := by
  rw [size, shifted]
  split
  · exact Nat.one_pos
  · exact Nat.mul_pos Nat.one_pos (Nat.two_pow_pos _)

/-- A float is less than zero iff it has the sign and is no zero. -/
theorem toRat_nonneg_iff : 0 ≤ x.toRat ↔ (x.negative && !x.isZero) = false := by
  have power : (0 : ℚ) < 2 ^ x.exponent := zpow_pos two_pos _
  rw [toRat_eq]
  cases x.negative with
  | false =>
    rw [if_neg Bool.false_ne_true, one_mul]
    exact iff_of_true (mul_nonneg (Nat.cast_nonneg _) power.le) rfl
  | true =>
    rw [if_pos rfl, Bool.true_and, Bool.not_eq_false', isZero_iff, neg_one_mul, ← neg_mul,
      mul_nonneg_iff_of_pos_right power, neg_nonneg, Nat.cast_nonpos]

/-- A float that is not less than zero is its size. -/
theorem toRat_of_nonneg (h : 0 ≤ x.toRat) : x.toRat = x.size.1 / x.size.2 := by
  have size : (0 : ℚ) ≤ x.size.1 / x.size.2 := div_nonneg (Nat.cast_nonneg _) (Nat.cast_nonneg _)
  rw [toRat] at h ⊢
  split at h
  · rename_i negative
    rw [if_pos negative]
    linarith
  · rename_i positive
    rw [if_neg positive, one_mul]

theorem toRat_lt_natCast_iff (h : 0 ≤ x.toRat) (bound : ℕ) :
    x.toRat < bound ↔ x.size.1 < bound * x.size.2 := by
  rw [x.toRat_of_nonneg h, div_lt_iff₀ (Nat.cast_pos.mpr x.size_pos)]
  exact_mod_cast Iff.rfl

/-- A float with a fraction is less than 2 ^ 53. -/
theorem size_cases : x.size.2 = 1 ∨ x.size.1 < 2 ^ 53 * x.size.2 := by
  have pos := x.size_pos
  rw [size, shifted] at pos ⊢
  split
  · exact .inl rfl
  · rename_i low
    rw [if_neg low] at pos
    exact .inr (lt_of_lt_of_le x.significand_lt (Nat.le_mul_of_pos_right _ pos))

end Decimal.Binary64

namespace Duration

/-- Rounding to nanoseconds does not reach a bound in seconds that is as large as any fraction. -/
theorem roundHalfEven_lt_iff (x : Binary64) {bound : ℕ} (large : 2 ^ 53 < bound) :
    roundHalfEven (x.size.1 * perSecond) x.size.2 < bound * perSecond ↔
      x.size.1 < bound * x.size.2 := by
  have second : 0 < perSecond := by decide
  rcases x.size_cases with whole | fraction
  · rw [whole, roundHalfEven_one, Nat.mul_one, Nat.mul_lt_mul_right second]
  · have rounded : roundHalfEven (x.size.1 * perSecond) x.size.2 ≤ 2 ^ 53 * perSecond := by
      refine (roundHalfEven_mem x.size_pos (Nat.zero_mul _ ▸ Nat.zero_le _) ?_).2
      rw [Nat.mul_right_comm]
      exact Nat.mul_lt_mul_of_pos_right fraction second
    refine iff_of_true (lt_of_le_of_lt rounded ?_) (fraction.trans ?_)
    · exact Nat.mul_lt_mul_of_pos_right large second
    · exact Nat.mul_lt_mul_of_pos_right large x.size_pos

/-- **A float of seconds is a length of time** iff it is a number, is not less than zero, and has no
more seconds than 64 bits can count. -/
theorem isSome_ofSeconds?_iff (x : Binary64) :
    (ofSeconds? x).isSome ↔ x.isFinite = true ∧ 0 ≤ x.toRat ∧ x.toRat < 2 ^ 64 := by
  have bound : (2 ^ 64 : ℚ) = ((2 ^ 64 : ℕ) : ℚ) := by norm_num
  unfold ofSeconds?
  cases finite : x.isFinite with
  | false => simp
  | true =>
    rw [x.toRat_nonneg_iff, Bool.not_true, Bool.false_or]
    cases signed : (x.negative && !x.isZero) with
    | true => simp
    | false =>
      rw [bound, x.toRat_lt_natCast_iff (x.toRat_nonneg_iff.mpr signed),
        ← roundHalfEven_lt_iff x (by norm_num)]
      simp

end Duration

end SqlBroker
