import Mathlib.Algebra.Order.Field.Rat
import Mathlib.Tactic.FieldSimp
import Mathlib.Tactic.NormNum
import Mathlib.Tactic.Ring
import SqlBroker.Proofs.Decimal.Rounding

/-!
# Whole numbers as floats

The number that a float is, and the float that is nearest to a whole number. A whole number of up to
53 bits is a float; of a longer one the float keeps the first 53, rounded.

Headlines:
* **`Binary64.toRat_ofSizeBits`**: a significand and the steps of its exponent, put together as
  bits, are the number that they stand for; a significand that was rounded up is no exception.
* **`Binary64.toRat_ofInt`**: the float nearest to a whole number is that number rounded to 53 bits.
-/

namespace SqlBroker.Decimal

/-! ## Quotients -/

theorem shifted_div (num den : Nat) (shift : Int) :
    ((shifted num den shift).1 : ℚ) / (shifted num den shift).2 = num / den * 2 ^ shift := by
  unfold shifted
  split
  next up =>
    obtain ⟨k, rfl⟩ := Int.eq_ofNat_of_zero_le up
    rw [Int.toNat_natCast, zpow_natCast]
    push_cast
    ring
  next down =>
    obtain ⟨k, hk⟩ := Int.eq_ofNat_of_zero_le (show 0 ≤ -shift by omega)
    obtain rfl : shift = -k := by omega
    rw [neg_neg, Int.toNat_natCast, zpow_neg, zpow_natCast]
    push_cast
    rw [div_mul_eq_div_div, div_eq_mul_inv _ ((2 : ℚ) ^ k)]

namespace Binary64

/-! ## The number that a float is -/

/-- The number that a finite float is. -/
def toRat (x : Binary64) : ℚ := (if x.negative then -1 else 1) * (x.size.1 / x.size.2)

theorem toRat_eq (x : Binary64) :
    x.toRat = (if x.negative then -1 else 1) * (x.significand * 2 ^ x.exponent) := by
  rw [toRat, size, shifted_div, Nat.cast_one, div_one]

theorem isZero_iff (x : Binary64) : x.isZero = true ↔ x.significand = 0 := by
  rw [isZero, significand, exponentField, fraction, beq_iff_eq]
  split <;> omega

theorem significand_lt (x : Binary64) : x.significand < 2 ^ 53 := by
  rw [significand, fraction]
  split <;> omega

/-- A significand and the steps of its exponent that are the bits of a float: the significand may be
one that was rounded up past 53 bits, and only in the lowest range it has fewer. -/
structure IsEncoding (m steps : Nat) : Prop where
  bounded : m ≤ 2 ^ 53
  normal : 2 ^ 52 ≤ m ∨ steps = 0
  finite : m + steps * 2 ^ 52 < 2047 * 2 ^ 52

variable {m steps : Nat} (negative : Bool)

theorem toNat_ofSizeBits {size : Nat} (h : size < 2047 * 2 ^ 52) :
    (ofSizeBits negative size).bits.toNat = size + if negative then 2 ^ 63 else 0 := by
  unfold ofSizeBits
  rw [UInt64.toNat_ofNat', Nat.min_eq_left h.le]
  apply Nat.mod_eq_of_lt
  split <;> omega

theorem negative_ofSizeBits {size : Nat} (h : size < 2047 * 2 ^ 52) :
    (ofSizeBits negative size).negative = negative := by
  unfold Binary64.negative
  rw [toNat_ofSizeBits negative h]
  cases negative with
  | false => exact decide_eq_false (by simp; omega)
  | true => exact decide_eq_true (by simp)

theorem exponentField_ofSizeBits {size : Nat} (h : size < 2047 * 2 ^ 52) :
    (ofSizeBits negative size).exponentField = size / 2 ^ 52 := by
  rw [exponentField, toNat_ofSizeBits negative h]
  split <;> omega

theorem fraction_ofSizeBits {size : Nat} (h : size < 2047 * 2 ^ 52) :
    (ofSizeBits negative size).fraction = size % 2 ^ 52 := by
  rw [fraction, toNat_ofSizeBits negative h]
  split <;> omega

theorem isFinite_ofSizeBits {size : Nat} (h : size < 2047 * 2 ^ 52) :
    (ofSizeBits negative size).isFinite := by
  rw [isFinite, exponentField_ofSizeBits negative h]
  have field : size / 2 ^ 52 ≠ 2047 := by omega
  exact bne_iff_ne.mpr field

/-- **A significand and its exponent are the number that they stand for.** -/
theorem toRat_ofSizeBits (h : IsEncoding m steps) :
    (ofSizeBits negative (m + steps * 2 ^ 52)).toRat =
      (if negative then -1 else 1) * (m * 2 ^ ((steps : ℤ) - 1074)) := by
  obtain ⟨bounded, normal, finite⟩ := h
  rw [toRat_eq, negative_ofSizeBits negative finite, significand, exponent,
    exponentField_ofSizeBits negative finite, fraction_ofSizeBits negative finite]
  congr 1
  by_cases short : m < 2 ^ 52
  · have lowest : steps = 0 := normal.resolve_left (by omega)
    have field : (m + steps * 2 ^ 52) / 2 ^ 52 = 0 := by omega
    have fraction : (m + steps * 2 ^ 52) % 2 ^ 52 = m := by omega
    rw [field, fraction, lowest]
    rfl
  · by_cases carried : m = 2 ^ 53
    · -- The exponent takes one more step, and nothing is left of the significand.
      have field : (m + steps * 2 ^ 52) / 2 ^ 52 = steps + 2 := by omega
      have fraction : (m + steps * 2 ^ 52) % 2 ^ 52 = 0 := by omega
      have exponent : ((max (steps + 2) 1 : Nat) : ℤ) - 1075 = ((steps : ℤ) - 1074) + 1 := by omega
      rw [field, fraction, if_neg (by omega), exponent, zpow_add_one₀ two_ne_zero, carried]
      push_cast
      ring
    · have field : (m + steps * 2 ^ 52) / 2 ^ 52 = steps + 1 := by omega
      have fraction : 2 ^ 52 + (m + steps * 2 ^ 52) % 2 ^ 52 = m := by omega
      have exponent : ((max (steps + 1) 1 : Nat) : ℤ) - 1075 = (steps : ℤ) - 1074 := by omega
      rw [field, if_neg (by omega), fraction, exponent]

/-! ## Whole numbers -/

theorem binaryOrder_one {n : Nat} (h : n ≠ 0) : binaryOrder n 1 = n.log2 := by
  have one : Nat.log2 1 = 0 := by decide
  have power : shifted 1 1 ((n.log2 : Int) - (0 : Nat)) = (2 ^ n.log2, 1) := by simp [shifted]
  have largest : 2 ^ n.log2 ≤ n := Nat.log2_self_le h
  unfold binaryOrder
  dsimp only
  rw [one, power, if_pos (by omega), Nat.cast_zero, sub_zero]

/-- How many of the last bits of a whole number a float has no room for. -/
def excess (n : Nat) : Nat := n.log2 - 52

/-- The first 53 bits of a whole number, rounded, or all of them with zeros behind. -/
def leading (n : Nat) : Nat :=
  if n.log2 ≤ 52 then n * 2 ^ (52 - n.log2) else roundHalfEven n (2 ^ excess n)

/-- A whole number rounded to its first 53 bits. -/
def rounded (n : Nat) : Nat := roundHalfEven n (2 ^ excess n) * 2 ^ excess n

/-- A whole number is not changed by rounding if what is left out is zeros. -/
theorem rounded_eq_iff {n : Nat} : rounded n = n ↔ 2 ^ excess n ∣ n :=
  roundHalfEven_mul_eq_iff (Nat.two_pow_pos _)

theorem leading_mem {n : Nat} (h : n ≠ 0) : 2 ^ 52 ≤ leading n ∧ leading n ≤ 2 ^ 53 := by
  have largest : 2 ^ n.log2 ≤ n := Nat.log2_self_le h
  have next : n < 2 ^ (n.log2 + 1) := Nat.lt_log2_self
  unfold leading
  split
  next short =>
    have least : 2 ^ 52 = 2 ^ n.log2 * 2 ^ (52 - n.log2) := by
      rw [← Nat.pow_add, Nat.add_sub_cancel' short]
    have most : 2 ^ 53 = 2 ^ (n.log2 + 1) * 2 ^ (52 - n.log2) := by
      rw [← Nat.pow_add]
      congr 1
      omega
    rw [least, most]
    exact ⟨Nat.mul_le_mul_right _ largest, Nat.mul_le_mul_right _ next.le⟩
  next long =>
    have least : 2 ^ 52 * 2 ^ excess n = 2 ^ n.log2 := by
      rw [← Nat.pow_add, excess, Nat.add_sub_cancel' (by omega)]
    have most : 2 ^ 53 * 2 ^ excess n = 2 ^ (n.log2 + 1) := by
      rw [← Nat.pow_add, excess]
      congr 1
      omega
    exact roundHalfEven_mem (Nat.two_pow_pos _) (least ▸ largest) (most ▸ next)

theorem leading_mul {n : Nat} : (leading n : ℚ) * 2 ^ ((n.log2 : ℤ) - 52) = rounded n := by
  unfold leading rounded excess
  split
  next short =>
    have none : n.log2 - 52 = 0 := Nat.sub_eq_zero_of_le short
    have inverse : (2 : ℚ) ^ (52 - n.log2) * 2 ^ ((n.log2 : ℤ) - 52) = 1 := by
      rw [← zpow_natCast, ← zpow_add₀ two_ne_zero, Nat.cast_sub short]
      simp
    rw [none, Nat.pow_zero, roundHalfEven_one, Nat.mul_one]
    push_cast
    rw [mul_assoc, inverse, mul_one]
  next long =>
    have power : (2 : ℚ) ^ ((n.log2 : ℤ) - 52) = 2 ^ (n.log2 - 52) := by
      rw [← zpow_natCast, Nat.cast_sub (by omega)]
      rfl
    push_cast
    rw [power]

theorem nearest_whole {n : Nat} (h : n ≠ 0) :
    nearest 53 (-1074) n 1 = (leading n, (n.log2 : Int) - 52) := by
  have exponent : max ((n.log2 : Int) - ((53 : Nat) - 1 : Int)) (-1074) = (n.log2 : Int) - 52 := by
    omega
  unfold nearest leading
  dsimp only
  rw [if_neg h, binaryOrder_one h, exponent]
  split
  next short =>
    have zeros : (-((n.log2 : Int) - 52)).toNat = 52 - n.log2 := by omega
    rw [shifted, if_pos (by omega), zeros, roundHalfEven_one]
  next long =>
    have bits : (-(-((n.log2 : Int) - 52))).toNat = excess n := by
      unfold excess
      omega
    rw [shifted, if_neg (by omega), bits, Nat.one_mul]

/-- The bits of the float nearest to a whole number. -/
theorem ofInt_eq {n : Int} (h : n ≠ 0) :
    ofInt n = ofSizeBits (n < 0)
      (leading n.natAbs + (n.natAbs.log2 + 1022) * 2 ^ 52) := by
  have size : n.natAbs ≠ 0 := Int.natAbs_ne_zero.mpr h
  have steps : ((n.natAbs.log2 : Int) - 52 + 1074).toNat = n.natAbs.log2 + 1022 := by omega
  rw [ofInt, ofQuotient, nearest_whole size, steps]

theorem isEncoding_leading {n : Nat} (h : n ≠ 0) (small : n.log2 ≤ 1022) :
    IsEncoding (leading n) (n.log2 + 1022) := by
  obtain ⟨least, most⟩ := leading_mem h
  exact ⟨most, .inl least, by omega⟩

/-- **The float nearest to a whole number is that number to 53 bits.** -/
theorem toRat_ofInt {n : Int} (small : n.natAbs.log2 ≤ 1022) :
    (ofInt n).isFinite ∧
      (ofInt n).toRat = (if n < 0 then -1 else 1) * (rounded n.natAbs : ℚ) := by
  by_cases h : n = 0
  · subst h
    have nothing : (ofInt 0).significand = 0 := by decide
    have none : rounded (0 : Int).natAbs = 0 := by decide
    constructor
    · decide
    · rw [toRat_eq, nothing, none, Nat.cast_zero, zero_mul, mul_zero, mul_zero]
  · have size : n.natAbs ≠ 0 := Int.natAbs_ne_zero.mpr h
    have encoding := isEncoding_leading size small
    have exponent : ((n.natAbs.log2 + 1022 : Nat) : ℤ) - 1074 = (n.natAbs.log2 : ℤ) - 52 := by omega
    rw [ofInt_eq h]
    constructor
    · exact isFinite_ofSizeBits _ encoding.finite
    · rw [toRat_ofSizeBits _ encoding, exponent, leading_mul]
      simp

/-- A whole number is its own nearest float if what does not fit is zeros. -/
theorem toRat_ofInt_eq_iff {n : Int} (small : n.natAbs.log2 ≤ 1022) :
    (ofInt n).toRat = n ↔ 2 ^ excess n.natAbs ∣ n.natAbs := by
  have size : (if n < 0 then -1 else 1 : ℚ) * (n.natAbs : ℚ) = n := by
    split
    next negative =>
      rw [Nat.cast_natAbs, abs_of_neg negative]
      push_cast
      ring
    next positive =>
      rw [Nat.cast_natAbs, abs_of_nonneg (not_lt.mp positive), one_mul]
  have sign : (if n < 0 then -1 else 1 : ℚ) ≠ 0 := by split <;> norm_num
  rw [(toRat_ofInt small).2, ← rounded_eq_iff]
  constructor
  · intro h
    rw [← size] at h
    exact Nat.cast_injective (mul_left_cancel₀ sign h)
  · intro h
    rw [h, size]

end Binary64

end SqlBroker.Decimal
