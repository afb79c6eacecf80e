import Mathlib.Data.Rat.Floor
import SqlBroker.Proofs.Decimal.Search

/-!
# The shortest decimal of a float

A decimal stands for a float if it rounds to it and to no other: if it lies less than half way to
the float before it and to the one after it (`Binary64.RoundsTo`). A float is written as the one
with the fewest digits of these, the nearest if there are several, and of two that are equally near
the greater (`Binary64.IsShortest`). Seventeen digits are always enough, as decimals of so many lie
closer together than floats.

Headlines:
* **`Binary64.contains_rounds_iff`**: the interval that is searched is that of the decimals which
  round to the float.
* **`Binary64.exists_seventeen`**: there is a decimal of seventeen digits in it.
* **`Binary64.isShortest_shortest`**: the search finds the shortest decimal.
* **`Binary64.IsShortest.unique`**: there is only one.
-/

namespace SqlBroker.Decimal.Binary64

/-! ## Neighbours -/

/-- The size of a finite float; past the largest it is that of the next power of two. -/
def magnitude (x : Binary64) : ℚ := x.significand * 2 ^ x.exponent

/-- The float before, towards zero. -/
def before (x : Binary64) : Binary64 := ⟨x.bits - 1⟩

/-- The float after, away from zero. -/
def after (x : Binary64) : Binary64 := ⟨x.bits + 1⟩

/-- The sizes that round to a float: those nearer to it than to the float before and the one after.
Half way between two floats is the one whose significand is even. -/
def RoundsTo (q : ℚ) (x : Binary64) : Prop :=
  let low := (x.before.magnitude + x.magnitude) / 2
  let high := (x.magnitude + x.after.magnitude) / 2
  if x.significand % 2 = 0 then low ≤ q ∧ q ≤ high else low < q ∧ q < high

/-- The decimal that a float is written as. -/
structure IsShortest (x : Binary64) (d : Digits) : Prop where
  /-- There are no zeros at its end. -/
  trimmed : d.coefficient % 10 ≠ 0
  rounds : RoundsTo d.toRat x
  fewest : ∀ d' : Digits, RoundsTo d'.toRat x → d.count ≤ d'.count
  nearest : ∀ d' : Digits, RoundsTo d'.toRat x → d'.count = d.count →
    Nearer x.magnitude d.toRat d'.toRat

/-! ## The interval of a float -/

variable {x : Binary64}

theorem two_zpow_eq (e : ℤ) : (2 : ℚ) ^ e = 2 * 2 ^ (e - 1) := by
  rw [mul_comm, ← zpow_add_one₀ two_ne_zero, sub_add_cancel]

/-- Quarters are twice halved. -/
theorem two_zpow_eq_quarters (e : ℤ) :
    (2 : ℚ) ^ e = 4 * 2 ^ (e - 2) ∧ (2 : ℚ) ^ (e - 1) = 2 * 2 ^ (e - 2) := by
  have half : (2 : ℚ) ^ (e - 1) = 2 * 2 ^ (e - 2) := by
    rw [two_zpow_eq (e - 1), sub_sub, one_add_one_eq_two]
  refine ⟨?_, half⟩
  rw [two_zpow_eq e, half]
  ring

/-- How far it is to the float before, in halves of the last place. -/
def halves (x : Binary64) : Nat := if x.fraction = 0 ∧ 1 < x.exponentField then 1 else 2

/-- The float before is one unit of the last place away, and half of one if its power of two is
another. -/
theorem magnitude_before (some : x.isZero = false) :
    x.before.magnitude = x.magnitude - x.halves * 2 ^ (x.exponent - 1) := by
  have bits : x.bits.toNat % 2 ^ 63 ≠ 0 := by simpa [isZero] using some
  have less : (x.bits - 1).toNat = x.bits.toNat - 1 := by
    rw [UInt64.toNat_sub_of_le _ _ (UInt64.le_iff_toNat_le.mpr (by simp; omega))]
    rfl
  unfold halves
  by_cases power : x.fraction = 0 ∧ 1 < x.exponentField
  · obtain ⟨zero, more⟩ := power
    have own : x.significand = 2 ^ 52 := by
      rw [significand, if_neg (by omega), zero, Nat.add_zero]
    have field : x.before.exponentField = x.exponentField - 1 := by
      unfold fraction exponentField before at *
      rw [less]
      omega
    have fraction : x.before.fraction = 2 ^ 52 - 1 := by
      unfold fraction exponentField before at *
      rw [less]
      omega
    have other : x.before.significand = 2 ^ 53 - 1 := by
      rw [significand, field, if_neg (by omega), fraction]
      rfl
    have exponent : x.before.exponent = x.exponent - 1 := by
      rw [Binary64.exponent, Binary64.exponent, field]
      omega
    rw [if_pos ⟨zero, more⟩, magnitude, magnitude, own, other, exponent, two_zpow_eq x.exponent]
    norm_num
    ring
  · have significand : x.significand = x.before.significand + 1 ∧
        max x.before.exponentField 1 = max x.exponentField 1 := by
      unfold Binary64.significand fraction exponentField before at *
      rw [less]
      split <;> split <;> omega
    have exponent : x.before.exponent = x.exponent := by
      rw [Binary64.exponent, Binary64.exponent, significand.2]
    rw [if_neg power, magnitude, magnitude, significand.1, exponent, two_zpow_eq x.exponent]
    push_cast
    ring

/-- The float after is one unit of the last place away. -/
theorem magnitude_after (finite : x.isFinite) :
    x.after.magnitude = x.magnitude + 2 ^ x.exponent := by
  have field : x.exponentField ≠ 2047 := by simpa [isFinite] using finite
  have more : (x.bits + 1).toNat = x.bits.toNat + 1 := by
    have bound := x.bits.toNat_lt
    rw [UInt64.toNat_add]
    unfold exponentField at field
    change (x.bits.toNat + 1) % 2 ^ 64 = _
    omega
  by_cases last : x.fraction = 2 ^ 52 - 1
  · have fields : x.after.exponentField = x.exponentField + 1 ∧ x.after.fraction = 0 := by
      unfold fraction exponentField after at *
      rw [more]
      omega
    have other : x.after.significand = 2 ^ 52 := by
      rw [significand, fields.1, if_neg (by omega), fields.2, Nat.add_zero]
    by_cases lowest : x.exponentField = 0
    · have own : x.significand = 2 ^ 52 - 1 := by rw [significand, if_pos lowest, last]
      have exponent : x.after.exponent = x.exponent := by
        rw [Binary64.exponent, Binary64.exponent, fields.1, lowest]
        rfl
      rw [magnitude, magnitude, own, other, exponent]
      norm_num
      ring
    · have own : x.significand = 2 ^ 53 - 1 := by
        rw [significand, if_neg lowest, last]
        rfl
      have exponent : x.after.exponent = x.exponent + 1 := by
        rw [Binary64.exponent, Binary64.exponent, fields.1]
        omega
      rw [magnitude, magnitude, own, other, exponent, zpow_add_one₀ two_ne_zero]
      norm_num
      ring
  · have fields : x.after.exponentField = x.exponentField ∧
        x.after.fraction = x.fraction + 1 := by
      unfold fraction exponentField after at *
      rw [more]
      omega
    have significand : x.after.significand = x.significand + 1 := by
      rw [Binary64.significand, Binary64.significand, fields.1, fields.2]
      split <;> omega
    rw [magnitude, magnitude, significand, Binary64.exponent, Binary64.exponent, fields.1]
    push_cast
    ring

/-- The parts of the interval of a float, in quarters of its last place. -/
theorem rounds_div (x : Binary64) : 0 < x.rounds.den ∧
    (x.rounds.low / x.rounds.den : ℚ) =
      (4 * x.significand - x.halves : ℕ) * 2 ^ (x.exponent - 2) ∧
    x.rounds.middle = (4 * x.significand : ℕ) * 2 ^ (x.exponent - 2) ∧
    (x.rounds.high / x.rounds.den : ℚ) = (4 * x.significand + 2 : ℕ) * 2 ^ (x.exponent - 2) := by
  have step := shifted_div 1 1 (x.exponent - 2)
  have den : 0 < (shifted 1 1 (x.exponent - 2)).2 := by
    unfold shifted
    split
    · exact Nat.one_pos
    · exact Nat.mul_pos Nat.one_pos (Nat.two_pow_pos _)
  rw [Nat.cast_one, div_one, one_mul] at step
  have part (n : ℕ) : ((n * (shifted 1 1 (x.exponent - 2)).1 : ℕ) : ℚ) /
      (shifted 1 1 (x.exponent - 2)).2 = n * 2 ^ (x.exponent - 2) := by
    rw [Nat.cast_mul, mul_div_assoc, step]
  exact ⟨den, part _, part _, part _⟩

theorem halves_le (x : Binary64) : x.halves ≤ 2 := by
  unfold halves
  split <;> decide

theorem significand_pos (some : x.isZero = false) : 0 < x.significand := by
  refine Nat.pos_of_ne_zero fun zero => ?_
  rw [(isZero_iff x).mpr zero] at some
  cases some

theorem isAround_rounds (some : x.isZero = false) : x.rounds.IsAround ∧ 0 < x.rounds.low := by
  obtain ⟨den, low, middle, high⟩ := x.rounds_div
  have pos : (0 : ℚ) < x.rounds.den := Nat.cast_pos.mpr den
  have unit : (0 : ℚ) < 2 ^ (x.exponent - 2) := zpow_pos two_pos _
  have significand := significand_pos some
  have halves := x.halves_le
  have one : 0 < x.halves := by
    unfold Binary64.halves
    split <;> decide
  refine ⟨⟨den, ?_, ?_⟩, ?_⟩
  · have less : (4 * x.significand - x.halves : ℕ) < (4 * x.significand : ℕ) := by omega
    rw [← Nat.cast_lt (α := ℚ), ← div_lt_div_iff_of_pos_right pos, low]
    change _ < x.rounds.middle
    rw [middle]
    exact mul_lt_mul_of_pos_right (Nat.cast_lt.mpr less) unit
  · have less : (4 * x.significand : ℕ) < (4 * x.significand + 2 : ℕ) := by omega
    rw [← Nat.cast_lt (α := ℚ), ← div_lt_div_iff_of_pos_right pos, high]
    change x.rounds.middle < _
    rw [middle]
    exact mul_lt_mul_of_pos_right (Nat.cast_lt.mpr less) unit
  · have least : 0 < (4 * x.significand - x.halves : ℕ) := by omega
    rw [← Nat.cast_pos (α := ℚ), ← div_pos_iff_of_pos_right pos, low]
    exact mul_pos (Nat.cast_pos.mpr least) unit

theorem middle_rounds (x : Binary64) : x.rounds.middle = x.magnitude := by
  obtain ⟨-, -, middle, -⟩ := x.rounds_div
  rw [middle, magnitude, (two_zpow_eq_quarters x.exponent).1]
  push_cast
  ring

/-- **The interval that is searched is that of the numbers that round to the float.** -/
theorem contains_rounds_iff (finite : x.isFinite) (some : x.isZero = false) {q : ℚ} :
    x.rounds.Contains q ↔ RoundsTo q x := by
  obtain ⟨-, low, middle, high⟩ := x.rounds_div
  obtain ⟨quarter, half⟩ := two_zpow_eq_quarters x.exponent
  have significand := significand_pos some
  have halves := x.halves_le
  have below : (x.before.magnitude + x.magnitude) / 2 = x.rounds.low / x.rounds.den := by
    rw [magnitude_before some, low, ← middle_rounds, middle, half, Nat.cast_sub (by omega)]
    ring
  have above : (x.magnitude + x.after.magnitude) / 2 = x.rounds.high / x.rounds.den := by
    rw [magnitude_after finite, high, ← middle_rounds, middle, quarter]
    push_cast
    ring
  have closed : x.rounds.closed = true ↔ x.significand % 2 = 0 := beq_iff_eq
  unfold RoundsTo Rounds.Contains
  dsimp only
  rw [below, above]
  by_cases even : x.significand % 2 = 0
  · rw [if_pos even, if_pos (closed.mpr even)]
  · rw [if_neg even, if_neg (mt closed.mp even)]

/-! ## Seventeen digits -/

/-- Between two numbers there is a multiple of any that is less than their distance. -/
theorem exists_multiple {a b s : ℚ} (ha : 0 ≤ a) (hs : 0 < s) (h : s < b - a) :
    ∃ c : ℕ, a < c * s ∧ c * s < b := by
  refine ⟨⌊a / s⌋₊ + 1, ?_, ?_⟩
  · have next := Nat.lt_floor_add_one (a / s)
    rw [div_lt_iff₀ hs] at next
    exact_mod_cast next
  · have floor := Nat.floor_le (div_nonneg ha hs.le)
    rw [le_div_iff₀ hs] at floor
    push_cast
    linarith

/-- **Decimals of seventeen digits lie closer together than floats.** -/
theorem exists_seventeen (some : x.isZero = false) : ∃ c : ℕ,
    x.rounds.Contains (⟨c, decimalOrder x.rounds.value x.rounds.den - 16⟩ : Digits).toRat := by
  obtain ⟨around, -⟩ := isAround_rounds some
  obtain ⟨den, low, middle, high⟩ := x.rounds_div
  obtain ⟨least, -⟩ := decimalOrder_spec (Nat.zero_lt_of_lt around.low_lt) around.den_pos
  rw [← Rounds.middle, middle] at least
  generalize decimalOrder x.rounds.value x.rounds.den = order at least ⊢
  have unit : (0 : ℚ) < 2 ^ (x.exponent - 2) := zpow_pos two_pos _
  have significand := significand_pos some
  have bound : (x.significand : ℚ) < 2 ^ 53 := by exact_mod_cast x.significand_lt
  have step : (10 : ℚ) ^ (order - 16) * 10 ^ 16 = 10 ^ order := by
    rw [← zpow_natCast, ← zpow_add₀ (by norm_num)]
    norm_num
  have wide : (10 : ℚ) ^ (order - 16) <
      x.rounds.high / x.rounds.den - x.rounds.low / x.rounds.den := by
    rw [low, high, ← sub_mul]
    unfold halves
    split
    next power =>
      -- The floats before are half as far apart, and the float is the least of its power of two.
      have own : x.significand = 2 ^ 52 := by
        rw [Binary64.significand, if_neg (by omega), power.1, Nat.add_zero]
      rw [own] at least ⊢
      push_cast at least ⊢
      norm_num at *
      linarith
    next =>
      have size : ((4 * x.significand : ℕ) : ℚ) * 2 ^ (x.exponent - 2) ≤
          2 ^ 55 * 2 ^ (x.exponent - 2) := by
        refine mul_le_mul_of_nonneg_right ?_ unit.le
        push_cast
        linarith
      rw [Nat.cast_sub (by omega)]
      push_cast at size least ⊢
      norm_num at *
      linarith
  have nonneg : (0 : ℚ) ≤ x.rounds.low / x.rounds.den :=
    div_nonneg (Nat.cast_nonneg _) (Nat.cast_nonneg _)
  obtain ⟨c, more, less⟩ := exists_multiple nonneg (ten_zpow_pos (order - 16)) wide
  refine ⟨c, ?_⟩
  unfold Rounds.Contains
  split
  · exact ⟨more.le, less.le⟩
  · exact ⟨more, less⟩

/-- **A float is written as the shortest decimal that stands for it.** -/
theorem isShortest_shortest (finite : x.isFinite) (some : x.isZero = false) :
    x.IsShortest (x.shortest .up) := by
  obtain ⟨around, low⟩ := isAround_rounds some
  obtain ⟨c, inside⟩ := exists_seventeen some
  obtain ⟨trimmed, rounds, least⟩ :=
    Rounds.first_shortest around low ⟨16, show 16 < 17 by decide, c, inside⟩
  have rounding {q : ℚ} := contains_rounds_iff (q := q) finite some
  exact ⟨trimmed, rounding.mp rounds, fun d' h => (least d' (rounding.mpr h)).1,
    fun d' h => x.middle_rounds ▸ (least d' (rounding.mpr h)).2⟩

/-- **There is only one.** -/
theorem IsShortest.unique {d d' : Digits} (h : x.IsShortest d) (h' : x.IsShortest d') : d = d' := by
  have count : d.count = d'.count :=
    Nat.le_antisymm (h.fewest d' h'.rounds) (h'.fewest d h.rounds)
  have same : d.toRat = d'.toRat := by
    rcases h.nearest d' h'.rounds count.symm with less | ⟨equal, le⟩
    · rcases h'.nearest d h.rounds count with more | ⟨equal, -⟩
      · exact absurd less more.not_gt
      · exact absurd less equal.le.not_gt
    · rcases h'.nearest d h.rounds count with more | ⟨-, ge⟩
      · exact absurd more equal.le.not_gt
      · exact ge.antisymm le
  exact Digits.eq_of_toRat_eq h.trimmed h'.trimmed same

end SqlBroker.Decimal.Binary64
