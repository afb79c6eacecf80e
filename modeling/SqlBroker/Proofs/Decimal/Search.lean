import Mathlib.Algebra.Order.Field.Basic
import Mathlib.Algebra.Order.Field.Power
import Mathlib.Tactic.Linarith
import Mathlib.Tactic.Positivity
import SqlBroker.Decimal.Shortest
import SqlBroker.Proofs.Decimal.Whole
import SqlBroker.Proofs.Text.Digits

/-!
# Searching an interval for a short decimal

The search goes down from the place of the first digit of a number and stops at the first place that
has a decimal in an interval around it. At each place it looks at the two decimals around the number
only: if any decimal of that place is in the interval, one of these two is, and none is nearer. So
it finds a decimal with the fewest digits, of these the nearest, and of two that are equally near
the greater.

Headlines:
* **`Rounds.holds_iff`**: the interval is searched as it is meant.
* **`decimalOrder_spec`**: the search starts at the first digit.
* **`Rounds.exists_at_place`**: a decimal of so many digits, of whatever size, shows at the place
  where the number itself has so many.
* **`Rounds.first_shortest`**: what is found has the fewest digits, and is the nearest of those.
-/

namespace SqlBroker.Decimal

/-! ## Decimals -/

namespace Digits

/-- The number that a decimal is. -/
def toRat (d : Digits) : ℚ := d.coefficient * 10 ^ d.exponent

/-- How many digits a decimal has. -/
def count (d : Digits) : ℕ := (Nat.toDigits 10 d.coefficient).length

end Digits

/-- Of two numbers that stand for a third, whether the first is the nearer one, or as near and not
the lesser. -/
def Nearer (v p q : ℚ) : Prop := |p - v| < |q - v| ∨ |p - v| = |q - v| ∧ q ≤ p

/-! ## Powers of ten -/

theorem scaledTen_div (num den : Nat) (shift : Int) :
    ((scaledTen num den shift).1 : ℚ) / (scaledTen num den shift).2 = num / den * 10 ^ shift := by
  unfold scaledTen
  split
  next up =>
    obtain ⟨k, rfl⟩ := Int.eq_ofNat_of_zero_le up
    rw [Int.toNat_natCast, zpow_natCast]
    push_cast
    ring
  next down =>
    obtain ⟨k, hk⟩ := Int.eq_ofNat_of_zero_le (show 0 ≤ -shift by omega)
    obtain rfl : shift = -k := by omega
    rw [neg_neg, Int.toNat_natCast, zpow_neg, zpow_natCast]
    push_cast
    rw [div_mul_eq_div_div, div_eq_mul_inv _ ((10 : ℚ) ^ k)]

theorem scaledTen_pos (num : Nat) {den : Nat} (pos : 0 < den) (shift : Int) :
    0 < (scaledTen num den shift).2 := by
  unfold scaledTen
  split
  · exact pos
  · exact Nat.mul_pos pos (Nat.pow_pos (by decide))

theorem ten_zpow_pos (e : ℤ) : (0 : ℚ) < 10 ^ e := zpow_pos (by norm_num) e

/-! ## Nearer numbers -/

theorem Nearer.trans {v p q s : ℚ} (h : Nearer v p q) (h' : Nearer v q s) : Nearer v p s := by
  rcases h with less | ⟨same, le⟩
  · rcases h' with less' | ⟨same', -⟩
    · exact .inl (less.trans less')
    · exact .inl (same' ▸ less)
  · rcases h' with less' | ⟨same', le'⟩
    · exact .inl (same ▸ less')
    · exact .inr ⟨same.trans same', le'.trans le⟩

/-- What is farther away on the same side below is not nearer. -/
theorem nearer_of_le {v p q : ℚ} (farther : q ≤ p) (below : p ≤ v) : Nearer v p q := by
  have own : |p - v| = v - p := by rw [abs_sub_comm, abs_of_nonneg (sub_nonneg.mpr below)]
  have other : |q - v| = v - q := by
    rw [abs_sub_comm, abs_of_nonneg (sub_nonneg.mpr (farther.trans below))]
  rw [Nearer, own, other]
  rcases farther.lt_or_eq with less | rfl
  · exact .inl (by linarith)
  · exact .inr ⟨rfl, le_rfl⟩

/-- Nor is what is farther away above. -/
theorem nearer_of_ge {v p q : ℚ} (above : v ≤ p) (farther : p ≤ q) : Nearer v p q := by
  have own : |p - v| = p - v := abs_of_nonneg (sub_nonneg.mpr above)
  have other : |q - v| = q - v := abs_of_nonneg (sub_nonneg.mpr (above.trans farther))
  rw [Nearer, own, other]
  rcases farther.lt_or_eq with less | rfl
  · exact .inl (by linarith)
  · exact .inr ⟨rfl, le_rfl⟩

/-! ## Intervals -/

namespace Rounds

variable {r : Rounds}

/-- An interval around a positive number. -/
structure IsAround (r : Rounds) : Prop where
  den_pos : 0 < r.den
  low_lt : r.low < r.value
  lt_high : r.value < r.high

/-- The number that the interval is around. -/
def middle (r : Rounds) : ℚ := r.value / r.den

/-- The numbers in an interval. -/
def Contains (r : Rounds) (q : ℚ) : Prop :=
  if r.closed then (r.low / r.den : ℚ) ≤ q ∧ q ≤ r.high / r.den
  else (r.low / r.den : ℚ) < q ∧ q < r.high / r.den

theorem IsAround.contains_middle (h : r.IsAround) : r.Contains r.middle := by
  have den : (0 : ℚ) < r.den := Nat.cast_pos.mpr h.den_pos
  have low : (r.low / r.den : ℚ) < r.middle := by
    rw [middle, div_lt_div_iff_of_pos_right den]
    exact_mod_cast h.low_lt
  have high : r.middle < (r.high / r.den : ℚ) := by
    rw [middle, div_lt_div_iff_of_pos_right den]
    exact_mod_cast h.lt_high
  unfold Contains
  split
  · exact ⟨low.le, high.le⟩
  · exact ⟨low, high⟩

theorem Contains.convex {p q m : ℚ} (hp : r.Contains p) (hq : r.Contains q) (above : p ≤ m)
    (below : m ≤ q) : r.Contains m := by
  unfold Contains at hp hq ⊢
  by_cases closed : r.closed
  · rw [if_pos closed] at hp hq ⊢
    exact ⟨hp.1.trans above, below.trans hq.2⟩
  · rw [if_neg closed] at hp hq ⊢
    exact ⟨hp.1.trans_le above, below.trans_lt hq.2⟩

theorem Contains.pos {q : ℚ} (h : r.Contains q) (low : 0 < r.low) (den : 0 < r.den) : 0 < q := by
  have least : (0 : ℚ) < r.low / r.den := div_pos (Nat.cast_pos.mpr low) (Nat.cast_pos.mpr den)
  unfold Contains at h
  split at h
  · exact least.trans_le h.1
  · exact least.trans h.1

/-- **What the search looks for is in the interval.** -/
theorem holds_iff (den : 0 < r.den) (d : Digits) : r.holds d ↔ r.Contains d.toRat := by
  have pos : (0 : ℚ) < r.den := Nat.cast_pos.mpr den
  have scaled := scaledTen_div (d.coefficient * r.den) 1 d.exponent
  have unit : (0 : ℚ) < (scaledTen (d.coefficient * r.den) 1 d.exponent).2 :=
    Nat.cast_pos.mpr (scaledTen_pos _ Nat.one_pos _)
  have number : (d.coefficient * r.den : ℕ) / (1 : ℕ) * (10 : ℚ) ^ d.exponent =
      d.toRat * r.den := by
    rw [Digits.toRat]
    push_cast
    ring
  rw [number] at scaled
  unfold holds Contains
  dsimp only
  generalize scaledTen (d.coefficient * r.den) 1 d.exponent = s at scaled unit
  have least (n : ℕ) : n * s.2 ≤ s.1 ↔ (n / r.den : ℚ) ≤ d.toRat := by
    rw [div_le_iff₀ pos, ← scaled, le_div_iff₀ unit]
    exact_mod_cast Iff.rfl
  have most (n : ℕ) : s.1 ≤ n * s.2 ↔ d.toRat ≤ (n / r.den : ℚ) := by
    rw [le_div_iff₀ pos, ← scaled, div_le_iff₀ unit]
    exact_mod_cast Iff.rfl
  split
  · rw [Bool.and_eq_true, decide_eq_true_eq, decide_eq_true_eq, least, most]
  · rw [Bool.and_eq_true, decide_eq_true_eq, decide_eq_true_eq, ← not_le, ← not_le, most, least,
      not_le, not_le]

/-! ## One place -/

/-- The coefficient of the decimal of one place that is next below. -/
def floor (r : Rounds) (e : ℤ) : ℕ :=
  (scaledTen r.value r.den (-e)).1 / (scaledTen r.value r.den (-e)).2

/-- Its distance, in units of that place. -/
def fraction (r : Rounds) (e : ℤ) : ℚ :=
  ((scaledTen r.value r.den (-e)).1 % (scaledTen r.value r.den (-e)).2 : ℕ) /
    (scaledTen r.value r.den (-e)).2

theorem middle_eq (den : 0 < r.den) (e : ℤ) :
    r.middle = (r.floor e + r.fraction e) * 10 ^ e ∧ 0 ≤ r.fraction e ∧ r.fraction e < 1 := by
  have scaled := scaledTen_div r.value r.den (-e)
  have unit : (0 : ℚ) < (scaledTen r.value r.den (-e)).2 :=
    Nat.cast_pos.mpr (scaledTen_pos _ den _)
  unfold floor fraction
  generalize scaledTen r.value r.den (-e) = s at scaled unit
  have parts : (s.1 : ℚ) = s.2 * (s.1 / s.2 : ℕ) + (s.1 % s.2 : ℕ) := by
    exact_mod_cast (Nat.div_add_mod s.1 s.2).symm
  refine ⟨?_, by positivity, ?_⟩
  · rw [zpow_neg, ← div_eq_mul_inv, eq_div_iff (ten_zpow_pos e).ne'] at scaled
    rw [middle, ← scaled]
    congr 1
    rw [parts]
    field_simp
  · rw [div_lt_one unit]
    exact_mod_cast Nat.mod_lt _ (Nat.cast_pos.mp unit)

/-- The decimal of one place that is next below. -/
def down (r : Rounds) (e : ℤ) : Digits := ⟨r.floor e, e⟩

/-- The decimal of one place that is next above. -/
def up (r : Rounds) (e : ℤ) : Digits := ⟨r.floor e + 1, e⟩

theorem down_le (den : 0 < r.den) (e : ℤ) : (r.down e).toRat ≤ r.middle := by
  obtain ⟨middle, least, -⟩ := middle_eq den e
  rw [middle, Digits.toRat, down]
  exact mul_le_mul_of_nonneg_right (by linarith) (ten_zpow_pos e).le

theorem lt_up (den : 0 < r.den) (e : ℤ) : r.middle < (r.up e).toRat := by
  obtain ⟨middle, -, most⟩ := middle_eq den e
  rw [middle, Digits.toRat, up]
  push_cast
  exact mul_lt_mul_of_pos_right (by linarith) (ten_zpow_pos e)

/-- Of the two decimals around the middle the one that is less than half a unit away is nearer, and
if both are that far, the one above. -/
theorem nearer_around (den : 0 < r.den) (e : ℤ) :
    let s := scaledTen r.value r.den (-e)
    if 2 * (s.1 % s.2) < s.2 then Nearer r.middle (r.down e).toRat (r.up e).toRat
    else Nearer r.middle (r.up e).toRat (r.down e).toRat := by
  intro s
  have unit : (0 : ℚ) < s.2 := Nat.cast_pos.mpr (scaledTen_pos _ den _)
  obtain ⟨middle, least, most⟩ := middle_eq den e
  have power := ten_zpow_pos e
  have below : |(r.down e).toRat - r.middle| = r.fraction e * 10 ^ e := by
    rw [abs_sub_comm, abs_of_nonneg (sub_nonneg.mpr (down_le den e)), middle, Digits.toRat, down]
    ring
  have above : |(r.up e).toRat - r.middle| = (1 - r.fraction e) * 10 ^ e := by
    rw [abs_of_nonneg (sub_nonneg.mpr (lt_up den e).le), middle, Digits.toRat, up]
    push_cast
    ring
  have half : 2 * (s.1 % s.2) < s.2 ↔ r.fraction e < 1 - r.fraction e := by
    have double : r.fraction e < 1 - r.fraction e ↔ 2 * r.fraction e < 1 := by
      constructor <;> intro h <;> linarith
    rw [double, fraction, ← mul_div_assoc, div_lt_one unit]
    exact_mod_cast Iff.rfl
  unfold Nearer
  rw [below, above]
  split
  next less => exact .inl (mul_lt_mul_of_pos_right (half.mp less) power)
  next more =>
    rcases (not_lt.mp (mt half.mpr more)).lt_or_eq with less | same
    · exact .inl (mul_lt_mul_of_pos_right less power)
    · exact .inr ⟨by rw [same], ((down_le den e).trans_lt (lt_up den e)).le⟩

/-- Of the two decimals around the middle the nearer is picked, or the one that identifies. -/
theorem pick?_up (e : ℤ) :
    let s := scaledTen r.value r.den (-e)
    r.pick? .up e =
      if r.holds (r.down e) then
        if r.holds (r.up e) then some (if 2 * (s.1 % s.2) < s.2 then r.down e else r.up e)
        else some (r.down e)
      else if r.holds (r.up e) then some (r.up e) else none := by
  unfold pick? down up floor
  dsimp only
  rw [ite_self]
  split <;> simp [*]

theorem pick?_eq_none_iff {tie : Tie} {e : ℤ} :
    r.pick? tie e = none ↔ ¬ r.holds (r.down e) ∧ ¬ r.holds (r.up e) := by
  unfold pick? down up floor
  dsimp only
  split <;> simp [*]

/-- **The search looks at two decimals of a place**, and takes the nearer if both will do. -/
theorem pick?_eq_some (den : 0 < r.den) {e : ℤ} {d : Digits} (h : r.pick? .up e = some d) :
    (d = r.down e ∨ d = r.up e) ∧ r.Contains d.toRat ∧
      ∀ d', d' = r.down e ∨ d' = r.up e → r.Contains d'.toRat →
        Nearer r.middle d.toRat d'.toRat := by
  have own (d : Digits) : Nearer r.middle d.toRat d.toRat := .inr ⟨rfl, le_rfl⟩
  have around := nearer_around den e
  have below := holds_iff den (r.down e)
  have above := holds_iff den (r.up e)
  rw [pick?_up] at h
  dsimp only at around h
  by_cases hdown : r.holds (r.down e)
  · rw [if_pos hdown] at h
    by_cases hup : r.holds (r.up e)
    · rw [if_pos hup] at h
      obtain rfl := Option.some.inj h
      split at around
      next less =>
        rw [if_pos less]
        refine ⟨.inl rfl, below.mp hdown, ?_⟩
        rintro d' (rfl | rfl) -
        · exact own _
        · exact around
      next more =>
        rw [if_neg more]
        refine ⟨.inr rfl, above.mp hup, ?_⟩
        rintro d' (rfl | rfl) -
        · exact around
        · exact own _
    · rw [if_neg hup] at h
      obtain rfl := Option.some.inj h
      refine ⟨.inl rfl, below.mp hdown, ?_⟩
      rintro d' (rfl | rfl) inside
      · exact own _
      · exact absurd (above.mpr inside) hup
  · rw [if_neg hdown] at h
    by_cases hup : r.holds (r.up e)
    · rw [if_pos hup] at h
      obtain rfl := Option.some.inj h
      refine ⟨.inr rfl, above.mp hup, ?_⟩
      rintro d' (rfl | rfl) inside
      · exact absurd (below.mpr inside) hdown
      · exact own _
    · rw [if_neg hup] at h
      cases h

/-- **No decimal of a place is nearer** than those two, nor in the interval if neither is. -/
theorem exists_around (h : r.IsAround) {d : Digits} (inside : r.Contains d.toRat) :
    ∃ d', (d' = r.down d.exponent ∨ d' = r.up d.exponent) ∧ r.Contains d'.toRat ∧
      Nearer r.middle d'.toRat d.toRat := by
  have power := ten_zpow_pos d.exponent
  rcases Nat.lt_or_ge (r.floor d.exponent) d.coefficient with more | less
  · have above : (r.up d.exponent).toRat ≤ d.toRat :=
      mul_le_mul_of_nonneg_right (Nat.cast_le.mpr more) power.le
    have middle := (lt_up h.den_pos d.exponent).le
    exact ⟨_, .inr rfl, h.contains_middle.convex inside middle above, nearer_of_ge middle above⟩
  · have below : d.toRat ≤ (r.down d.exponent).toRat :=
      mul_le_mul_of_nonneg_right (Nat.cast_le.mpr less) power.le
    have middle := down_le h.den_pos d.exponent
    exact ⟨_, .inl rfl, inside.convex h.contains_middle below middle, nearer_of_le below middle⟩

theorem pick?_ne_none (h : r.IsAround) {d : Digits} (inside : r.Contains d.toRat) (tie : Tie) :
    r.pick? tie d.exponent ≠ none := by
  obtain ⟨d', around, inside', -⟩ := exists_around h inside
  have holds : r.holds d' := (holds_iff h.den_pos d').mpr inside'
  rw [Ne, pick?_eq_none_iff]
  rintro ⟨below, above⟩
  rcases around with rfl | rfl
  · exact below holds
  · exact above holds

/-! ## The search -/

/-- **The search stops at the first place that has a decimal**, if it gets there. -/
theorem first_spec {tie : Tie} : ∀ {fuel : Nat} {start : ℤ},
    (∃ k < fuel, r.pick? tie (start - k) ≠ none) →
      ∃ e ≤ start, r.pick? tie e = some (r.first tie fuel start) ∧
        ∀ later, e < later → later ≤ start → r.pick? tie later = none
  | 0, _, h => by
    obtain ⟨k, none, -⟩ := h
    exact absurd none (Nat.not_lt_zero k)
  | fuel + 1, start, h => by
    rw [first]
    cases here : r.pick? tie start with
    | some d => exact ⟨start, le_rfl, here, fun later after upTo => by omega⟩
    | none =>
      have below : ∃ k < fuel, r.pick? tie (start - 1 - k) ≠ none := by
        obtain ⟨k, within, found⟩ := h
        cases k with
        | zero =>
          rw [Nat.cast_zero, sub_zero] at found
          exact absurd here found
        | succ k =>
          refine ⟨k, Nat.lt_of_succ_lt_succ within, ?_⟩
          rwa [Nat.cast_succ, add_comm, ← sub_sub] at found
      obtain ⟨e, upTo, found, before⟩ := first_spec below
      refine ⟨e, by omega, found, fun later after most => ?_⟩
      rcases most.lt_or_eq with less | rfl
      · exact before later after (by omega)
      · exact here

end Rounds

/-! ## The first digit -/

/-- **The place of the first digit.** -/
theorem decimalOrder_spec {num den : Nat} (hn : 0 < num) (hd : 0 < den) :
    (10 : ℚ) ^ decimalOrder num den ≤ num / den ∧
      (num / den : ℚ) < 10 ^ (decimalOrder num den + 1) := by
  have pos : (0 : ℚ) < den := Nat.cast_pos.mpr hd
  unfold decimalOrder
  split
  next whole =>
    obtain ⟨least, most⟩ := Text.pow_length_digits (Nat.div_pos whole hd)
    have some := Text.length_digits_pos (num / den)
    generalize (Text.digits (num / den)).length = k at least most some
    have first : ((k : ℤ) - 1) = (k - 1 : ℕ) := by omega
    rw [sub_add_cancel, first, zpow_natCast, zpow_natCast, le_div_iff₀ pos, div_lt_iff₀ pos]
    have low := (Nat.le_div_iff_mul_le hd).mp least
    have high := (Nat.div_lt_iff_lt_mul hd).mp most
    exact ⟨by exact_mod_cast low, by exact_mod_cast high⟩
  next small =>
    have above : num < den := Nat.not_le.mp small
    -- The least whole number that the inverse is not above, less one.
    have ceiling : 0 < (den + num - 1) / num - 1 := by
      have two : 2 ≤ (den + num - 1) / num := (Nat.le_div_iff_mul_le hn).mpr (by omega)
      omega
    obtain ⟨least, most⟩ := Text.pow_length_digits ceiling
    have some := Text.length_digits_pos ((den + num - 1) / num - 1)
    generalize (Text.digits ((den + num - 1) / num - 1)).length = k at least most some
    have low : den ≤ 10 ^ k * num := by
      have bound : (den + num - 1) / num < 10 ^ k + 1 := by omega
      rw [Nat.div_lt_iff_lt_mul hn, Nat.add_mul, Nat.one_mul] at bound
      omega
    have high : 10 ^ (k - 1) * num < den := by
      have bound : 10 ^ (k - 1) + 1 ≤ (den + num - 1) / num := by omega
      rw [Nat.le_div_iff_mul_le hn, Nat.add_mul, Nat.one_mul] at bound
      omega
    have next : (-(k : ℤ) + 1) = -((k - 1 : ℕ) : ℤ) := by omega
    rw [next, zpow_neg, zpow_neg, zpow_natCast, zpow_natCast, le_div_iff₀ pos, div_lt_iff₀ pos,
      inv_mul_le_iff₀ (by positivity), lt_inv_mul_iff₀ (by positivity)]
    exact ⟨by exact_mod_cast low, by exact_mod_cast high⟩

namespace Digits

variable {d : Digits}

theorem coefficient_pos (h : 0 < d.toRat) : 0 < d.coefficient := by
  refine Nat.pos_of_ne_zero fun zero => ?_
  rw [toRat, zero, Nat.cast_zero, zero_mul] at h
  exact lt_irrefl _ h

theorem toRat_power (k : ℕ) (e : ℤ) : (⟨10 ^ k, e⟩ : Digits).toRat = 10 ^ (k + e) := by
  rw [toRat, zpow_add₀ (by norm_num), zpow_natCast]
  push_cast
  rfl

/-- A decimal lies between the powers of ten that its number of digits says. -/
theorem toRat_mem (h : 0 < d.coefficient) :
    (10 : ℚ) ^ (d.count + d.exponent - 1) ≤ d.toRat ∧ d.toRat < 10 ^ (d.count + d.exponent) := by
  obtain ⟨least, most⟩ := Text.pow_length_digits h
  have some : 0 < d.count := Text.length_digits_pos d.coefficient
  have first : (d.count + d.exponent - 1 : ℤ) = (d.count - 1 : ℕ) + d.exponent := by omega
  rw [first, ← toRat_power, ← toRat_power, toRat, toRat, toRat]
  have power := ten_zpow_pos d.exponent
  exact ⟨mul_le_mul_of_nonneg_right (Nat.cast_le.mpr least) power.le,
    mul_lt_mul_of_pos_right (Nat.cast_lt.mpr most) power⟩

theorem toRat_trimmed (d : Digits) : d.trimmed.toRat = d.toRat := by
  induction d using trimmed.induct with
  | case1 d zero => rw [trimmed, dif_pos zero]
  | case2 d some tenfold ih =>
    rw [trimmed, dif_neg some, if_pos tenfold, ih, toRat, toRat, zpow_add₀ (by norm_num)]
    have whole : (d.coefficient : ℚ) = (d.coefficient / 10 : ℕ) * 10 := by
      exact_mod_cast (Nat.div_mul_cancel (Nat.dvd_of_mod_eq_zero tenfold)).symm
    rw [whole, zpow_one]
    ring
  | case3 d some last => rw [trimmed, dif_neg some, if_neg last]

theorem coefficient_trimmed (h : d.coefficient ≠ 0) : d.trimmed.coefficient % 10 ≠ 0 := by
  induction d using trimmed.induct with
  | case1 d zero => exact absurd zero h
  | case2 d some tenfold ih =>
    rw [trimmed, dif_neg some, if_pos tenfold]
    exact ih (by dsimp only; omega)
  | case3 d some last =>
    rw [trimmed, dif_neg some, if_neg last]
    exact last

/-- A power of ten has one digit only, without the zeros. -/
theorem count_trimmed_le {k : ℕ} (pos : 0 < k) (some : d.coefficient ≠ 0)
    (most : d.coefficient ≤ 10 ^ k) : d.trimmed.count ≤ k := by
  induction d using trimmed.induct with
  | case1 d zero => exact absurd zero some
  | case2 d some tenfold ih =>
    rw [trimmed, dif_neg some, if_pos tenfold]
    exact ih (by dsimp only; omega) ((Nat.div_le_self _ _).trans most)
  | case3 d some last =>
    rw [trimmed, dif_neg some, if_neg last]
    refine (Text.length_digits_le_iff pos).mpr (most.lt_of_ne fun power => last ?_)
    rw [power]
    exact Nat.mod_eq_zero_of_dvd (dvd_pow_self 10 pos.ne')

theorem exponent_le_of_toRat_eq {d' : Digits} (h : d.coefficient % 10 ≠ 0)
    (same : d.toRat = d'.toRat) : d'.exponent ≤ d.exponent := by
  refine Int.not_lt.mp fun less => ?_
  obtain ⟨k, hk⟩ := Int.eq_ofNat_of_zero_le (show 0 ≤ d'.exponent - d.exponent - 1 by omega)
  have exponent : d'.exponent = (k + 1 : ℕ) + d.exponent := by omega
  rw [toRat, toRat, exponent, zpow_add₀ (by norm_num), zpow_natCast, ← mul_assoc] at same
  have coefficient : d.coefficient = d'.coefficient * 10 ^ (k + 1) := by
    exact_mod_cast mul_right_cancel₀ (ten_zpow_pos d.exponent).ne' same
  rw [coefficient, Nat.pow_succ, ← Nat.mul_assoc] at h
  exact h (Nat.mul_mod_left _ _)

/-- Without zeros at their ends two decimals are not the same number. -/
theorem eq_of_toRat_eq {d' : Digits} (h : d.coefficient % 10 ≠ 0)
    (h' : d'.coefficient % 10 ≠ 0) (same : d.toRat = d'.toRat) : d = d' := by
  have exponent : d.exponent = d'.exponent :=
    Int.le_antisymm (exponent_le_of_toRat_eq h' same.symm) (exponent_le_of_toRat_eq h same)
  have coefficient : d.coefficient = d'.coefficient := by
    rw [toRat, toRat, exponent] at same
    exact_mod_cast mul_right_cancel₀ (ten_zpow_pos d'.exponent).ne' same
  cases d
  cases d'
  cases exponent
  cases coefficient
  rfl

end Digits

/-! ## The shortest decimal of an interval -/

namespace Rounds

variable {r : Rounds}

/-- **Of as many digits as any decimal in the interval there is one at the place where a number of
the size of the middle has so many**, and it is as near. -/
theorem exists_at_place (h : r.IsAround) {d : Digits} (some : 0 < d.toRat)
    (inside : r.Contains d.toRat) :
    ∃ d' : Digits, d'.exponent = decimalOrder r.value r.den - d.count + 1 ∧
      r.Contains d'.toRat ∧ Nearer r.middle d'.toRat d.toRat := by
  have value : 0 < r.value := Nat.zero_lt_of_lt h.low_lt
  obtain ⟨least, most⟩ := decimalOrder_spec value h.den_pos
  obtain ⟨low, high⟩ := Digits.toRat_mem (Digits.coefficient_pos some)
  have one : 0 < d.count := Text.length_digits_pos d.coefficient
  generalize decimalOrder r.value r.den = order at least most
  have ten : (1 : ℚ) < 10 := by norm_num
  rcases lt_or_ge d.toRat (10 ^ order) with below | atLeast
  · -- The first power of ten below the middle is in between.
    have power : (⟨10 ^ (d.count - 1), order - d.count + 1⟩ : Digits).toRat = 10 ^ order := by
      rw [Digits.toRat_power]
      congr 1
      omega
    refine ⟨⟨10 ^ (d.count - 1), order - d.count + 1⟩, rfl, ?_, ?_⟩
    · rw [power]
      exact inside.convex h.contains_middle below.le least
    · rw [power]
      exact nearer_of_le below.le least
  · rcases lt_or_ge d.toRat (10 ^ (order + 1)) with within | above
    · refine ⟨d, ?_, inside, .inr ⟨rfl, le_rfl⟩⟩
      have up := (zpow_lt_zpow_iff_right₀ ten).mp (low.trans_lt within)
      have down := (zpow_lt_zpow_iff_right₀ ten).mp (atLeast.trans_lt high)
      omega
    · have power : (⟨10 ^ d.count, order - d.count + 1⟩ : Digits).toRat = 10 ^ (order + 1) := by
        rw [Digits.toRat_power]
        congr 1
        omega
      refine ⟨⟨10 ^ d.count, order - d.count + 1⟩, rfl, ?_, ?_⟩
      · rw [power]
        exact h.contains_middle.convex inside most.le above
      · rw [power]
        exact nearer_of_ge most.le above

/-- **The search finds the shortest decimal**, if there is one of so many digits. -/
theorem first_shortest (h : r.IsAround) (low : 0 < r.low) {fuel : Nat}
    (enough : ∃ k < fuel, ∃ c : ℕ,
      r.Contains (⟨c, decimalOrder r.value r.den - k⟩ : Digits).toRat) :
    let d := (r.first .up fuel (decimalOrder r.value r.den)).trimmed
    d.coefficient % 10 ≠ 0 ∧ r.Contains d.toRat ∧
      ∀ d' : Digits, r.Contains d'.toRat →
        d.count ≤ d'.count ∧ (d'.count = d.count → Nearer r.middle d.toRat d'.toRat) := by
  have value : 0 < r.value := Nat.zero_lt_of_lt h.low_lt
  obtain ⟨-, most⟩ := decimalOrder_spec value h.den_pos
  have found : ∃ k < fuel, r.pick? .up (decimalOrder r.value r.den - k) ≠ none := by
    obtain ⟨k, within, c, inside⟩ := enough
    exact ⟨k, within, pick?_ne_none h inside .up⟩
  obtain ⟨e, upTo, pick, before⟩ := first_spec found
  have at_place {d : Digits} (some : 0 < d.toRat) (inside : r.Contains d.toRat) :=
    exists_at_place h some inside
  generalize r.first .up fuel (decimalOrder r.value r.den) = d at pick ⊢
  generalize decimalOrder r.value r.den = order at *
  obtain ⟨around, inside, nearest⟩ := pick?_eq_some h.den_pos pick
  have some : 0 < d.coefficient := Digits.coefficient_pos (inside.pos low h.den_pos)
  -- The search stopped where a number of the size of the middle has this many digits.
  obtain ⟨n, hn⟩ := Int.eq_ofNat_of_zero_le (show 0 ≤ order - e by omega)
  have few : d.coefficient ≤ 10 ^ (n + 1) := by
    have floor : ((r.floor e : ℕ) : ℚ) * 10 ^ e < ((10 ^ (n + 1) : ℕ) : ℚ) * 10 ^ e := by
      have power := Digits.toRat_power (n + 1) e
      have exponent : ((n + 1 : ℕ) : ℤ) + e = order + 1 := by omega
      rw [exponent, Digits.toRat] at power
      rw [power]
      exact (down_le h.den_pos e).trans_lt most
    have less := Nat.cast_lt.mp (lt_of_mul_lt_mul_right floor (ten_zpow_pos e).le)
    rcases around with rfl | rfl
    · exact less.le
    · exact less
  have count := Digits.count_trimmed_le n.succ_pos some.ne' few
  refine ⟨Digits.coefficient_trimmed some.ne', by rwa [Digits.toRat_trimmed], fun d' inside' => ?_⟩
  obtain ⟨d'', place, inside'', nearer⟩ := at_place (inside'.pos low h.den_pos) inside'
  have fewest : n + 1 ≤ d'.count := by
    refine Nat.not_lt.mp fun less => ?_
    have one : 0 < d'.count := Text.length_digits_pos d'.coefficient
    exact pick?_ne_none h inside'' .up (before d''.exponent (by omega) (by omega))
  refine ⟨count.trans fewest, fun same => ?_⟩
  have exponent : d''.exponent = e := by omega
  obtain ⟨d₁, around', inside₁, nearer₁⟩ := exists_around h inside''
  rw [exponent] at around'
  rw [Digits.toRat_trimmed]
  exact Nearer.trans (nearest d₁ around' inside₁) (Nearer.trans nearer₁ nearer)

end Rounds

end SqlBroker.Decimal
