import SqlBroker.Proofs.Decimal.Shortest
import SqlBroker.Value.Basic

/-!
# Floats as patterns have them

A pattern has a float as the digits of its whole part and, after a point, those of the rest, however
large or small it is (`Binary64.IsWritten`).

Headlines:
* **`Digits.isPlain_iff`**: cutting the digits of the coefficient, or filling them up with zeros,
  gives the whole part and the rest.
* **`Binary64.isWritten_iff`**: the text of a float is the one that it is written as.
-/

namespace SqlBroker

open Text (AreDigits)

/-! ## Digits -/

namespace Text

/-- **The digits of a number are those of its quotient by a power of ten and of the remainder.** -/
theorem digits_eq_append {n k : Nat} (pos : 0 < k) (long : k < (digits n).length) :
    digits n = digits (n / 10 ^ k) ++ padded k (n % 10 ^ k) := by
  have power : 0 < 10 ^ k := Nat.pow_pos (by decide)
  have small : n % 10 ^ k < 10 ^ k := Nat.mod_lt _ power
  have some : 0 < n := by
    refine Nat.pos_of_ne_zero fun zero => ?_
    rw [zero] at long
    exact absurd pos (Nat.not_lt.mpr (Nat.le_of_lt_succ long))
  obtain ⟨least, most⟩ := pow_length_digits some
  -- Without its last digits the number has that many fewer.
  have split {m : Nat} (h : m ≤ (digits n).length) (upTo : k ≤ m) :
      10 ^ m = 10 ^ (m - k) * 10 ^ k := by rw [← Nat.pow_add, Nat.sub_add_cancel upTo]
  have length : (digits (n / 10 ^ k)).length = (digits n).length - k := by
    refine Nat.le_antisymm ?_ (Nat.not_lt.mp fun less => ?_)
    · rw [length_digits_le_iff (by omega), Nat.div_lt_iff_lt_mul power,
        ← split le_rfl long.le]
      exact most
    · have first := length_digits_pos (n / 10 ^ k)
      have short : (digits (n / 10 ^ k)).length ≤ (digits n).length - 1 - k := by omega
      rw [length_digits_le_iff (by omega), Nat.div_lt_iff_lt_mul power,
        ← split (Nat.sub_le _ _) (by omega)] at short
      omega
  refine eq_of_ofDigitChars_eq (areDigits_digits n)
    ((areDigits_digits _).append (areDigits_padded _ _)) ?_ ?_
  · rw [List.length_append, length_padded pos small, length]
    omega
  · rw [Nat.ofDigitChars_append,
      Nat.ofDigitChars_eq_ofDigitChars_zero (l := padded k (n % 10 ^ k)), ofDigitChars_padded,
      length_padded pos small, digits, digits, Nat.ofDigitChars_ten_toDigits,
      Nat.ofDigitChars_ten_toDigits, Nat.div_add_mod]

theorem digits_mul_pow {n : Nat} (pos : 0 < n) : ∀ k : Nat,
    digits (n * 10 ^ k) = digits n ++ List.replicate k '0'
  | 0 => by rw [pow_zero, Nat.mul_one, List.replicate_zero, List.append_nil]
  | k + 1 => by
    have zero : Nat.toDigits 10 0 = ['0'] := rfl
    have some : 0 < n * 10 ^ k := Nat.mul_pos pos (Nat.pow_pos (by decide))
    have step := Nat.toDigits_append_toDigits (b := 10) (by decide) some (show 0 < 10 by decide)
    have number : n * 10 ^ (k + 1) = 10 * (n * 10 ^ k) + 0 := by
      rw [Nat.pow_succ, ← Nat.mul_assoc]
      omega
    rw [number, digits, ← step, zero, ← digits, digits_mul_pow pos k, List.append_assoc,
      List.replicate_succ']

end Text

namespace Decimal

/-- The digits of a decimal: those of its whole part and, if it has another, those of the rest. -/
inductive Digits.IsPlain (d : Digits) : List Char → Prop
  | whole {k : ℕ} {ws : List Char} (exponent : d.exponent = k)
    (number : Text.IsPadded 1 (d.coefficient * 10 ^ k) ws) : IsPlain d ws
  | parts {k : ℕ} {ws rs : List Char} (pos : 0 < k) (exponent : d.exponent = -k)
    (number : Text.IsPadded 1 (d.coefficient / 10 ^ k) ws)
    (rest : Text.IsPadded k (d.coefficient % 10 ^ k) rs) : IsPlain d (ws ++ '.' :: rs)

/-- The whole part and the rest of a decimal in positional notation. -/
theorem Digits.positional_eq {d : Digits} (some : 0 < d.coefficient) :
    d.positional false =
      if 0 ≤ d.exponent then Text.digits (d.coefficient * 10 ^ d.exponent.toNat)
      else
        Text.digits (d.coefficient / 10 ^ d.exponent.natAbs) ++
          '.' :: Text.padded d.exponent.natAbs (d.coefficient % 10 ^ d.exponent.natAbs) := by
  unfold positional
  dsimp only
  split
  next => rw [Text.digits_mul_pow some, if_neg Bool.false_ne_true, List.append_nil]
  next fraction =>
    have pos : 0 < d.exponent.natAbs := by omega
    split
    next whole =>
      have cut := Text.digits_eq_append (n := d.coefficient) pos (by omega)
      have small : d.coefficient % 10 ^ d.exponent.natAbs < 10 ^ d.exponent.natAbs :=
        Nat.mod_lt _ (Nat.pow_pos (by decide))
      have length := congrArg List.length cut
      rw [List.length_append, Text.length_padded pos small] at length
      have front : (Text.digits d.coefficient).length - d.exponent.natAbs =
          (Text.digits (d.coefficient / 10 ^ d.exponent.natAbs)).length := by omega
      rw [front]
      conv_lhs => rw [cut]
      rw [List.take_left, List.drop_left]
    next short =>
      have small : d.coefficient < 10 ^ d.exponent.natAbs :=
        (Text.length_digits_le_iff pos).mp (by omega)
      rw [Nat.div_eq_of_lt small, Nat.mod_eq_of_lt small]
      rfl

/-- **A decimal in positional notation has the digits of its whole part and of the rest.** -/
theorem Digits.isPlain_iff {d : Digits} (some : 0 < d.coefficient) {cs : List Char} :
    d.IsPlain cs ↔ cs = d.positional false := by
  have isPadded {n : ℕ} {ds : List Char} : Text.IsPadded 1 n ds ↔ ds = Text.digits n := by
    rw [Text.isPadded_iff Nat.one_pos, Text.padded_one]
  rw [positional_eq some]
  constructor
  · rintro (⟨exponent, number⟩ | ⟨pos, exponent, number, rest⟩)
    · rw [exponent, if_pos (Int.natCast_nonneg _), Int.toNat_natCast]
      exact isPadded.mp number
    · rw [exponent, if_neg (by omega), Int.natAbs_neg, Int.natAbs_natCast, isPadded.mp number,
        (Text.isPadded_iff pos).mp rest]
  · rintro rfl
    split
    next whole =>
      exact .whole (Int.toNat_of_nonneg whole).symm (isPadded.mpr rfl)
    next fraction =>
      have pos : 0 < d.exponent.natAbs := by omega
      exact .parts pos (by omega) (isPadded.mpr rfl) ((Text.isPadded_iff pos).mpr rfl)

namespace Binary64

/-- The sign of a float. -/
def signChars (x : Binary64) : List Char := if 2 ^ 63 ≤ x.bits.toNat then ['-'] else []

/-- The text that a float is written as. -/
inductive IsWritten (x : Binary64) : List Char → Prop
  | noNumber (field : x.exponentField = 2047) (some : x.fraction ≠ 0) :
    IsWritten x ['N', 'a', 'N']
  | infinite (field : x.exponentField = 2047) (none : x.fraction = 0) :
    IsWritten x (x.signChars ++ ['i', 'n', 'f'])
  | zero (none : x.significand = 0) : IsWritten x (x.signChars ++ ['0'])
  | number {d : Digits} {cs : List Char} (finite : x.exponentField ≠ 2047)
    (some : x.significand ≠ 0) (shortest : x.IsShortest d) (plain : d.IsPlain cs) :
    IsWritten x (x.signChars ++ cs)

theorem signChars_eq (x : Binary64) : (if x.negative then ['-'] else []) = x.signChars := by
  simp only [signChars, negative, decide_eq_true_eq]

theorem IsShortest.coefficient_pos {x : Binary64} {d : Digits} (h : x.IsShortest d) :
    0 < d.coefficient := by
  refine Nat.pos_of_ne_zero fun zero => h.trimmed ?_
  rw [zero]

theorem isWritten_render (x : Binary64) : x.IsWritten (patternLayout.render x) := by
  unfold Layout.render
  dsimp only
  rw [signChars_eq]
  split
  next none => exact .zero ((isZero_iff x).mp none)
  next some =>
    have nonzero : x.isZero = false := Bool.eq_false_iff.mpr some
    split
    next finite =>
      have shortest := isShortest_shortest finite nonzero
      have plain := (Digits.isPlain_iff shortest.coefficient_pos).mpr rfl
      exact .number (bne_iff_ne.mp finite) (mt (isZero_iff x).mpr some) shortest plain
    next infinite =>
      have field : x.exponentField = 2047 := by simpa [isFinite] using infinite
      split
      next h => exact .infinite field (beq_iff_eq.mp (Bool.and_eq_true_iff.mp h).2)
      next h =>
        refine .noNumber field fun none => h ?_
        rw [isInfinite, field, none]
        rfl

/-- A float past all numbers is not zero. -/
theorem significand_of_field {x : Binary64} (field : x.exponentField = 2047) :
    x.significand ≠ 0 := by
  rw [significand, if_neg (by omega)]
  omega

theorem IsWritten.unique {x : Binary64} {cs ds : List Char} (h : x.IsWritten cs)
    (h' : x.IsWritten ds) : cs = ds := by
  cases h with
  | noNumber field some =>
    cases h' with
    | noNumber => rfl
    | infinite _ none => exact absurd none some
    | zero none => exact absurd none (significand_of_field field)
    | number finite => exact absurd field finite
  | infinite field none =>
    cases h' with
    | noNumber _ some => exact absurd none some
    | infinite => rfl
    | zero none => exact absurd none (significand_of_field field)
    | number finite => exact absurd field finite
  | zero none =>
    cases h' with
    | noNumber field => exact absurd none (significand_of_field field)
    | infinite field => exact absurd none (significand_of_field field)
    | zero => rfl
    | number _ some => exact absurd none some
  | number finite some shortest plain =>
    cases h' with
    | noNumber field => exact absurd field finite
    | infinite field => exact absurd field finite
    | zero none => exact absurd none some
    | number _ _ shortest' plain' =>
      obtain rfl := shortest.unique shortest'
      rw [(Digits.isPlain_iff shortest.coefficient_pos).mp plain,
        (Digits.isPlain_iff shortest.coefficient_pos).mp plain']

/-- **The text of a float is the one that it is written as.** -/
theorem isWritten_iff {x : Binary64} {cs : List Char} :
    x.IsWritten cs ↔ cs = patternLayout.render x := by
  constructor
  · intro h
    exact h.unique x.isWritten_render
  · rintro rfl
    exact x.isWritten_render

end Binary64

end Decimal

end SqlBroker
