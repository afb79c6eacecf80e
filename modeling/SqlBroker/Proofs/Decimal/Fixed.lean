import SqlBroker.Decimal.Fixed
import SqlBroker.Proofs.Text.Digits

/-!
# Which decimals can be read

A decimal of any length is read as far as a coefficient of 96 bits goes. What is left of it is
rounded, and only where that leaves a whole part too large it does not read: from the half before
the least coefficient that is too large.

Headlines:
* **`Fixed.Written.ofText?_chars`**: a decimal is read as it is written.
* **`Fixed.read?_eq_none_iff`**: it does not read exactly if it is too large.
-/

namespace SqlBroker.Decimal.Fixed

open Text (AreDigits)

/-! ## Written decimals -/

namespace Written

/-- A decimal as it is written. -/
def chars (w : Written) : List Char :=
  (if w.negative then ['-'] else []) ++ w.whole ++ if w.places = [] then [] else '.' :: w.places

/-- The digits of a written decimal are digits, and at least one stands before the point. -/
structure IsDecimal (w : Written) : Prop where
  whole : AreDigits w.whole
  places : AreDigits w.places
  nonempty : w.whole ≠ []

instance (w : Written) : Decidable w.IsDecimal :=
  decidable_of_iff (AreDigits w.whole ∧ AreDigits w.places ∧ w.whole ≠ [])
    ⟨fun h => ⟨h.1, h.2.1, h.2.2⟩, fun h => ⟨h.whole, h.places, h.nonempty⟩⟩

/-- The digits of a written decimal as one number. -/
def coefficient (w : Written) : Nat := Nat.ofDigitChars 10 (w.whole ++ w.places) 0

/-- Whether the size of a written decimal is not below the half before the least coefficient that is
too large. -/
def IsTooLarge (w : Written) : Prop :=
  (2 * coefficientLimit - 1) * 10 ^ w.places.length ≤ 2 * w.coefficient

instance (w : Written) : Decidable w.IsTooLarge := inferInstanceAs (Decidable (_ ≤ _))

variable {w : Written}

theorem ne_point {c : Char} (h : c.isDigit) : c ≠ '.' := by
  rintro rfl
  exact absurd h (by decide)

theorem ofUnsigned?_digits (h : w.IsDecimal) :
    ofUnsigned? w.negative (w.whole ++ if w.places = [] then [] else '.' :: w.places) = some w := by
  have whole : ∀ c ∈ w.whole, (decide (c ≠ '.')) = true := fun c mem =>
    decide_eq_true (ne_point (h.whole c mem))
  have digits : (w.whole ++ w.places).all Char.isDigit :=
    List.all_eq_true.mpr (h.whole.append h.places)
  have nonempty : w.whole ++ w.places ≠ [] := by simp [h.nonempty]
  have parts :
      (w.whole ++ if w.places = [] then [] else '.' :: w.places).takeWhile (· ≠ '.') = w.whole ∧
      ((w.whole ++ if w.places = [] then [] else '.' :: w.places).dropWhile (· ≠ '.')).drop 1 =
        w.places := by
    rw [List.takeWhile_append_of_pos whole, List.dropWhile_append_of_pos whole]
    by_cases none : w.places = []
    · rw [if_pos none, none]
      simp
    · rw [if_neg none]
      simp
  unfold ofUnsigned?
  dsimp only
  rw [parts.1, parts.2, if_pos ⟨nonempty, digits⟩]

/-- **A decimal is read as it is written.** -/
theorem ofText?_chars (h : w.IsDecimal) : ofText? (String.ofList w.chars) = some w := by
  have unsigned := ofUnsigned?_digits h
  obtain ⟨d, ds, same⟩ := List.exists_cons_of_ne_nil h.nonempty
  have digit : d.isDigit := h.whole d (same ▸ List.mem_cons_self)
  unfold ofText? chars
  rw [String.toList_ofList, List.append_assoc]
  cases negative : w.negative with
  | true =>
    rw [negative] at unsigned
    exact unsigned
  | false =>
    rw [negative, same] at unsigned
    rw [if_neg Bool.false_ne_true, List.nil_append, same]
    split
    next cs minus =>
      obtain rfl := (List.cons.inj minus).1
      exact absurd digit (by decide)
    next cs plus =>
      obtain rfl := (List.cons.inj plus).1
      exact absurd digit (by decide)
    next => exact unsigned

/-- The digits as one number, by those before and after the point. -/
theorem coefficient_eq (w : Written) :
    w.coefficient = Nat.ofDigitChars 10 w.places (Nat.ofDigitChars 10 w.whole 0) :=
  Nat.ofDigitChars_append ..

end Written

/-! ## Reading places -/

/-- Rounding fails only without a place to give up. -/
theorem rounded?_eq_none_iff {n scale left : Nat} :
    rounded? n scale left = none ↔ 5 ≤ left ∧ coefficientLimit ≤ n + 1 ∧ scale = 0 := by
  unfold rounded?
  split
  · simp; omega
  · split
    · simp; omega
    · cases scale with
      | zero => simp; omega
      | succ scale => simp

/-- Once there is a place, reading never fails. -/
theorem readPlaces?_ne_none : ∀ {cs : List Char}, AreDigits cs → ∀ (n scale : Nat),
    readPlaces? n (scale + 1) cs ≠ none
  | [], _, _, _ => by simp [readPlaces?]
  | c :: cs, digits, n, scale => by
    obtain ⟨digit, later⟩ := List.forall_mem_cons.mp digits
    rw [readPlaces?, Text.digitValue?_of_isDigit digit]
    change (if _ then _ else _) ≠ none
    split
    · exact readPlaces?_ne_none later _ _
    · rw [Ne, rounded?_eq_none_iff]
      omega

/-- What a number comes to with one more digit and the rest, against the half below the limit. -/
theorem half_le_iff {power n d rest : Nat} (fits : n < coefficientLimit)
    (digit : d < 10) (small : rest < power) :
    (2 * coefficientLimit - 1) * (power * 10) ≤ 2 * (power * (10 * n + d) + rest) ↔
      5 ≤ d ∧ coefficientLimit ≤ n + 1 := by
  unfold coefficientLimit at fits ⊢
  by_cases last : 2 ^ 96 ≤ n + 1
  · obtain rfl : n = 2 ^ 96 - 1 := by omega
    have parts : power * (10 * (2 ^ 96 - 1) + d) = power * (10 * (2 ^ 96 - 1)) + power * d :=
      Nat.mul_add ..
    by_cases up : 5 ≤ d
    · have most : power * 5 ≤ power * d := Nat.mul_le_mul_left power up
      constructor
      · intro _
        exact ⟨up, last⟩
      · intro _
        omega
    · have least : power * d ≤ power * 4 := Nat.mul_le_mul_left power (by omega)
      constructor
      · intro _
        omega
      · intro h
        exact absurd h.1 up
  · have least : power * (10 * n + d) ≤ power * (10 * (2 ^ 96 - 2) + 9) :=
      Nat.mul_le_mul_left power (by omega)
    constructor
    · intro _
      omega
    · intro h
      exact absurd h.2 last

/-- **Places fail at the first one alone**, where it rounds up the last coefficient that fits. -/
theorem readPlaces?_eq_none_iff {n : Nat} (fits : n < coefficientLimit) :
    ∀ {cs : List Char}, AreDigits cs → (readPlaces? n 0 cs = none ↔
      (2 * coefficientLimit - 1) * 10 ^ cs.length ≤ 2 * Nat.ofDigitChars 10 cs n)
  | [], _ => by
    unfold coefficientLimit at fits ⊢
    simp [readPlaces?]
    omega
  | c :: cs, digits => by
    obtain ⟨digit, later⟩ := List.forall_mem_cons.mp digits
    have value : c.toNat - '0'.toNat < 10 := Text.digit_lt digit
    rw [readPlaces?, Text.digitValue?_of_isDigit digit, List.length_cons, Nat.pow_succ,
      Nat.ofDigitChars_cons, Nat.ofDigitChars_eq_ofDigitChars_zero]
    generalize c.toNat - '0'.toNat = d at value ⊢
    have rest : Nat.ofDigitChars 10 cs 0 < 10 ^ cs.length := Text.ofDigitChars_lt later
    rw [half_le_iff fits value rest]
    change (if 0 < scaleMax ∧ 10 * n + d < coefficientLimit then
      readPlaces? (10 * n + d) (0 + 1) cs else rounded? n 0 d) = none ↔ _
    by_cases more : 0 < scaleMax ∧ 10 * n + d < coefficientLimit
    · have never := readPlaces?_ne_none later (10 * n + d) 0
      rw [if_pos more]
      constructor
      · intro h
        exact absurd h never
      · intro h
        have fewer : 10 * n + d < coefficientLimit := more.2
        unfold coefficientLimit at h fewer
        omega
    · rw [if_neg more, rounded?_eq_none_iff]
      simp

/-- **A decimal does not read exactly if it is too large.** -/
theorem read?_eq_none_iff {w : Written} (h : w.IsDecimal) :
    read? (String.ofList w.chars) = none ↔ w.IsTooLarge := by
  have places : 0 < 10 ^ w.places.length := Nat.pow_pos (by decide)
  unfold read? Written.IsTooLarge
  rw [Written.ofText?_chars h, Written.coefficient_eq]
  change (if Nat.ofDigitChars 10 w.whole 0 < coefficientLimit then
    (readPlaces? (Nat.ofDigitChars 10 w.whole 0) 0 w.places).bind fun x =>
      some (Fixed.mk w.negative x.1 x.2) else none) = none ↔ _
  by_cases fits : Nat.ofDigitChars 10 w.whole 0 < coefficientLimit
  · rw [if_pos fits, ← readPlaces?_eq_none_iff fits h.places]
    cases readPlaces? (Nat.ofDigitChars 10 w.whole 0) 0 w.places with
    | none => simp
    | some x => simp
  · have large : 10 ^ w.places.length * coefficientLimit ≤
        10 ^ w.places.length * Nat.ofDigitChars 10 w.whole 0 :=
      Nat.mul_le_mul_left _ (Nat.le_of_not_lt fits)
    rw [if_neg fits, Nat.ofDigitChars_eq_ofDigitChars_zero]
    unfold coefficientLimit at large ⊢
    constructor
    · intro _
      omega
    · intro _
      rfl

end SqlBroker.Decimal.Fixed
