import SqlBroker.Decimal.Binary64

/-!
# Rounding quotients

A quotient is rounded to one of the two whole numbers around it, and to itself if it is whole.

Headlines:
* **`roundHalfEven_mem`**: rounding stays between whole numbers.
* **`roundHalfEven_mul_eq_iff`**: only whole quotients are not changed.
-/

namespace SqlBroker.Decimal

theorem roundHalfEven_cases (num den : Nat) :
    roundHalfEven num den = num / den ∨
      roundHalfEven num den = num / den + 1 ∧ den ≤ 2 * (num % den) := by
  unfold roundHalfEven
  dsimp only
  split
  · exact .inl rfl
  · split
    · exact .inr ⟨rfl, by omega⟩
    · split
      · exact .inl rfl
      · exact .inr ⟨rfl, by omega⟩

/-- An odd whole part is rounded up from the half on. -/
theorem roundHalfEven_of_odd {num den : Nat} (odd : num / den % 2 = 1) :
    roundHalfEven num den = if den ≤ 2 * (num % den) then num / den + 1 else num / den := by
  unfold roundHalfEven
  dsimp only
  by_cases less : 2 * (num % den) < den
  · rw [if_pos less, if_neg (by omega)]
  · rw [if_neg less, if_neg (c := num / den % 2 = 0) (by omega), if_pos (c := den ≤ _) (by omega),
      ite_self]

/-- A quotient that is whole is not rounded. -/
theorem roundHalfEven_of_dvd {num den : Nat} (pos : 0 < den) (h : den ∣ num) :
    roundHalfEven num den = num / den := by
  have whole : num % den = 0 := Nat.mod_eq_zero_of_dvd h
  rcases roundHalfEven_cases num den with down | ⟨-, half⟩
  · exact down
  · omega

theorem roundHalfEven_one (num : Nat) : roundHalfEven num 1 = num := by
  rw [roundHalfEven_of_dvd Nat.one_pos (Nat.one_dvd num), Nat.div_one]

/-- A quotient between whole numbers is rounded to one that is. -/
theorem roundHalfEven_mem {num den low high : Nat} (pos : 0 < den) (above : low * den ≤ num)
    (below : num < high * den) :
    low ≤ roundHalfEven num den ∧ roundHalfEven num den ≤ high := by
  have lowest : low ≤ num / den := (Nat.le_div_iff_mul_le pos).mpr above
  have highest : num / den < high := (Nat.div_lt_iff_lt_mul pos).mpr below
  rcases roundHalfEven_cases num den with down | ⟨up, -⟩
  · omega
  · omega

/-- A quotient is what it is rounded to only if it is whole. -/
theorem roundHalfEven_mul_eq_iff {num den : Nat} (pos : 0 < den) :
    roundHalfEven num den * den = num ↔ den ∣ num := by
  constructor
  · intro h
    exact ⟨roundHalfEven num den, by rw [Nat.mul_comm, h]⟩
  · intro h
    rw [roundHalfEven_of_dvd pos h, Nat.div_mul_cancel h]

end SqlBroker.Decimal
