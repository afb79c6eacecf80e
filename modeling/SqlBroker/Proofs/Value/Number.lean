import SqlBroker.Proofs.Decimal.Whole
import SqlBroker.Proofs.Plan
import SqlBroker.Row.Reader

/-!
# Numbers that pass through

Values without a type of their own are taken as they are, but a whole number past the signed ones of
64 bits is taken as the float nearest to it. Of these numbers, which JSON and unsigned columns can
hold, only the multiples of 2048 are floats; all others become one of their two neighbours.

Concerns `from_json` and `parse` (SPEC_FULL.md, section 4.1).

Headlines:
* **`Value.number_ofJson_of_le`**: what becomes of a number past the signed ones.
* **`Value.number_ofJson_int`**: a whole number passes unchanged if it is signed or such a multiple,
  and no other does; also if it was read from an unsigned column and comes back as an operand or to
  be written.
-/

namespace SqlBroker

open Decimal

namespace Value

/-- The number that a value is, if it is one. -/
def number? : Value → Option ℚ
  | .int n => some n
  | .float x => if x.isFinite then some x.toRat else none
  | _ => none

/-! ## Signed numbers -/

variable {n : Int}

theorem ofJson_of_lt (low : -2 ^ 63 ≤ n) (h : n < 2 ^ 63) : ofJson (.int n) = .int n := by
  have fits : fitsSigned n := by
    simp only [fitsSigned, Bool.and_eq_true, decide_eq_true_eq]
    omega
  change (if fitsSigned n then Value.int n else .float (.ofInt n)) = .int n
  rw [if_pos fits]

theorem ofJson_of_le (h : 2 ^ 63 ≤ n) : ofJson (.int n) = .float (.ofInt n) := by
  have large : ¬ fitsSigned n := by
    simp only [fitsSigned, Bool.and_eq_true, decide_eq_true_eq]
    omega
  change (if fitsSigned n then Value.int n else .float (.ofInt n)) = .float (.ofInt n)
  rw [if_neg large]

/-! ## Numbers past them -/

/-- The order of the numbers of 64 bits that are not signed. -/
theorem log2_of_le (h : 2 ^ 63 ≤ n) (high : n < 2 ^ 64) : n.natAbs.log2 = 63 := by
  have nonzero : n.natAbs ≠ 0 := by omega
  exact (Nat.log2_eq_iff nonzero).mpr ⟨by omega, by omega⟩

theorem log2_le_of_le (h : 2 ^ 63 ≤ n) (high : n < 2 ^ 64) : n.natAbs.log2 ≤ 1022 := by
  rw [log2_of_le h high]
  omega

/-- Eleven of their bits are too many for a float. -/
theorem two_pow_excess (h : 2 ^ 63 ≤ n) (high : n < 2 ^ 64) :
    2 ^ Binary64.excess n.natAbs = 2048 := by
  rw [Binary64.excess, log2_of_le h high]
  rfl

/-- **A number past the signed ones is rounded to a multiple of 2048.** -/
theorem number_ofJson_of_le (h : 2 ^ 63 ≤ n) (high : n < 2 ^ 64) :
    (ofJson (.int n)).number? = some ((2048 * roundHalfEven n.toNat 2048 : Nat) : ℚ) := by
  obtain ⟨finite, value⟩ := Binary64.toRat_ofInt (log2_le_of_le h high)
  have size : n.natAbs = n.toNat := by omega
  rw [ofJson_of_le h, number?, if_pos finite, value, if_neg (by omega), one_mul, Binary64.rounded,
    two_pow_excess h high, size, Nat.mul_comm]

/-- Numbers past the signed ones are told apart as far as they are rounded to different ones. -/
theorem ofInt_inj {m : Int} (hm : 2 ^ 63 ≤ m) (highm : m < 2 ^ 64) (hn : 2 ^ 63 ≤ n)
    (highn : n < 2 ^ 64) :
    Binary64.ofInt m = .ofInt n ↔ roundHalfEven m.toNat 2048 = roundHalfEven n.toNat 2048 := by
  constructor
  · intro same
    have numbers : (ofJson (.int m)).number? = (ofJson (.int n)).number? := by
      rw [ofJson_of_le hm, ofJson_of_le hn, same]
    rw [number_ofJson_of_le hm highm, number_ofJson_of_le hn highn] at numbers
    have products : 2048 * roundHalfEven m.toNat 2048 = 2048 * roundHalfEven n.toNat 2048 :=
      Nat.cast_injective (Option.some.inj numbers)
    omega
  · intro same
    have bits {k : Int} (h : 2 ^ 63 ≤ k) (high : k < 2 ^ 64) :
        Binary64.ofInt k = .ofSizeBits false (roundHalfEven k.toNat 2048 + 1085 * 2 ^ 52) := by
      have positive : decide (k < 0) = false := decide_eq_false (by omega)
      have size : k.natAbs = k.toNat := by omega
      rw [Binary64.ofInt_eq (by omega), positive, Binary64.leading, log2_of_le h high,
        if_neg (by decide), two_pow_excess h high, size]
    rw [bits hm highm, bits hn highn, same]

/-! ## All whole numbers -/

/-- A whole number is read as it is by every type that reads it. -/
theorem read_int {type : Option ValueType} {v : Value} (h : Value.read type (.int n) = .ok v) :
    v = ofJson (.int n) := by
  cases type with
  | none => exact (Except.ok.inj h).symm
  | some type => cases type <;> first | exact (Except.ok.inj h).symm | exact nomatch h

theorem toJson_unsigned {type : String} (h : ColumnKind.isUnsigned type) (n : Int) :
    (Cell.int n).toJson .mysql (.ofType .mysql type) = .int n := by
  rw [ColumnKind.ofType, if_pos h]
  rfl

/-- Whether a whole number is signed, or a float for all that. -/
def IsKept (n : Int) : Prop := n < 2 ^ 63 ∨ 2048 ∣ n

theorem number_ofJson_eq_iff (low : -2 ^ 63 ≤ n) (high : n < 2 ^ 64) :
    (ofJson (.int n)).number? = some (n : ℚ) ↔ IsKept n := by
  unfold IsKept
  by_cases h : n < 2 ^ 63
  · rw [ofJson_of_lt low h]
    exact ⟨fun _ => .inl h, fun _ => rfl⟩
  · have large : 2 ^ 63 ≤ n := not_lt.mp h
    have small := log2_le_of_le large high
    rw [ofJson_of_le large, number?, if_pos (Binary64.toRat_ofInt small).1, Option.some_inj,
      Binary64.toRat_ofInt_eq_iff small, two_pow_excess large high]
    omega

/-- Two whole numbers become one value only if neither is signed and both are rounded to the same
one. -/
theorem ofJson_int_eq_iff {m : Int} (lowm : -2 ^ 63 ≤ m) (highm : m < 2 ^ 64)
    (low : -2 ^ 63 ≤ n) (high : n < 2 ^ 64) :
    ofJson (.int m) = ofJson (.int n) ↔
      m = n ∨ 2 ^ 63 ≤ m ∧ 2 ^ 63 ≤ n ∧
        roundHalfEven m.toNat 2048 = roundHalfEven n.toNat 2048 := by
  by_cases hm : m < 2 ^ 63
  · by_cases hn : n < 2 ^ 63
    · rw [ofJson_of_lt lowm hm, ofJson_of_lt low hn, Value.int.injEq]
      omega
    · rw [ofJson_of_lt lowm hm, ofJson_of_le (not_lt.mp hn)]
      constructor
      · intro same
        exact nomatch same
      · omega
  · by_cases hn : n < 2 ^ 63
    · rw [ofJson_of_le (not_lt.mp hm), ofJson_of_lt low hn]
      constructor
      · intro same
        exact nomatch same
      · omega
    · have largem : 2 ^ 63 ≤ m := not_lt.mp hm
      have largen : 2 ^ 63 ≤ n := not_lt.mp hn
      rw [ofJson_of_le largem, ofJson_of_le largen, Value.float.injEq,
        ofInt_inj largem highm largen high]
      constructor
      · intro same
        exact .inr ⟨largem, largen, same⟩
      · rintro (rfl | ⟨-, -, same⟩)
        · rfl
        · exact same

/-- **A whole number passes unchanged exactly if it is kept.** Two of them become one value only if
neither is signed and both are rounded to the same one. What an unsigned column holds comes back no
better. -/
theorem number_ofJson_int (low : -2 ^ 63 ≤ n) (high : n < 2 ^ 64) :
    ((ofJson (.int n)).number? = some (n : ℚ) ↔ IsKept n) ∧
    (∀ m, -2 ^ 63 ≤ m → m < 2 ^ 64 → (ofJson (.int m) = ofJson (.int n) ↔
      m = n ∨ 2 ^ 63 ≤ m ∧ 2 ^ 63 ≤ n ∧
        roundHalfEven m.toNat 2048 = roundHalfEven n.toNat 2048)) ∧
    ∀ type, ColumnKind.isUnsigned type → 0 ≤ n →
      let sent := (Cell.int n).toJson .mysql (.ofType .mysql type)
      (∀ declared v, Value.read declared sent = .ok v → (v.number? = some (n : ℚ) ↔ IsKept n)) ∧
      ∀ t column as, Plan.assignments t [(column, sent)] = .ok as →
        ∃ v, as = [⟨column, v⟩] ∧ (v.number? = some (n : ℚ) ↔ IsKept n) := by
  have kept := number_ofJson_eq_iff low high
  refine ⟨kept, ?_, ?_⟩
  · intro m lowm highm
    exact ofJson_int_eq_iff lowm highm low high
  · intro type unsigned _ sent
    have whole : sent = .int n := toJson_unsigned unsigned n
    rw [whole]
    constructor
    · intro declared v h
      rw [read_int h]
      exact kept
    · intro t column as h
      exact ⟨_, Plan.eq_of_assignments h, kept⟩

/-- The first number past the signed ones is kept; the next is not, nor when it comes back from an
unsigned column. -/
theorem number_ofJson_int_unsigned :
    (ofJson (.int (2 ^ 63))).number? = some ((2 ^ 63 : Int) : ℚ) ∧
    (∃ v, Value.read (some .number)
        ((Cell.int (2 ^ 63 + 1)).toJson .mysql (.ofType .mysql "BIGINT UNSIGNED")) = .ok v ∧
      v.number? ≠ some ((2 ^ 63 + 1 : Int) : ℚ)) := by
  have first := (number_ofJson_int (n := 2 ^ 63) (by decide) (by decide)).1
  have next := (number_ofJson_int (n := 2 ^ 63 + 1) (by decide) (by decide)).2.2
    "BIGINT UNSIGNED" (by decide) (by decide)
  have lost : ¬ IsKept (2 ^ 63 + 1) := by
    unfold IsKept
    omega
  constructor
  · exact first.mpr (.inr (by decide))
  · refine ⟨_, rfl, ?_⟩
    rw [Ne, next.1 (some .number) _ rfl]
    exact lost

/-- Two numbers become one value. -/
theorem ofJson_int_not_injective :
    (2 ^ 63 + 1 : Int) ≠ 2 ^ 63 ∧ ofJson (.int (2 ^ 63 + 1)) = ofJson (.int (2 ^ 63)) :=
  ⟨by decide, rfl⟩

end Value

end SqlBroker
