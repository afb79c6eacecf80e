import Mathlib.Algebra.Group.Int.Defs
import Mathlib.Algebra.Group.Nat.Defs
import Mathlib.Data.List.DropRight
import SqlBroker.Text.Blank
import SqlBroker.Text.Digits

/-!
# Numbers written as digits

A number is read back from its digits, also where they are filled up with zeros to a width.

Headlines:
* **`Text.ofDigitChars_padded`**: filled up or not, digits are the number that they were made of.
* **`Text.length_padded`**: a number that is small enough takes the width.
* **`Text.padded_ofDigitChars`**: a number written in as many digits is the digits that it was read
  from.
* **`Text.isPadded_iff`**: what the digits of a number are, filled up to a width (`Text.IsPadded`).
-/

namespace SqlBroker.Text

/-- A text of digits alone. -/
def AreDigits (cs : List Char) : Prop := ∀ c ∈ cs, c.isDigit

/-- The digits that a number is written in, with zeros before them up to a width. -/
structure IsPadded (width n : Nat) (ds : List Char) : Prop where
  digits : AreDigits ds
  number : Nat.ofDigitChars 10 ds 0 = n
  wide : width ≤ ds.length
  /-- Past the width there is no zero in front. -/
  tight : width < ds.length → 10 ^ (ds.length - 1) ≤ n

instance (cs : List Char) : Decidable (AreDigits cs) :=
  decidable_of_iff (cs.all Char.isDigit) List.all_eq_true

theorem AreDigits.append {cs ds : List Char} (hc : AreDigits cs) (hd : AreDigits ds) :
    AreDigits (cs ++ ds) := by
  intro c mem
  rcases List.mem_append.mp mem with mem | mem
  · exact hc c mem
  · exact hd c mem

theorem areDigits_replicate (n : Nat) : AreDigits (List.replicate n '0') := by
  intro c mem
  rw [List.eq_of_mem_replicate mem]
  rfl

theorem areDigits_digits (n : Nat) : AreDigits (digits n) := fun _ mem =>
  Nat.isDigit_of_mem_toDigits (by decide) (by decide) mem

theorem areDigits_padded (width n : Nat) : AreDigits (padded width n) :=
  (areDigits_replicate _).append (areDigits_digits n)

theorem digitValue?_of_isDigit {c : Char} (h : c.isDigit) :
    digitValue? c = some (c.toNat - '0'.toNat) := if_pos h

theorem digitValue?_of_not_isDigit {c : Char} (h : ¬ c.isDigit) : digitValue? c = none := if_neg h

theorem digit_lt {c : Char} (h : c.isDigit) : c.toNat - '0'.toNat < 10 := by
  have bound : 48 ≤ c.toNat ∧ c.toNat ≤ 57 := Char.isDigit_iff_toNat.mp h
  change c.toNat - 48 < 10
  omega

theorem skipBlanks_skipBlanks (cs : List Char) : skipBlanks (skipBlanks cs) = skipBlanks cs :=
  List.dropWhile_idempotent ..

/-- A digit is no white space. -/
theorem skipBlanks_of_isDigit {c : Char} (h : c.isDigit) (cs : List Char) :
    skipBlanks (c :: cs) = c :: cs := by
  have digit : 48 ≤ c.toNat ∧ c.toNat ≤ 57 := Char.isDigit_iff_toNat.mp h
  have visible : ¬ isBlank c := by
    simp only [isBlank, blankRanges, List.any_cons, List.any_nil, Bool.or_eq_true,
      Bool.and_eq_true, decide_eq_true_eq, Bool.false_eq_true, or_false]
    omega
  exact List.dropWhile_cons_of_neg visible

/-! ## Numbers -/

/-- **Digits are the number that they were made of.** -/
theorem ofDigitChars_padded (width n : Nat) : Nat.ofDigitChars 10 (padded width n) 0 = n := by
  rw [padded, Nat.ofDigitChars_append, Nat.ofDigitChars_replicate_zero, Nat.mul_zero]
  exact Nat.ofDigitChars_ten_toDigits

theorem le_length_padded (width n : Nat) : width ≤ (padded width n).length := by
  rw [padded, List.length_append, List.length_replicate]
  omega

/-- **A number that is small enough takes the width.** -/
theorem length_padded {width n : Nat} (pos : 0 < width) (h : n < 10 ^ width) :
    (padded width n).length = width := by
  have short : (digits n).length ≤ width := (Nat.length_toDigits_le_iff (by decide) pos).mpr h
  rw [padded, List.length_append, List.length_replicate]
  omega

theorem length_digits_le_iff {n k : Nat} (pos : 0 < k) : (digits n).length ≤ k ↔ n < 10 ^ k :=
  Nat.length_toDigits_le_iff (by decide) pos

theorem length_digits_pos (n : Nat) : 0 < (digits n).length := Nat.length_toDigits_pos

/-- A number has as many digits as the powers of ten say that it lies between. -/
theorem pow_length_digits {n : Nat} (pos : 0 < n) :
    10 ^ ((digits n).length - 1) ≤ n ∧ n < 10 ^ (digits n).length := by
  have some := length_digits_pos n
  refine ⟨Nat.not_lt.mp fun less => ?_, (length_digits_le_iff some).mp (Nat.le_refl _)⟩
  rcases Nat.eq_zero_or_pos ((digits n).length - 1) with zero | more
  · rw [zero, Nat.pow_zero] at less
    omega
  · have short := (length_digits_le_iff more).mpr less
    omega

theorem padded_ne_nil {width n : Nat} (pos : 0 < width) : padded width n ≠ [] := by
  have long := le_length_padded width n
  intro empty
  rw [empty] at long
  exact absurd long (by simp; omega)

theorem le_ofDigitChars : ∀ (cs : List Char) (n : Nat), n ≤ Nat.ofDigitChars 10 cs n
  | [], n => Nat.le_refl n
  | c :: cs, n => by
    rw [Nat.ofDigitChars_cons]
    have later := le_ofDigitChars cs (10 * n + (c.toNat - '0'.toNat))
    omega

/-- A number of so many digits is below that power of ten. -/
theorem ofDigitChars_lt : ∀ {cs : List Char}, AreDigits cs →
    Nat.ofDigitChars 10 cs 0 < 10 ^ cs.length
  | [], _ => by simp
  | c :: cs, h => by
    obtain ⟨digit, later⟩ := List.forall_mem_cons.mp h
    have value : c.toNat - '0'.toNat < 10 := digit_lt digit
    have rest : Nat.ofDigitChars 10 cs 0 < 10 ^ cs.length := ofDigitChars_lt later
    have first : 10 ^ cs.length * (c.toNat - '0'.toNat) ≤ 10 ^ cs.length * 9 :=
      Nat.mul_le_mul_left _ (by omega)
    rw [Nat.ofDigitChars_cons, Nat.ofDigitChars_eq_ofDigitChars_zero, Nat.mul_zero, Nat.zero_add,
      List.length_cons, Nat.pow_succ]
    omega

/-- Two texts of as many digits are the same if they are one number. -/
theorem eq_of_ofDigitChars_eq : ∀ {cs ds : List Char}, AreDigits cs → AreDigits ds →
    cs.length = ds.length → Nat.ofDigitChars 10 cs 0 = Nat.ofDigitChars 10 ds 0 → cs = ds
  | [], [], _, _, _, _ => rfl
  | c :: cs, d :: ds, hc, hd, length, same => by
    obtain ⟨first, later⟩ := List.forall_mem_cons.mp hc
    obtain ⟨first', later'⟩ := List.forall_mem_cons.mp hd
    have length : cs.length = ds.length := Nat.succ.inj length
    -- The first digit is the quotient by the power of ten that the others are below.
    have rest : Nat.ofDigitChars 10 cs 0 < 10 ^ cs.length := ofDigitChars_lt later
    have rest' : Nat.ofDigitChars 10 ds 0 < 10 ^ cs.length := length ▸ ofDigitChars_lt later'
    rw [Nat.ofDigitChars_cons, Nat.ofDigitChars_cons, Nat.ofDigitChars_eq_ofDigitChars_zero,
      Nat.ofDigitChars_eq_ofDigitChars_zero (l := ds), Nat.mul_zero, Nat.zero_add, Nat.zero_add,
      ← length] at same
    have quotient := congrArg (· / 10 ^ cs.length) same
    have remainder := congrArg (· % 10 ^ cs.length) same
    simp only [Nat.mul_add_div (Nat.pow_pos (by decide : 0 < 10)), Nat.div_eq_of_lt rest,
      Nat.div_eq_of_lt rest', Nat.add_zero] at quotient
    simp only [Nat.mul_add_mod, Nat.mod_eq_of_lt rest, Nat.mod_eq_of_lt rest'] at remainder
    have code : 48 ≤ c.toNat ∧ c.toNat ≤ 57 := Char.isDigit_iff_toNat.mp first
    have code' : 48 ≤ d.toNat ∧ d.toNat ≤ 57 := Char.isDigit_iff_toNat.mp first'
    have zero : '0'.toNat = 48 := rfl
    rw [zero] at quotient
    have head : c = d := Char.toNat_inj.mp (by omega)
    rw [head, eq_of_ofDigitChars_eq later later' length remainder]

/-- **Digits are those that their number is written in**, filled up to as many. -/
theorem padded_ofDigitChars {ds : List Char} (digits : AreDigits ds) (pos : 0 < ds.length) :
    padded ds.length (Nat.ofDigitChars 10 ds 0) = ds :=
  eq_of_ofDigitChars_eq (areDigits_padded _ _) digits (length_padded pos (ofDigitChars_lt digits))
    (ofDigitChars_padded _ _)

theorem isPadded_padded (width n : Nat) (pos : 0 < width) : IsPadded width n (padded width n) where
  digits := areDigits_padded width n
  number := ofDigitChars_padded width n
  wide := le_length_padded width n
  tight longer := by
    have length : (padded width n).length = (digits n).length := by
      rw [padded, List.length_append, List.length_replicate] at longer ⊢
      omega
    have some : 0 < n := by
      refine Nat.pos_of_ne_zero fun zero => ?_
      have one : (digits 0).length = 1 := rfl
      rw [length, zero, one] at longer
      omega
    rw [length]
    exact (pow_length_digits some).1

/-- A number has one such text: past the width the length is that of the number. -/
theorem IsPadded.unique {width n : Nat} {cs ds : List Char} (hc : IsPadded width n cs)
    (hd : IsPadded width n ds) : cs = ds := by
  have le {cs ds : List Char} (hc : IsPadded width n cs) (hd : IsPadded width n ds) :
      cs.length ≤ ds.length := by
    refine Nat.not_lt.mp fun longer => ?_
    have least := hc.tight (Nat.lt_of_le_of_lt hd.wide longer)
    have most := hd.number ▸ ofDigitChars_lt hd.digits
    have power : 10 ^ ds.length ≤ 10 ^ (cs.length - 1) :=
      Nat.pow_le_pow_right (by decide) (Nat.le_sub_one_of_lt longer)
    omega
  exact eq_of_ofDigitChars_eq hc.digits hd.digits (Nat.le_antisymm (le hc hd) (le hd hc))
    (hc.number.trans hd.number.symm)

/-- **The digits of a number, filled up to a width.** -/
theorem isPadded_iff {width n : Nat} (pos : 0 < width) {ds : List Char} :
    IsPadded width n ds ↔ ds = padded width n := by
  constructor
  · intro h
    exact h.unique (isPadded_padded width n pos)
  · rintro rfl
    exact isPadded_padded width n pos

theorem isPadded_two_iff {n : Nat} {ds : List Char} : IsPadded 2 n ds ↔ ds = padded 2 n :=
  isPadded_iff Nat.two_pos

/-- Without a width a number has its own digits. -/
theorem padded_one (n : Nat) : padded 1 n = digits n := by
  rw [padded, Nat.sub_eq_zero_of_le (length_digits_pos n)]
  rfl

end SqlBroker.Text
