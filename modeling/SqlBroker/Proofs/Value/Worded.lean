import SqlBroker.Proofs.Calendar.Printed
import SqlBroker.Proofs.Decimal.Notation
import SqlBroker.Proofs.Json.Text

/-!
# The texts of values

Each value but null has one text, by which patterns are matched and as which SQLite is sent dates
and times (`Value.Worded`). Truth values are words, numbers are in base ten, floats have the fewest
digits, dates and times their parts between marks; a year before zero or past 9999 has a sign,
and a fraction of a second has as many digits of nine as are needed, in groups of three. Arrays and
objects are texts of JSON.

Concerns `pattern_text` (SPEC_FULL.md, sections 4.1 and 12).

Headlines:
* **`Calendar.Date.isWritten_iff`**, **`Calendar.Clock.isWritten_iff`**: dates and times have one
  text each.
* **`Value.worded_patternText`**: the text inside a pattern is the text of the value.
* **`Wording.text_eq`**: there is one way to write values.
-/

namespace SqlBroker

open Calendar
open Text (AreDigits IsPadded isPadded_iff isPadded_two_iff padded)

/-! ## Dates -/

namespace Calendar

/-- The text of a year: four digits at least, and a sign where four digits do not do. -/
inductive IsYear : Int → List Char → Prop
  | plain {n : Nat} {ds : List Char} (short : n ≤ 9999) (digits : IsPadded 4 n ds) : IsYear n ds
  | later {n : Nat} {ds : List Char} (long : 9999 < n) (digits : IsPadded 4 n ds) :
    IsYear n ('+' :: ds)
  | earlier {n : Nat} {ds : List Char} (pos : 0 < n) (digits : IsPadded 4 n ds) :
    IsYear (-n) ('-' :: ds)

/-- The text of a date. -/
inductive Date.IsWritten (d : Date) : List Char → Prop
  | intro {ys ms ds : List Char} (year : IsYear d.year ys) (month : IsPadded 2 d.month ms)
    (day : IsPadded 2 d.day ds) : IsWritten d (ys ++ '-' :: ms ++ '-' :: ds)

theorem isYear_iff {year : Int} {cs : List Char} : IsYear year cs ↔ cs = Date.yearChars year := by
  have digits {n : Nat} {ds : List Char} : IsPadded 4 n ds ↔ ds = padded 4 n :=
    isPadded_iff (by decide)
  unfold Date.yearChars
  constructor
  · rintro (⟨short, h⟩ | ⟨long, h⟩ | ⟨pos, h⟩)
    · rw [if_neg (by omega), if_neg (by omega)]
      exact digits.mp h
    · rw [if_neg (by omega), if_pos (by omega), digits.mp h]
      rfl
    · rw [if_pos (by omega), digits.mp h, Int.natAbs_neg]
      rfl
  · rintro rfl
    dsimp only
    obtain ⟨n, rfl | rfl⟩ := year.eq_nat_or_neg
    · rw [if_neg (by omega), Int.natAbs_natCast]
      split
      next long => exact .later (by omega) (digits.mpr rfl)
      next short => exact .plain (by omega) (digits.mpr rfl)
    · rw [Int.natAbs_neg, Int.natAbs_natCast]
      split
      next negative => exact .earlier (by omega) (digits.mpr rfl)
      next zero =>
        obtain rfl : n = 0 := by omega
        exact .plain (n := 0) (Nat.zero_le _) (digits.mpr rfl)

/-- **A date has one text.** -/
theorem Date.isWritten_iff {d : Date} {cs : List Char} : d.IsWritten cs ↔ cs = d.chars := by
  constructor
  · rintro ⟨year, month, day⟩
    rw [isYear_iff.mp year, isPadded_two_iff.mp month, isPadded_two_iff.mp day, Date.chars]
  · rintro rfl
    exact .intro (isYear_iff.mpr rfl) (isPadded_two_iff.mpr rfl) (isPadded_two_iff.mpr rfl)

/-! ## Times of day -/

/-- The text of hours, minutes and seconds. -/
inductive AreParts (hour minute second : Nat) : List Char → Prop
  | intro {hs ms ss : List Char} (hours : IsPadded 2 hour hs) (minutes : IsPadded 2 minute ms)
    (seconds : IsPadded 2 second ss) :
    AreParts hour minute second (hs ++ ':' :: ms ++ ':' :: ss)

theorem areParts_iff {hour minute second : Nat} {cs : List Char} :
    AreParts hour minute second cs ↔
      cs = padded 2 hour ++ ':' :: padded 2 minute ++ ':' :: padded 2 second := by
  constructor
  · rintro ⟨hours, minutes, seconds⟩
    rw [isPadded_two_iff.mp hours, isPadded_two_iff.mp minutes, isPadded_two_iff.mp seconds]
  · rintro rfl
    exact .intro (isPadded_two_iff.mpr rfl) (isPadded_two_iff.mpr rfl)
      (isPadded_two_iff.mpr rfl)

namespace Clock

/-- The digits that so many nanoseconds are written in: the fewest groups of three that are that
part of a second. -/
structure IsFraction (nano : Nat) (ds : List Char) : Prop where
  digits : AreDigits ds
  grouped : 3 ∣ ds.length ∧ ds.length ≤ 9
  number : Nat.ofDigitChars 10 ds 0 * 10 ^ (9 - ds.length) = nano
  fewest : ∀ ds' : List Char, 3 ∣ ds'.length → ds'.length ≤ 9 →
    Nat.ofDigitChars 10 ds' 0 * 10 ^ (9 - ds'.length) = nano → ds.length ≤ ds'.length

theorem IsFraction.unique {nano : Nat} {ds ds' : List Char} (h : IsFraction nano ds)
    (h' : IsFraction nano ds') : ds = ds' := by
  have length : ds.length = ds'.length :=
    Nat.le_antisymm (h.fewest ds' h'.grouped.1 h'.grouped.2 h'.number)
      (h'.fewest ds h.grouped.1 h.grouped.2 h.number)
  refine Text.eq_of_ofDigitChars_eq h.digits h'.digits length ?_
  have number := h.number.trans h'.number.symm
  rw [length] at number
  exact Nat.eq_of_mul_eq_mul_right (Nat.pow_pos (by decide)) number

/-- So many digits are a fraction if one group less would lose something. -/
theorem isFraction_padded (width : Nat) {nano : Nat} (pos : 0 < width)
    (grouped : 3 ∣ width ∧ width ≤ 9) (h : nano < nanosPerSecond) (whole : 10 ^ (9 - width) ∣ nano)
    (more : ¬ 10 ^ (12 - width) ∣ nano) :
    IsFraction nano (padded width (nano / 10 ^ (9 - width))) := by
  have small : nano / 10 ^ (9 - width) < 10 ^ width := by
    rw [Nat.div_lt_iff_lt_mul (Nat.pow_pos (by decide)), ← Nat.pow_add,
      Nat.add_sub_cancel' grouped.2]
    exact h
  have length := Text.length_padded pos small
  refine ⟨Text.areDigits_padded _ _, by rwa [length], ?_, fun ds' three _ number => ?_⟩
  · rw [length, Text.ofDigitChars_padded, Nat.div_mul_cancel whole]
  · rw [length]
    refine Nat.not_lt.mp fun less => more ?_
    have power : 10 ^ (12 - width) ∣ 10 ^ (9 - ds'.length) := Nat.pow_dvd_pow 10 (by omega)
    rw [← number]
    exact power.trans (Nat.dvd_mul_left _ _)

/-- **A fraction has no more groups of digits than it needs.** -/
theorem fractionChars_eq {nano : Nat} (some : nano ≠ 0) (h : nano < nanosPerSecond) :
    ∃ ds, IsFraction nano ds ∧ fractionChars nano = '.' :: ds := by
  unfold fractionChars
  rw [if_neg some]
  have less : ¬ 10 ^ (12 - 3) ∣ nano := fun dvd => some (Nat.eq_zero_of_dvd_of_lt dvd h)
  split
  next whole =>
    exact ⟨_, isFraction_padded 3 (by decide) (by decide) h
      (Nat.dvd_of_mod_eq_zero whole) less, rfl⟩
  next more =>
    have less : ¬ 10 ^ (12 - 6) ∣ nano := fun dvd => more (Nat.mod_eq_zero_of_dvd dvd)
    split
    next whole =>
      exact ⟨_, isFraction_padded 6 (by decide) (by decide) h
        (Nat.dvd_of_mod_eq_zero whole) less, rfl⟩
    next more =>
      have less : ¬ 10 ^ (12 - 9) ∣ nano := fun dvd => more (Nat.mod_eq_zero_of_dvd dvd)
      have all := isFraction_padded 9 (by decide) (by decide) h (Nat.one_dvd nano) less
      rw [Nat.sub_self, Nat.pow_zero, Nat.div_one] at all
      exact ⟨_, all, rfl⟩

/-- The text of a time of day: a second past the last is number 60. -/
inductive IsWritten (c : Clock) : List Char → Prop
  | whole {cs : List Char} (parts : AreParts c.hour c.minute (c.second + c.nano / 1000000000) cs)
    (none : c.nano % 1000000000 = 0) : IsWritten c cs
  | fraction {cs ds : List Char}
    (parts : AreParts c.hour c.minute (c.second + c.nano / 1000000000) cs)
    (some : c.nano % 1000000000 ≠ 0) (fraction : IsFraction (c.nano % 1000000000) ds) :
    IsWritten c (cs ++ '.' :: ds)

theorem shownSecond_eq (c : Clock) : c.shownSecond = c.second + c.nano / 1000000000 := by
  have bound := c.nano_lt
  unfold shownSecond isLeap
  unfold nanosPerSecond at *
  split
  next leap =>
    have past := of_decide_eq_true leap
    omega
  next within =>
    have before : ¬ 1000000000 ≤ c.nano := fun h => within (decide_eq_true h)
    omega

/-- **A time of day has one text.** -/
theorem isWritten_iff {c : Clock} {cs : List Char} : c.IsWritten cs ↔ cs = c.chars := by
  have nano : c.shownNano = c.nano % 1000000000 := rfl
  rw [chars, shownSecond_eq, nano]
  by_cases none : c.nano % 1000000000 = 0
  · rw [none, fractionChars, if_pos rfl, List.append_nil, ← areParts_iff]
    constructor
    · rintro (⟨parts, -⟩ | ⟨-, some, -⟩)
      · exact parts
      · exact absurd none some
    · intro parts
      exact .whole parts none
  · obtain ⟨ds, own, text⟩ := fractionChars_eq none c.shownNano_lt
    rw [text]
    constructor
    · rintro (⟨-, zero⟩ | ⟨parts, -, fraction⟩)
      · exact absurd zero none
      · rw [areParts_iff.mp parts, own.unique fraction]
    · rintro rfl
      exact .fraction (areParts_iff.mpr rfl) none own

end Clock

end Calendar

/-! ## Values -/

/-- The text of a value. -/
inductive Value.Worded : Value → String → Prop
  | bool (b : Bool) : Worded (.bool b) (toString b)
  | int (n : Int) : Worded (.int n) (toString n)
  | float {x : Decimal.Binary64} {cs : List Char} (h : x.IsWritten cs) :
    Worded (.float x) (String.ofList cs)
  | text (s : String) : Worded (.text s) s
  | date {d : Date} {ds : List Char} (date : d.IsWritten ds) : Worded (.date d) (String.ofList ds)
  | time {c : Clock} {cs : List Char} (clock : c.IsWritten cs) :
    Worded (.time c) (String.ofList cs)
  | stamp {s : Stamp} {ds cs : List Char} (date : s.date.IsWritten ds)
    (clock : s.clock.IsWritten cs) : Worded (.stamp s) (String.ofList (ds ++ ' ' :: cs))
  | instant {s : Stamp} {ds cs : List Char} (date : s.date.IsWritten ds)
    (clock : s.clock.IsWritten cs) :
    Worded (.instant s) (String.ofList (ds ++ 'T' :: cs ++ "+00:00".toList))
  | json {j : Json} {cs : List Char} (text : j.IsText cs) : Worded (.json j) (String.ofList cs)

namespace Value

/-- **The text inside a pattern is the text of the value.** -/
theorem worded_patternText {v : Value} (some : v.isNull = false) : v.Worded v.patternText := by
  cases v with
  | null => cases some
  | bool b =>
    cases b with
    | true => exact .bool true
    | false => exact .bool false
  | int n =>
    rw [patternText, Number.integerChars_eq, String.ofList_toList]
    exact .int n
  | float x => exact .float x.isWritten_render
  | text s => exact .text s
  | date d => exact .date (Date.isWritten_iff.mpr rfl)
  | time c => exact .time (Clock.isWritten_iff.mpr rfl)
  | stamp s => exact .stamp (Date.isWritten_iff.mpr rfl) (Clock.isWritten_iff.mpr rfl)
  | instant s => exact .instant (Date.isWritten_iff.mpr rfl) (Clock.isWritten_iff.mpr rfl)
  | json j => exact .json (Json.isText_iff.mpr rfl)

theorem Worded.eq_patternText {v : Value} {s : String} (h : v.Worded s) : s = v.patternText := by
  cases h with
  | bool b => cases b <;> rfl
  | int n => rw [patternText, Number.integerChars_eq, String.ofList_toList]
  | float h => exact congrArg String.ofList (Decimal.Binary64.isWritten_iff.mp h)
  | text s => rfl
  | date date => exact congrArg String.ofList (Date.isWritten_iff.mp date)
  | time clock => exact congrArg String.ofList (Clock.isWritten_iff.mp clock)
  | stamp date clock =>
    rw [Date.isWritten_iff.mp date, Clock.isWritten_iff.mp clock]
    rfl
  | instant date clock =>
    rw [Date.isWritten_iff.mp date, Clock.isWritten_iff.mp clock]
    rfl
  | json text => exact congrArg String.ofList (Json.isText_iff.mp text)

end Value

/-- A way to write values: each but null as its text. -/
structure Wording where
  text : Value → String
  worded : ∀ v : Value, v.isNull = false → v.Worded (text v)

namespace Wording

/-- The way in which values are written inside patterns. -/
def patterns : Wording := ⟨Value.patternText, fun _ some => Value.worded_patternText some⟩

/-- **There is one way to write values.** -/
theorem text_eq (w : Wording) {v : Value} (some : v.isNull = false) :
    w.text v = v.patternText := (w.worded v some).eq_patternText

end Wording

end SqlBroker
