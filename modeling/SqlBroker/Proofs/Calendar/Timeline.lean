import Mathlib.Order.Monotone.Basic
import SqlBroker.Proofs.Calendar.Printed

/-!
# Days and moments in a row

Dates are numbered from the first day of the year 1, forwards and backwards, and a local stamp is
the moment that so many minutes later or earlier comes on the clock of universal time. Dates that
follow each other have numbers that do, and different dates have different numbers, so that a
stamp is found again from its moment. To take an offset off a stamp is to subtract it.

Headlines:
* **`Date.dayNumber_next`**, **`Date.dayNumber_previous`**: the day after and the day before, across
  the ends of months and years.
* **`Date.dayNumber_inj`**: no two days have one number.
* **`Stamp.moment_toUniversal`**: universal time is local time less the offset.
* **`Stamp.toUniversal_eq_iff`**: two stamps with their offsets are one universal time iff they are
  one moment.
-/

namespace SqlBroker.Calendar

/-! ## Years and months -/

/-- The days of a year. -/
def yearLength (year : Int) : Nat := if isLeapYear year then 366 else 365

/-- The days before a year, from the start of the year 1. -/
def daysBeforeYear (year : Int) : Int :=
  365 * (year - 1) + (year - 1) / 4 - (year - 1) / 100 + (year - 1) / 400

/-- The days before a month, from the start of its year. -/
def daysBeforeMonth (year : Int) : (month : Nat) → Nat
  | 0 => 0
  | 1 => 0
  | month + 2 => daysBeforeMonth year (month + 1) + monthLength year (month + 1)

theorem isLeapYear_iff (year : Int) :
    isLeapYear year ↔ year % 4 = 0 ∧ (year % 100 ≠ 0 ∨ year % 400 = 0) := by
  simp [isLeapYear]

/-- **A year has as many days as lie between its start and the next one.** -/
theorem daysBeforeYear_succ (year : Int) :
    daysBeforeYear (year + 1) = daysBeforeYear year + yearLength year := by
  have leap := isLeapYear_iff year
  unfold daysBeforeYear yearLength
  split
  next h =>
    have cycle := leap.mp h
    omega
  next h =>
    have cycle := mt leap.mpr h
    omega

theorem daysBeforeMonth_succ (year : Int) {month : Nat} (h : 1 ≤ month) :
    daysBeforeMonth year (month + 1) = daysBeforeMonth year month + monthLength year month := by
  obtain ⟨m, rfl⟩ := Nat.exists_eq_add_of_le' h
  rfl

/-- **A year has as many days as its twelve months.** -/
theorem daysBeforeMonth_thirteen (year : Int) : daysBeforeMonth year 13 = yearLength year := by
  unfold yearLength
  split
  next leap => simp [daysBeforeMonth, monthLength, leap]
  next common => simp [daysBeforeMonth, monthLength, common]

theorem daysBeforeYear_mono {year year' : Int} (h : year ≤ year') :
    daysBeforeYear year ≤ daysBeforeYear year' := by
  unfold daysBeforeYear
  omega

theorem daysBeforeMonth_mono (year : Int) : Monotone (daysBeforeMonth year) := by
  refine monotone_nat_of_le_succ fun month => ?_
  cases month with
  | zero => exact Nat.le_refl 0
  | succ month => exact Nat.le_add_right _ _

/-! ## Dates -/

namespace Date

/-- The day of the year. -/
def dayOfYear (d : Date) : Nat := daysBeforeMonth d.year d.month + d.day

/-- The number of a date: the first day of the year 1 is day 1. -/
def dayNumber (d : Date) : Int := daysBeforeYear d.year + d.dayOfYear

example : dayNumber ⟨1970, 1, 1, by decide, by decide⟩ = 719163 := by decide

/-- A day lies in its month, and so before the next. -/
theorem dayOfYear_mem (d : Date) : daysBeforeMonth d.year d.month < d.dayOfYear ∧
    d.dayOfYear ≤ daysBeforeMonth d.year (d.month + 1) := by
  have day := d.day_mem
  have month := daysBeforeMonth_succ d.year d.month_mem.1
  unfold dayOfYear
  omega

/-- A day lies in its year, and so before the next. -/
theorem dayNumber_mem (d : Date) : daysBeforeYear d.year < d.dayNumber ∧
    d.dayNumber ≤ daysBeforeYear (d.year + 1) := by
  have inMonth := d.dayOfYear_mem
  have inYear : daysBeforeMonth d.year (d.month + 1) ≤ daysBeforeMonth d.year 13 :=
    daysBeforeMonth_mono d.year (Nat.succ_le_succ d.month_mem.2)
  rw [daysBeforeMonth_thirteen] at inYear
  rw [daysBeforeYear_succ]
  unfold dayNumber
  omega

/-- **The day after has the next number**, in the next month or year where this one ends. -/
theorem dayNumber_next (d : Date) : d.next.dayNumber = d.dayNumber + 1 := by
  have day := d.day_mem
  have month := d.month_mem
  have length := daysBeforeMonth_succ d.year month.1
  unfold next
  split
  next =>
    simp only [dayNumber, dayOfYear]
    omega
  next last =>
    split
    next =>
      simp only [dayNumber, dayOfYear]
      omega
    next december =>
      have twelve : d.month = 12 := by omega
      have year : daysBeforeMonth d.year (12 + 1) = yearLength d.year :=
        daysBeforeMonth_thirteen d.year
      have years := daysBeforeYear_succ d.year
      have first : daysBeforeMonth (d.year + 1) 1 = 0 := rfl
      rw [twelve] at day length last
      simp only [dayNumber, dayOfYear, twelve]
      omega

/-- **The day before has the number before**, in the month or year before where this one starts. -/
theorem dayNumber_previous (d : Date) : d.previous.dayNumber = d.dayNumber - 1 := by
  have day := d.day_mem
  have month := d.month_mem
  unfold previous
  split
  next =>
    simp only [dayNumber, dayOfYear]
    omega
  next first =>
    split
    next later =>
      have length := daysBeforeMonth_succ d.year (show 1 ≤ d.month - 1 by omega)
      rw [Nat.sub_add_cancel month.1] at length
      simp only [dayNumber, dayOfYear]
      omega
    next january =>
      have one : d.month = 1 := by omega
      have length := daysBeforeMonth_succ (d.year - 1) (show 1 ≤ 12 by decide)
      rw [daysBeforeMonth_thirteen, monthLength_december] at length
      have years := daysBeforeYear_succ (d.year - 1)
      rw [Int.sub_add_cancel] at years
      have start : daysBeforeMonth d.year 1 = 0 := rfl
      simp only [dayNumber, dayOfYear, one]
      omega

/-- **No two days have one number**: it lies between the starts of one year and of one month. -/
theorem dayNumber_inj {d d' : Date} (h : d.dayNumber = d'.dayNumber) : d = d' := by
  have year : d.year = d'.year := by
    have own := d.dayNumber_mem
    have other := d'.dayNumber_mem
    -- Of different years one starts where the other has ended.
    refine Int.le_antisymm (Int.not_lt.mp fun less => ?_) (Int.not_lt.mp fun less => ?_)
    · have apart := daysBeforeYear_mono (show d'.year + 1 ≤ d.year from less)
      omega
    · have apart := daysBeforeYear_mono (show d.year + 1 ≤ d'.year from less)
      omega
  have ofYear : d.dayOfYear = d'.dayOfYear := by
    unfold dayNumber at h
    rw [year] at h
    omega
  have month : d.month = d'.month := by
    have own := d.dayOfYear_mem
    have other := d'.dayOfYear_mem
    rw [year] at own
    refine Nat.le_antisymm (Nat.not_lt.mp fun less => ?_) (Nat.not_lt.mp fun less => ?_)
    · have apart := daysBeforeMonth_mono d'.year (show d'.month + 1 ≤ d.month from less)
      omega
    · have apart := daysBeforeMonth_mono d'.year (show d.month + 1 ≤ d'.month from less)
      omega
  have day : d.day = d'.day := by
    unfold dayOfYear at ofYear
    rw [year, month] at ofYear
    omega
  cases d
  cases d'
  cases year
  cases month
  cases day
  rfl

end Date

/-! ## Moments -/

/-- A moment of universal time: the minutes since a fixed day, and what is past them. Leap seconds
count within their minute. -/
structure Moment where
  minute : Int
  second : Nat
  nano : Nat
deriving DecidableEq, Repr

namespace Stamp

/-- The moment of a stamp on a clock that is `offset` minutes ahead of universal time. -/
def moment (s : Stamp) (offset : Int) : Moment :=
  ⟨1440 * s.date.dayNumber + 60 * s.clock.hour + s.clock.minute - offset, s.clock.second,
    s.clock.nano⟩

theorem withMinutes_minutes (c : Clock) {minutes : Nat} (h : minutes < minutesPerDay) :
    60 * (withMinutes c minutes).hour + (withMinutes c minutes).minute = minutes := by
  simp only [withMinutes, Nat.mod_eq_of_lt h]
  omega

/-- **Universal time is local time less the offset.** -/
theorem moment_toUniversal (s : Stamp) {offset : Int} (h : -1440 < offset ∧ offset < 1440) :
    (s.toUniversal offset).moment 0 = s.moment offset := by
  have hour := s.clock.hour_lt
  have minute := s.clock.minute_lt
  have minutes (n : Nat) (small : n < minutesPerDay) := withMinutes_minutes s.clock small
  have day : minutesPerDay = 1440 := rfl
  unfold toUniversal
  dsimp only
  -- An offset is less than a day, so that one day before or after is far enough.
  split
  next before =>
    have clock := minutes (s.clock.hour * 60 + s.clock.minute - offset + minutesPerDay).toNat
      (by omega)
    simp only [moment, Date.dayNumber_previous]
    refine (Moment.mk.injEq ..).mpr ⟨?_, rfl, rfl⟩
    omega
  next =>
    split
    next within =>
      have clock := minutes (s.clock.hour * 60 + s.clock.minute - offset).toNat (by omega)
      simp only [moment]
      refine (Moment.mk.injEq ..).mpr ⟨?_, rfl, rfl⟩
      omega
    next after =>
      have clock := minutes (s.clock.hour * 60 + s.clock.minute - offset - minutesPerDay).toNat
        (by omega)
      simp only [moment, Date.dayNumber_next]
      refine (Moment.mk.injEq ..).mpr ⟨?_, rfl, rfl⟩
      omega

/-- **No two stamps of universal time are one moment.** -/
theorem moment_inj {s s' : Stamp} (h : s.moment 0 = s'.moment 0) : s = s' := by
  obtain ⟨minute, second, nano⟩ := Moment.mk.inj h
  have hours := s.clock.hour_lt
  have hours' := s'.clock.hour_lt
  have minutes := s.clock.minute_lt
  have minutes' := s'.clock.minute_lt
  have date : s.date = s'.date := Date.dayNumber_inj (by omega)
  rw [date] at minute
  have clock : s.clock = s'.clock := Clock.eq_of_parts (by omega) (by omega) second nano
  cases s
  cases s'
  cases date
  cases clock
  rfl

/-- **Two stamps with their offsets are one universal time iff they are one moment.** -/
theorem toUniversal_eq_iff {s s' : Stamp} {offset offset' : Int}
    (h : -1440 < offset ∧ offset < 1440) (h' : -1440 < offset' ∧ offset' < 1440) :
    s.toUniversal offset = s'.toUniversal offset' ↔ s.moment offset = s'.moment offset' := by
  rw [← s.moment_toUniversal h, ← s'.moment_toUniversal h']
  exact ⟨fun same => congrArg (moment · 0) same, moment_inj⟩

end Stamp

end SqlBroker.Calendar
