import SqlBroker.Calendar.Micros
import SqlBroker.Proofs.Calendar.Timeline

/-!
# Cutting to whole microseconds

Postgres keeps a time of day as the microseconds since midnight, and a stamp as those since the
start of the year 2000, which are negative before it. So a time loses what is below one, and a stamp
moves towards that year by less than one; a leap second counts as the second after, if need be of
the next day.

Headlines:
* **`Clock.cutTo_iff`**, **`Stamp.cutTo_iff`**: a time and a stamp are cut as the distance is.
-/

namespace SqlBroker.Calendar

/-- The nanoseconds of a day. -/
def nanosPerDay : Nat := 86400000000000

/-! ## Times of day -/

namespace Clock

/-- The nanoseconds since midnight. -/
def nanos (c : Clock) : Nat := ((c.hour * 60 + c.minute) * 60 + c.second) * nanosPerSecond + c.nano

/-- A time is another one in whole microseconds, and in no leap second. -/
structure CutTo (c d : Clock) : Prop where
  regular : d.nano < nanosPerSecond
  cut : d.nanos = 1000 * (c.nanos / 1000) % nanosPerDay

theorem nanos_lt {c : Clock} (h : c.nano < nanosPerSecond) : c.nanos < nanosPerDay := by
  have hour := c.hour_lt
  have minute := c.minute_lt
  have second := c.second_lt
  unfold nanos nanosPerDay
  unfold nanosPerSecond at *
  omega

/-- A leap second ends within one second of the day after. -/
theorem nanos_lt_of_leap (c : Clock) : c.nanos < nanosPerDay + nanosPerSecond := by
  have hour := c.hour_lt
  have minute := c.minute_lt
  have second := c.second_lt
  have nano := c.nano_lt
  unfold nanos nanosPerDay
  unfold nanosPerSecond at *
  omega

theorem nanos_inj {c d : Clock} (hc : c.nano < nanosPerSecond) (hd : d.nano < nanosPerSecond)
    (h : c.nanos = d.nanos) : c = d := by
  have minute := c.minute_lt
  have minute' := d.minute_lt
  have second := c.second_lt
  have second' := d.second_lt
  unfold nanos at h
  unfold nanosPerSecond at *
  have seconds : (c.hour * 60 + c.minute) * 60 + c.second =
      (d.hour * 60 + d.minute) * 60 + d.second := by omega
  exact eq_of_parts (by omega) (by omega) (by omega) (by omega)

theorem micros_eq (c : Clock) : c.micros = c.nanos / 1000 := by
  unfold micros micro nanos nanosPerSecond
  omega

theorem nano_ofMicros_lt (n : Nat) : (ofMicros n).nano < nanosPerSecond := by
  unfold ofMicros nanosPerSecond
  dsimp only
  omega

theorem nanos_ofMicros (n : Nat) : (ofMicros n).nanos = 1000 * n % nanosPerDay := by
  unfold nanos ofMicros nanosPerDay nanosPerSecond microsPerDay
  dsimp only
  omega

/-- **A time is cut as its distance from midnight is.** -/
theorem cutTo_iff {c d : Clock} : c.CutTo d ↔ d = c.inMicros := by
  have own : c.CutTo c.inMicros :=
    ⟨nano_ofMicros_lt _, by rw [inMicros, nanos_ofMicros, micros_eq]⟩
  constructor
  · intro h
    exact nanos_inj h.regular own.regular (h.cut.trans own.cut.symm)
  · rintro rfl
    exact own

end Clock

/-! ## Stamps -/

/-- The number of the first day of the year 2000. -/
def millennium : Int := 730120

example : Date.dayNumber ⟨2000, 1, 1, by decide, by decide⟩ = millennium := by decide

theorem Date.year_lt_iff (d : Date) : d.year < 2000 ↔ d.dayNumber < millennium := by
  have own := d.dayNumber_mem
  have start : daysBeforeYear 2000 = millennium - 1 := by decide
  constructor
  · intro before
    have apart := daysBeforeYear_mono (show d.year + 1 ≤ 2000 from before)
    omega
  · intro before
    refine Int.not_le.mp fun after => ?_
    have apart := daysBeforeYear_mono after
    omega

namespace Stamp

/-- The nanoseconds since the start of the year 2000. -/
def nanos (s : Stamp) : Int := nanosPerDay * (s.date.dayNumber - millennium) + s.clock.nanos

/-- A stamp is another one in whole microseconds towards the year 2000, and in no leap second. -/
structure CutTo (s t : Stamp) : Prop where
  regular : t.clock.nano < nanosPerSecond
  cut : t.nanos = 1000 * s.nanos.tdiv 1000

theorem nanos_inj {s t : Stamp} (hs : s.clock.nano < nanosPerSecond)
    (ht : t.clock.nano < nanosPerSecond) (h : s.nanos = t.nanos) : s = t := by
  have clock := Clock.nanos_lt hs
  have clock' := Clock.nanos_lt ht
  unfold nanos at h
  unfold nanosPerDay at *
  have date : s.date = t.date := Date.dayNumber_inj (by omega)
  rw [date] at h
  have clock : s.clock = t.clock := Clock.nanos_inj hs ht (by omega)
  cases s
  cases t
  cases date
  cases clock
  rfl

/-- A distance of whole days and a rest is cut at its rest: on a day before the year 2000 that
leaves one microsecond more, if something is cut. -/
theorem tdiv_nanos (day : Int) (rest : Nat) (small : rest < nanosPerDay) :
    1000 * (nanosPerDay * (day - millennium) + rest).tdiv 1000 =
      nanosPerDay * (day - millennium) +
        1000 * (rest / 1000 + if day < millennium ∧ rest % 1000 ≠ 0 then 1 else 0 : Nat) := by
  unfold nanosPerDay at *
  by_cases before : day < millennium
  · have negative : 0 ≤ -(((86400000000000 : Nat) : Int) * (day - millennium) + rest) := by omega
    rw [← Int.neg_neg (_ + (rest : Int)), Int.neg_tdiv, Int.tdiv_eq_ediv_of_nonneg negative]
    split <;> omega
  · rw [if_neg fun h => before h.1, Int.tdiv_eq_ediv_of_nonneg (by omega)]
    omega

/-- The stamp so many microseconds after the start of a day, which may be in the next. -/
theorem nanos_ofMicros (d : Date) {n : Nat} (h : n < 2 * microsPerDay) :
    nanos ⟨if n < microsPerDay then d else d.next, .ofMicros n⟩ =
      nanosPerDay * (d.dayNumber - millennium) + (1000 * n : Nat) := by
  have next := d.dayNumber_next
  simp only [nanos, Clock.nanos_ofMicros]
  unfold nanosPerDay
  unfold microsPerDay at *
  split <;> omega

theorem nanos_inMicros (s : Stamp) : s.inMicros.nanos = 1000 * s.nanos.tdiv 1000 := by
  have size := s.clock.nanos_lt_of_leap
  have unit : s.clock.nano % 1000 = s.clock.nanos % 1000 := by
    unfold Clock.nanos nanosPerSecond
    omega
  simp only [inMicros, Clock.micros_eq, unit, Date.year_lt_iff]
  unfold nanosPerSecond nanosPerDay at size
  by_cases today : s.clock.nanos / 1000 < microsPerDay
  · have small : s.clock.nanos < nanosPerDay := by
      unfold nanosPerDay
      unfold microsPerDay at today
      omega
    rw [if_pos today, nanos_ofMicros s.date (by unfold microsPerDay; split <;> omega)]
    exact (tdiv_nanos s.date.dayNumber _ small).symm
  · -- The leap second is the start of the next day.
    obtain ⟨rest, late⟩ : ∃ rest, s.clock.nanos = nanosPerDay + rest := by
      refine Nat.exists_eq_add_of_le ?_
      unfold nanosPerDay
      unfold microsPerDay at today
      omega
    have next := s.date.dayNumber_next
    have cut := tdiv_nanos s.date.next.dayNumber rest (by unfold nanosPerDay at *; omega)
    have moved : s.nanos = nanosPerDay * (s.date.next.dayNumber - millennium) + rest := by
      unfold nanos nanosPerDay at *
      omega
    have digits : s.clock.nanos % 1000 = rest % 1000 := by
      unfold nanosPerDay at late
      omega
    rw [if_neg today, nanos_ofMicros s.date (by unfold microsPerDay; split <;> omega), moved, cut,
      digits]
    unfold nanosPerDay at *
    omega

/-- **A stamp is cut as its distance from the year 2000 is.** -/
theorem cutTo_iff {s t : Stamp} : s.CutTo t ↔ t = s.inMicros := by
  have own : s.CutTo s.inMicros := ⟨Clock.nano_ofMicros_lt _, s.nanos_inMicros⟩
  constructor
  · intro h
    exact nanos_inj h.regular own.regular (h.cut.trans own.cut.symm)
  · rintro rfl
    exact own

end Stamp

end SqlBroker.Calendar
