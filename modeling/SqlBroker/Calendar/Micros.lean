import SqlBroker.Calendar.Stamp

/-!
# Times to the microsecond

Databases keep times to the microsecond. A time of day becomes the microseconds since midnight,
what is below one being cut off; a stamp becomes its distance from the start of the year 2000, cut
off towards it, so that stamps before that year move to the microsecond after.

Models what is left of the times that `bind_params` hands over (SPEC_FULL.md, section 11).
-/

namespace SqlBroker.Calendar

/-- The microseconds of a day. -/
def microsPerDay : Nat := 86400000000

namespace Clock

/-- The microseconds past the second. -/
def micro (c : Clock) : Nat := c.nano / 1000

/-- The whole microseconds since midnight; a leap second counts as the second after. -/
def micros (c : Clock) : Nat := ((c.hour * 60 + c.minute) * 60 + c.second) * 1000000 + c.micro

/-- The time so many microseconds after midnight, whole days left out. -/
def ofMicros (n : Nat) : Clock :=
  { hour := n % microsPerDay / 3600000000
    minute := n / 60000000 % 60
    second := n / 1000000 % 60
    nano := n % 1000000 * 1000
    hour_lt := by
      have : n % microsPerDay < 86400000000 := Nat.mod_lt _ (by decide)
      omega
    minute_lt := Nat.mod_lt _ (by decide)
    second_lt := Nat.mod_lt _ (by decide)
    nano_lt := .inl (by simp only [nanosPerSecond]; omega) }

/-- The time cut to whole microseconds. -/
def inMicros (c : Clock) : Clock := ofMicros c.micros

end Clock

/-- The stamp cut to whole microseconds, towards the start of the year 2000. A leap second at the
end of a day counts as the first of the next. -/
def Stamp.inMicros (s : Stamp) : Stamp :=
  let n := s.clock.micros
  let day := if n < microsPerDay then s.date else s.date.next
  let after := if day.year < 2000 ∧ s.clock.nano % 1000 ≠ 0 then 1 else 0
  ⟨if n + after < microsPerDay then s.date else s.date.next, .ofMicros (n + after)⟩

end SqlBroker.Calendar
