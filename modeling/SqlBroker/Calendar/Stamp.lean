import SqlBroker.Calendar.Clock
import SqlBroker.Calendar.Date

/-!
# Dates with a time

A date and a time of day, on a local clock or in universal time. `toUniversal` takes an offset off
a local stamp: it moves by at most a day and leaves seconds and fraction as they are.

Models the two kinds of stamps that `parse_datetime` gives (SPEC_FULL.md, section 4.1).
-/

namespace SqlBroker.Calendar

/-- A date and a time of day. -/
structure Stamp where
  date : Date
  clock : Clock
deriving DecidableEq, Repr

namespace Stamp

/-- Date and time with a blank between them. -/
def text (s : Stamp) : String := String.ofList (s.date.chars ++ ' ' :: s.clock.chars)

/-- Date and time with a `T` between them and the offset of universal time. -/
def universalText (s : Stamp) : String :=
  String.ofList (s.date.chars ++ 'T' :: s.clock.chars ++ ['+', '0', '0', ':', '0', '0'])

/-- The minutes of a day. -/
def minutesPerDay : Nat := 1440

/-- The time with its minutes of the day replaced. -/
def withMinutes (c : Clock) (minutes : Nat) : Clock :=
  { c with
    hour := minutes % minutesPerDay / 60
    minute := minutes % 60
    hour_lt := by
      have : minutes % minutesPerDay < 1440 := Nat.mod_lt _ (by decide)
      omega
    minute_lt := Nat.mod_lt _ (by decide) }

/-- The universal time of a local stamp that is `offset` minutes ahead of it, for an offset of less
than a day. -/
def toUniversal (s : Stamp) (offset : Int) : Stamp :=
  let minutes : Int := s.clock.hour * 60 + s.clock.minute - offset
  if minutes < 0 then ⟨s.date.previous, withMinutes s.clock (minutes + minutesPerDay).toNat⟩
  else if minutes < minutesPerDay then ⟨s.date, withMinutes s.clock minutes.toNat⟩
  else ⟨s.date.next, withMinutes s.clock (minutes - minutesPerDay).toNat⟩

end Stamp

end SqlBroker.Calendar
