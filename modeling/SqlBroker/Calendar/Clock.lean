import SqlBroker.Text.Digits

/-!
# Times of day

A time of day to the nanosecond. A leap second is second 59 with a second or more of nanoseconds,
and is written as second 60.

Models the times that `parse_time` gives and `pattern_text` writes (SPEC_FULL.md, section 4.1).
-/

namespace SqlBroker.Calendar

-- Here `^` is the power of natural numbers, whatever instances are imported beside it.
attribute [local instance (2000)] instPowNat

/-- The nanoseconds of a second. -/
def nanosPerSecond : Nat := 1000000000

/-- A time of day. -/
structure Clock where
  hour : Nat
  minute : Nat
  second : Nat
  nano : Nat
  hour_lt : hour < 24
  minute_lt : minute < 60
  second_lt : second < 60
  nano_lt : nano < nanosPerSecond ∨ second = 59 ∧ nano < 2 * nanosPerSecond
deriving DecidableEq, Repr

namespace Clock

/-- The time of four numbers, where there is such a time; second 60 is the leap second. -/
def ofParts? (hour minute second nano : Nat) : Option Clock :=
  if hh : hour < 24 then
    if hm : minute < 60 then
      if hn : nano < nanosPerSecond then
        if hs : second < 60 then some ⟨hour, minute, second, nano, hh, hm, hs, .inl hn⟩
        else if second = 60 then
          some ⟨hour, minute, 59, nano + nanosPerSecond, hh, hm, by decide, .inr ⟨rfl, by omega⟩⟩
        else none
      else none
    else none
  else none

/-- The start of a day. -/
def midnight : Clock := ⟨0, 0, 0, 0, by decide, by decide, by decide, .inl (by decide)⟩

/-- Whether this is in a leap second. -/
def isLeap (c : Clock) : Bool := nanosPerSecond ≤ c.nano

/-- The second as it is written: 60 in a leap second. -/
def shownSecond (c : Clock) : Nat := if c.isLeap then c.second + 1 else c.second

/-- The nanoseconds past the second as it is written. -/
def shownNano (c : Clock) : Nat := c.nano % nanosPerSecond

/-- The nanoseconds of the digits of a fraction; those after the ninth are dropped. -/
def nanosOf (digits : List Char) : Nat :=
  let kept := digits.take 9
  Nat.ofDigitChars 10 kept 0 * 10 ^ (9 - kept.length)

/-- A fraction of a second: absent if zero, else the fewest of 3, 6 and 9 digits that lose
nothing. -/
def fractionChars (nano : Nat) : List Char :=
  if nano = 0 then []
  else if nano % 1000000 = 0 then '.' :: Text.padded 3 (nano / 1000000)
  else if nano % 1000 = 0 then '.' :: Text.padded 6 (nano / 1000)
  else '.' :: Text.padded 9 nano

/-- A time with colons between its parts. -/
def chars (c : Clock) : List Char :=
  Text.padded 2 c.hour ++ ':' :: Text.padded 2 c.minute ++ ':' :: Text.padded 2 c.shownSecond ++
    fractionChars c.shownNano

/-- A time with colons between its parts. -/
def text (c : Clock) : String := String.ofList c.chars

end Clock

end SqlBroker.Calendar
