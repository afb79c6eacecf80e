import SqlBroker.Text.Digits

/-!
# Dates

A date of the Gregorian calendar, reckoned backwards and forwards without end. `ofParts?` makes one
from numbers that may name no day; the years it takes are those that a request can write.

Models the dates that `parse` gives and `pattern_text` writes (SPEC_FULL.md, section 4.1).
-/

namespace SqlBroker.Calendar

/-- Whether a year has a 29 February. -/
def isLeapYear (year : Int) : Bool := year % 4 == 0 && (year % 100 != 0 || year % 400 == 0)

/-- The days of a month. -/
def monthLength (year : Int) (month : Nat) : Nat :=
  if month = 2 then (if isLeapYear year then 29 else 28)
  else if month = 4 ∨ month = 6 ∨ month = 9 ∨ month = 11 then 30
  else 31

theorem monthLength_ge (year : Int) (month : Nat) : 28 ≤ monthLength year month := by
  unfold monthLength
  repeat' split
  all_goals omega

theorem monthLength_december (year : Int) : monthLength year 12 = 31 := rfl

/-- A day of a month of a year. -/
structure Date where
  year : Int
  month : Nat
  day : Nat
  month_mem : 1 ≤ month ∧ month ≤ 12
  day_mem : 1 ≤ day ∧ day ≤ monthLength year month
deriving DecidableEq, Repr

namespace Date

/-- The years that a date may be given in. -/
def inRange (year : Int) : Bool := -262143 ≤ year && year ≤ 262142

/-- The date of three numbers, where there is such a day. -/
def ofParts? (year : Int) (month day : Nat) : Option Date :=
  if hm : 1 ≤ month ∧ month ≤ 12 then
    if hd : 1 ≤ day ∧ day ≤ monthLength year month then
      if inRange year then some ⟨year, month, day, hm, hd⟩ else none
    else none
  else none

/-- The day after. -/
def next (d : Date) : Date :=
  if h : d.day < monthLength d.year d.month then
    ⟨d.year, d.month, d.day + 1, d.month_mem, by have := d.day_mem; omega⟩
  else if hm : d.month < 12 then
    ⟨d.year, d.month + 1, 1, by have := d.month_mem; omega,
      by have := monthLength_ge d.year (d.month + 1); omega⟩
  else ⟨d.year + 1, 1, 1, by omega, by have := monthLength_ge (d.year + 1) 1; omega⟩

/-- The day before. -/
def previous (d : Date) : Date :=
  if h : 1 < d.day then
    ⟨d.year, d.month, d.day - 1, d.month_mem, by have := d.day_mem; omega⟩
  else if hm : 1 < d.month then
    ⟨d.year, d.month - 1, monthLength d.year (d.month - 1), by have := d.month_mem; omega,
      by have := monthLength_ge d.year (d.month - 1); omega⟩
  else ⟨d.year - 1, 12, 31, by omega, by rw [monthLength_december]; omega⟩

/-- A year: four digits at least, and a sign where four digits do not do. -/
def yearChars (year : Int) : List Char :=
  let digits := Text.padded 4 year.natAbs
  if year < 0 then '-' :: digits
  else if 9999 < year then '+' :: digits
  else digits

/-- A date as year, month and day with hyphens between them. -/
def chars (d : Date) : List Char :=
  yearChars d.year ++ '-' :: Text.padded 2 d.month ++ '-' :: Text.padded 2 d.day

/-- A date as year, month and day with hyphens between them. -/
def text (d : Date) : String := String.ofList d.chars

end Date

end SqlBroker.Calendar
