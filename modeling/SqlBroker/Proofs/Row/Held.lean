import SqlBroker.Proofs.Calendar.Instant
import SqlBroker.Proofs.Decimal.Groups
import SqlBroker.Row.Reader

/-!
# What databases hold

`Held b kind` is what a column of a kind can hold in a backend, and `Held.sent` the cell that comes
for it. Not all of it has a value that it can be read as: `Held.IsLost` names what is past the
numbers, the days and the texts that the values of a row can be. Dates and times come as they are
written; a day without end comes as one past all days.
-/

namespace SqlBroker

open Calendar Decimal.Fixed
open Text (AreDigits)

/-! ## Days and times -/

/-- A day as three numbers, which may name none: MySQL has days of month zero and of day zero. -/
structure DayParts where
  year : Int
  month : Nat
  day : Nat
  year_lt : year.natAbs < 2 ^ 31
  month_lt : month < 100
  day_lt : day < 100

namespace DayParts

/-- The day as it is written. -/
def chars (d : DayParts) : List Char := dateChars d.year d.month d.day

/-- Whether there is such a day, in a year that a date may be in. -/
def IsDay (d : DayParts) : Prop :=
  (1 ≤ d.month ∧ d.month ≤ 12) ∧ (1 ≤ d.day ∧ d.day ≤ monthLength d.year d.month) ∧
    Date.inRange d.year

end DayParts

/-- A time as three numbers and a fraction, of any number of hours. -/
structure TimeParts where
  hour : Nat
  minute : Nat
  second : Nat
  fraction : List Char
  minute_lt : minute < 60
  second_lt : second < 60
  digits : AreDigits fraction

namespace TimeParts

/-- The time as it is written. -/
def chars (t : TimeParts) : List Char := clockChars t.hour t.minute t.second t.fraction

/-- The end of a day. -/
def IsEndOfDay (t : TimeParts) : Prop :=
  t.hour = 24 ∧ t.minute = 0 ∧ t.second = 0 ∧ t.fraction = []

/-- The times that a backend has: Postgres those of a day and its end, MySQL those of many days,
forwards and backwards. -/
def IsOf (t : TimeParts) (behind : Bool) : Backend → Prop
  | .postgres => behind = false ∧ (t.hour < 24 ∨ t.IsEndOfDay)
  | .mysql => True
  | .sqlite => False

end TimeParts

/-- An offset from universal time, of less than a day. -/
structure Zone where
  behind : Bool
  hours : Nat
  minutes : Nat
  hours_lt : hours < 24
  minutes_lt : minutes < 60

/-- The offset as it is written. -/
def Zone.chars (z : Zone) : List Char := zoneChars z.behind z.hours z.minutes

/-! ## Columns -/

/-- What Postgres takes for a number beside decimals. -/
def noNumbers : List String := ["NaN", "Infinity", "-Infinity"]

/-- What a column of a kind holds in one row. -/
inductive Held (b : Backend) : ColumnKind → Type where
  | null {kind : ColumnKind} : Held b kind
  | integer (n : Int) : Held b .integer
  | single (x : Decimal.Binary64) (narrow : x.narrowed = x) : Held b .single
  | double (x : Decimal.Binary64) : Held b .double
  | decimal (w : Written) (h : w.IsDecimal) : Held b .fixed
  | noNumber (s : String) (h : b = .postgres ∧ s ∈ noNumbers) : Held b .fixed
  /-- A truth value as the number that MySQL has for it. -/
  | flag (n : Int) : Held b .flag
  | date (d : DayParts) : Held b .date
  | time (behind : Bool) (t : TimeParts) (h : t.IsOf behind b) : Held b .time
  | stamp (d : DayParts) (t : TimeParts) (h : t.hour < 24) : Held b .stamp
  | instant (d : DayParts) (t : TimeParts) (z : Zone) (h : t.hour < 24) : Held b .instant
  | uuid (s : String) (h : Cell.isUuid s) : Held b .uuid
  | json (bytes : List UInt8) : Held b .json
  | binary (bytes : List UInt8) : Held b .binary
  | text (bytes : List UInt8) : Held b .text
  | storedInteger (n : Int) : Held b .stored
  | storedReal (x : Decimal.Binary64) : Held b .stored
  | storedText (bytes : List UInt8) : Held b .stored
  | storedBlob (bytes : List UInt8) : Held b .stored

namespace Held

variable {b : Backend} {kind : ColumnKind}

/-- The cell that comes for it. Only Postgres has truth values, and writes the offset of an
instant. -/
def sent : Held b kind → Cell
  | .null => .null
  | .integer n => .int n
  | .single x _ => .float x
  | .double x => .float x
  | .decimal w _ => .ofText (String.ofList w.chars)
  | .noNumber s _ => .ofText s
  | .flag n =>
    match b with
    | .postgres => .bool (n != 0)
    | _ => .int n
  | .date d => .ofText (String.ofList d.chars)
  | .time behind t _ => .ofText (String.ofList (if behind then '-' :: t.chars else t.chars))
  | .stamp d t _ => .ofText (String.ofList (d.chars ++ ' ' :: t.chars))
  | .instant d t z _ =>
    match b with
    | .postgres => .ofText (String.ofList (d.chars ++ 'T' :: (t.chars ++ z.chars)))
    | _ => .ofText (String.ofList (d.chars ++ ' ' :: t.chars))
  | .uuid s _ => .ofText s
  | .json bytes => .text bytes
  | .binary bytes => .blob bytes
  | .text bytes => .text bytes
  | .storedInteger n => .int n
  | .storedReal x => .float x
  | .storedText bytes => .text bytes
  | .storedBlob bytes => .blob bytes

/-- What cannot be read: numbers that are none or too large or, in groups of digits, too fine; days
that there are not; times of more than a day; bytes that are no text, and no JSON text that is
read. -/
def IsLost : Held b kind → Prop
  | .single x _ => ¬ x.isFinite
  | .double x => ¬ x.isFinite
  | .decimal w _ => w.IsTooLarge ∨ b = .postgres ∧ w.IsTooFine
  | .noNumber .. => True
  | .date d => ¬ d.IsDay
  | .time _ t _ => b = .mysql ∧ 24 ≤ t.hour
  | .stamp d _ _ => ¬ d.IsDay
  | .instant d _ _ _ => ¬ d.IsDay
  | .json bytes => ∀ s, bytes = Text.encode s → Json.read? Json.nestingLimit s = none
  | .text bytes => ∀ s, bytes ≠ Text.encode s
  | .storedReal x => ¬ x.isFinite
  | .storedText bytes => ∀ s, bytes ≠ Text.encode s
  | _ => False

/-- Whether this is a JSON text that writes the null of JSON. -/
def IsJsonNull : Held b kind → Prop
  | .json bytes => ∃ s, bytes = Text.encode s ∧ Json.read? Json.nestingLimit s = some .null
  | _ => False

end Held

end SqlBroker
