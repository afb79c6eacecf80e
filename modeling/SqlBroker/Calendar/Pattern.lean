import SqlBroker.Calendar.Stamp
import SqlBroker.Text.Blank

/-!
# Reading dates and times by a pattern

A pattern is a list of items, each taken from the front of the text: numbers with white space
before them, marks, gaps of white space, and an optional fraction. A number is checked for its range
as soon as it is read; what is left over when the items are through is looked at next, and only then
whether there is such a day.

Models the forms that `parse`, `parse_time` and `parse_datetime` try (SPEC_FULL.md, section 4.1).
-/

namespace SqlBroker.Calendar

-- Here `^` is the power of natural numbers, whatever instances are imported beside it.
attribute [local instance (2000)] instPowNat

/-- What is wrong with the text of a date or time. -/
inductive Fault where
  | tooShort
  | invalid
  | trailing
  | outOfRange
deriving DecidableEq, Repr

/-- The fault in words. -/
def Fault.message : Fault → String
  | .tooShort => "premature end of input"
  | .invalid => "input contains invalid characters"
  | .trailing => "trailing input"
  | .outOfRange => "input is out of range"

/-- An item of a pattern. -/
inductive Item where
  | year
  | month
  | day
  | hour
  | minute
  | second
  /-- An optional point with digits. -/
  | fraction
  /-- One character that stands for itself. -/
  | mark (c : Char)
  /-- Any amount of white space, also none. -/
  | gap
deriving DecidableEq, Repr

/-- The numbers that the items of a pattern name. -/
structure Reading where
  year : Int
  month : Nat
  day : Nat
  hour : Nat
  minute : Nat
  second : Nat
  nano : Nat
deriving DecidableEq, Repr

namespace Reading

/-- What is read before the first item. -/
def start : Reading := ⟨0, 0, 0, 0, 0, 0, 0⟩

/-- The date that was read. -/
def date? (r : Reading) : Except Fault Date :=
  match Date.ofParts? r.year r.month r.day with
  | some d => .ok d
  | none => .error .outOfRange

/-- The time that was read. -/
def clock? (r : Reading) : Except Fault Clock :=
  match Clock.ofParts? r.hour r.minute r.second r.nano with
  | some c => .ok c
  | none => .error .outOfRange

/-- The date and time that were read. -/
def stamp? (r : Reading) : Except Fault Stamp := do
  let d ← r.date?
  let c ← r.clock?
  return ⟨d, c⟩

end Reading

/-! ## Items -/

/-- The largest number that is read. -/
def numberMax : Nat := 2 ^ (63 : Nat) - 1

/-- Reads up to `width` more digits onto `n`. -/
def moreDigits : (width n : Nat) → List Char → Except Fault (Nat × List Char)
  | 0, n, cs => .ok (n, cs)
  | _ + 1, n, [] => .ok (n, [])
  | width + 1, n, c :: cs =>
    match Text.digitValue? c with
    | some d =>
      if 10 * n + d ≤ numberMax then moreDigits width (10 * n + d) cs else .error .outOfRange
    | none => .ok (n, c :: cs)

/-- Reads a number of one to `width` digits. -/
def digitsUpTo (width : Nat) : List Char → Except Fault (Nat × List Char)
  | [] => .error .tooShort
  | c :: cs => if c.isDigit then moreDigits width 0 (c :: cs) else .error .invalid

/-- Reads a number of one or two digits with white space before it. -/
def smallNumber (low high : Nat) (cs : List Char) : Except Fault (Nat × List Char) := do
  let (n, rest) ← digitsUpTo 2 (Text.skipBlanks cs)
  if low ≤ n ∧ n ≤ high then return (n, rest) else throw .outOfRange

/-- Reads a year with white space before it: four digits at most, or any number of them after a
sign. -/
def yearNumber (cs : List Char) : Except Fault (Int × List Char) := do
  let (year, rest) ←
    match Text.skipBlanks cs with
    | '-' :: cs => do
      let (n, rest) ← digitsUpTo cs.length cs
      pure (-(n : Int), rest)
    | '+' :: cs => do
      let (n, rest) ← digitsUpTo cs.length cs
      pure ((n : Int), rest)
    | cs => do
      let (n, rest) ← digitsUpTo 4 cs
      pure ((n : Int), rest)
  if -(2 ^ (31 : Nat)) ≤ year ∧ year < 2 ^ (31 : Nat) then return (year, rest)
  else throw .outOfRange

/-- Reads the digits of a fraction, the text starting after the point. -/
def fractionDigits : List Char → Except Fault (Nat × List Char)
  | [] => .error .tooShort
  | c :: cs =>
    if c.isDigit then
      .ok (Clock.nanosOf ((c :: cs).takeWhile Char.isDigit), (c :: cs).dropWhile Char.isDigit)
    else .error .invalid

/-- Reads one character that stands for itself. -/
def readMark (m : Char) : List Char → Except Fault (List Char)
  | [] => .error .tooShort
  | c :: cs => if c = m then .ok cs else .error .invalid

/-- Reads one item. -/
def Item.read (r : Reading) (cs : List Char) : Item → Except Fault (Reading × List Char)
  | .year => do
    let (n, rest) ← yearNumber cs
    return ({ r with year := n }, rest)
  | .month => do
    let (n, rest) ← smallNumber 1 12 cs
    return ({ r with month := n }, rest)
  | .day => do
    let (n, rest) ← smallNumber 1 31 cs
    return ({ r with day := n }, rest)
  | .hour => do
    let (n, rest) ← smallNumber 0 23 cs
    return ({ r with hour := n }, rest)
  | .minute => do
    let (n, rest) ← smallNumber 0 59 cs
    return ({ r with minute := n }, rest)
  | .second => do
    let (n, rest) ← smallNumber 0 60 cs
    return ({ r with second := n }, rest)
  | .fraction =>
    match cs with
    | '.' :: cs => do
      let (n, rest) ← fractionDigits cs
      return ({ r with nano := n }, rest)
    | cs => .ok (r, cs)
  | .mark m => do
    let rest ← readMark m cs
    return (r, rest)
  | .gap => .ok (r, Text.skipBlanks cs)

/-- Reads items one after the other, and nothing after them. -/
def readItems : List Item → Reading → List Char → Except Fault Reading
  | [], r, [] => .ok r
  | [], _, _ :: _ => .error .trailing
  | i :: is, r, cs => do
    let (r, rest) ← i.read r cs
    readItems is r rest

/-! ## Patterns -/

/-- Year, month and day with hyphens. -/
def datePattern : List Item := [.year, .mark '-', .month, .mark '-', .day]

/-- Hour and minute with a colon. -/
def minutePattern : List Item := [.hour, .mark ':', .minute]

/-- Hour, minute and second with colons, and a fraction. -/
def secondPattern : List Item := minutePattern ++ [.mark ':', .second, .fraction]

/-- Reads a date. -/
def readDate (s : String) : Except Fault Date := do
  let r ← readItems datePattern .start s.toList
  r.date?

/-- Reads a time by a pattern. -/
def readClockBy (pattern : List Item) (s : String) : Except Fault Clock := do
  let r ← readItems pattern .start s.toList
  r.clock?

/-- Reads a time, with seconds or without them; a fault is the one of the form without them. -/
def readClock (s : String) : Except Fault Clock :=
  match readClockBy secondPattern s with
  | .ok c => .ok c
  | .error _ => readClockBy minutePattern s

/-- Reads a date and time by a pattern. -/
def readStampBy (pattern : List Item) (s : String) : Except Fault Stamp := do
  let r ← readItems pattern .start s.toList
  r.stamp?

/-- The four ways to write a date with a time of day, in the order in which they are tried. -/
def stampPatterns : List (List Item) :=
  [datePattern ++ .mark 'T' :: secondPattern,
   datePattern ++ .gap :: secondPattern,
   datePattern ++ .mark 'T' :: minutePattern,
   datePattern ++ .gap :: minutePattern]

/-- The first success among the results of reading by several patterns. -/
def firstOk {α : Type} (read : List Item → Except Fault α) : List (List Item) → Option α
  | [] => none
  | p :: ps =>
    match read p with
    | .ok x => some x
    | .error _ => firstOk read ps

/-- Reads a date with a time, or a date alone as its midnight; a fault is the one of the date
alone. -/
def readStamp (s : String) : Except Fault Stamp :=
  match firstOk (readStampBy · s) stampPatterns with
  | some x => .ok x
  | none => (readDate s).map fun d => ⟨d, .midnight⟩

end SqlBroker.Calendar
