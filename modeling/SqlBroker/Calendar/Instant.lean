import SqlBroker.Calendar.Pattern

/-!
# Instants with an offset

The internet date and time format: a date of ten characters, `T` or a blank, a time of eight, an
optional fraction, and `Z` or an offset of less than a day. `readInstant?` gives the universal time
that is meant. That format has no years but those of four digits; `readAnyInstant?` takes others as
well, written with a sign.

Models the first form that `parse_datetime` tries (SPEC_FULL.md, section 4.1).
-/

namespace SqlBroker.Calendar

/-- Reads exactly `count` digits onto `n`. -/
def exactDigits : (count n : Nat) → List Char → Option (Nat × List Char)
  | 0, n, cs => some (n, cs)
  | _ + 1, _, [] => none
  | count + 1, n, c :: cs => do
    let d ← Text.digitValue? c
    exactDigits count (10 * n + d) cs

/-- Reads a year: four digits, or any number of them behind a sign. -/
def readYear? (cs : List Char) : Option (Int × List Char) :=
  match cs with
  | '+' :: _ => (yearNumber cs).toOption
  | '-' :: _ => (yearNumber cs).toOption
  | _ => (exactDigits 4 0 cs).map fun (n, cs) => ((n : Int), cs)

/-- What follows one of the given characters at the start of a text. -/
def afterOne? (allowed : List Char) : List Char → Option (List Char)
  | [] => none
  | c :: cs => if c ∈ allowed then some cs else none

/-- Reads an optional fraction; a point needs a digit after it. -/
def optionalFraction : List Char → Option (Nat × List Char)
  | '.' :: cs =>
    let digits := cs.takeWhile Char.isDigit
    if digits = [] then none else some (Clock.nanosOf digits, cs.dropWhile Char.isDigit)
  | cs => some (0, cs)

/-- The signs of an offset: the minus sign may be the hyphen or the mathematical one. -/
def offsetSigns : List (Char × Int) := [('+', 1), ('-', -1), ('\u2212', -1)]

/-- The offset, in minutes, that a whole text writes. -/
def readOffset? : List Char → Option Int
  | ['Z'] => some 0
  | ['z'] => some 0
  | c :: cs => do
    let sign ← offsetSigns.lookup c
    let (hours, cs) ← exactDigits 2 0 cs
    let cs ← afterOne? [':'] cs
    let (minutes, cs) ← exactDigits 2 0 cs
    if hours < 24 ∧ minutes < 60 ∧ cs = [] then some (sign * (hours * 60 + minutes : Nat)) else none
  | [] => none

/-- The universal time of an instant of which the year is read. -/
def instantFrom? (year : Int) (cs : List Char) : Option Stamp := do
  let cs ← afterOne? ['-'] cs
  let (month, cs) ← exactDigits 2 0 cs
  let cs ← afterOne? ['-'] cs
  let (day, cs) ← exactDigits 2 0 cs
  let cs ← afterOne? ['T', 't', ' '] cs
  let (hour, cs) ← exactDigits 2 0 cs
  let cs ← afterOne? [':'] cs
  let (minute, cs) ← exactDigits 2 0 cs
  let cs ← afterOne? [':'] cs
  let (second, cs) ← exactDigits 2 0 cs
  let (nano, cs) ← optionalFraction cs
  let offset ← readOffset? cs
  let date ← Date.ofParts? year month day
  let clock ← Clock.ofParts? hour minute second nano
  return Stamp.toUniversal ⟨date, clock⟩ offset

/-- The universal time of an instant. -/
def readInstant? (s : String) : Option Stamp := do
  let (year, cs) ← exactDigits 4 0 s.toList
  instantFrom? year cs

/-- The universal time of an instant of any year. -/
def readAnyInstant? (s : String) : Option Stamp := do
  let (year, cs) ← readYear? s.toList
  instantFrom? year cs

end SqlBroker.Calendar
