import SqlBroker.Decimal.Binary64
import SqlBroker.Text.Digits

/-!
# Lengths of time

A length of time in whole nanoseconds. `ofSeconds?` rounds a float of seconds to the nearest one;
`text` takes the largest unit that leaves a whole part and drops the zeros at the end of the
fraction.

Models the value of `option_secs`, and the limit in the messages of `execute` (SPEC_FULL.md,
sections 10.3 and 11).
-/

namespace SqlBroker

-- Here `^` is the power of natural numbers, whatever instances are imported beside it.
attribute [local instance (2000)] instPowNat

/-- A length of time, in nanoseconds. -/
structure Duration where
  nanos : Nat
deriving DecidableEq, Repr

namespace Duration

/-- The nanoseconds of a second. -/
def perSecond : Nat := 1000000000

/-- A length of whole seconds. -/
def ofSeconds (n : Nat) : Duration := ⟨n * perSecond⟩

/-- A length of whole milliseconds. -/
def ofMillis (n : Nat) : Duration := ⟨n * 1000000⟩

/-- The whole seconds. -/
def seconds (d : Duration) : Nat := d.nanos / perSecond

/-- The nanoseconds past the whole seconds. -/
def subsecond (d : Duration) : Nat := d.nanos % perSecond

/-- The length of a float of seconds, to the nearest nanosecond, an exact half to the even one;
`none` for a negative number and for one of 2 ^ 64 seconds or more. -/
def ofSeconds? (x : Decimal.Binary64) : Option Duration :=
  if !x.isFinite || (x.negative && !x.isZero) then none
  else
    let s := x.size
    let nanos := Decimal.roundHalfEven (s.1 * perSecond) s.2
    if nanos < 2 ^ (64 : Nat) * perSecond then some ⟨nanos⟩ else none

/-- A fraction of `width` digits without the zeros at its end. -/
def fractionChars (width n : Nat) : List Char :=
  let digits := ((Text.padded width n).reverse.dropWhile (· == '0')).reverse
  if digits = [] then [] else '.' :: digits

/-- A length in a unit of `10 ^ width` nanoseconds. -/
def inUnit (width : Nat) (unit : List Char) (nanos : Nat) : List Char :=
  Text.digits (nanos / 10 ^ width) ++ fractionChars width (nanos % 10 ^ width) ++ unit

/-- A length of time in its largest unit. -/
def text (d : Duration) : String :=
  String.ofList <|
    if 10 ^ (9 : Nat) ≤ d.nanos then inUnit 9 ['s'] d.nanos
    else if 10 ^ (6 : Nat) ≤ d.nanos then inUnit 6 ['m', 's'] d.nanos
    else if 10 ^ (3 : Nat) ≤ d.nanos then inUnit 3 ['\u00b5', 's'] d.nanos
    else inUnit 0 ['n', 's'] d.nanos

end Duration

end SqlBroker
