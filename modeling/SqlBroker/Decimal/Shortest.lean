import SqlBroker.Decimal.Binary64
import SqlBroker.Text.Digits

/-!
# The fewest digits that identify a float

A decimal identifies a float when it lies among the reals that round to it: between the midpoints
to the float's two neighbours, the midpoints themselves included exactly when the significand is
even. `shortest` tries one digit, then two, and so on up to seventeen; at each step only the two
decimals around the float's own value need to be tried. If both identify it the nearer one wins,
and `Tie` says what happens when they are equally near.
-/

namespace SqlBroker.Decimal

-- Here `^` is the power of natural numbers, whatever instances are imported beside it.
attribute [local instance (2000)] instPowNat

/-- A positive decimal: `coefficient * 10 ^ exponent`. -/
structure Digits where
  coefficient : Nat
  exponent : Int
deriving DecidableEq, Repr

/-- Which of two equally near decimals is taken. -/
inductive Tie where
  | even
  | up
deriving DecidableEq, Repr

/-- The exponent of the largest power of ten that is at most `num / den`, for positive numbers. -/
def decimalOrder (num den : Nat) : Int :=
  if den ≤ num then (Text.digits (num / den)).length - 1
  else -((Text.digits ((den + num - 1) / num - 1)).length : Int)

/-- `num / den * 10 ^ shift`, as a quotient. -/
def scaledTen (num den : Nat) (shift : Int) : Nat × Nat :=
  if 0 ≤ shift then (num * 10 ^ shift.toNat, den) else (num, den * 10 ^ (-shift).toNat)

/-- The reals that round to a float, as quotients over one denominator. -/
structure Rounds where
  low : Nat
  value : Nat
  high : Nat
  den : Nat
  closed : Bool
deriving Repr

/-- The interval of a finite float that is not zero, in quarters of its last place: the float below
a power of two is only half as far away. -/
def Binary64.rounds (x : Binary64) : Rounds :=
  let step := shifted 1 1 (x.exponent - 2)
  let m := 4 * x.significand
  let below := if x.fraction = 0 ∧ 1 < x.exponentField then 1 else 2
  { low := (m - below) * step.1
    value := m * step.1
    high := (m + 2) * step.1
    den := step.2
    closed := x.significand % 2 == 0 }

/-- Whether `coefficient * 10 ^ exponent` lies in the interval. -/
def Rounds.holds (r : Rounds) (d : Digits) : Bool :=
  let s := scaledTen (d.coefficient * r.den) 1 d.exponent
  if r.closed then decide (r.low * s.2 ≤ s.1) && decide (s.1 ≤ r.high * s.2)
  else decide (r.low * s.2 < s.1) && decide (s.1 < r.high * s.2)

/-- The decimal with the last place `10 ^ exponent` that identifies the float, if there is one. -/
def Rounds.pick? (r : Rounds) (tie : Tie) (exponent : Int) : Option Digits :=
  let s := scaledTen r.value r.den (-exponent)
  let down : Digits := ⟨s.1 / s.2, exponent⟩
  let up : Digits := ⟨s.1 / s.2 + 1, exponent⟩
  let rest := s.1 % s.2
  let nearer :=
    if 2 * rest < s.2 then down
    else if s.2 < 2 * rest then up
    else
      match tie with
      | .up => up
      | .even => if down.coefficient % 2 = 0 then down else up
  match r.holds down, r.holds up with
  | true, true => some nearer
  | true, false => some down
  | false, true => some up
  | false, false => none

/-- The first of the places from `exponent` down that identifies the float; `fuel` places at
most. -/
def Rounds.first (r : Rounds) (tie : Tie) : Nat → Int → Digits
  | 0, exponent => ⟨0, exponent⟩
  | fuel + 1, exponent => (r.pick? tie exponent).getD (r.first tie fuel (exponent - 1))

/-- A coefficient without zeros at its end. -/
def Digits.trimmed (d : Digits) : Digits :=
  if h : d.coefficient = 0 then d
  else if d.coefficient % 10 = 0 then trimmed ⟨d.coefficient / 10, d.exponent + 1⟩ else d
termination_by d.coefficient
decreasing_by omega

/-- The fewest digits that identify a finite float that is not zero. -/
def Binary64.shortest (tie : Tie) (x : Binary64) : Digits :=
  let r := x.rounds
  (r.first tie 17 (decimalOrder r.value r.den)).trimmed

end SqlBroker.Decimal
