import SqlBroker.Text.Digits

/-!
# Decimals with a fixed number of places

A decimal with a whole coefficient and a scale, the number of its places. The coefficient takes 96
bits and the scale is at most 28. `read?` keeps as many places as fit and rounds at the first that
does not; a whole part that does not fit is refused. The text keeps every place, has no zeros before
the whole part and no sign before zero.

Models the decimals of `mysql_row_to_json` (SPEC_FULL.md, section 14).
-/

namespace SqlBroker.Decimal

-- Here `^` is the power of natural numbers, whatever instances are imported beside it.
attribute [local instance (2000)] instPowNat

/-- A decimal: the coefficient divided by ten to the power of the scale. -/
structure Fixed where
  negative : Bool
  coefficient : Nat
  scale : Nat
deriving DecidableEq, Repr

namespace Fixed

/-- The least coefficient that is too large. -/
def coefficientLimit : Nat := 2 ^ (96 : Nat)

/-- The largest scale. -/
def scaleMax : Nat := 28

/-! ## Reading -/

/-- A decimal as it is written: its sign and its digits before and after the point. -/
structure Written where
  negative : Bool
  whole : List Char
  places : List Char
deriving DecidableEq, Repr

/-- Digits with at most one point among them; there is a digit. -/
def Written.ofUnsigned? (negative : Bool) (cs : List Char) : Option Written :=
  let w : Written :=
    ⟨negative, cs.takeWhile (· ≠ '.'), (cs.dropWhile (· ≠ '.')).drop 1⟩
  let digits := w.whole ++ w.places
  if digits ≠ [] ∧ digits.all Char.isDigit then some w else none

/-- A decimal in a text, with or without a sign. -/
def Written.ofText? (s : String) : Option Written :=
  match s.toList with
  | '-' :: cs => ofUnsigned? true cs
  | '+' :: cs => ofUnsigned? false cs
  | cs => ofUnsigned? false cs

/-- A coefficient and scale rounded by the first digit that they leave out, a half up. A coefficient
that becomes too large by it gives up a place, if it has one. -/
def rounded? (n scale left : Nat) : Option (Nat × Nat) :=
  if left < 5 then some (n, scale)
  else if n + 1 < coefficientLimit then some (n + 1, scale)
  else
    match scale with
    | 0 => none
    | scale + 1 => some ((n + 5) / 10, scale)

/-- Reads places onto a coefficient and scale, as many as fit. -/
def readPlaces? (n scale : Nat) : List Char → Option (Nat × Nat)
  | [] => some (n, scale)
  | c :: cs => do
    let d ← Text.digitValue? c
    if scale < scaleMax ∧ 10 * n + d < coefficientLimit then readPlaces? (10 * n + d) (scale + 1) cs
    else rounded? n scale d

/-- The decimal that a text writes, as exactly as it can be. -/
def read? (s : String) : Option Fixed := do
  let w ← Written.ofText? s
  let whole := Nat.ofDigitChars 10 w.whole 0
  if whole < coefficientLimit then
    let (n, scale) ← readPlaces? whole 0 w.places
    return ⟨w.negative, n, scale⟩
  else none

/-! ## Writing -/

/-- The decimal with all its places. -/
def chars (d : Fixed) : List Char :=
  let ds := Text.padded (d.scale + 1) d.coefficient
  let whole := ds.length - d.scale
  (if d.negative ∧ d.coefficient ≠ 0 then ['-'] else []) ++ ds.take whole ++
    if d.scale = 0 then [] else '.' :: ds.drop whole

/-- The decimal with all its places. -/
def text (d : Fixed) : String := String.ofList d.chars

end Fixed

end SqlBroker.Decimal
