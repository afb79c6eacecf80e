import SqlBroker.Decimal.Binary64
import SqlBroker.Decimal.Fixed

/-!
# Decimals from groups of four digits

A database may send a decimal as groups of four digits, counted from the point, without the groups
of zeros at its two ends, and beside them the number of places that it was written with. The decimal
is the sum of its groups, from the largest. A sum whose coefficient is too large gives up places and
is rounded, a half to the even neighbour; at last it takes the number of places that it was written
with, as far as it can.

Models the decimals of `pg_row_to_json` (SPEC_FULL.md, section 14).
-/

namespace SqlBroker.Decimal.Fixed

-- Here `^` is the power of natural numbers, whatever instances are imported beside it.
attribute [local instance (2000)] instPowNat

/-- How many digits make a group. -/
def groupWidth : Nat := 4

/-- One more than the largest group. -/
def groupBase : Nat := 10 ^ groupWidth

/-- How many groups, before or after the point, can be told apart. -/
def groupsMax : Nat := 7

/-- A group of digits: its number and its weight, which is zero just before the point. -/
structure Group where
  value : Nat
  weight : Int
deriving DecidableEq, Repr

/-! ## Groups of a decimal -/

/-- The groups of a number from the smallest, of which the first has a weight. -/
def groupsFrom (weight : Int) (n : Nat) : List Group :=
  if _ : n = 0 then [] else ⟨n % groupBase, weight⟩ :: groupsFrom (weight + 1) (n / groupBase)
termination_by n
decreasing_by exact Nat.div_lt_self (by omega) (by decide)

/-- Zeros that fill up a last group. -/
def fill (places : List Char) : List Char :=
  List.replicate ((groupWidth - places.length % groupWidth) % groupWidth) '0'

/-- The groups of a written decimal from the largest, without zeros at the ends. -/
def Written.groups (w : Written) : List Group :=
  let places := w.places ++ fill w.places
  let n := Nat.ofDigitChars 10 (w.whole ++ places) 0
  ((groupsFrom (-(places.length / groupWidth : Nat)) n).dropWhile (·.value = 0)).reverse

/-! ## The sum of the groups -/

/-- How many digits a coefficient has to give up. -/
def excess (n : Nat) : Nat :=
  if _ : n < coefficientLimit then 0 else excess (n / 10) + 1
termination_by n
decreasing_by
  have : 0 < coefficientLimit := by decide
  exact Nat.div_lt_self (by omega) (by decide)

/-- A coefficient and scale that fit, with as many places as possible; none if that is not
enough. -/
def fitted? (n scale : Nat) : Option (Nat × Nat) :=
  let cut := excess n
  let m := roundHalfEven n (10 ^ cut)
  if scale < cut then none
  else if m < coefficientLimit then some (m, scale - cut)
  else if scale = cut then none
  else some (roundHalfEven m 10, scale - cut - 1)

/-- The sum of two coefficients with scales. -/
def sum? (a b : Nat × Nat) : Option (Nat × Nat) :=
  let scale := max a.2 b.2
  fitted? (a.1 * 10 ^ (scale - a.2) + b.1 * 10 ^ (scale - b.2)) scale

/-- The coefficient and scale of one group. -/
def Group.part? (g : Group) : Option (Nat × Nat) :=
  let distance := groupWidth * g.weight.natAbs
  if groupsMax < g.weight.natAbs then none
  else if g.weight < 0 then some (g.value, distance)
  else if g.value * 10 ^ distance < coefficientLimit then some (g.value * 10 ^ distance, 0)
  else none

/-- The sum with one more group. -/
def plusGroup? (a : Nat × Nat) (g : Group) : Option (Nat × Nat) := do
  let part ← g.part?
  if g.value = 0 then some a else sum? a part

/-! ## The number of places -/

/-- A coefficient and scale with more places, as many of them as fit. -/
def lengthened : (more : Nat) → Nat × Nat → Nat × Nat
  | 0, d => d
  | more + 1, d => if 10 * d.1 < coefficientLimit then lengthened more (10 * d.1, d.2 + 1) else d

/-- A coefficient and scale with a number of places, as far as that fits. -/
def withPlaces (places : Nat) (d : Nat × Nat) : Nat × Nat :=
  if places < d.2 then ((d.1 / 10 ^ (d.2 - places - 1) + 5) / 10, places)
  else lengthened (min places scaleMax - d.2) d

/-- The decimal that a text writes, through its groups; zero has no places. -/
def readGroups? (s : String) : Option Fixed := do
  let w ← Written.ofText? s
  match w.groups with
  | [] => some ⟨false, 0, 0⟩
  | groups =>
    let sum ← groups.foldlM plusGroup? (0, 0)
    let (n, scale) := withPlaces w.places.length sum
    return ⟨w.negative, n, scale⟩

end SqlBroker.Decimal.Fixed
