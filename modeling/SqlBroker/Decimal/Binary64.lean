/-!
# Floats of 64 bits, by exact arithmetic

A float is kept as its bits in the interchange format: a sign, eleven bits of exponent and 52 of
fraction. Its size is `significand * 2 ^ exponent`. Everything here is computed on natural numbers:
`nearest` rounds a quotient to the nearest number with a bounded significand, an exact half going
to the even neighbour, and products, quotients and the narrowing to 32 bits are exact quotients
rounded once.

Models the floats of `from_json` and of the rows (SPEC_FULL.md, sections 4.1 and 14).
-/

namespace SqlBroker.Decimal

-- Here `^` is the power of natural numbers, whatever instances are imported beside it.
attribute [local instance (2000)] instPowNat

/-- A float of 64 bits, as its bits. -/
structure Binary64 where
  bits : UInt64
deriving DecidableEq, Repr

/-! ## Rounding quotients -/

/-- `num / den` rounded to a whole number, an exact half going to the even neighbour. -/
def roundHalfEven (num den : Nat) : Nat :=
  let q := num / den
  let r := num % den
  if 2 * r < den then q
  else if den < 2 * r then q + 1
  else if q % 2 = 0 then q else q + 1

/-- `num / den * 2 ^ shift`, as a quotient. -/
def shifted (num den : Nat) (shift : Int) : Nat × Nat :=
  if 0 ≤ shift then (num * 2 ^ shift.toNat, den) else (num, den * 2 ^ (-shift).toNat)

/-- The exponent of the largest power of two that is at most `num / den`, for positive numbers. -/
def binaryOrder (num den : Nat) : Int :=
  let guess : Int := (num.log2 : Int) - den.log2
  let power := shifted 1 1 guess
  if power.1 * den ≤ num * power.2 then guess else guess - 1

/-- A quotient rounded to `m * 2 ^ q` with `m` of at most `precision` bits and `q` at least
`lowest`; rounding up may give `m = 2 ^ precision`. -/
def nearest (precision : Nat) (lowest : Int) (num den : Nat) : Nat × Int :=
  if num = 0 then (0, lowest)
  else
    let q := max (binaryOrder num den - (precision - 1 : Int)) lowest
    let scaled := shifted num den (-q)
    (roundHalfEven scaled.1 scaled.2, q)

namespace Binary64

/-! ## Parts of a float -/

/-- Whether the sign bit is set. -/
def negative (x : Binary64) : Bool := 2 ^ (63 : Nat) ≤ x.bits.toNat

/-- The exponent field. -/
def exponentField (x : Binary64) : Nat := x.bits.toNat / 2 ^ (52 : Nat) % 2 ^ (11 : Nat)

/-- The fraction field. -/
def fraction (x : Binary64) : Nat := x.bits.toNat % 2 ^ (52 : Nat)

/-- Neither infinite nor no number. -/
def isFinite (x : Binary64) : Bool := x.exponentField != 2047

/-- Whether the float is a number that is infinite. -/
def isInfinite (x : Binary64) : Bool := x.exponentField == 2047 && x.fraction == 0

/-- Whether the float is a zero of either sign. -/
def isZero (x : Binary64) : Bool := x.bits.toNat % 2 ^ (63 : Nat) == 0

/-- The whole number that the power of two multiplies. -/
def significand (x : Binary64) : Nat :=
  if x.exponentField = 0 then x.fraction else 2 ^ (52 : Nat) + x.fraction

/-- The exponent of the power of two that multiplies the significand. -/
def exponent (x : Binary64) : Int := (max x.exponentField 1 : Nat) - 1075

/-- The size of a finite float as an exact quotient. -/
def size (x : Binary64) : Nat × Nat := shifted x.significand 1 x.exponent

/-! ## Making floats -/

/-- The float of a sign and a size given as bits, sizes past the largest becoming infinite. -/
def ofSizeBits (negative : Bool) (size : Nat) : Binary64 :=
  ⟨UInt64.ofNat (min size (2047 * 2 ^ (52 : Nat)) + if negative then 2 ^ (63 : Nat) else 0)⟩

/-- The float nearest to a quotient. For `m * 2 ^ q` the bits are `m` plus `q + 1074` steps of the
exponent field: below the normal range nothing is added, above it the leading bit of `m` is the
field's last step, and a significand that was rounded up carries into it. -/
def ofQuotient (negative : Bool) (num den : Nat) : Binary64 :=
  let r := nearest 53 (-1074) num den
  ofSizeBits negative (r.1 + (r.2 + 1074).toNat * 2 ^ (52 : Nat))

/-- The float nearest to a natural number. -/
def ofNat (n : Nat) : Binary64 := ofQuotient false n 1

/-- The float nearest to a whole number. -/
def ofInt (n : Int) : Binary64 := ofQuotient (n < 0) n.natAbs 1

/-- The float with the other sign. -/
def neg (x : Binary64) : Binary64 :=
  ⟨UInt64.ofNat ((x.bits.toNat + 2 ^ (63 : Nat)) % 2 ^ (64 : Nat))⟩

/-- A finite float times the float nearest to `10 ^ k`, rounded. -/
def timesTen (x : Binary64) (k : Nat) : Binary64 :=
  let a := x.size
  let b := (ofNat (10 ^ k)).size
  ofQuotient x.negative (a.1 * b.1) (a.2 * b.2)

/-- A finite float divided by the float nearest to `10 ^ k`, rounded. -/
def overTen (x : Binary64) (k : Nat) : Binary64 :=
  let a := x.size
  let b := (ofNat (10 ^ k)).size
  ofQuotient x.negative (a.1 * b.2) (a.2 * b.1)

/-- A finite float divided by `10 ^ n`, in steps of at most `10 ^ 308`, each of them rounded. -/
def scaleDown (x : Binary64) (n : Nat) : Binary64 :=
  if h : n ≤ 308 then x.overTen n
  else if x.isZero then x
  else (x.overTen 308).scaleDown (n - 308)
termination_by n
decreasing_by omega

/-- A finite float times `10 ^ n`, or `none` where that is past the largest float. -/
def scaleUp? (x : Binary64) (n : Nat) : Option Binary64 :=
  if 308 < n then (if x.isZero then some x else none)
  else
    let y := x.timesTen n
    if y.isFinite then some y else none

/-- The float read from a whole number of at most 64 bits and a decimal exponent: the number is
rounded, then scaled by a rounded power of ten and rounded again; `none` where that is infinite. -/
def ofDecimal? (negative : Bool) (coefficient : Nat) (exponent : Int) : Option Binary64 :=
  let whole := ofNat coefficient
  let sized :=
    if 0 ≤ exponent then whole.scaleUp? exponent.toNat
    else some (whole.scaleDown (-exponent).toNat)
  sized.map fun x => if negative then x.neg else x

/-- The nearest float of 32 bits, widened again; past the largest of them it is infinite. -/
def narrowed (x : Binary64) : Binary64 :=
  if x.isFinite then
    let a := x.size
    let r := nearest 24 (-149) a.1 a.2
    let b := shifted r.1 1 r.2
    if b.2 * 2 ^ (128 : Nat) ≤ b.1 then ofSizeBits x.negative (2047 * 2 ^ (52 : Nat))
    else ofQuotient x.negative b.1 b.2
  else x

end Binary64

end SqlBroker.Decimal
