import SqlBroker.Decimal.Shortest

/-!
# How the digits of a float are laid out

`Layout` holds the decisions of one way to write floats: which exponents are written positionally,
whether a whole number keeps a `.0`, and which of two equally near decimals is written. `render`
writes a float by such a layout. An exponent is written with its sign and no leading zeros.
-/

namespace SqlBroker.Decimal

/-- The decisions of one way to write floats. -/
structure Layout where
  /-- The exponents of the first digit that are written positionally; `none` means all. -/
  positional : Option (Int × Int)
  /-- Whether a whole number is written with `.0`. -/
  pointZero : Bool
  /-- Which of two equally near decimals is written. -/
  tie : Tie
deriving Repr

/-- The exponent of a decimal's first digit. -/
def Digits.order (d : Digits) : Int := d.exponent + (Text.digits d.coefficient).length - 1

/-- A decimal in positional notation. -/
def Digits.positional (pointZero : Bool) (d : Digits) : List Char :=
  let ds := Text.digits d.coefficient
  if 0 ≤ d.exponent then
    ds ++ List.replicate d.exponent.toNat '0' ++ if pointZero then ['.', '0'] else []
  else
    let whole := ds.length - d.exponent.natAbs
    if 0 < whole then ds.take whole ++ '.' :: ds.drop whole
    else '0' :: '.' :: List.replicate (d.exponent.natAbs - ds.length) '0' ++ ds

/-- A decimal with its first digit before the point and an exponent. -/
def Digits.scientific (d : Digits) : List Char :=
  let mantissa :=
    match Text.digits d.coefficient with
    | [] => []
    | [c] => [c]
    | c :: cs => c :: '.' :: cs
  let sign := if 0 ≤ d.order then '+' else '-'
  mantissa ++ 'e' :: sign :: Text.digits d.order.natAbs

/-- A decimal by a layout. -/
def Layout.digits (l : Layout) (d : Digits) : List Char :=
  match l.positional with
  | none => d.positional l.pointZero
  | some (low, high) =>
    if low ≤ d.order ∧ d.order ≤ high then d.positional l.pointZero else d.scientific

/-- A float by a layout. -/
def Layout.render (l : Layout) (x : Binary64) : List Char :=
  let sign := if x.negative then ['-'] else []
  if x.isZero then sign ++ '0' :: if l.pointZero then ['.', '0'] else []
  else if x.isFinite then sign ++ l.digits (x.shortest l.tie)
  else if x.isInfinite then sign ++ ['i', 'n', 'f']
  else ['N', 'a', 'N']

end SqlBroker.Decimal
