import SqlBroker.Value.Basic

/-!
# Predicates

Conditions on the columns of a row, as a statement can state them.

Models `Comparison` and `Predicate` (SPEC_FULL.md, section 4.3).
-/

namespace SqlBroker

/-- A comparison of two values. -/
inductive Comparison where
  | eq
  | ne
  | lt
  | le
  | gt
  | ge
deriving DecidableEq, Repr

/-- The sign of a comparison. -/
def Comparison.sign : Comparison → String
  | .eq => "="
  | .ne => "<>"
  | .lt => "<"
  | .le => "<="
  | .gt => ">"
  | .ge => ">="

/-- A condition on a row. -/
inductive Predicate where
  /-- Holds of every row. -/
  | always
  | compare (column : String) (op : Comparison) (value : Value)
  | like (column : String) (pattern : Value) (negated : Bool)
  | between (column : String) (low high : Value)
  | isNull (column : String) (negated : Bool)
  | all (children : List Predicate)
  | any (children : List Predicate)
  | not (inner : Predicate)
deriving Repr, Inhabited

namespace Predicate

/-- Equality, or its opposite; with null this asks whether the column is null. -/
def equality (column : String) (negated : Bool) (value : Value) : Predicate :=
  if value.isNull then .isNull column negated
  else .compare column (if negated then .ne else .eq) value

/-- A comparison with a pattern: the pattern is a text, or null. -/
def matching (column : String) (negated : Bool) (value : Value) : Predicate :=
  .like column (if value.isNull then .null else .text value.patternText) negated

end Predicate

end SqlBroker
