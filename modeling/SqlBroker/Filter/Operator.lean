import SqlBroker.Error

/-!
# Operators of filter rules

The sixteen comparisons that a rule can make, by their tags.

Models `Operator` (SPEC_FULL.md, section 3).
-/

namespace SqlBroker

/-- What a filter rule asks of its field. -/
inductive Operator where
  | equal
  | notEqual
  | less
  | lessOrEqual
  | greater
  | greaterOrEqual
  | like
  | notLike
  | startsWith
  | endsWith
  | between
  | notBetween
  | isNull
  | isNotNull
  | isEmpty
  | isNotEmpty
deriving DecidableEq, Repr

namespace Operator

/-- The tag of an operator. -/
def tag : Operator → String
  | .equal => "equal"
  | .notEqual => "not_equal"
  | .less => "less"
  | .lessOrEqual => "less_or_equal"
  | .greater => "greater"
  | .greaterOrEqual => "greater_or_equal"
  | .like => "like"
  | .notLike => "not_like"
  | .startsWith => "starts_with"
  | .endsWith => "ends_with"
  | .between => "between"
  | .notBetween => "not_between"
  | .isNull => "is_null"
  | .isNotNull => "is_not_null"
  | .isEmpty => "is_empty"
  | .isNotEmpty => "is_not_empty"

/-- Every operator. -/
def all : List Operator :=
  [.equal, .notEqual, .less, .lessOrEqual, .greater, .greaterOrEqual, .like, .notLike, .startsWith,
   .endsWith, .between, .notBetween, .isNull, .isNotNull, .isEmpty, .isNotEmpty]

/-- The operator of a tag. -/
def ofTag (tag : String) : Except Error Operator :=
  match all.find? (·.tag = tag) with
  | some op => .ok op
  | none => .error (.unknownOperator tag)

end Operator

end SqlBroker
