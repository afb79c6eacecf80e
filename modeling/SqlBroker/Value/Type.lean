import SqlBroker.Error

/-!
# Types of values

The types that a query builder declares for its fields. Each has a tag; `ofTag` refuses any other.

Models `ValueType` (SPEC_FULL.md, section 4.1).
-/

namespace SqlBroker

/-- The declared type of a value. -/
inductive ValueType where
  | text
  | number
  | date
  | time
  | datetime
  | select
  | multiselect
  | treeselect
  | treemultiselect
  | boolean
  | numberCustom
  | booleanCustom
  | datetimeCustom
  | selectCustom
deriving DecidableEq, Repr

namespace ValueType

/-- The tag of a type. -/
def tag : ValueType → String
  | .text => "text"
  | .number => "number"
  | .date => "date"
  | .time => "time"
  | .datetime => "datetime"
  | .select => "select"
  | .multiselect => "multiselect"
  | .treeselect => "treeselect"
  | .treemultiselect => "treemultiselect"
  | .boolean => "boolean"
  | .numberCustom => "number-custom"
  | .booleanCustom => "boolean-custom"
  | .datetimeCustom => "datetime-custom"
  | .selectCustom => "select-custom"

/-- Every type. -/
def all : List ValueType :=
  [.text, .number, .date, .time, .datetime, .select, .multiselect, .treeselect, .treemultiselect,
   .boolean, .numberCustom, .booleanCustom, .datetimeCustom, .selectCustom]

/-- The type of a tag. -/
def ofTag (tag : String) : Except Error ValueType :=
  match all.find? (·.tag = tag) with
  | some type => .ok type
  | none => .error (.unsupportedValueType tag)

end ValueType

end SqlBroker
