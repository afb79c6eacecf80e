import SqlBroker.Decode.Record
import SqlBroker.Decode.Variant
import SqlBroker.Filter.Tree

/-!
# Decoding filters

The JSON forms of filter trees. A node names its kind under `type`; the values and value types of a
rule are parallel arrays.

Models `FilterNode`, `RuleProperties`, `GroupProperties` and `FilterClause` as they are written
(SPEC_FULL.md, sections 3 and 12).
-/

namespace SqlBroker.Filter

open SqlBroker.Decode

/-- An operator by its tag. -/
def decodeOperator : Decoder Operator := checked string Operator.ofTag

/-- A conjunction by its tag. -/
def decodeConjunction : Decoder Conjunction := checked string Conjunction.ofTag

/-- A value type by its tag. -/
def decodeType : Decoder ValueType := checked string ValueType.ofTag

/-- The parts of a rule as they are written. -/
def ruleFields :
    Fields [Option String, Option Operator, List Json, Option (List ValueType)] :=
  .cons (possible "field" string) <|
  .cons (possible "operator" decodeOperator) <|
  .cons (defaulted "value" (list json) []) <|
  .cons (possible "valueType" (list decodeType)) .nil

/-- A rule. -/
def decodeRule : Decoder Rule :=
  checked
    (record "struct RawRuleProperties" ruleFields fun (field, operator, values, types, ()) =>
      (field, operator, values, types))
    fun (field, operator, values, types) => Rule.ofParts field operator values types

/-- How a group joins its conditions. -/
def decodeJunction : Decoder Junction :=
  record "struct GroupProperties"
    (.cons (needed "conjunction" decodeConjunction) <|
     .cons (possible "not" flag) .nil)
    fun (conjunction, negated, ()) => ⟨conjunction, negated⟩

/-- A node that is a rule. -/
def decodeRuleNode : Decoder Node :=
  record "struct variant FilterNode::Rule" (.cons (needed "properties" decodeRule) .nil)
    fun (rule, ()) => .rule rule

/-- A node that is a group, given how its children are decoded. -/
def decodeGroupNode (child : Decoder Node) : Decoder Node :=
  record "struct variant FilterNode::Group"
    (.cons (needed "properties" decodeJunction) <|
     .cons (defaulted "children1" (list child) []) .nil)
    fun (junction, children, ()) => .group junction children

/-- A node of at most `levels` levels. -/
def decodeNodeUpTo : (levels : Nat) → Decoder Node
  | 0 => fun _ _ => fail .malformed
  | levels + 1 =>
    tagged "internally tagged enum FilterNode" "type"
      [("rule", decodeRuleNode), ("group", decodeGroupNode (decodeNodeUpTo levels))]

/-- A node: it has no more levels than its JSON form. -/
def decodeNode : Decoder Node := fun src d => decodeNodeUpTo (d.depth + 1) src d

/-- A field that rules may name. -/
def decodeFieldInfo : Decoder FieldInfo :=
  record "struct TableField"
    (.cons (needed "type" decodeType) <|
     .cons (needed "label" string) .nil)
    fun (type, label, ()) => ⟨type, label⟩

/-- A filter. -/
def decodeClause : Decoder Clause :=
  record "struct FilterClause"
    (.cons (needed "tree" decodeNode) <|
     .cons (defaulted "fields" (keyed decodeFieldInfo) .empty) .nil)
    fun (tree, fields, ()) => ⟨tree, fields⟩

end SqlBroker.Filter
