import SqlBroker.Filter.Operator
import SqlBroker.Json.Basic
import SqlBroker.Value.Type

/-!
# Filter trees

A filter is a tree of rules under groups, as a query builder writes it, together with the fields
that its rules may name. A rule without a field asks for nothing.

Models `FilterNode` with its `depth`, `Conjunction`, `Operand` and `FilterClause` (SPEC_FULL.md,
sections 3 and 9).
-/

namespace SqlBroker

/-- How the conditions of a group are joined. -/
inductive Conjunction where
  | and
  | or
deriving DecidableEq, Repr

namespace Conjunction

/-- The tag of a conjunction. -/
def tag : Conjunction → String
  | .and => "AND"
  | .or => "OR"

/-- The conjunction of a tag. -/
def ofTag : String → Except Error Conjunction
  | "AND" => .ok .and
  | "OR" => .ok .or
  | tag => .error (.unknownConjunction tag)

end Conjunction

namespace Filter

/-- A value that a rule compares with, and its type where the rule declares one. -/
structure Operand where
  value : Json
  type : Option ValueType
deriving Repr

/-- A comparison of one field with values. -/
structure Rule where
  field : Option String
  operator : Option Operator
  operands : List Operand
deriving Repr

namespace Rule

/-- The operands of parallel lists of values and types; without types none of them is typed. -/
def operandsOf? (values : List Json) : Option (List ValueType) → Option (List Operand)
  | none => some (values.map (⟨·, none⟩))
  | some types =>
    if types.length = values.length then
      some (values.zipWith (fun value type => ⟨value, some type⟩) types)
    else none

/-- The rule of its parts as they are written; values and types have to pair up. -/
def ofParts (field : Option String) (operator : Option Operator) (values : List Json)
    (types : Option (List ValueType)) : Except Error Rule :=
  match operandsOf? values types with
  | some operands => .ok ⟨field, operator, operands⟩
  | none =>
    .error (.requestShape (.unpairedTypes field values.length (types.getD []).length))

end Rule

/-- How a group joins its conditions; `negated` asks for the opposite. -/
structure Junction where
  conjunction : Conjunction
  negated : Option Bool
deriving DecidableEq, Repr

namespace Junction

/-- Whether the group asks for the opposite of its conditions. -/
def isNegated (j : Junction) : Bool := j.negated == some true

end Junction

/-- A rule, or a group of nodes. -/
inductive Node where
  | rule (rule : Rule)
  | group (junction : Junction) (children : List Node)
deriving Repr

namespace Node

mutual

/-- The levels of a tree; a rule alone is one. -/
def depth : Node → Nat
  | .rule _ => 1
  | .group _ children => 1 + depthAll children

/-- The levels of the deepest of several trees. -/
def depthAll : List Node → Nat
  | [] => 0
  | n :: rest => max n.depth (depthAll rest)

end

end Node

/-- A field that rules may name. -/
structure FieldInfo where
  type : ValueType
  label : String
deriving DecidableEq, Repr

/-- A filter tree and the fields that its rules may name. -/
structure Clause where
  tree : Node
  fields : Keyed FieldInfo
deriving Repr

end Filter

end SqlBroker
