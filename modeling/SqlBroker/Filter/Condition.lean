import SqlBroker.Filter.Predicate
import SqlBroker.Table
import SqlBroker.Value.Reader

/-!
# The condition of a filter

What a filter tree asks of a row, as a predicate. A rule without a field asks for nothing, nor does
a group whose children ask for nothing; such nodes leave no trace. The first rule in the order of
the text that cannot be understood is the error.

Models `compile_clause`, `compile` and `compile_rule`, with `compare_or_null`, `like` and `between`
(SPEC_FULL.md, sections 4.3 and 12).
-/

namespace SqlBroker

/-- The predicate of an operator over a column and the values of its operands. Operators of one
value take the first, and null where there is none. -/
def Operator.predicate (op : Operator) (column : String) (values : List Value) :
    Except Error Predicate :=
  let first := values.headD .null
  match op with
  | .equal => .ok (.equality column false first)
  | .notEqual => .ok (.equality column true first)
  | .less => .ok (.compare column .lt first)
  | .lessOrEqual => .ok (.compare column .le first)
  | .greater => .ok (.compare column .gt first)
  | .greaterOrEqual => .ok (.compare column .ge first)
  | .like => .ok (.matching column false first)
  | .notLike => .ok (.matching column true first)
  | .startsWith => .ok (.like column (.text (first.patternText ++ "%")) false)
  | .endsWith => .ok (.like column (.text ("%" ++ first.patternText)) false)
  | .between =>
    match values with
    | low :: high :: _ => .ok (.between column low high)
    | _ => .error (.arity op.tag 2 values.length)
  | .notBetween =>
    match values with
    | low :: high :: _ => .ok (.not (.between column low high))
    | _ => .error (.arity op.tag 2 values.length)
  | .isNull => .ok (.isNull column false)
  | .isNotNull => .ok (.isNull column true)
  | .isEmpty => .ok (.compare column .eq (.text ""))
  | .isNotEmpty => .ok (.compare column .ne (.text ""))

namespace Filter

/-- The tag that stands for a missing operator in a message. -/
def absentOperator : String := "<absent>"

/-- The values of operands, each read by its own type or else by the declared one. -/
def Operand.values (declared : Option ValueType) : List Operand → Except Error (List Value)
  | [] => .ok []
  | o :: rest => do
    let v ← Value.read (o.type <|> declared) o.value
    let vs ← values declared rest
    return v :: vs

/-- What a rule about a field asks for. -/
def Rule.predicate (r : Rule) (field : String) (t : Table) (fields : Keyed FieldInfo) :
    Except Error Predicate := do
  let column ← t.column field
  match r.operator with
  | none => throw (.unknownOperator absentOperator)
  | some op =>
    let values ← Operand.values ((fields.get? field).map FieldInfo.type) r.operands
    op.predicate column values

/-- What a rule asks for, if it names a field. -/
def Rule.condition (r : Rule) (t : Table) (fields : Keyed FieldInfo) :
    Except Error (Option Predicate) :=
  match r.field with
  | none => .ok none
  | some field => (r.predicate field t fields).map some

/-- Conditions joined as a group says; none if there are none. -/
def Junction.join (j : Junction) (conditions : List Predicate) : Option Predicate :=
  if conditions.isEmpty then none
  else
    let joined :=
      match j.conjunction with
      | .and => Predicate.all conditions
      | .or => Predicate.any conditions
    some (if j.isNegated then .not joined else joined)

mutual

/-- What a node asks for, if it asks for anything. -/
def Node.condition (t : Table) (fields : Keyed FieldInfo) : Node → Except Error (Option Predicate)
  | .rule r => r.condition t fields
  | .group j children => do
    let conditions ← Node.conditions t fields children
    return j.join conditions

/-- What the nodes of a list ask for, those left out that ask for nothing. -/
def Node.conditions (t : Table) (fields : Keyed FieldInfo) :
    List Node → Except Error (List Predicate)
  | [] => .ok []
  | n :: rest => do
    let condition ← n.condition t fields
    let conditions ← Node.conditions t fields rest
    return condition.toList ++ conditions

end

/-- What a filter asks for, if it asks for anything. -/
def Clause.condition (c : Clause) (t : Table) : Except Error (Option Predicate) :=
  c.tree.condition t c.fields

/-- The condition of a statement: a missing filter, and one that asks for nothing, hold of every
row. -/
def conditionOf (filters : Option Clause) (t : Table) : Except Error Predicate :=
  match filters with
  | none => .ok .always
  | some c => (c.condition t).map fun p => p.getD .always

end Filter

end SqlBroker
