import SqlBroker.Proofs.Decode.Depth
import SqlBroker.Proofs.Decode.Written
import SqlBroker.Proofs.Filter.Columns

/-!
# Writing filters

The JSON of a filter, in any style: its nodes with `type` in front, the operands of a rule as
parallel arrays of values and types. A rule whose operands are partly typed cannot be written so,
and cannot be read either.

Headlines:
* **`Rule.ofParts_operands`**: values and types pair up again.
* **`Node.spells_toJson`**, **`Clause.spells_toJson`**: what is written of a filter is decoded as
  it, at any depth.
-/

namespace SqlBroker

open Decode

theorem Conjunction.ofTag_tag (c : Conjunction) : ofTag c.tag = .ok c := by cases c <;> rfl

theorem Operator.ofTag_tag (op : Operator) : ofTag op.tag = .ok op := by cases op <;> rfl

theorem ValueType.ofTag_tag (type : ValueType) : ofTag type.tag = .ok type := by cases type <;> rfl

namespace Filter

theorem spells_operator (op : Operator) : Spells decodeOperator (.string op.tag) op :=
  (spells_string op.tag).checked op.ofTag_tag

theorem spells_conjunction (c : Conjunction) : Spells decodeConjunction (.string c.tag) c :=
  (spells_string c.tag).checked c.ofTag_tag

theorem spells_type (type : ValueType) : Spells decodeType (.string type.tag) type :=
  (spells_string type.tag).checked type.ofTag_tag

/-! ## Rules -/

namespace Rule

/-- The types that are declared for the operands, if any are. -/
def types? (r : Rule) : Option (List ValueType) :=
  if r.operands.all (·.type.isNone) then none else some (r.operands.filterMap (·.type))

/-- A rule as JSON. -/
def toJson (σ : Style) (r : Rule) : Json :=
  (σ []).record
    [("field", r.field.map .string),
     ("operator", r.operator.map fun op => .string op.tag),
     ("value", some (.array (r.operands.map (·.value)))),
     ("valueType", r.types?.map fun types => .array (types.map fun type => .string type.tag))]

/-- Whether a rule can be written: its values are sorted, as all values in memory are, and all of
its operands have a declared type or none of them has. -/
structure IsWritable (r : Rule) : Prop where
  sorted : ∀ o ∈ r.operands, o.value.isSorted = true
  paired : (∀ o ∈ r.operands, o.type = none) ∨ ∀ o ∈ r.operands, o.type.isSome = true

theorem operandsOf?_typed {operands : List Operand} (h : ∀ o ∈ operands, o.type.isSome = true) :
    operandsOf? (operands.map (·.value)) (some (operands.filterMap (·.type))) = some operands := by
  have paired : (operands.filterMap (·.type)).length = operands.length ∧
      (operands.map (·.value)).zipWith (fun value type => (⟨value, some type⟩ : Operand))
        (operands.filterMap (·.type)) = operands := by
    induction operands with
    | nil => exact ⟨rfl, rfl⟩
    | cons o rest ih =>
      obtain ⟨first, later⟩ := List.forall_mem_cons.mp h
      obtain ⟨length, zipped⟩ := ih later
      obtain ⟨type, typed⟩ := Option.isSome_iff_exists.mp first
      rw [List.filterMap_cons_some typed]
      constructor
      · rw [List.length_cons, List.length_cons, length]
      · rw [List.map_cons, List.zipWith_cons_cons, zipped, ← typed]
  unfold operandsOf?
  dsimp only
  rw [if_pos (paired.1.trans (List.length_map _).symm), paired.2]

theorem operandsOf?_untyped {operands : List Operand} (h : ∀ o ∈ operands, o.type = none) :
    operandsOf? (operands.map (·.value)) none = some operands := by
  have untyped : ∀ o ∈ operands, (⟨o.value, none⟩ : Operand) = o := by
    intro o mem
    rw [← h o mem]
  unfold operandsOf?
  dsimp only
  rw [List.map_map]
  exact congrArg some ((List.map_congr_left untyped).trans (List.map_id operands))

/-- **Values and types pair up again.** -/
theorem ofParts_operands {r : Rule} (h : r.IsWritable) :
    ofParts r.field r.operator (r.operands.map (·.value)) r.types? = .ok r := by
  have operands : operandsOf? (r.operands.map (·.value)) r.types? = some r.operands := by
    unfold types?
    split
    · rename_i untyped
      refine operandsOf?_untyped fun o mem => ?_
      exact Option.isNone_iff_eq_none.mp (List.all_eq_true.mp untyped o mem)
    · rename_i typed
      -- Where there are operands and not all lack a type, all must have one.
      rcases h.paired with none | some
      · refine absurd (List.all_eq_true.mpr fun o mem => ?_) typed
        exact Option.isNone_iff_eq_none.mpr (none o mem)
      · exact operandsOf?_typed some
  rw [ofParts, operands]

theorem spells_toJson {r : Rule} (h : r.IsWritable) (σ : Style) :
    Spells decodeRule (r.toJson σ) r := by
  have values : Spells (list json) (.array (r.operands.map (·.value)))
      (r.operands.map (·.value)) := by
    refine .list (List.forall₂_same.mpr fun j mem => ?_)
    obtain ⟨o, here, rfl⟩ := List.mem_map.mp mem
    exact spells_json (h.sorted o here)
  have types (types : List ValueType) :
      Spells (list decodeType) (.array (types.map fun type => .string type.tag)) types :=
    .list (forall₂_map fun type _ => spells_type type)
  have fields : ruleFields.Spelled _
      (r.field, r.operator, r.operands.map (·.value), r.types?, ()) :=
    .cons (spelled_possible (fun s _ => spells_string s) (by simp)) <|
    .cons (spelled_possible (fun op _ => spells_operator op) (by simp)) <|
    .cons (spelled_needed values) <|
    .cons (spelled_possible (fun ts _ => types ts) (by simp)) .nil
  exact (spells_record (by decide) fields (σ [])).checked (ofParts_operands h)

end Rule

/-! ## Nodes -/

/-- How a group joins its conditions, as JSON. -/
def Junction.toJson (σ : Style) (j : Junction) : Json :=
  (σ []).record [("conjunction", some (.string j.conjunction.tag)), ("not", j.negated.map .bool)]

theorem Junction.spells_toJson (j : Junction) (σ : Style) :
    Spells decodeJunction (j.toJson σ) j :=
  spells_record (by decide)
    (.cons (spelled_needed (spells_conjunction j.conjunction)) <|
     .cons (spelled_possible (fun b _ => spells_flag b) (by simp)) .nil) (σ [])

namespace Node

mutual

/-- A node as JSON. -/
def toJson (σ : Style) : Node → Json
  | .rule r =>
    (σ []).tagged "type" "rule" [("properties", some (r.toJson (σ.under (.key "properties"))))]
  | .group j children =>
    (σ []).tagged "type" "group"
      [("properties", some (j.toJson (σ.under (.key "properties")))),
       ("children1", some (.array (allToJson (σ.under (.key "children1")) 0 children)))]

/-- Several nodes as JSON, from position `i` on. -/
def allToJson (σ : Style) : Nat → List Node → List Json
  | _, [] => []
  | i, n :: rest => n.toJson (σ.under (.index i)) :: allToJson σ (i + 1) rest

end

mutual

/-- **A node is decoded from what is written of it**, whatever stands below it. -/
theorem spells_toJson : ∀ (n : Node), (∀ r ∈ n.rules, r.IsWritable) → ∀ σ : Style,
    Spells decodeNode (n.toJson σ) n
  | .rule r, h, σ => by
    have rule : Spells decodeRule _ r :=
      r.spells_toJson (h r List.mem_cons_self) (σ.under (.key "properties"))
    rw [decodeNode_eq]
    refine spells_tagged rfl (by simp) ?_
    exact spells_record (by decide) (.cons (spelled_needed rule) .nil) (σ [])
  | .group j children, h, σ => by
    have junction : Spells decodeJunction _ j := j.spells_toJson (σ.under (.key "properties"))
    have below : Spells (list decodeNode) _ children :=
      .list (all_spell_toJson children h (σ.under (.key "children1")) 0)
    have names : ["properties", "children1"].Nodup := by decide
    rw [decodeNode_eq]
    refine spells_tagged rfl (by simp) ?_
    refine spells_record ?_
      (.cons (spelled_needed junction) (.cons (spelled_needed below) .nil)) (σ [])
    exact names

theorem all_spell_toJson : ∀ (ns : List Node), (∀ r ∈ rulesAll ns, r.IsWritable) →
    ∀ (σ : Style) (i : Nat), List.Forall₂ (Spells decodeNode) (allToJson σ i ns) ns
  | [], _, _, _ => .nil
  | n :: rest, h, σ, i => by
    obtain ⟨first, later⟩ := List.forall_mem_append.mp h
    exact .cons (spells_toJson n first (σ.under (.index i)))
      (all_spell_toJson rest later σ (i + 1))

end

end Node

/-! ## Filters -/

/-- A field that rules may name, as JSON. -/
def FieldInfo.toJson (σ : Style) (info : FieldInfo) : Json :=
  (σ []).record [("type", some (.string info.type.tag)), ("label", some (.string info.label))]

theorem FieldInfo.spells_toJson (info : FieldInfo) (σ : Style) :
    Spells decodeFieldInfo (info.toJson σ) info :=
  spells_record (by decide)
    (.cons (spelled_needed (spells_type info.type)) <|
     .cons (spelled_needed (spells_string info.label)) .nil) (σ [])

namespace Clause

/-- A filter as JSON. -/
def toJson (σ : Style) (c : Clause) : Json :=
  let fields := σ.under (.key "fields")
  (σ []).record
    [("tree", some (c.tree.toJson (σ.under (.key "tree")))),
     ("fields", some (.object (c.fields.entries.map fun e =>
       (e.1, e.2.toJson (fields.under (.key e.1))))))]

/-- Whether all rules of a filter can be written. -/
def IsWritable (c : Clause) : Prop := ∀ r ∈ c.tree.rules, r.IsWritable

theorem toJson_ne_null (σ : Style) (c : Clause) : c.toJson σ ≠ .null :=
  Form.record_ne_null _ _

/-- **A filter is decoded from what is written of it.** -/
theorem spells_toJson {c : Clause} (h : c.IsWritable) (σ : Style) :
    Spells decodeClause (c.toJson σ) c := by
  have tree : Spells decodeNode _ c.tree := c.tree.spells_toJson h (σ.under (.key "tree"))
  have fields : Spells (keyed decodeFieldInfo) _ c.fields :=
    .keyed fun e _ => e.2.spells_toJson ((σ.under (.key "fields")).under (.key e.1))
  exact spells_record (by decide)
    (.cons (spelled_needed tree) (.cons (spelled_needed fields) .nil)) (σ [])

end Clause

end Filter

end SqlBroker
