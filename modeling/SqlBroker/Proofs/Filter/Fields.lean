import SqlBroker.Proofs.Filter.Insertion
import SqlBroker.Proofs.Filter.Surplus

/-!
# What declared fields matter for

The fields that a filter declares reach a statement by two ways: a field is a column because it is
declared, and an operand without a type of its own is read by the declared one. Both are asked for a
rule at a time, by the name that the rule uses, so that nothing else about the declared fields can
be told from the plan.

Concerns `compile_rule` and `plan` (SPEC_FULL.md, sections 3 and 12).

Headlines:
* **`Node.condition_congr`**: a tree asks the same of tables and declared fields that are alike to
  each of its rules.
* **`ofOperation_fields`**: operations whose declared fields are alike to their filter have one
  plan, or fail alike; labels, fields without a rule and types that are not used make no difference.
-/

namespace SqlBroker

namespace Filter

variable {t t' : Table} {fields fields' : Keyed FieldInfo}

/-! ## Rules -/

/-- Operands are read alike where the declared type is the same, or none of them needs it. -/
theorem Operand.values_congr {declared declared' : Option ValueType} :
    ∀ {os : List Operand}, ((∃ o ∈ os, o.type = none) → declared = declared') →
      Operand.values declared os = Operand.values declared' os
  | [], _ => rfl
  | o :: rest, h => by
    have later : (∃ o ∈ rest, o.type = none) → declared = declared' := fun ⟨o, mem, untyped⟩ =>
      h ⟨o, List.mem_cons_of_mem _ mem, untyped⟩
    have first : (o.type <|> declared) = (o.type <|> declared') := by
      cases untyped : o.type with
      | some type => rfl
      | none => rw [h ⟨o, List.mem_cons_self, untyped⟩]
    rw [Operand.values, Operand.values, first, values_congr later]

/-- Two tables with declared fields that a rule cannot tell apart: its field is a column of both or
of neither, and has one declared type if an operand has none of its own. -/
structure Rule.Alike (r : Rule) (t t' : Table) (fields fields' : Keyed FieldInfo) : Prop where
  column_eq : ∀ field ∈ r.field, t.column field = t'.column field
  declared_eq : ∀ field ∈ r.field, (∃ o ∈ r.operands, o.type = none) →
    declaredType fields field = declaredType fields' field

theorem Rule.Alike.condition_eq {r : Rule} (h : r.Alike t t' fields fields') :
    r.condition t fields = r.condition t' fields' := by
  unfold Rule.condition
  cases named : r.field with
  | none => rfl
  | some field =>
    have values : Operand.values (declaredType fields field) r.operands =
        Operand.values (declaredType fields' field) r.operands :=
      Operand.values_congr (h.declared_eq field named)
    unfold declaredType at values
    simp only [Rule.predicate]
    rw [h.column_eq field named, values]

/-! ## Trees -/

mutual

/-- **A tree asks the same** where each of its rules does. -/
theorem Node.condition_congr : ∀ {n : Node}, (∀ r ∈ n.rules, r.Alike t t' fields fields') →
    n.condition t fields = n.condition t' fields'
  | .rule r, h => (h r List.mem_cons_self).condition_eq
  | .group j children, h => by
    rw [Node.condition, Node.condition, Node.conditions_congr h]

theorem Node.conditions_congr : ∀ {ns : List Node},
    (∀ r ∈ Node.rulesAll ns, r.Alike t t' fields fields') →
      Node.conditions t fields ns = Node.conditions t' fields' ns
  | [], _ => rfl
  | n :: rest, h => by
    obtain ⟨first, later⟩ := List.forall_mem_append.mp h
    rw [Node.conditions, Node.conditions, Node.condition_congr first, Node.conditions_congr later]

end

/-- Declared fields that a tree cannot tell apart: of the names that its rules use, both declare the
same, and a name has one type in both if a rule about it has an operand without a type. -/
structure Node.Alike (n : Node) (fields fields' : Keyed FieldInfo) : Prop where
  declares_iff : ∀ field ∈ fieldsOf n.rules, (field ∈ fields.keys ↔ field ∈ fields'.keys)
  declared_eq : ∀ r ∈ n.rules, ∀ field ∈ r.field, (∃ o ∈ r.operands, o.type = none) →
    declaredType fields field = declaredType fields' field

namespace Node.Alike

variable {n : Node}

/-- Labels say nothing. -/
theorem relabelled (n : Node) (label : FieldInfo → String) (fields : Keyed FieldInfo) :
    n.Alike (fields.map fun info => { info with label := label info }) fields where
  declares_iff field _ := by rw [Keyed.keys_map]
  declared_eq r _ field _ _ := by
    unfold declaredType
    rw [Keyed.get?_map, Option.map_map]
    rfl

/-- Nor does a field that no rule names. -/
theorem put_of_unused {name : String} (unused : name ∉ fieldsOf n.rules) (info : FieldInfo)
    (fields : Keyed FieldInfo) : n.Alike (fields.put name info) fields where
  declares_iff field used := by
    have other : field ≠ name := fun same => unused (same ▸ used)
    rw [Keyed.mem_keys_put, or_iff_right other]
  declared_eq r mem field named _ := by
    have other : field ≠ name := by
      rintro rfl
      exact unused (List.mem_filterMap.mpr ⟨r, mem, named⟩)
    unfold declaredType
    rw [Keyed.get?_put_of_ne other]

/-- Nor does the type of a field whose rules have types of their own. -/
theorem put_of_typed {name : String} (declared : name ∈ fields.keys)
    (typed : ∀ r ∈ n.rules, name ∈ r.field → ∀ o ∈ r.operands, o.type ≠ none)
    (info : FieldInfo) : n.Alike (fields.put name info) fields where
  declares_iff field _ := by
    -- Putting a name that is there adds none.
    rw [Keyed.mem_keys_put]
    refine or_iff_right_of_imp ?_
    rintro rfl
    exact declared
  declared_eq r mem field named untyped := by
    obtain ⟨o, operand, none⟩ := untyped
    have other : field ≠ name := by
      rintro rfl
      exact typed r mem named o operand none
    unfold declaredType
    rw [Keyed.get?_put_of_ne other]

end Node.Alike

/-! ## Operations -/

section Operations

variable {n : Node}

/-- What an operation mentions apart from its filter does not depend on its declared fields. -/
theorem mem_mentioned_filteredBy {name : String}
    (same : name ∈ fields.keys ↔ name ∈ fields'.keys) (op : Operation) :
    name ∈ Table.mentioned (op.filteredBy ⟨n, fields⟩) ↔
      name ∈ Table.mentioned (op.filteredBy ⟨n, fields'⟩) := by
  cases op with
  | insert i => rfl
  | inspect i => rfl
  | _ =>
    simp only [Table.mentioned, Operation.filteredBy, Operation.filters?, Option.elim_some,
      List.mem_append, same]
    rfl

/-- **Operations whose declared fields are alike to their filter are planned alike.** -/
theorem Node.Alike.ofOperation_eq (h : n.Alike fields fields') (caps : Capabilities)
    (op : Operation) : Plan.ofOperation caps (op.filteredBy ⟨n, fields⟩) =
      Plan.ofOperation caps (op.filteredBy ⟨n, fields'⟩) := by
  refine ofOperation_filteredBy_congr ?_
  have rules : ∀ r ∈ n.rules, r.Alike (Table.ofOperation (op.filteredBy ⟨n, fields⟩))
      (Table.ofOperation (op.filteredBy ⟨n, fields'⟩)) fields fields' := by
    intro r mem
    refine ⟨fun field named => ?_, h.declared_eq r mem⟩
    have used : field ∈ fieldsOf n.rules := List.mem_filterMap.mpr ⟨r, mem, named⟩
    rw [Table.column_ofOperation, Table.column_ofOperation]
    simp only [mem_mentioned_filteredBy (h.declares_iff field used) op]
  have condition := Node.condition_congr rules
  cases op with
  | insert i => rfl
  | inspect i => rfl
  | _ => exact congrArg (·.map fun p => p.getD .always) condition

end Operations

/-- **Declared fields matter for a plan by the names that rules use**, and their types for operands
without a type of their own. So labels make no difference, nor does a field that no rule names, nor
the type of one whose rules have types of their own. -/
theorem ofOperation_fields (n : Node) (fields : Keyed FieldInfo) (caps : Capabilities)
    (op : Operation) :
    let plan (declared : Keyed FieldInfo) := Plan.ofOperation caps (op.filteredBy ⟨n, declared⟩)
    (∀ fields', n.Alike fields fields' → plan fields = plan fields') ∧
      (∀ label : FieldInfo → String,
        plan (fields.map fun info => { info with label := label info }) = plan fields) ∧
      (∀ name info, name ∉ fieldsOf n.rules → plan (fields.put name info) = plan fields) ∧
      ∀ name info, name ∈ fields.keys →
        (∀ r ∈ n.rules, name ∈ r.field → ∀ o ∈ r.operands, o.type ≠ none) →
          plan (fields.put name info) = plan fields := by
  refine ⟨fun fields' h => h.ofOperation_eq caps op, fun label => ?_, fun name info unused => ?_,
    fun name info declared typed => ?_⟩
  · exact (Node.Alike.relabelled n label fields).ofOperation_eq caps op
  · exact (Node.Alike.put_of_unused unused info fields).ofOperation_eq caps op
  · exact (Node.Alike.put_of_typed declared typed info).ofOperation_eq caps op

/-- An age with a type of its own, and a day without one. -/
def olderBefore (field : String) : Node :=
  .group ⟨.and, none⟩
    [.rule ⟨some "age", some .greater, [⟨.int 30, some .number⟩]⟩,
     .rule ⟨some field, some .less, [⟨.string "2000-02-29", none⟩]⟩]

/-- Two days, of which one is an age. -/
def daysOnly : Keyed FieldInfo := Keyed.ofList [("age", ⟨.date, "Age"⟩), ("born", ⟨.date, "Born"⟩)]

/-- The age is declared as a date and as a text, one field more is declared, and no label is the
same: the day is read as a day, and what is not declared is not found. -/
theorem ofOperation_fields_people :
    let others : Keyed FieldInfo :=
      Keyed.ofList [("age", ⟨.text, "Years"⟩), ("born", ⟨.date, "Day"⟩), ("place", ⟨.text, "At"⟩)]
    let plan (field : String) (declared : Keyed FieldInfo) :=
      Plan.ofOperation ⟨.postgres, true, true⟩
        (.delete ⟨"people", some ⟨olderBefore field, declared⟩⟩)
    (plan "born" others = plan "born" daysOnly ∧
      plan "born" daysOnly = .ok (.statement (.delete "people"
        (.all [.compare "age" .gt (.int 30),
          .compare "born" .lt (.date ⟨2000, 2, 29, by decide, by decide⟩)]) true))) ∧
    (plan "ghost" others = plan "ghost" daysOnly ∧
      plan "ghost" daysOnly = .error (.unknownField "ghost")) ∧
    plan "born" (daysOnly.map fun info => { info with label := info.type.tag }) =
      plan "born" daysOnly ∧
    plan "born" (daysOnly.put "place" ⟨.text, "At"⟩) = plan "born" daysOnly ∧
    plan "born" (daysOnly.put "age" ⟨.boolean, "Old"⟩) = plan "born" daysOnly := by
  intro others plan
  have all (field : String) := ofOperation_fields (olderBefore field) daysOnly
    ⟨.postgres, true, true⟩ (.delete ⟨"people", none⟩)
  have alike : (olderBefore "born").Alike daysOnly others := ⟨by decide, by decide⟩
  have alike' : (olderBefore "ghost").Alike daysOnly others := ⟨by decide, by decide⟩
  obtain ⟨same, labels, unused, typed⟩ := all "born"
  refine ⟨⟨(same others alike).symm, rfl⟩, ⟨((all "ghost").1 others alike').symm, rfl⟩, labels _,
    ?_, ?_⟩
  · exact unused "place" ⟨.text, "At"⟩ (by decide)
  · exact typed "age" ⟨.boolean, "Old"⟩ (by decide) (by decide)

end Filter

end SqlBroker
