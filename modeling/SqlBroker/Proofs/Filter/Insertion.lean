import SqlBroker.Proofs.Filter.Pruned
import SqlBroker.Proofs.Plan

/-!
# Trees with something more in them

A query builder leaves rules without a field and groups without rules wherever its user has not
finished. A tree in which such a tree stands as one more child of some group, however deep, asks for
what it asks without it, and is planned alike.

Concerns `compile` (SPEC_FULL.md, sections 4.3 and 8).

Headlines:
* **`Node.Inserted`**: a tree and the same with one more child in one of its groups.
* **`Node.Inserted.pruned?_eq`**: a child that names no field changes nothing of what is left.
* **`Node.Inserted.invisible`**: nor of a condition, an error or a plan.
-/

namespace SqlBroker

/-- An operation with this filter, if it is one that has filters. -/
def Operation.filteredBy (c : Filter.Clause) : Operation → Operation
  | .select s => .select { s with filters := some c }
  | .insert i => .insert i
  | .update u => .update { u with filters := some c }
  | .delete d => .delete { d with filters := some c }
  | .inspect i => .inspect i

namespace Filter

/-! ## One more child -/

/-- The second tree is the first with `m` among the children of one of its groups. -/
inductive Node.Inserted (m : Node) : Node → Node → Prop where
  | here (j : Junction) (before after : List Node) :
    Inserted m (.group j (before ++ after)) (.group j (before ++ m :: after))
  | deeper {n n' : Node} (j : Junction) (before after : List Node) (h : Inserted m n n') :
    Inserted m (.group j (before ++ n :: after)) (.group j (before ++ n' :: after))

variable {m n n' : Node}

/-- **What names no field changes nothing of what is left of a tree.** -/
theorem Node.Inserted.pruned?_eq (silent : ∀ r ∈ m.rules, r.field = none) (h : Inserted m n n') :
    n'.pruned? = n.pruned? := by
  induction h with
  | here j before after =>
    rw [Node.pruned?, Node.pruned?, Node.prunedAll_append, Node.prunedAll_append, Node.prunedAll,
      Node.pruned?_of_nameless silent]
    rfl
  | deeper j before after h ih =>
    rw [Node.pruned?, Node.pruned?, Node.prunedAll_append, Node.prunedAll_append, Node.prunedAll,
      Node.prunedAll, ih]

/-- Trees of which the same is left ask for the same. -/
theorem Node.condition_eq_of_pruned (same : n'.pruned? = n.pruned?) (t : Table)
    (fields : Keyed FieldInfo) : n'.condition t fields = n.condition t fields := by
  rw [Node.condition_pruned, same, ← Node.condition_pruned]

/-- **An operation depends on its filter by the condition that it comes to.** -/
theorem ofOperation_filteredBy_congr {caps : Capabilities} {c c' : Clause} {op : Operation}
    (same : conditionOf (op.filteredBy c).filters? (Table.ofOperation (op.filteredBy c)) =
      conditionOf (op.filteredBy c').filters? (Table.ofOperation (op.filteredBy c'))) :
    Plan.ofOperation caps (op.filteredBy c) = Plan.ofOperation caps (op.filteredBy c') := by
  have statement (p : Predicate) :
      (op.filteredBy c).statement? caps p = (op.filteredBy c').statement? caps p := by
    cases op <;> rfl
  cases condition :
    conditionOf (op.filteredBy c).filters? (Table.ofOperation (op.filteredBy c)) with
  | error e =>
    rw [Plan.ofOperation_eq_error_iff.mpr condition,
      Plan.ofOperation_eq_error_iff.mpr (same ▸ condition)]
  | ok p =>
    cases asked : (op.filteredBy c).statement? caps p with
    | some s =>
      rw [Plan.ofOperation_of_condition condition asked,
        Plan.ofOperation_of_condition (same ▸ condition) (statement p ▸ asked)]
    | none =>
      cases op with
      | inspect i => rfl
      | _ => exact nomatch asked

/-- **Trees that ask for the same of every table are planned alike.** -/
theorem ofOperation_filteredBy {fields : Keyed FieldInfo}
    (same : ∀ t, n'.condition t fields = n.condition t fields) (caps : Capabilities)
    (op : Operation) : Plan.ofOperation caps (op.filteredBy ⟨n', fields⟩) =
      Plan.ofOperation caps (op.filteredBy ⟨n, fields⟩) := by
  refine ofOperation_filteredBy_congr ?_
  -- The table is made of the fields that a filter declares, not of those that its rules name.
  have table : Table.ofOperation (op.filteredBy ⟨n', fields⟩) =
      Table.ofOperation (op.filteredBy ⟨n, fields⟩) := by
    cases op <;> rfl
  rw [table]
  cases op with
  | insert i => rfl
  | inspect i => rfl
  | _ => exact congrArg (·.map fun p => p.getD .always) (same _)

/-- **What names no field is invisible**: whatever stands around it, with it and without it a tree
asks for the same or fails in the same way, and an operation has the same plan. -/
theorem Node.Inserted.invisible (silent : ∀ r ∈ m.rules, r.field = none) (h : Inserted m n n') :
    (∀ t fields, n'.condition t fields = n.condition t fields) ∧
      ∀ caps (op : Operation) fields, Plan.ofOperation caps (op.filteredBy ⟨n', fields⟩) =
        Plan.ofOperation caps (op.filteredBy ⟨n, fields⟩) := by
  have same := Node.condition_eq_of_pruned (h.pruned?_eq silent)
  refine ⟨same, fun caps op fields => ?_⟩
  exact ofOperation_filteredBy (fun t => same t fields) caps op

/-! ### A tree that is not finished -/

/-- Two negated groups and a rule without a field, whose operand is no date. -/
def unfinished : Node :=
  .group ⟨.or, some true⟩
    [.group ⟨.and, some true⟩ [],
     .rule ⟨none, some .between, [⟨.string "soon", some .date⟩]⟩]

/-- Under two groups, of which one is negated, a question for null. -/
def askedUnder (field : String) (beside : List Node) : Node :=
  .group ⟨.and, some true⟩ [.group ⟨.or, none⟩ (.rule ⟨some field, some .isNull, []⟩ :: beside)]

/-- The only other child of a group is found and not found as it is alone. -/
theorem Node.Inserted.invisible_unfinished :
    let fields : Keyed FieldInfo := Keyed.ofList [("age", ⟨.number, "Age"⟩)]
    let people : Table := ⟨"people", ["age"]⟩
    (askedUnder "age" [unfinished]).condition people fields =
        .ok (some (.not (.all [.any [.isNull "age" false]]))) ∧
      (askedUnder "ghost" [unfinished]).condition people fields = .error (.unknownField "ghost") ∧
      Plan.ofOperation ⟨.sqlite, true, true⟩
          (.delete ⟨"people", some ⟨askedUnder "age" [unfinished], fields⟩⟩) =
        .ok (.statement (.delete "people" (.not (.all [.any [.isNull "age" false]])) true)) := by
  intro fields people
  have silent : ∀ r ∈ unfinished.rules, r.field = none := by
    intro r mem
    obtain rfl := List.mem_singleton.mp mem
    rfl
  have inserted (field : String) :
      Inserted unfinished (askedUnder field []) (askedUnder field [unfinished]) :=
    .deeper _ [] [] (.here _ [.rule ⟨some field, some .isNull, []⟩] [])
  refine ⟨?_, ?_, ?_⟩
  · exact ((inserted "age").invisible silent).1 people fields
  · exact ((inserted "ghost").invisible silent).1 people fields
  · exact ((inserted "age").invisible silent).2 ⟨.sqlite, true, true⟩ (.delete ⟨"people", none⟩)
      fields

end Filter

end SqlBroker
