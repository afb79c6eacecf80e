import SqlBroker.Proofs.Filter.Condition

/-!
# The columns that a condition tests

Every rule that names a field leaves one test of that column in the condition of its filter, however
deep it stands and whatever groups are joined or negated around it; a rule without a field leaves
none. A filter without any rule about a field always can be understood, and holds of every row.

Headlines:
* **`Node.tested_condition`**: a tree tests the fields that its rules name, in the order of the
  rules, and asks for nothing iff they name none.
* **`tested_conditionOf`**, **`always_iff_of_conditionOf`**: so does the condition of a statement.
* **`conditionOf_of_nameless`**: without a field there is no error.
-/

namespace SqlBroker

namespace Predicate

mutual

/-- The columns that a condition tests, one for each test, from left to right. -/
def tested : Predicate → List String
  | .always => []
  | .compare column _ _ => [column]
  | .like column _ _ => [column]
  | .between column _ _ => [column]
  | .isNull column _ => [column]
  | .all children => testedAll children
  | .any children => testedAll children
  | .not inner => inner.tested

/-- The columns that several conditions test. -/
def testedAll : List Predicate → List String
  | [] => []
  | p :: rest => p.tested ++ testedAll rest

end

theorem testedAll_append : ∀ ps qs : List Predicate,
    testedAll (ps ++ qs) = testedAll ps ++ testedAll qs
  | [], _ => rfl
  | p :: ps, qs => by
    rw [List.cons_append, testedAll, testedAll, testedAll_append ps qs, List.append_assoc]

end Predicate

/-- An operator tests its column, once. -/
theorem Operator.tested_predicate {op : Operator} {column : String} {values : List Value}
    {p : Predicate} (h : op.predicate column values = .ok p) : p.tested = [column] := by
  cases Operator.isTest_predicate h <;> rfl

namespace Filter

variable {t : Table} {fields : Keyed FieldInfo}

/-! ## Trees -/

mutual

/-- The rules of a tree, wherever they stand, in the order of the text. -/
def Node.rules : Node → List Rule
  | .rule r => [r]
  | .group _ children => Node.rulesAll children

/-- The rules of several trees. -/
def Node.rulesAll : List Node → List Rule
  | [] => []
  | n :: rest => n.rules ++ Node.rulesAll rest

end

/-- The fields that rules name, one for each rule that names one. -/
def fieldsOf (rules : List Rule) : List String := rules.filterMap Rule.field

theorem fieldsOf_append (rs ss : List Rule) : fieldsOf (rs ++ ss) = fieldsOf rs ++ fieldsOf ss :=
  List.filterMap_append

theorem fieldsOf_eq_nil_iff (rules : List Rule) :
    fieldsOf rules = [] ↔ ∀ r ∈ rules, r.field = none :=
  List.filterMap_eq_nil_iff

theorem Junction.tested_joined (j : Junction) (ps : List Predicate) :
    (j.joined ps).tested = Predicate.testedAll ps := by
  unfold Junction.joined
  cases j.conjunction <;> rfl

mutual

/-- **A tree tests what its rules name**, and asks for nothing iff they name nothing. -/
theorem Node.tested_condition : ∀ {n : Node} {c : Option Predicate},
    n.condition t fields = .ok c →
      c.elim [] Predicate.tested = fieldsOf n.rules ∧ (c = none ↔ fieldsOf n.rules = [])
  | .rule r, c, h => by
    cases hf : r.field with
    | none =>
      simp only [Node.condition, Rule.condition, hf] at h
      obtain rfl := Except.ok.inj h
      simp [Node.rules, fieldsOf, hf]
    | some field =>
      obtain ⟨p, rfl, hp⟩ := Node.condition_rule hf h
      obtain ⟨op, values, -, -, hp⟩ := Rule.predicate_eq_ok hp
      simp [Node.rules, fieldsOf, hf, Operator.tested_predicate hp]
  | .group j children, c, h => by
    obtain ⟨ps, hps, rfl⟩ := Node.condition_group h
    obtain ⟨tested, none_iff⟩ := Node.tested_conditions hps
    cases ps with
    | nil => exact ⟨tested, by simpa [Junction.join, Node.rules] using none_iff⟩
    | cons p rest =>
      rw [Junction.join_cons, Node.rules, ← tested]
      refine ⟨?_, by simpa [tested] using none_iff⟩
      -- a negation tests what is negated
      split <;> exact j.tested_joined (p :: rest)

theorem Node.tested_conditions : ∀ {ns : List Node} {ps : List Predicate},
    Node.conditions t fields ns = .ok ps →
      Predicate.testedAll ps = fieldsOf (Node.rulesAll ns) ∧
        (ps = [] ↔ fieldsOf (Node.rulesAll ns) = [])
  | [], ps, h => by
    obtain rfl := Except.ok.inj h
    exact ⟨rfl, iff_of_true rfl rfl⟩
  | n :: rest, ps, h => by
    obtain ⟨c, qs, hc, hqs, rfl⟩ := Node.conditions_cons h
    obtain ⟨first, first_none⟩ := Node.tested_condition hc
    obtain ⟨later, later_none⟩ := Node.tested_conditions hqs
    rw [Node.rulesAll, fieldsOf_append, Predicate.testedAll_append, later, List.append_eq_nil_iff,
      List.append_eq_nil_iff, later_none, ← first_none, ← first]
    cases c with
    | none => simp [Predicate.testedAll]
    | some p => simp [Predicate.testedAll]

end

/-! ## Filters -/

/-- The rules of a filter, if there is one. -/
def rulesOf (filters : Option Clause) : List Rule := filters.elim [] fun c => c.tree.rules

/-- **The condition of a statement tests what the rules name.** -/
theorem tested_conditionOf {filters : Option Clause} {p : Predicate}
    (h : conditionOf filters t = .ok p) : p.tested = fieldsOf (rulesOf filters) := by
  cases filters with
  | none => exact Except.ok.inj h ▸ rfl
  | some c =>
    obtain ⟨q, hq, rfl⟩ := map_eq_ok_iff.mp h
    obtain ⟨tested, -⟩ := Node.tested_condition hq
    cases q with
    | none => exact tested
    | some q => exact tested

/-- **The condition holds of every row only if no rule names a field**: as there is no other way to
ask for nothing, a filter that asks for something is not lost. -/
theorem always_iff_of_conditionOf {filters : Option Clause} {p : Predicate}
    (h : conditionOf filters t = .ok p) : p = .always ↔ fieldsOf (rulesOf filters) = [] := by
  cases filters with
  | none => exact iff_of_true (Except.ok.inj h).symm rfl
  | some c =>
    obtain ⟨q, hq, rfl⟩ := map_eq_ok_iff.mp h
    obtain ⟨tested, none_iff⟩ := Node.tested_condition hq
    cases q with
    | none => exact iff_of_true rfl (none_iff.mp rfl)
    | some q =>
      have asks : fieldsOf (rulesOf (some c)) ≠ [] := fun empty => nomatch none_iff.mpr empty
      refine iff_of_false ?_ asks
      rintro rfl
      exact asks tested.symm

mutual

/-- A tree that names no field can be understood. -/
theorem Node.condition_of_nameless : ∀ {n : Node}, fieldsOf n.rules = [] →
    n.condition t fields = .ok none
  | .rule r, h => by
    have nameless : r.field = none := (fieldsOf_eq_nil_iff _).mp h r (List.mem_singleton.mpr rfl)
    rw [Node.condition, Rule.condition, nameless]
  | .group j children, h => by
    rw [Node.condition, Node.conditions_of_nameless h]
    rfl

theorem Node.conditions_of_nameless : ∀ {ns : List Node}, fieldsOf (Node.rulesAll ns) = [] →
    Node.conditions t fields ns = .ok []
  | [], _ => rfl
  | n :: rest, h => by
    rw [Node.rulesAll, fieldsOf_append] at h
    obtain ⟨first, later⟩ := List.append_eq_nil_iff.mp h
    rw [Node.conditions, Node.condition_of_nameless first, Node.conditions_of_nameless later]
    rfl

end

/-- **A filter that names no field is no filter.** -/
theorem conditionOf_of_nameless {filters : Option Clause} (h : fieldsOf (rulesOf filters) = []) :
    conditionOf filters t = .ok .always := by
  cases filters with
  | none => rfl
  | some c => rw [conditionOf, Clause.condition, Node.condition_of_nameless h]; rfl

end Filter

end SqlBroker
