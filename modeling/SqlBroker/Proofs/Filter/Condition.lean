import SqlBroker.Filter.Condition
import SqlBroker.Proofs.Except
import SqlBroker.Proofs.Table

/-!
# What a condition is made of

A filter that can be understood is understood rule by rule: its condition is put together from
those of its rules, each about the field that the rule names. Groups that ask for nothing are left
out before others are joined, so that no group in a condition is empty (`Predicate.isFilled`).

Headlines:
* **`Operator.isTest_predicate`**: what an operator asks for is one test of its column.
* **`Rule.predicate_eq_ok`**, **`Node.condition_group`**, **`Node.conditions_cons`**: what rules,
  groups and lists of nodes ask for.
* **`isFilled_conditionOf`**: the condition of a filter has no empty group.
-/

namespace SqlBroker

namespace Predicate

mutual

/-- Whether no group of a condition is empty. -/
def isFilled : Predicate → Bool
  | .all children => !children.isEmpty && areFilled children
  | .any children => !children.isEmpty && areFilled children
  | .not inner => inner.isFilled
  | _ => true

/-- Whether no group of several conditions is empty. -/
def areFilled : List Predicate → Bool
  | [] => true
  | p :: rest => p.isFilled && areFilled rest

end

theorem areFilled_append : ∀ ps qs : List Predicate,
    areFilled (ps ++ qs) = (areFilled ps && areFilled qs)
  | [], _ => rfl
  | p :: ps, qs => by
    rw [List.cons_append, areFilled, areFilled, areFilled_append ps qs, Bool.and_assoc]

end Predicate

/-! ## Operators -/

/-- What LIKE compares a column with: a text, or null. -/
inductive Value.IsPattern : Value → Prop where
  | null : IsPattern .null
  | text (s : String) : IsPattern (.text s)

/-- What an operator asks of a column: one test of it, or that it is not between two bounds. -/
inductive Predicate.IsTest (column : String) : Predicate → Prop where
  | compare (op : Comparison) (v : Value) : IsTest column (.compare column op v)
  | like {pattern : Value} (text : pattern.IsPattern) (negated : Bool) :
    IsTest column (.like column pattern negated)
  | between (low high : Value) : IsTest column (.between column low high)
  | notBetween (low high : Value) : IsTest column (.not (.between column low high))
  | isNull (negated : Bool) : IsTest column (.isNull column negated)

theorem Predicate.isTest_equality (column : String) (negated : Bool) (v : Value) :
    (equality column negated v).IsTest column := by
  unfold equality
  split
  · exact .isNull negated
  · exact .compare _ v

theorem Predicate.isTest_matching (column : String) (negated : Bool) (v : Value) :
    (matching column negated v).IsTest column := by
  refine .like ?_ negated
  split
  · exact .null
  · exact .text _

namespace Operator

theorem between_eq_ok {column : String} {values : List Value} {p : Predicate}
    (h : between.predicate column values = .ok p) :
    ∃ low high rest, values = low :: high :: rest ∧ p = .between column low high := by
  unfold predicate at h
  dsimp only at h
  split at h
  · exact ⟨_, _, _, rfl, (Except.ok.inj h).symm⟩
  · exact nomatch h

/-- What is not between two bounds is asked for as the opposite of what is. -/
theorem notBetween_eq_ok {column : String} {values : List Value} {p : Predicate}
    (h : notBetween.predicate column values = .ok p) :
    ∃ low high rest, values = low :: high :: rest ∧ p = .not (.between column low high) := by
  unfold predicate at h
  dsimp only at h
  split at h
  · exact ⟨_, _, _, rfl, (Except.ok.inj h).symm⟩
  · exact nomatch h

/-- **What an operator asks for is one test of its column**, or the opposite of one. -/
theorem isTest_predicate {op : Operator} {column : String} {values : List Value} {p : Predicate}
    (h : op.predicate column values = .ok p) : p.IsTest column := by
  cases op
  case equal => exact Except.ok.inj h ▸ Predicate.isTest_equality column _ _
  case notEqual => exact Except.ok.inj h ▸ Predicate.isTest_equality column _ _
  case like => exact Except.ok.inj h ▸ Predicate.isTest_matching column _ _
  case notLike => exact Except.ok.inj h ▸ Predicate.isTest_matching column _ _
  case startsWith => exact Except.ok.inj h ▸ .like (.text _) _
  case endsWith => exact Except.ok.inj h ▸ .like (.text _) _
  case between =>
    obtain ⟨low, high, _, -, rfl⟩ := between_eq_ok h
    exact .between low high
  case notBetween =>
    obtain ⟨low, high, _, -, rfl⟩ := notBetween_eq_ok h
    exact .notBetween low high
  case isNull => exact Except.ok.inj h ▸ .isNull _
  case isNotNull => exact Except.ok.inj h ▸ .isNull _
  all_goals exact Except.ok.inj h ▸ .compare _ _

end Operator

namespace Filter

variable {t : Table} {fields : Keyed FieldInfo}

/-! ## Rules -/

/-- **What a rule asks for** is what its operator asks of its field, with its operands as read. -/
theorem Rule.predicate_eq_ok {r : Rule} {field : String} {p : Predicate}
    (h : r.predicate field t fields = .ok p) : ∃ op values, r.operator = some op ∧
      Operand.values ((fields.get? field).map FieldInfo.type) r.operands = .ok values ∧
      op.predicate field values = .ok p := by
  obtain ⟨column, hc, h⟩ := bind_eq_ok_iff.mp h
  obtain ⟨rfl, -⟩ := Table.column_eq_ok hc
  cases ho : r.operator with
  | none =>
    rw [ho] at h
    exact nomatch h
  | some op =>
    rw [ho] at h
    obtain ⟨values, hv, hp⟩ := bind_eq_ok_iff.mp h
    exact ⟨op, values, rfl, hv, hp⟩

/-- Operands are read one by one. -/
theorem Operand.getElem?_values {declared : Option ValueType} : ∀ {os : List Operand}
    {values : List Value}, Operand.values declared os = .ok values → ∀ i : Nat,
      values[i]? = os[i]?.bind fun o => (Value.read (o.type <|> declared) o.value).toOption
  | [], values, h, i => by
    obtain rfl := Except.ok.inj h
    rfl
  | o :: rest, values, h, i => by
    obtain ⟨v, hv, h⟩ := bind_eq_ok_iff.mp h
    obtain ⟨vs, hvs, h⟩ := bind_eq_ok_iff.mp h
    obtain rfl := Except.ok.inj h
    cases i with
    | zero =>
      rw [List.getElem?_cons_zero, List.getElem?_cons_zero, Option.bind_some, hv]
      rfl
    | succ i => simpa using Operand.getElem?_values hvs i

/-! ## Groups -/

theorem Node.condition_rule {r : Rule} {field : String} (hf : r.field = some field)
    {c : Option Predicate} (h : (Node.rule r).condition t fields = .ok c) :
    ∃ p, c = some p ∧ r.predicate field t fields = .ok p := by
  simp only [Node.condition, Rule.condition, hf] at h
  obtain ⟨p, hp, rfl⟩ := map_eq_ok_iff.mp h
  exact ⟨p, rfl, hp⟩

/-- **What a rule asks for, if it names a field**, is a test of that column. -/
theorem Node.condition_rule_cases {r : Rule} {c : Option Predicate}
    (h : (Node.rule r).condition t fields = .ok c) :
    c = none ∨ ∃ field p, c = some p ∧ field ∈ t.columns ∧ p.IsTest field := by
  cases hf : r.field with
  | none =>
    simp only [Node.condition, Rule.condition, hf] at h
    exact .inl (Except.ok.inj h).symm
  | some field =>
    obtain ⟨p, rfl, hp⟩ := Node.condition_rule hf h
    obtain ⟨column, hc, -⟩ := bind_eq_ok_iff.mp hp
    obtain ⟨op, values, -, -, hp⟩ := Rule.predicate_eq_ok hp
    exact .inr ⟨field, p, rfl, (Table.column_eq_ok hc).2, Operator.isTest_predicate hp⟩

/-- **What a group asks for** is what its children ask for, joined. -/
theorem Node.condition_group {j : Junction} {children : List Node} {c : Option Predicate}
    (h : (Node.group j children).condition t fields = .ok c) :
    ∃ ps, Node.conditions t fields children = .ok ps ∧ c = j.join ps := by
  obtain ⟨ps, hps, h⟩ := bind_eq_ok_iff.mp h
  exact ⟨ps, hps, (Except.ok.inj h).symm⟩

theorem Node.conditions_cons {n : Node} {rest : List Node} {ps : List Predicate}
    (h : Node.conditions t fields (n :: rest) = .ok ps) :
    ∃ c qs, n.condition t fields = .ok c ∧ Node.conditions t fields rest = .ok qs ∧
      ps = c.toList ++ qs := by
  obtain ⟨c, hc, h⟩ := bind_eq_ok_iff.mp h
  obtain ⟨qs, hqs, h⟩ := bind_eq_ok_iff.mp h
  exact ⟨c, qs, hc, hqs, (Except.ok.inj h).symm⟩

/-- The conditions of a group, joined but not negated. -/
def Junction.joined (j : Junction) (ps : List Predicate) : Predicate :=
  match j.conjunction with
  | .and => .all ps
  | .or => .any ps

theorem Junction.join_cons (j : Junction) (p : Predicate) (rest : List Predicate) :
    j.join (p :: rest) =
      some (if j.isNegated then .not (j.joined (p :: rest)) else j.joined (p :: rest)) := rfl

/-! ## No group is empty -/

theorem isFilled_test {column : String} {p : Predicate} (h : p.IsTest column) :
    p.isFilled = true := by
  cases h <;> rfl

theorem isFilled_join {j : Junction} {ps : List Predicate} (h : Predicate.areFilled ps = true) :
    ∀ p ∈ j.join ps, p.isFilled = true := by
  intro p hp
  cases ps with
  | nil => exact nomatch hp
  | cons q rest =>
    rw [Junction.join_cons] at hp
    obtain rfl := Option.some.inj hp
    have joined : (j.joined (q :: rest)).isFilled = true := by
      unfold Junction.joined
      split <;> exact h
    split <;> exact joined

mutual

theorem Node.isFilled_condition : ∀ {n : Node} {c : Option Predicate},
    n.condition t fields = .ok c → ∀ p ∈ c, p.isFilled = true
  | .rule r, c, h => by
    rcases Node.condition_rule_cases h with rfl | ⟨field, p, rfl, -, test⟩
    · exact fun _ h => nomatch h
    · rintro q ⟨⟩
      exact isFilled_test test
  | .group j children, c, h => by
    obtain ⟨ps, hps, rfl⟩ := Node.condition_group h
    exact isFilled_join (Node.areFilled_conditions hps)

theorem Node.areFilled_conditions : ∀ {ns : List Node} {ps : List Predicate},
    Node.conditions t fields ns = .ok ps → Predicate.areFilled ps = true
  | [], ps, h => by
    obtain rfl := Except.ok.inj h
    rfl
  | n :: rest, ps, h => by
    obtain ⟨c, qs, hc, hqs, rfl⟩ := Node.conditions_cons h
    have first := Node.isFilled_condition hc
    rw [Predicate.areFilled_append, Node.areFilled_conditions hqs, Bool.and_true]
    cases c with
    | none => rfl
    | some p => simp [Predicate.areFilled, first]

end

/-- **The condition of a filter has no empty group.** -/
theorem isFilled_conditionOf {filters : Option Clause} {p : Predicate}
    (h : conditionOf filters t = .ok p) : p.isFilled = true := by
  cases filters with
  | none => exact Except.ok.inj h ▸ rfl
  | some c =>
    obtain ⟨q, hq, rfl⟩ := map_eq_ok_iff.mp h
    cases q with
    | none => rfl
    | some q => exact Node.isFilled_condition hq q rfl

end Filter

end SqlBroker
