import SqlBroker.Proofs.Filter.Leaves

/-!
# Well-formed conditions

A predicate can say more than a filter ever asks for: that it holds of every row somewhere inside a
group, an empty group, the opposite of a comparison, a pattern that is a number. What is compiled
from a filter says none of this (`Predicate.WellFormed`), and the text of a condition is what it is
because of that.

Headlines:
* **`Node.wellFormed_condition`**: what is compiled from a tree is well formed.
* **`wellFormed_conditionOf`**: the condition of a statement is well formed, or holds of every row.
-/

namespace SqlBroker

namespace Predicate

/-- Whether a condition tests that a column is between two bounds. -/
def isBetween : Predicate → Bool
  | .between _ _ _ => true
  | _ => false

/-- A condition on these columns as filters ask for them: joined from at least one condition, with
the opposite only of groups and of being between two bounds, and with patterns that are texts or
null. That a condition holds of every row is not among them. -/
inductive WellFormed (columns : List String) : Predicate → Prop where
  | compare {column : String} (own : column ∈ columns) (op : Comparison) (v : Value) :
    WellFormed columns (.compare column op v)
  | like {column : String} (own : column ∈ columns) {pattern : Value} (text : pattern.IsPattern)
    (negated : Bool) : WellFormed columns (.like column pattern negated)
  | between {column : String} (own : column ∈ columns) (low high : Value) :
    WellFormed columns (.between column low high)
  | isNull {column : String} (own : column ∈ columns) (negated : Bool) :
    WellFormed columns (.isNull column negated)
  | all {children : List Predicate} (filled : children ≠ [])
    (each : ∀ p ∈ children, WellFormed columns p) : WellFormed columns (.all children)
  | any {children : List Predicate} (filled : children ≠ [])
    (each : ∀ p ∈ children, WellFormed columns p) : WellFormed columns (.any children)
  | not {inner : Predicate} (opposite : inner.isGroup = true ∨ inner.isBetween = true)
    (h : WellFormed columns inner) : WellFormed columns (.not inner)

end Predicate

/-- **What an operator asks of a column is well formed.** -/
theorem Predicate.IsTest.wellFormed {columns : List String} {column : String} {p : Predicate}
    (h : p.IsTest column) (own : column ∈ columns) : p.WellFormed columns := by
  cases h with
  | compare op v => exact .compare own op v
  | like text negated => exact .like own text negated
  | between low high => exact .between own low high
  | notBetween low high => exact .not (.inr rfl) (.between own low high)
  | isNull negated => exact .isNull own negated

namespace Filter

variable {t : Table} {fields : Keyed FieldInfo}

/-- **A group joins at least one condition**, or asks for nothing. -/
theorem Junction.wellFormed_join {columns : List String} {j : Junction} {ps : List Predicate}
    (each : ∀ p ∈ ps, p.WellFormed columns) : ∀ p ∈ j.join ps, p.WellFormed columns := by
  intro p hp
  cases ps with
  | nil => exact nomatch hp
  | cons q rest =>
    rw [Junction.join_cons] at hp
    obtain rfl := Option.some.inj hp
    have joined : (j.joined (q :: rest)).isGroup = true ∧
        (j.joined (q :: rest)).WellFormed columns := by
      unfold Junction.joined
      split
      · exact ⟨rfl, .all (List.cons_ne_nil q rest) each⟩
      · exact ⟨rfl, .any (List.cons_ne_nil q rest) each⟩
    split
    · exact .not (.inl joined.1) joined.2
    · exact joined.2

mutual

/-- **What is compiled from a tree is well formed**, and about columns of the table. -/
theorem Node.wellFormed_condition : ∀ {n : Node} {c : Option Predicate},
    n.condition t fields = .ok c → ∀ p ∈ c, p.WellFormed t.columns
  | .rule r, c, h => by
    rcases Node.condition_rule_cases h with rfl | ⟨field, p, rfl, own, test⟩
    · exact fun _ h => nomatch h
    · rintro q ⟨⟩
      exact test.wellFormed own
  | .group j children, c, h => by
    obtain ⟨ps, hps, rfl⟩ := Node.condition_group h
    exact Junction.wellFormed_join (Node.wellFormed_conditions hps)

theorem Node.wellFormed_conditions : ∀ {ns : List Node} {ps : List Predicate},
    Node.conditions t fields ns = .ok ps → ∀ p ∈ ps, p.WellFormed t.columns
  | [], ps, h => by
    obtain rfl := Except.ok.inj h
    simp
  | n :: rest, ps, h => by
    obtain ⟨c, qs, hc, hqs, rfl⟩ := Node.conditions_cons h
    refine List.forall_mem_append.mpr ⟨fun p hp => ?_, Node.wellFormed_conditions hqs⟩
    exact Node.wellFormed_condition hc p (Option.mem_toList.mp hp)

end

/-- **The condition of a statement is well formed**, unless it holds of every row. -/
theorem wellFormed_conditionOf {filters : Option Clause} {p : Predicate}
    (h : conditionOf filters t = .ok p) : p = .always ∨ p.WellFormed t.columns := by
  cases filters with
  | none => exact .inl (Except.ok.inj h).symm
  | some c =>
    obtain ⟨q, hq, rfl⟩ := map_eq_ok_iff.mp h
    cases q with
    | none => exact .inl rfl
    | some q => exact .inr (Node.wellFormed_condition hq q rfl)

end Filter

end SqlBroker
