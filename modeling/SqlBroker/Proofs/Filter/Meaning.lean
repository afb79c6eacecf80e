import SqlBroker.Proofs.Filter.Condition
import SqlBroker.Proofs.Filter.Like
import SqlBroker.Proofs.Filter.Truth
import SqlBroker.Proofs.Value.Worded

/-!
# What a filter means

A filter says something of a row by itself, without any condition of a statement (`truth`): rules
compare their fields with values, or match them with patterns of the texts of values, in whatever
way the values are written (`Wording`); groups join what their children say. A node without a rule
about a field says nothing, and is not heard in the group it stands in (`Node.asks`); if nothing is
said at all, every row is meant.

Concerns `compile_clause`, `compile` and `compile_rule` (SPEC_FULL.md, sections 4.3, 8 and 12).

Headlines:
* **`Rule.truth_predicate`**, **`Node.truth_condition`**: a rule and a node are as true of a row as
  what is compiled from them.
* **`truth_conditionOf`**: so is a filter, and of the two conditions between and not between the
  same bounds exactly one holds of a row, where neither the row nor a bound has null.
-/

namespace SqlBroker

/-! ## Operators -/

namespace Domain

variable (D : Domain)

/-- Whether a column holds this value; the one that is equal to null is null. -/
def equals (held : Option D.Datum) (v : Value) : Truth :=
  if v.isNull then .ofBool held.isNone else D.compared .eq held (D.cell v)

/-- Whether a column holds another value. -/
def differs (held : Option D.Datum) (v : Value) : Truth :=
  if v.isNull then .ofBool held.isSome else D.compared .ne held (D.cell v)

/-- Whether a column matches a pattern of a value's text between two others. -/
def fits (w : Wording) (held : Option D.Datum) (before : String) (v : Value) (after : String) :
    Truth :=
  if v.isNull then .unknown
  else D.matched held (some (D.datum (.text (before ++ w.text v ++ after))))

end Domain

/-- How a comparison of two data is decided by their order. -/
def Comparison.holds {α : Type} [BEq α] [LT α] [LE α] [DecidableLT α] [DecidableLE α]
    (op : Comparison) (a b : α) : Bool :=
  match op with
  | .eq => a == b
  | .ne => a != b
  | .lt => a < b
  | .le => a ≤ b
  | .gt => b < a
  | .ge => b ≤ a

/-- What an operator says of what a column holds, by its operands. -/
def Operator.truth (D : Domain) (w : Wording) (op : Operator) (held : Option D.Datum)
    (operand : Nat → Value) : Truth :=
  match op with
  | .equal => D.equals held (operand 0)
  | .notEqual => D.differs held (operand 0)
  | .less => D.compared .lt held (D.cell (operand 0))
  | .lessOrEqual => D.compared .le held (D.cell (operand 0))
  | .greater => D.compared .gt held (D.cell (operand 0))
  | .greaterOrEqual => D.compared .ge held (D.cell (operand 0))
  | .like => D.fits w held "" (operand 0) ""
  | .notLike => (D.fits w held "" (operand 0) "").not
  | .startsWith => D.fits w held "" (operand 0) "%"
  | .endsWith => D.fits w held "%" (operand 0) ""
  | .between => D.within held (D.cell (operand 0)) (D.cell (operand 1))
  | .notBetween => (D.within held (D.cell (operand 0)) (D.cell (operand 1))).not
  | .isNull => .ofBool held.isNone
  | .isNotNull => .ofBool held.isSome
  | .isEmpty => D.compared .eq held (D.cell (.text ""))
  | .isNotEmpty => D.compared .ne held (D.cell (.text ""))

/-- Whether an operator is about how a text starts or ends. -/
def Operator.isAffix : Operator → Bool
  | .startsWith => true
  | .endsWith => true
  | _ => false

namespace Filter

/-! ## Rules -/

/-- An operand, read by its own type or else by the declared one; one that is missing is null. -/
def Operand.valueAt (declared : Option ValueType) (operands : List Operand) (i : Nat) : Value :=
  match operands[i]? with
  | none => .null
  | some o => (Value.read (o.type <|> declared) o.value).toOption.getD .null

/-- An operand of a rule about a field, for which the catalog may declare a type. -/
def Rule.valueAt (fields : Keyed FieldInfo) (r : Rule) (field : String) (i : Nat) : Value :=
  Operand.valueAt ((fields.get? field).map FieldInfo.type) r.operands i

/-- What a rule says of a row. -/
def Rule.truth (D : Domain) (w : Wording) (row : D.Row) (fields : Keyed FieldInfo) (r : Rule) :
    Truth :=
  match r.field, r.operator with
  | some field, some op => op.truth D w (row field) (r.valueAt fields field)
  | _, _ => .unknown

/-- Whether a rule about how a text starts or ends has an operand other than null. -/
def Rule.hasAffix (fields : Keyed FieldInfo) (r : Rule) : Bool :=
  match r.field with
  | none => true
  | some field => r.operator.any Operator.isAffix → !(r.valueAt fields field 0).isNull

/-! ## Trees -/

mutual

/-- Whether a tree has a rule about a field. -/
def Node.asks : Node → Bool
  | .rule r => r.field.isSome
  | .group _ children => Node.someAsks children

/-- Whether one of several trees has. -/
def Node.someAsks : List Node → Bool
  | [] => false
  | n :: rest => n.asks || Node.someAsks rest

end

mutual

/-- What a tree says of a row. -/
def Node.truth (D : Domain) (w : Wording) (row : D.Row) (fields : Keyed FieldInfo) : Node → Truth
  | .rule r => r.truth D w row fields
  | .group j children =>
    let joined :=
      match j.conjunction with
      | .and => Truth.all (Node.truths D w row fields children)
      | .or => Truth.any (Node.truths D w row fields children)
    if j.negated = some true then joined.not else joined

/-- What several trees say, those left out that say nothing. -/
def Node.truths (D : Domain) (w : Wording) (row : D.Row) (fields : Keyed FieldInfo) :
    List Node → List Truth
  | [] => []
  | n :: rest =>
    if n.asks then n.truth D w row fields :: Node.truths D w row fields rest
    else Node.truths D w row fields rest

end

mutual

/-- Whether all rules about how a text starts or ends have an operand other than null. -/
def Node.hasAffixes (fields : Keyed FieldInfo) : Node → Bool
  | .rule r => r.hasAffix fields
  | .group _ children => Node.haveAffixes fields children

/-- Whether all such rules of several trees have one. -/
def Node.haveAffixes (fields : Keyed FieldInfo) : List Node → Bool
  | [] => true
  | n :: rest => n.hasAffixes fields && Node.haveAffixes fields rest

end

/-- What a filter says of a row; one that says nothing means every row. -/
def Clause.truth (D : Domain) (w : Wording) (row : D.Row) (c : Clause) : Truth :=
  if c.tree.asks then c.tree.truth D w row c.fields else .holds

/-! ## What is compiled from rules -/

theorem Operand.valueAt_eq {declared : Option ValueType} {os : List Operand} {values : List Value}
    (h : Operand.values declared os = .ok values) (i : Nat) :
    Operand.valueAt declared os i = values[i]?.getD .null := by
  rw [Operand.getElem?_values h i, Operand.valueAt]
  cases os[i]? <;> rfl

end Filter

namespace Predicate

variable (D : Domain) (w : Wording) (row : D.Row) (column : String)

theorem truth_equality (v : Value) :
    (equality column false v).truth D row = D.equals (row column) v := by
  unfold equality Domain.equals
  split
  · simp [truth]
  · rfl

theorem truth_inequality (v : Value) :
    (equality column true v).truth D row = D.differs (row column) v := by
  unfold equality Domain.differs
  split
  · rw [truth]
    cases row column <;> rfl
  · rfl

theorem truth_matching (v : Value) :
    (matching column false v).truth D row = D.fits w (row column) "" v "" := by
  unfold matching Domain.fits
  split
  next null => simp [truth]
  next some => simp [truth, w.text_eq (Bool.eq_false_iff.mpr some)]

theorem truth_notMatching (v : Value) :
    (matching column true v).truth D row = (D.fits w (row column) "" v "").not := by
  rw [← truth_matching]
  rfl

end Predicate

/-- **An operator says what its predicate does**, if one about how a text starts or ends has an
operand other than null. -/
theorem Operator.truth_predicate (D : Domain) (w : Wording) (row : D.Row) {op : Operator}
    {column : String} {values : List Value} {p : Predicate} (h : op.predicate column values = .ok p)
    (affix : op.isAffix → (values[0]?.getD Value.null).isNull = false) :
    p.truth D row = op.truth D w (row column) fun i => values[i]?.getD .null := by
  have first : values[0]?.getD .null = values.headD .null := by cases values <;> rfl
  unfold Operator.truth
  dsimp only
  rw [first] at affix ⊢
  cases op with
  | equal => exact Except.ok.inj h ▸ Predicate.truth_equality D row column _
  | notEqual => exact Except.ok.inj h ▸ Predicate.truth_inequality D row column _
  | like => exact Except.ok.inj h ▸ Predicate.truth_matching D w row column _
  | notLike => exact Except.ok.inj h ▸ Predicate.truth_notMatching D w row column _
  | startsWith =>
    obtain rfl := Except.ok.inj h
    change _ = D.fits w (row column) "" _ "%"
    rw [Domain.fits, affix rfl, if_neg Bool.false_ne_true, w.text_eq (affix rfl),
      String.empty_append]
    rfl
  | endsWith =>
    obtain rfl := Except.ok.inj h
    change _ = D.fits w (row column) "%" _ ""
    rw [Domain.fits, affix rfl, if_neg Bool.false_ne_true, w.text_eq (affix rfl),
      String.append_empty]
    rfl
  | between =>
    obtain ⟨_, _, _, rfl, rfl⟩ := Operator.between_eq_ok h
    rfl
  | notBetween =>
    obtain ⟨_, _, _, rfl, rfl⟩ := Operator.notBetween_eq_ok h
    rfl
  | isNull =>
    obtain rfl := Except.ok.inj h
    simp [Predicate.truth]
  | isNotNull =>
    obtain rfl := Except.ok.inj h
    cases hc : row column <;> simp [Predicate.truth, hc]
  | less => exact Except.ok.inj h ▸ rfl
  | lessOrEqual => exact Except.ok.inj h ▸ rfl
  | greater => exact Except.ok.inj h ▸ rfl
  | greaterOrEqual => exact Except.ok.inj h ▸ rfl
  | isEmpty => exact Except.ok.inj h ▸ rfl
  | isNotEmpty => exact Except.ok.inj h ▸ rfl

namespace Filter

variable (D : Domain) (w : Wording) (row : D.Row) {t : Table} {fields : Keyed FieldInfo}

/-- **A rule says what is compiled from it.** -/
theorem Rule.truth_predicate {r : Rule} {field : String} {p : Predicate}
    (hf : r.field = some field) (h : r.predicate field t fields = .ok p)
    (affix : r.hasAffix fields) : p.truth D row = r.truth D w row fields := by
  obtain ⟨op, values, ho, hv, hp⟩ := Rule.predicate_eq_ok h
  have operand : r.valueAt fields field = fun i => values[i]?.getD .null :=
    funext (Operand.valueAt_eq hv)
  rw [Rule.hasAffix, hf] at affix
  rw [Rule.truth, hf, ho]
  dsimp only
  rw [operand]
  refine op.truth_predicate D w row hp fun isAffix => ?_
  simpa [ho, isAffix, operand] using affix

/-! ## What is compiled from trees -/

theorem Junction.truth_joined (j : Junction) (ps : List Predicate) :
    (j.joined ps).truth D row =
      match j.conjunction with
      | .and => .all (Predicate.truths D row ps)
      | .or => .any (Predicate.truths D row ps) := by
  unfold Junction.joined
  cases j.conjunction <;> rfl

mutual

/-- **A tree says what is compiled from it**, and nothing if nothing is. -/
theorem Node.truth_condition : ∀ {n : Node} {c : Option Predicate},
    n.condition t fields = .ok c → n.hasAffixes fields →
      c.map (Predicate.truth D row) = if n.asks then some (n.truth D w row fields) else none
  | .rule r, c, h, affix => by
    cases hf : r.field with
    | none =>
      simp only [Node.condition, Rule.condition, hf] at h
      obtain rfl := Except.ok.inj h
      simp [Node.asks, hf]
    | some field =>
      obtain ⟨p, rfl, hp⟩ := Node.condition_rule hf h
      simp [Node.asks, Node.truth, hf, Rule.truth_predicate D w row hf hp affix]
  | .group j children, c, h, affix => by
    obtain ⟨ps, hps, rfl⟩ := Node.condition_group h
    obtain ⟨truths, asks⟩ := Node.truths_conditions hps affix
    cases ps with
    | nil => simp [Node.asks, asks, Junction.join]
    | cons p rest =>
      rw [Junction.join_cons, Node.asks, asks, Option.map_some, Node.truth, ← truths]
      by_cases negated : j.negated = some true
      · simp [Junction.isNegated, negated, Predicate.truth, Junction.truth_joined]
      · simp [Junction.isNegated, negated, Junction.truth_joined]

theorem Node.truths_conditions : ∀ {ns : List Node} {ps : List Predicate},
    Node.conditions t fields ns = .ok ps → Node.haveAffixes fields ns →
      Predicate.truths D row ps = Node.truths D w row fields ns ∧ Node.someAsks ns = !ps.isEmpty
  | [], ps, h, _ => by
    obtain rfl := Except.ok.inj h
    exact ⟨rfl, rfl⟩
  | n :: rest, ps, h, affix => by
    obtain ⟨c, qs, hc, hqs, rfl⟩ := Node.conditions_cons h
    obtain ⟨first, later⟩ := Bool.and_eq_true_iff.mp affix
    have node := Node.truth_condition hc first
    obtain ⟨truths, asks⟩ := Node.truths_conditions hqs later
    rw [Predicate.truths_append, Node.truths, Node.someAsks, truths, asks]
    cases asked : n.asks with
    | true =>
      rw [asked, if_pos rfl] at node
      obtain ⟨p, rfl, same⟩ := Option.map_eq_some_iff.mp node
      exact ⟨by simp [Predicate.truths, same], by simp⟩
    | false =>
      rw [asked, if_neg Bool.false_ne_true] at node
      obtain rfl := Option.map_eq_none_iff.mp node
      exact ⟨by simp [Predicate.truths], by simp⟩

end

/-! ## What is compiled from filters -/

theorem Clause.truth_condition {c : Clause} {p : Predicate}
    (h : conditionOf (some c) t = .ok p) (affix : c.tree.hasAffixes c.fields) :
    p.truth D row = c.truth D w row := by
  obtain ⟨q, hq, rfl⟩ := map_eq_ok_iff.mp h
  have tree := Node.truth_condition D w row hq affix
  rw [Clause.truth]
  cases asked : c.tree.asks with
  | true =>
    rw [asked, if_pos rfl] at tree
    obtain ⟨p, rfl, same⟩ := Option.map_eq_some_iff.mp tree
    exact same
  | false =>
    rw [asked, if_neg Bool.false_ne_true] at tree
    obtain rfl := Option.map_eq_none_iff.mp tree
    rfl

/-- **A condition means what its filter means**, of every row in every database, however values are
written; and of the two conditions between and not between the same bounds exactly one holds, if
there is no null. -/
theorem truth_conditionOf (t : Table) :
    (∀ (c : Clause) (p : Predicate), conditionOf (some c) t = .ok p → c.tree.hasAffixes c.fields →
      p.truth D row = c.truth D w row) ∧
    ∀ (r : Rule) (fields : Keyed FieldInfo) (field : String) (p q : Predicate),
      r.field = some field →
      conditionOf (some ⟨.rule { r with operator := some .between }, fields⟩) t = .ok p →
      conditionOf (some ⟨.rule { r with operator := some .notBetween }, fields⟩) t = .ok q →
      (row field).isSome → (r.valueAt fields field 0).isNull = false →
      (r.valueAt fields field 1).isNull = false →
      (q.truth D row = .holds ↔ ¬ p.truth D row = .holds) := by
  refine ⟨fun c p h affix => c.truth_condition D w row h affix, ?_⟩
  intro r fields field p q hf hp hq held low high
  have affix (op : Operator) (ho : op.isAffix = false) :
      (Node.rule { r with operator := some op }).hasAffixes fields := by
    simp [Node.hasAffixes, Rule.hasAffix, hf, ho]
  have between := Clause.truth_condition D w row hp (affix .between rfl)
  have notBetween := Clause.truth_condition D w row hq (affix .notBetween rfl)
  have cells {i : Nat} (hi : (r.valueAt fields field i).isNull = false) :
      (D.cell (r.valueAt fields field i)).isSome := by
    simp [Domain.cell, hi]
  have decided := D.within_ne_unknown held (cells low) (cells high)
  simp only [Clause.truth, Node.asks, Node.truth, Rule.truth, hf, Option.isSome_some, if_true,
    Operator.truth] at between notBetween
  rw [between, notBetween]
  exact Truth.holds_not_iff decided

/-! ### Filters of three rules -/

/-- Numbers and texts, each in its order and matched as on SQLite; no other value is known. -/
def records : Domain where
  Datum := Int ⊕ String
  datum
    | .int n => .inl n
    | .text s => .inr s
    | _ => .inl 0
  compare
    | op, .inl a, .inl b => op.holds a b
    | op, .inr a, .inr b => op.holds a b
    | _, _, _ => false
  like
    | .inr held, .inr pattern => Like.holds .sqlite pattern.toList held.toList
    | _, _ => false

/-- A row with an age, perhaps with a name, and with nothing else. -/
def person (age : Int) (name : Option String) : records.Row := fun column =>
  if column = "age" then some (.inl age) else if column = "name" then name.map .inr else none

def people : Table := ⟨"people", ["age", "name"]⟩

def workingAge : List Operand := [⟨.number (.integer 18), none⟩, ⟨.number (.integer 65), none⟩]

/-- Not of an age to work, or of a name with another start; beside it a group that says nothing. -/
def idle : Clause where
  tree := .group ⟨.and, some true⟩
    [.group ⟨.or, some true⟩ [.rule ⟨none, some .isNull, []⟩],
     .rule ⟨some "age", some .between, workingAge⟩,
     .rule ⟨some "name", some .startsWith, [⟨.string "A", some .text⟩]⟩]
  fields := Keyed.ofList [("age", ⟨.number, "Age"⟩), ("name", ⟨.text, "Name"⟩)]

/-- With a name that starts as a truth value, ends as a day, or is like a number. -/
def odd : Clause where
  tree := .group ⟨.or, none⟩
    [.rule ⟨some "name", some .startsWith, [⟨.bool true, none⟩]⟩,
     .rule ⟨some "name", some .endsWith, [⟨.string "2024-05-17", some .date⟩]⟩,
     .rule ⟨some "name", some .like, [⟨.number (.integer (-7)), some .number⟩]⟩]
  fields := idle.fields

/-- Without a name it is unknown at thirty whether one is idle. -/
theorem truth_conditionOf_idle :
    (∃ p, conditionOf (some idle) people = .ok p ∧
      p.truth records (person 30 none) = .unknown ∧
      p.truth records (person 70 none) = .holds ∧
      p.truth records (person 30 (some "Ada")) = .fails ∧
      p.truth records (person 30 (some "Bo")) = .holds) ∧
    (∃ p, conditionOf (some odd) people = .ok p ∧
      p.truth records (person 30 (some "trueborn")) = .holds ∧
      p.truth records (person 30 (some "of 2024-05-17")) = .holds ∧
      p.truth records (person 30 (some "-7")) = .holds ∧
      p.truth records (person 30 (some "7")) = .fails) ∧
    ∃ p q,
      conditionOf (some ⟨.rule ⟨some "age", some .between, workingAge⟩, idle.fields⟩) people =
        .ok p ∧
      conditionOf (some ⟨.rule ⟨some "age", some .notBetween, workingAge⟩, idle.fields⟩) people =
        .ok q ∧
      (q.truth records (person 30 none) = .holds ↔
        ¬ p.truth records (person 30 none) = .holds) := by
  have means (row : records.Row) := (truth_conditionOf records .patterns row people).1
  refine ⟨⟨_, rfl, ?_, ?_, ?_, ?_⟩, ⟨_, rfl, ?_, ?_, ?_, ?_⟩, _, _, rfl, rfl, ?_⟩
  · exact (means _ idle _ rfl (by decide)).trans (by decide)
  · exact (means _ idle _ rfl (by decide)).trans (by decide)
  · exact (means _ idle _ rfl (by decide)).trans (by decide)
  · exact (means _ idle _ rfl (by decide)).trans (by decide)
  · exact (means _ odd _ rfl (by decide)).trans (by decide)
  · exact (means _ odd _ rfl (by decide)).trans (by decide)
  · exact (means _ odd _ rfl (by decide)).trans (by decide)
  · exact (means _ odd _ rfl (by decide)).trans (by decide)
  · exact (truth_conditionOf records .patterns (person 30 none) people).2
      ⟨some "age", none, workingAge⟩ idle.fields "age" _ _ rfl rfl rfl rfl rfl rfl

end Filter

end SqlBroker
