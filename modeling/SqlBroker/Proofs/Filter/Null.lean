import SqlBroker.Proofs.Filter.Meaning

/-!
# Comparisons with null

Operators of one value compare with null where a rule has no operand, and a comparison with null is
unknown of every row: a rule without its operand selects nothing. Equality is apart, for it asks
whether the column is null. So is the question how a text starts or ends: the text of null is empty,
and the pattern `%` that is left is matched by whatever the database lets it match.

Concerns `compile_rule` and `like` (SPEC_FULL.md, section 12).

Headlines:
* **`Operator.truth_predicate_null`**: what an operator says of a row if its operand is null.
* **`Rule.truth_condition_null`**: what a rule says whose operand is missing or null.
-/

namespace SqlBroker

/-! ## Operators -/

/-- Whether an operator compares its column with one value, and not for equality. -/
def Operator.isOneSided : Operator → Bool
  | .less => true
  | .lessOrEqual => true
  | .greater => true
  | .greaterOrEqual => true
  | .like => true
  | .notLike => true
  | .startsWith => true
  | .endsWith => true
  | _ => false

theorem Domain.compared_null (D : Domain) (op : Comparison) (held : Option D.Datum) :
    D.compared op held (D.cell .null) = .unknown := by
  cases held <;> rfl

/-- **A null operand leaves nothing known**, but of how a text starts or ends it leaves `%`. -/
theorem Operator.truth_predicate_null (D : Domain) (row : D.Row) {op : Operator} {column : String}
    {values : List Value} {p : Predicate} (oneSided : op.isOneSided)
    (null : values.headD .null = .null) (h : op.predicate column values = .ok p) :
    p.truth D row =
      if op.isAffix then D.matched (row column) (D.cell (.text "%")) else .unknown := by
  have ordered (c : Comparison) : (Predicate.compare column c .null).truth D row = .unknown :=
    D.compared_null c (row column)
  have matching (negated : Bool) :
      (Predicate.matching column negated .null).truth D row = .unknown := by
    have unmatched : D.matched (row column) (D.cell .null) = .unknown := D.matched_null _
    cases negated with
    | false => exact unmatched
    | true => exact congrArg Truth.not unmatched
  unfold predicate at h
  dsimp only at h
  rw [null] at h
  cases op with
  | less => exact Except.ok.inj h ▸ ordered .lt
  | lessOrEqual => exact Except.ok.inj h ▸ ordered .le
  | greater => exact Except.ok.inj h ▸ ordered .gt
  | greaterOrEqual => exact Except.ok.inj h ▸ ordered .ge
  | like => exact Except.ok.inj h ▸ matching false
  | notLike => exact Except.ok.inj h ▸ matching true
  | startsWith => exact Except.ok.inj h ▸ rfl
  | endsWith => exact Except.ok.inj h ▸ rfl
  | _ => exact absurd oneSided Bool.false_ne_true

namespace Filter

/-! ## Rules -/

/-- Whether a rule has no operand, or null in its place. -/
def Rule.lacksOperand (r : Rule) : Bool :=
  match r.operands with
  | [] => true
  | ⟨.null, _⟩ :: _ => true
  | _ => false

/-- Null is null, whatever type is declared for it. -/
theorem Operand.headD_values {declared : Option ValueType} {r : Rule} {values : List Value}
    (lacks : r.lacksOperand) (h : Operand.values declared r.operands = .ok values) :
    values.headD .null = .null := by
  unfold Rule.lacksOperand at lacks
  split at lacks
  next none =>
    rw [none] at h
    obtain rfl := Except.ok.inj h
    rfl
  next type rest first =>
    rw [first] at h
    obtain ⟨v, hv, h⟩ := bind_eq_ok_iff.mp h
    obtain ⟨vs, -, h⟩ := bind_eq_ok_iff.mp h
    obtain rfl := Except.ok.inj h
    exact (Except.ok.inj hv).symm
  next => exact absurd lacks Bool.false_ne_true

/-- **A rule without its operand selects nothing**, in any database and whatever is declared of its
field; but if it asks how a text starts or ends, it selects what matches `%`. -/
theorem Rule.truth_condition_null (D : Domain) (row : D.Row) (t : Table) (fields : Keyed FieldInfo)
    {r : Rule} {op : Operator} {p : Predicate} (ho : r.operator = some op)
    (oneSided : op.isOneSided) (lacks : r.lacksOperand)
    (h : r.condition t fields = .ok (some p)) :
    ∃ field, r.field = some field ∧
      p.truth D row =
        if op.isAffix then D.matched (row field) (D.cell (.text "%")) else .unknown := by
  cases hf : r.field with
  | none =>
    -- A rule without a field is no condition, so there is no predicate.
    rw [Rule.condition, hf] at h
    exact nomatch h
  | some field =>
    obtain ⟨q, hq, hp⟩ := Node.condition_rule hf h
    obtain rfl := Option.some.inj hq
    obtain ⟨op', values, ho', hv, hp⟩ := Rule.predicate_eq_ok hp
    obtain rfl := Option.some.inj (ho.symm.trans ho')
    have null := Operand.headD_values lacks hv
    exact ⟨field, rfl, op.truth_predicate_null D row oneSided null hp⟩

/-- Texts, of which each matches itself and all match `%`. -/
def texts : Domain where
  Datum := String
  datum
    | .text s => s
    | _ => ""
  compare op a b := op.holds a b
  like held pattern := pattern == "%" || held == pattern

/-- A row with a name and nothing else. -/
def called (name : String) : texts.Row := fun column => if column = "name" then some name else none

/-- Nothing is known to be unlike null. -/
theorem Rule.truth_condition_null_notLike :
    ∃ field, some "name" = some field ∧
      (Predicate.like "name" .null true).truth texts (called "Ada") =
        if Operator.notLike.isAffix then texts.matched (called "Ada" field) (texts.cell (.text "%"))
        else .unknown :=
  Rule.truth_condition_null (r := ⟨some "name", some .notLike, [⟨.null, some .date⟩]⟩) texts
    (called "Ada") people idle.fields rfl rfl rfl rfl

/-- Every name starts as null does. -/
theorem starts_as_null :
    let r : Rule := ⟨some "name", some .startsWith, [⟨.null, none⟩]⟩
    r.lacksOperand ∧ Operator.startsWith.isOneSided ∧
      ∃ p, r.condition people idle.fields = .ok (some p) ∧
        p.truth texts (called "Ada") = .holds :=
  ⟨rfl, rfl, _, rfl, by decide⟩

end Filter

end SqlBroker
