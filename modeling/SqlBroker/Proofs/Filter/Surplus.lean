import SqlBroker.Proofs.Filter.Meaning

/-!
# Surplus operands

An operator takes the operands that it needs and no notice of those after them. Yet all operands of
a rule are read before its operator is looked at, so that one that cannot be read is an error
wherever it stands. Surplus operands make no difference as long as they can be read.

Concerns `compile_rule` and `between` (SPEC_FULL.md, section 4.3).

Headlines:
* **`Operator.predicate_append`**: an operator looks at its own operands only.
* **`Rule.predicate_append`**: a rule asks for what it asks with the operands of its operator, once
  the others are read.
* **`Rule.condition_surplus`**: rules that differ in surplus operands alone are alike if these can
  be read; one that cannot is the error.
-/

namespace SqlBroker

/-! ## Operators -/

/-- How many operands an operator takes. -/
def Operator.arity : Operator → Nat
  | .between => 2
  | .notBetween => 2
  | .isNull => 0
  | .isNotNull => 0
  | .isEmpty => 0
  | .isNotEmpty => 0
  | _ => 1

variable {op : Operator} {used : List Value}

/-- **An operator looks at its own operands only.** -/
theorem Operator.predicate_append (enough : used.length = op.arity) (column : String)
    (surplus : List Value) : op.predicate column (used ++ surplus) = op.predicate column used := by
  cases op
  case between =>
    match used, enough with
    | [_, _], _ => rfl
  case notBetween =>
    match used, enough with
    | [_, _], _ => rfl
  case isNull => rfl
  case isNotNull => rfl
  case isEmpty => rfl
  case isNotEmpty => rfl
  -- What is left takes one operand, which is the first with and without the others.
  all_goals
    match used, enough with
    | [_], _ => rfl

/-- An operator that has its operands has a predicate. -/
theorem Operator.predicate_of_arity (enough : used.length = op.arity) (column : String) :
    ∃ p, op.predicate column used = .ok p := by
  cases op
  case between =>
    match used, enough with
    | [low, high], _ => exact ⟨.between column low high, rfl⟩
  case notBetween =>
    match used, enough with
    | [low, high], _ => exact ⟨.not (.between column low high), rfl⟩
  all_goals exact ⟨_, rfl⟩

namespace Filter

/-! ## Operands -/

/-- An operand can be read, by its own type or else by the declared one. -/
def Operand.IsReadable (declared : Option ValueType) (o : Operand) : Prop :=
  ∃ v, Value.read (o.type <|> declared) o.value = .ok v

variable {declared : Option ValueType}

/-- Operands are read from the first to the last. -/
theorem Operand.values_append : ∀ used surplus : List Operand,
    Operand.values declared (used ++ surplus) = do
      let vs ← Operand.values declared used
      let ws ← Operand.values declared surplus
      return vs ++ ws
  | [], surplus => by
    change Operand.values declared surplus = (Operand.values declared surplus >>= fun ws => .ok ws)
    cases Operand.values declared surplus <;> rfl
  | o :: used, surplus => by
    rw [List.cons_append, Operand.values, Operand.values, values_append used surplus]
    cases Value.read (o.type <|> declared) o.value with
    | error e => rfl
    | ok v =>
      cases Operand.values declared used with
      | error e => rfl
      | ok vs => cases Operand.values declared surplus <;> rfl

theorem Operand.length_values : ∀ {os : List Operand} {values : List Value},
    Operand.values declared os = .ok values → values.length = os.length
  | [], _, h => by
    obtain rfl := Except.ok.inj h
    rfl
  | o :: rest, _, h => by
    obtain ⟨v, -, h⟩ := bind_eq_ok_iff.mp h
    obtain ⟨vs, hvs, h⟩ := bind_eq_ok_iff.mp h
    obtain rfl := Except.ok.inj h
    rw [List.length_cons, List.length_cons, length_values hvs]

theorem Operand.values_of_readable : ∀ {os : List Operand},
    (∀ o ∈ os, o.IsReadable declared) → ∃ values, Operand.values declared os = .ok values
  | [], _ => ⟨[], rfl⟩
  | o :: rest, h => by
    obtain ⟨⟨v, hv⟩, later⟩ := List.forall_mem_cons.mp h
    obtain ⟨vs, hvs⟩ := values_of_readable later
    refine ⟨v :: vs, bind_eq_ok_iff.mpr ⟨v, hv, ?_⟩⟩
    exact bind_eq_ok_iff.mpr ⟨vs, hvs, rfl⟩

/-! ## Rules -/

variable (t : Table) (fields : Keyed FieldInfo)

/-- The type that the catalog declares for a field. -/
def declaredType (field : String) : Option ValueType := (fields.get? field).map FieldInfo.type

/-- **A rule asks for what it asks without its surplus operands**, once these are read. -/
theorem Rule.predicate_append (field : String) {op : Operator} {used : List Operand}
    (enough : used.length = op.arity) (surplus : List Operand) :
    (⟨some field, some op, used ++ surplus⟩ : Rule).predicate field t fields = do
      let p ← (⟨some field, some op, used⟩ : Rule).predicate field t fields
      let _ ← Operand.values (declaredType fields field) surplus
      return p := by
  unfold Rule.predicate
  change (t.column field >>= fun column =>
      Operand.values (declaredType fields field) (used ++ surplus) >>= op.predicate column) =
    ((t.column field >>= fun column =>
      Operand.values (declaredType fields field) used >>= op.predicate column) >>= fun p =>
        Operand.values (declaredType fields field) surplus >>= fun _ => .ok p)
  cases t.column field with
  | error e => rfl
  | ok column =>
    change (Operand.values (declaredType fields field) (used ++ surplus) >>= op.predicate column) =
      ((Operand.values (declaredType fields field) used >>= op.predicate column) >>= fun p =>
        Operand.values (declaredType fields field) surplus >>= fun _ => .ok p)
    rw [Operand.values_append]
    cases hu : Operand.values (declaredType fields field) used with
    | error e => rfl
    | ok vs =>
      have length : vs.length = op.arity := (Operand.length_values hu).trans enough
      obtain ⟨p, hp⟩ := Operator.predicate_of_arity length column
      cases Operand.values (declaredType fields field) surplus with
      | error e =>
        change _ = (op.predicate column vs >>= fun p => _)
        rw [hp]
        rfl
      | ok ws =>
        change op.predicate column (vs ++ ws) = (op.predicate column vs >>= fun p => .ok p)
        rw [Operator.predicate_append length, hp]
        rfl

theorem Rule.condition_append (field : String) {op : Operator} {used : List Operand}
    (enough : used.length = op.arity) (surplus : List Operand) :
    (⟨some field, some op, used ++ surplus⟩ : Rule).condition t fields = do
      let c ← (⟨some field, some op, used⟩ : Rule).condition t fields
      let _ ← Operand.values (declaredType fields field) surplus
      return c := by
  unfold Rule.condition
  dsimp only
  rw [Rule.predicate_append t fields field enough surplus]
  cases (⟨some field, some op, used⟩ : Rule).predicate field t fields with
  | error e => rfl
  | ok p => cases Operand.values (declaredType fields field) surplus <;> rfl

/-- **Surplus operands make no difference** where they can be read. The first that cannot is the
error, unless there is one already without them. -/
theorem Rule.condition_surplus (field : String) (op : Operator) {os os' : List Operand}
    (enough : op.arity ≤ os.length) (enough' : op.arity ≤ os'.length)
    (agree : os.take op.arity = os'.take op.arity) :
    let compiled (os : List Operand) := (⟨some field, some op, os⟩ : Rule).condition t fields
    ((∀ o ∈ os.drop op.arity ++ os'.drop op.arity, o.IsReadable (declaredType fields field)) →
      compiled os = compiled os') ∧
    ∀ e, Operand.values (declaredType fields field) (os.drop op.arity) = .error e →
      compiled os = compiled (os.take op.arity) >>= fun _ => .error e := by
  intro compiled
  have split (os : List Operand) (enough : op.arity ≤ os.length) :
      compiled os = compiled (os.take op.arity) >>= fun c =>
        Operand.values (declaredType fields field) (os.drop op.arity) >>= fun _ => .ok c := by
    have length : (os.take op.arity).length = op.arity := List.length_take_of_le enough
    have parts := Rule.condition_append t fields field length (os.drop op.arity)
    rwa [List.take_append_drop] at parts
  constructor
  · intro readable
    rw [List.forall_mem_append] at readable
    obtain ⟨vs, hvs⟩ := Operand.values_of_readable readable.1
    obtain ⟨ws, hws⟩ := Operand.values_of_readable readable.2
    rw [split os enough, split os' enough', hvs, hws, agree]
    rfl
  · intro e he
    rw [split os enough, he]
    rfl

/-- A question for null has no use for an operand, but one that is to be a date has to be one. -/
theorem Rule.condition_surplus_undated :
    (⟨some "name", some .isNull, [⟨.string "soon", some .text⟩]⟩ : Rule).condition people
        idle.fields =
      (⟨some "name", some .isNull, []⟩ : Rule).condition people idle.fields ∧
    (⟨some "name", some .isNull, [⟨.string "soon", some .date⟩]⟩ : Rule).condition people
        idle.fields =
      .error (.valueFormat "date" "\"soon\"" "input contains invalid characters") := by
  have texts := (@Rule.condition_surplus people idle.fields "name" .isNull
    [⟨.string "soon", some .text⟩] [] (Nat.zero_le _) (Nat.zero_le _) rfl).1
  have dates := (@Rule.condition_surplus people idle.fields "name" .isNull
    [⟨.string "soon", some .date⟩] [] (Nat.zero_le _) (Nat.zero_le _) rfl).2
  refine ⟨texts ?_, dates _ rfl⟩
  intro o mem
  obtain rfl := List.mem_singleton.mp mem
  exact ⟨.text "soon", rfl⟩

/-- Equality takes one operand, and fails for a second one. -/
theorem surplus_unread :
    let ada : Operand := ⟨.string "Ada", some .text⟩
    let soon : Operand := ⟨.string "soon", some .date⟩
    [ada].take Operator.equal.arity = [ada, soon].take Operator.equal.arity ∧
      (⟨some "name", some .equal, [ada]⟩ : Rule).condition people idle.fields =
        .ok (some (.compare "name" .eq (.text "Ada"))) ∧
      (⟨some "name", some .equal, [ada, soon]⟩ : Rule).condition people idle.fields =
        .error (.valueFormat "date" "\"soon\"" "input contains invalid characters") :=
  ⟨rfl, rfl, rfl⟩

end Filter

end SqlBroker
