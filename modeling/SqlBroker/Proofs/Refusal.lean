import SqlBroker.Plan
import SqlBroker.Proofs.Error

/-!
# Requests that are refused

What can be wrong with a request before any database is asked, and how that is told: a malformed
request when it is validated, an unknown backend by its scheme, and what means nothing when its
operation is planned. No step refuses anything in the words of another.

Headlines:
* **`Envelope.failsAs_validate`**: validation finds malformed requests.
* **`Capabilities.ofUri_error`**: a connection string is refused for its backend.
* **`Plan.failsAs_ofOperation`**: planning finds what means nothing.
-/

namespace SqlBroker

/-! ## Validation -/

theorem Envelope.failsAs_checkResource (e : Envelope) :
    FailsAs (·.isShape) e.checkResource := by
  unfold checkResource
  split
  · split
    · exact .error rfl
    · exact .ok _
  · exact .ok _

theorem Envelope.failsAs_checkDepth (limit : Nat) (e : Envelope) :
    FailsAs (·.isShape) (e.checkDepth limit) := by
  unfold checkDepth
  split
  · split
    · exact .error rfl
    · exact .ok _
  · exact .ok _

theorem Envelope.failsAs_checkWrites (e : Envelope) : FailsAs (·.isShape) e.checkWrites := by
  unfold checkWrites
  split
  · split
    · exact .error rfl
    · exact .ok _
  · exact .ok _

/-- **What validation refuses is malformed.** -/
theorem Envelope.failsAs_validate (limit : Nat) (e : Envelope) :
    FailsAs (·.isShape) (e.validate limit) :=
  e.failsAs_checkResource.bind fun _ => (e.failsAs_checkDepth limit).bind fun _ =>
    e.failsAs_checkWrites

/-! ## Backends -/

/-- **A connection string is refused for its backend** and for nothing else. -/
theorem Capabilities.ofUri_error {uri : String} {e : Error} (h : ofUri uri = .error e) :
    ∃ scheme, e = .unsupportedBackend scheme := by
  unfold ofUri at h
  split at h
  · exact ⟨_, (Except.error.inj h).symm⟩
  · split at h
    · exact nomatch h
    · exact ⟨_, (Except.error.inj h).symm⟩

/-! ## Values and filters -/

theorem Value.failsAs_ofText (type : ValueType) (readText : String → Except Calendar.Fault Value)
    (j : Json) : FailsAs (·.isOfOperands) (ofText type readText j) := by
  unfold ofText
  dsimp only
  split
  · rename_i s
    cases readText s with
    | ok v => exact .ok v
    | error fault => exact .error rfl
  · exact .error rfl

theorem Value.failsAs_read (type : Option ValueType) (j : Json) :
    FailsAs (·.isOfOperands) (read type j) := by
  unfold read
  split
  · exact .ok _
  · exact .ok _
  · unfold readAs
    split
    all_goals first
      | exact .ok _
      | exact .error rfl
      | exact failsAs_ofText _ _ _

theorem Operator.failsAs_predicate (op : Operator) (column : String) (values : List Value) :
    FailsAs (·.isOfOperands) (op.predicate column values) := by
  cases op with
  | between =>
    unfold predicate
    dsimp only
    split
    · exact .ok _
    · exact .error rfl
  | notBetween =>
    unfold predicate
    dsimp only
    split
    · exact .ok _
    · exact .error rfl
  | _ => exact .ok _

theorem Table.failsAs_column (t : Table) (name : String) :
    FailsAs (·.isMeaning) (t.column name) := by
  unfold column
  split
  · exact .ok _
  · exact .error rfl

namespace Filter

variable {t : Table} {fields : Keyed FieldInfo}

theorem Operand.failsAs_values (declared : Option ValueType) : ∀ os : List Operand,
    FailsAs (·.isOfOperands) (Operand.values declared os)
  | [] => .ok _
  | _ :: rest =>
    (Value.failsAs_read _ _).bind fun _ => (failsAs_values declared rest).bind fun _ => .ok _

theorem Rule.failsAs_predicate (r : Rule) (field : String) :
    FailsAs (·.isMeaning) (r.predicate field t fields) := by
  refine (t.failsAs_column field).bind fun column => ?_
  split
  · exact .error rfl
  · rename_i op _
    have operands := (Operand.failsAs_values ((fields.get? field).map FieldInfo.type)
      r.operands).bind fun values => op.failsAs_predicate column values
    exact operands.imp fun _ => Error.isMeaning_of_isOfOperands

mutual

theorem Node.failsAs_condition : ∀ n : Node, FailsAs (·.isMeaning) (n.condition t fields)
  | .rule r => by
    unfold Node.condition Rule.condition
    split
    · exact .ok _
    · exact (r.failsAs_predicate _).map _
  | .group _ children => by
    unfold Node.condition
    exact (Node.failsAs_conditions children).bind fun _ => .ok _

theorem Node.failsAs_conditions : ∀ ns : List Node,
    FailsAs (·.isMeaning) (Node.conditions t fields ns)
  | [] => .ok _
  | n :: rest => by
    unfold Node.conditions
    exact (Node.failsAs_condition n).bind fun _ =>
      (Node.failsAs_conditions rest).bind fun _ => .ok _

end

theorem failsAs_conditionOf (filters : Option Clause) :
    FailsAs (·.isMeaning) (conditionOf filters t) := by
  cases filters with
  | none => exact .ok _
  | some c => exact (Node.failsAs_condition c.tree).map _

end Filter

/-! ## Plans -/

namespace Plan

theorem failsAs_assignments (t : Table) (es : List (String × Json)) :
    FailsAs (·.isMeaning) (assignments t es) := by
  induction es with
  | nil => exact .ok _
  | cons e rest ih => exact (t.failsAs_column e.1).bind fun _ => ih.bind fun _ => .ok _

theorem failsAs_sortBy (t : Table) (items : List SortItem) :
    FailsAs (·.isMeaning) (sortBy t items) := by
  induction items with
  | nil => exact .ok _
  | cons i rest ih => exact (t.failsAs_column i.field).bind fun _ => ih.bind fun _ => .ok _

/-- **What has no plan means nothing.** -/
theorem failsAs_ofOperation (caps : Capabilities) (op : Operation) :
    FailsAs (·.isMeaning) (ofOperation caps op) := by
  cases op with
  | inspect i => exact .ok _
  | select s =>
    exact (Filter.failsAs_conditionOf s.filters).bind fun _ =>
      (failsAs_sortBy _ _).bind fun _ => .ok _
  | insert i => exact (failsAs_assignments _ _).bind fun _ => .ok _
  | update u =>
    exact (Filter.failsAs_conditionOf u.filters).bind fun _ =>
      (failsAs_assignments _ _).bind fun _ => .ok _
  | delete d => exact (Filter.failsAs_conditionOf d.filters).bind fun _ => .ok _

end Plan

end SqlBroker
