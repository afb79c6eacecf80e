import Mathlib.Algebra.Group.Nat.Defs
import SqlBroker.Plan
import SqlBroker.Proofs.Filter.Condition
import SqlBroker.Proofs.Keyed

/-!
# What a plan is made of

A plan that succeeds is the statement that the operation asks for, part by part: its own resource,
the entries of its map of values, its own sort and the window of its page. Only the condition comes
from elsewhere, the filter.

Headlines:
* **`ofOperation_eq_ok`**: a plan of anything but an inspection is the statement that the operation
  asks for (`Operation.statement?`), with the condition of its filter.
* **`ofOperation_of_condition`**: only the filter can stand in the way of a plan, as the columns
  that are written and sorted by are there by being mentioned.
* **`ofOperation_eq_error_iff`**: what has no plan fails as its filter does.
-/

namespace SqlBroker

open Sql

namespace Operation

/-- The window of a page where the backend can take one. It passes over the rows of the pages
before, or over as many as a number of 64 bits can say. -/
def window? (caps : Capabilities) (page : Option Page) : Option Window :=
  if caps.pagination then page.map fun p => ⟨p.size, min (p.index * p.size) (2 ^ 64 - 1)⟩ else none

/-- The entries of a map as assignments, in the order of their keys. -/
def assigned (writes : Keyed Json) : List Assignment :=
  writes.entries.map fun e => ⟨e.1, .ofJson e.2⟩

/-- The statement that an operation asks for, with a condition for its filter. -/
def statement? (caps : Capabilities) (condition : Predicate) : Operation → Option Statement
  | .select s => some (.select s.resource condition (s.sort.getD []) (window? caps s.page))
  | .insert i => some (.insert i.resource (assigned i.writes) caps.returning)
  | .update u => some (.update u.resource (assigned u.writes) condition caps.returning)
  | .delete d => some (.delete d.resource condition caps.returning)
  | .inspect _ => none

end Operation

namespace Plan

/-! ## From plans to requests -/

theorem eq_of_assignments {t : Table} : ∀ {es : List (String × Json)} {as : List Assignment},
    assignments t es = .ok as → as = es.map fun e => ⟨e.1, .ofJson e.2⟩
  | [], _, h => (Except.ok.inj h).symm
  | (k, j) :: rest, as, h => by
    obtain ⟨column, hc, h⟩ := bind_eq_ok_iff.mp h
    obtain ⟨later, hl, h⟩ := bind_eq_ok_iff.mp h
    rw [← Except.ok.inj h, (Table.column_eq_ok hc).1, eq_of_assignments hl]
    rfl

theorem eq_of_sortBy {t : Table} : ∀ {items out : List SortItem}, sortBy t items = .ok out →
    out = items
  | [], _, h => (Except.ok.inj h).symm
  | i :: rest, out, h => by
    obtain ⟨column, hc, h⟩ := bind_eq_ok_iff.mp h
    obtain ⟨later, hl, h⟩ := bind_eq_ok_iff.mp h
    rw [← Except.ok.inj h, (Table.column_eq_ok hc).1, eq_of_sortBy hl]

theorem windowOf_eq (caps : Capabilities) (page : Option Page) :
    windowOf caps page = Operation.window? caps page := rfl

/-- **A plan of an operation on rows** is the statement that it asks for, with the condition of its
filter. -/
theorem ofOperation_eq_ok {caps : Capabilities} {op : Operation} {plan : Plan}
    (h : ofOperation caps op = .ok plan) (hi : ∀ i, op ≠ .inspect i) :
    ∃ p s, Filter.conditionOf op.filters? (Table.ofOperation op) = .ok p ∧
      op.statement? caps p = some s ∧ plan = .statement s := by
  cases op with
  | inspect i => exact absurd rfl (hi i)
  | select s =>
    obtain ⟨p, hp, h⟩ := bind_eq_ok_iff.mp h
    obtain ⟨sort, hs, h⟩ := bind_eq_ok_iff.mp h
    refine ⟨p, _, hp, rfl, ?_⟩
    rw [← Except.ok.inj h, eq_of_sortBy hs, windowOf_eq]
    rfl
  | insert i =>
    obtain ⟨writes, hw, h⟩ := bind_eq_ok_iff.mp h
    refine ⟨.always, _, rfl, rfl, ?_⟩
    rw [← Except.ok.inj h, eq_of_assignments hw]
    rfl
  | update u =>
    obtain ⟨p, hp, h⟩ := bind_eq_ok_iff.mp h
    obtain ⟨writes, hw, h⟩ := bind_eq_ok_iff.mp h
    refine ⟨p, _, hp, rfl, ?_⟩
    rw [← Except.ok.inj h, eq_of_assignments hw]
    rfl
  | delete d =>
    obtain ⟨p, hp, h⟩ := bind_eq_ok_iff.mp h
    refine ⟨p, _, hp, rfl, ?_⟩
    rw [← Except.ok.inj h]
    rfl

/-- A planned statement is the one that its operation asks for. -/
theorem statement?_of_planned {caps : Capabilities} {op : Operation} {s : Sql.Statement}
    (h : ofOperation caps op = .ok (.statement s)) :
    ∃ p, Filter.conditionOf op.filters? (Table.ofOperation op) = .ok p ∧
      op.statement? caps p = some s := by
  have rows : ∀ i, op ≠ .inspect i := by
    rintro i rfl
    exact absurd (Except.ok.inj h) (by simp)
  obtain ⟨p, s', condition, asked, same⟩ := ofOperation_eq_ok h rows
  obtain rfl := Plan.statement.inj same
  exact ⟨p, condition, asked⟩

/-! ## From requests to plans -/

theorem assignments_of_columns {t : Table} : ∀ {es : List (String × Json)},
    (∀ e ∈ es, t.column e.1 = .ok e.1) →
      assignments t es = .ok (es.map fun e => ⟨e.1, .ofJson e.2⟩)
  | [], _ => rfl
  | e :: rest, h => by
    obtain ⟨first, later⟩ := List.forall_mem_cons.mp h
    rw [assignments, first, assignments_of_columns later]
    rfl

theorem sortBy_of_columns {t : Table} : ∀ {items : List SortItem},
    (∀ i ∈ items, t.column i.field = .ok i.field) → sortBy t items = .ok items
  | [], _ => rfl
  | i :: rest, h => by
    obtain ⟨first, later⟩ := List.forall_mem_cons.mp h
    rw [sortBy, first, sortBy_of_columns later]
    rfl

/-- What an operation writes goes into columns of its table. -/
theorem assignments_ofOperation {op : Operation} {writes : Keyed Json}
    (h : op.writes? = some writes) :
    assignments (Table.ofOperation op) writes.entries = .ok (Operation.assigned writes) := by
  refine assignments_of_columns fun e he => ?_
  have mentioned : e.1 ∈ Table.mentioned op := by
    rw [Table.mentioned, h]
    exact List.mem_append_left _ (List.mem_append_right _ (List.mem_map_of_mem he))
  rw [Table.column_ofOperation, if_pos mentioned]

/-- What an operation sorts by are columns of its table. -/
theorem sortBy_ofOperation (op : Operation) :
    sortBy (Table.ofOperation op) op.sortItems = .ok op.sortItems := by
  refine sortBy_of_columns fun i hi => ?_
  have mentioned : i.field ∈ Table.mentioned op :=
    List.mem_append_right _ (List.mem_map_of_mem hi)
  rw [Table.column_ofOperation, if_pos mentioned]

/-- **An operation whose filter is understood has a plan.** -/
theorem ofOperation_of_condition {caps : Capabilities} {op : Operation} {p : Predicate}
    {s : Statement} (hp : Filter.conditionOf op.filters? (Table.ofOperation op) = .ok p)
    (hs : op.statement? caps p = some s) : ofOperation caps op = .ok (.statement s) := by
  cases op with
  | inspect i => exact nomatch hs
  | select x =>
    obtain rfl := Option.some.inj hs
    rw [ofOperation]
    exact bind_eq_ok_iff.mpr ⟨p, hp, bind_eq_ok_iff.mpr ⟨_, sortBy_ofOperation (.select x), rfl⟩⟩
  | insert i =>
    obtain rfl := Option.some.inj hs
    exact bind_eq_ok_iff.mpr ⟨_, assignments_ofOperation rfl, rfl⟩
  | update u =>
    obtain rfl := Option.some.inj hs
    exact bind_eq_ok_iff.mpr ⟨p, hp, bind_eq_ok_iff.mpr ⟨_, assignments_ofOperation rfl, rfl⟩⟩
  | delete d =>
    obtain rfl := Option.some.inj hs
    exact bind_eq_ok_iff.mpr ⟨p, hp, rfl⟩

/-- **Only the filter of an operation can stand in the way of its plan.** -/
theorem ofOperation_eq_error_iff {caps : Capabilities} {op : Operation} {e : Error} :
    ofOperation caps op = .error e ↔
      Filter.conditionOf op.filters? (Table.ofOperation op) = .error e := by
  cases condition : Filter.conditionOf op.filters? (Table.ofOperation op) with
  | ok p =>
    refine iff_of_false (fun failed => ?_) (fun h => nomatch h)
    cases hs : op.statement? caps p with
    | some s =>
      rw [ofOperation_of_condition condition hs] at failed
      exact nomatch failed
    | none =>
      cases op with
      | inspect i => exact nomatch failed
      | _ => exact nomatch hs
  | error e' =>
    have fails : ofOperation caps op = .error e' := by
      cases op with
      | select s => exact bind_eq_error_iff.mpr (.inl condition)
      | update u => exact bind_eq_error_iff.mpr (.inl condition)
      | delete d => exact bind_eq_error_iff.mpr (.inl condition)
      | insert i => exact nomatch condition
      | inspect i => exact nomatch condition
    rw [fails, Except.error.injEq, Except.error.injEq]

end Plan

end SqlBroker
