import SqlBroker.Backend.Capabilities
import SqlBroker.Filter.Condition
import SqlBroker.Sql.Statement

/-!
# Plans

What is to be done for an operation: one statement, or an inspection. Every column of the statement
is one that the request mentions.

Models `plan` (SPEC_FULL.md, section 4.4).
-/

namespace SqlBroker

/-- What is to be done for an operation. -/
inductive Plan where
  | statement (s : Sql.Statement)
  | inspect (tables : Option (List String))
deriving Repr

namespace Plan

open Sql

/-- The entries of a map as assignments to columns of a table. -/
def assignments (t : Table) : List (String × Json) → Except Error (List Assignment)
  | [] => .ok []
  | (k, j) :: rest => do
    let column ← t.column k
    let later ← assignments t rest
    return ⟨column, .ofJson j⟩ :: later

/-- Sort items as columns of a table. -/
def sortBy (t : Table) : List SortItem → Except Error (List SortItem)
  | [] => .ok []
  | i :: rest => do
    let column ← t.column i.field
    let later ← sortBy t rest
    return ⟨column, i.order⟩ :: later

/-- The window of a page where the backend can take one. -/
def windowOf (caps : Capabilities) (page : Option Page) : Option Window :=
  if caps.pagination then page.map .ofPage else none

/-- The plan of an operation. -/
def ofOperation (caps : Capabilities) (op : Operation) : Except Error Plan :=
  match op with
  | .inspect i => .ok (.inspect i.tables)
  | .select s => do
    let t := Table.ofOperation op
    let condition ← Filter.conditionOf s.filters t
    let sort ← sortBy t (s.sort.getD [])
    return .statement (.select t.name condition sort (windowOf caps s.page))
  | .insert i => do
    let t := Table.ofOperation op
    let writes ← assignments t i.writes.entries
    return .statement (.insert t.name writes caps.returning)
  | .update u => do
    let t := Table.ofOperation op
    let condition ← Filter.conditionOf u.filters t
    let writes ← assignments t u.writes.entries
    return .statement (.update t.name writes condition caps.returning)
  | .delete d => do
    let t := Table.ofOperation op
    let condition ← Filter.conditionOf d.filters t
    return .statement (.delete t.name condition caps.returning)

end Plan

end SqlBroker
