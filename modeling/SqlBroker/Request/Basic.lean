import SqlBroker.Filter.Tree
import SqlBroker.Text.Blank

/-!
# Requests

A request is a connection and one operation on it. `Envelope.validate` checks what can be checked
before anything else is looked at: a resource that is named, a filter that is not too deep, an
update that sets something.

Models `QueryEnvelope` with `validate`, and `Operation` (SPEC_FULL.md, sections 3 and 12).
-/

namespace SqlBroker

/-- The direction of a sort. -/
inductive SortOrder where
  | asc
  | desc
deriving DecidableEq, Repr

/-- The tag of a direction. -/
def SortOrder.tag : SortOrder → String
  | .asc => "asc"
  | .desc => "desc"

/-- A field to sort by. -/
structure SortItem where
  field : String
  order : SortOrder
deriving DecidableEq, Repr

/-- A page of a result, counted from zero. -/
structure Page where
  size : Nat
  index : Nat
deriving DecidableEq, Repr

/-- Reading rows. -/
structure Select where
  resource : String
  filters : Option Filter.Clause
  sort : Option (List SortItem)
  page : Option Page
deriving Repr

/-- Adding a row. -/
structure Insert where
  resource : String
  writes : Keyed Json
deriving Repr

/-- Changing rows. -/
structure Update where
  resource : String
  filters : Option Filter.Clause
  writes : Keyed Json
deriving Repr

/-- Removing rows. -/
structure Delete where
  resource : String
  filters : Option Filter.Clause
deriving Repr

/-- Asking for the columns of tables, or of every table. -/
structure Inspect where
  tables : Option (List String)
deriving Repr

/-- What a request asks for. -/
inductive Operation where
  | select (s : Select)
  | insert (i : Insert)
  | update (u : Update)
  | delete (d : Delete)
  | inspect (i : Inspect)
deriving Repr

namespace Operation

/-- The tag of an operation. -/
def kind : Operation → String
  | .select _ => "select"
  | .insert _ => "insert"
  | .update _ => "update"
  | .delete _ => "delete"
  | .inspect _ => "inspect"

/-- The resource that an operation works on. -/
def resource? : Operation → Option String
  | .select s => some s.resource
  | .insert i => some i.resource
  | .update u => some u.resource
  | .delete d => some d.resource
  | .inspect _ => none

/-- The filter of an operation. -/
def filters? : Operation → Option Filter.Clause
  | .select s => s.filters
  | .update u => u.filters
  | .delete d => d.filters
  | .insert _ => none
  | .inspect _ => none

/-- The values that an operation writes. -/
def writes? : Operation → Option (Keyed Json)
  | .insert i => some i.writes
  | .update u => some u.writes
  | _ => none

/-- The fields that an operation sorts by. -/
def sortItems : Operation → List SortItem
  | .select s => s.sort.getD []
  | _ => []

end Operation

/-- How to reach a database. -/
structure Connection where
  uri : String
  options : Keyed Json
deriving Repr

/-- A whole request. -/
structure Envelope where
  connection : Connection
  operation : Operation
deriving Repr

namespace Envelope

/-- The resource is more than white space. -/
def checkResource (e : Envelope) : Except Error Unit :=
  match e.operation.resource? with
  | some resource =>
    if Text.isAllBlank resource then .error (.requestShape .emptyResource) else .ok ()
  | none => .ok ()

/-- The filter tree has at most `limit` levels. -/
def checkDepth (limit : Nat) (e : Envelope) : Except Error Unit :=
  match e.operation.filters? with
  | some clause =>
    if limit < clause.tree.depth then .error (.requestShape (.tooDeep clause.tree.depth limit))
    else .ok ()
  | none => .ok ()

/-- An update sets something. -/
def checkWrites (e : Envelope) : Except Error Unit :=
  match e.operation with
  | .update u => if u.writes.isEmpty then .error (.requestShape .noWrites) else .ok ()
  | _ => .ok ()

/-- What can be checked of a request by itself, for filters of at most `limit` levels. -/
def validate (limit : Nat) (e : Envelope) : Except Error Unit := do
  e.checkResource
  e.checkDepth limit
  e.checkWrites

end Envelope

end SqlBroker
