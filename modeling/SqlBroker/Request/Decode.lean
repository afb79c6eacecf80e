import SqlBroker.Filter.Decode
import SqlBroker.Request.Basic

/-!
# Decoding requests

The JSON forms of requests. An operation names its kind under `op`; keys that belong to another kind
are passed over.

Models `QueryEnvelope` and `Operation` as they are written (SPEC_FULL.md, section 6).
-/

namespace SqlBroker.Request

open SqlBroker.Decode SqlBroker.Filter

/-- The direction of a sort by its tag. -/
def decodeOrder : Decoder SortOrder := choice [("asc", .asc), ("desc", .desc)]

/-- A field to sort by. -/
def decodeSortItem : Decoder SortItem :=
  record "struct SortItem"
    (.cons (needed "field" string) <|
     .cons (needed "order" decodeOrder) .nil)
    fun (field, order, ()) => ⟨field, order⟩

/-- A page of a result. -/
def decodePage : Decoder Page :=
  record "struct Pagination"
    (.cons (needed "pageSize" word) <|
     .cons (needed "pageIndex" word) .nil)
    fun (size, index, ()) => ⟨size, index⟩

/-- Reading rows. -/
def decodeSelect : Decoder Operation :=
  record "struct SelectOp"
    (.cons (needed "resource" string) <|
     .cons (possible "filters" decodeClause) <|
     .cons (possible "sort" (list decodeSortItem)) <|
     .cons (possible "pagination" decodePage) .nil)
    fun (resource, filters, sort, page, ()) => .select ⟨resource, filters, sort, page⟩

/-- Adding a row. -/
def decodeInsert : Decoder Operation :=
  record "struct InsertOp"
    (.cons (needed "resource" string) <|
     .cons (needed "writes" (keyed json)) .nil)
    fun (resource, writes, ()) => .insert ⟨resource, writes⟩

/-- Changing rows. -/
def decodeUpdate : Decoder Operation :=
  record "struct UpdateOp"
    (.cons (needed "resource" string) <|
     .cons (possible "filters" decodeClause) <|
     .cons (needed "writes" (keyed json)) .nil)
    fun (resource, filters, writes, ()) => .update ⟨resource, filters, writes⟩

/-- Removing rows. -/
def decodeDelete : Decoder Operation :=
  record "struct DeleteOp"
    (.cons (needed "resource" string) <|
     .cons (possible "filters" decodeClause) .nil)
    fun (resource, filters, ()) => .delete ⟨resource, filters⟩

/-- Asking for columns. -/
def decodeInspect : Decoder Operation :=
  record "struct InspectOp" (.cons (possible "inspectTables" (list string)) .nil)
    fun (tables, ()) => .inspect ⟨tables⟩

/-- An operation. -/
def decodeOperation : Decoder Operation :=
  tagged "internally tagged enum Operation" "op"
    [("select", decodeSelect), ("insert", decodeInsert), ("update", decodeUpdate),
     ("delete", decodeDelete), ("inspect", decodeInspect)]

/-- How to reach a database. -/
def decodeConnection : Decoder Connection :=
  record "struct ConnectionDescriptor"
    (.cons (needed "uri" string) <|
     .cons (defaulted "options" (keyed json) .empty) .nil)
    fun (uri, options, ()) => ⟨uri, options⟩

/-- A whole request. -/
def decodeEnvelope : Decoder Envelope :=
  record "struct QueryEnvelope"
    (.cons (needed "connectionDescriptor" decodeConnection) <|
     .cons (needed "operation" decodeOperation) .nil)
    fun (connection, operation, ()) => ⟨connection, operation⟩

end SqlBroker.Request
