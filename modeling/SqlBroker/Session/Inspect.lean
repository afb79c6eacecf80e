import SqlBroker.Catalog
import SqlBroker.Session.Server

/-!
# Inspection

The columns of tables are asked for one table after the other. A table that is not there, or whose
columns cannot be read, or about which the question fails, has nothing in the catalog, and the next
one is asked about. Only a login that is no longer accepted, or an answer that does not come, ends
the inspection.

Models `list_tables`, `list_columns` and `inspect` (SPEC_FULL.md, sections 4.4 and 13).
-/

namespace SqlBroker.Session

/-- The columns of a table by the rows about them; a table without columns is not there. -/
def columnsOf (b : Backend) (table : String) (rows : List (List Cell)) :
    Except Error (List ColumnInfo) :=
  match rows.mapM (ColumnInfo.ofCells? b) with
  | none => .error (Fault.undecodable.toError b)
  | some [] => .error (.introspection table "table not found")
  | some columns => .ok columns

/-- What the catalog has for a table after the answer about it. An error is kept from the caller,
unless it says that the login is no longer accepted. -/
def tableEntry (b : Backend) (table : String) :
    Reply (List (List Cell)) → Reply (Option (List ColumnInfo))
  | .answer rows => .answer (columnsOf b table rows).toOption
  | .failure f =>
    match f.toError b with
    | .authenticationExpired _ => .failure f
    | _ => .answer none
  | .silence => .silence

/-- Asks about tables in order, each entry going into the catalog. -/
def describe (b : Backend) (server : Server) :
    (asked : List String) → (catalog : Catalog) → List String → Logged (Reply Catalog)
  | _, catalog, [] => .quiet (.answer catalog)
  | asked, catalog, table :: rest =>
    match tableEntry b table (server.columns asked table) with
    | .answer entry =>
      (describe b server (asked ++ [table]) (catalog.put table entry) rest).after
        (.listColumns table)
    | .failure f => ⟨.failure f, [.listColumns table]⟩
    | .silence => ⟨.silence, [.listColumns table]⟩

/-- The names among cells; what is no text is passed over. -/
def namesOf (cells : List Cell) : List String := cells.filterMap Cell.text?

/-- Asks about some tables, or about all that the database names. -/
def inspect (b : Backend) (server : Server) : Option (List String) → Logged (Reply Catalog)
  | some tables => describe b server [] .empty tables
  | none =>
    match server.tables with
    | .answer cells => (describe b server [] .empty (namesOf cells)).after .listTables
    | .failure f => ⟨.failure f, [.listTables]⟩
    | .silence => ⟨.silence, [.listTables]⟩

end SqlBroker.Session
