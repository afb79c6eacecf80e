import SqlBroker.Backend.Basic
import SqlBroker.Json.Basic
import SqlBroker.Row.Cell

/-!
# Catalogs

What an inspection tells about tables: for each its columns, or nothing where they could not be
found out. A database describes a column by four cells: name, type, whether it may be null, and the
default. One column that cannot be read spoils the table.

Models `ColumnInfo` and the rows that `list_columns` reads (SPEC_FULL.md, section 13).
-/

namespace SqlBroker

/-- A column as the catalog describes it. -/
structure ColumnInfo where
  name : String
  type : String
  nullable : Bool
  default : Option String
deriving DecidableEq, Repr

/-- The columns of tables; of some tables it is not known. -/
abbrev Catalog := Keyed (Option (List ColumnInfo))

namespace ColumnInfo

/-- A text that may be null. -/
def textOrNull? : Cell → Option (Option String)
  | .null => some none
  | c => c.text?.map some

/-- Whether a column may be null: SQLite tells by a number whether it may not, the others say it by
a word. -/
def nullable? (b : Backend) (c : Cell) : Option Bool :=
  match b, c with
  | .sqlite, .int n => some (n == 0)
  | .sqlite, _ => none
  | _, c => c.text?.map (· == "YES")

/-- The column that four cells describe. -/
def ofCells? (b : Backend) : List Cell → Option ColumnInfo
  | [name, type, nullable, default] => do
    let name ← name.text?
    let type ← type.text?
    let nullable ← nullable? b nullable
    let default ← textOrNull? default
    return ⟨name, type, nullable, default⟩
  | _ => none

/-- The column as JSON. -/
def toJson (c : ColumnInfo) : Json :=
  .object
    [("default", .ofText? c.default), ("name", .string c.name), ("nullable", .bool c.nullable),
     ("type", .string c.type)]

end ColumnInfo

/-- The catalog as JSON; a table of which nothing is known is null. -/
def Catalog.toJson (c : Catalog) : Json :=
  .ofKeyed (c.map fun columns => columns.elim .null fun cs => .array (cs.map ColumnInfo.toJson))

end SqlBroker
