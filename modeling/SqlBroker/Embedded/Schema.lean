import SqlBroker.Catalog
import SqlBroker.Text.Case

/-!
# Schemas of an embedded database

The tables and views of a database, found by their names without regard to the case of letters, and
the rows that describe their columns. The common type names are told in upper case. A column of a
view may always be null and has no default, and one without a type is told to be of bytes.
-/

namespace SqlBroker.Embedded

/-- A column as a table declares it. -/
structure ColumnDecl where
  name : String
  type : String
  notNull : Bool
  default : Option String
deriving DecidableEq, Repr

/-- A table, or a view of all columns of another relation. -/
inductive Relation where
  | table (name : String) (columns : List ColumnDecl)
  | view (name : String) (source : String)
deriving DecidableEq, Repr

namespace Relation

/-- The name of a relation. -/
def name : Relation → String
  | .table name _ => name
  | .view name _ => name

/-- Whether this is a table. -/
def isTable : Relation → Bool
  | .table _ _ => true
  | .view _ _ => false

end Relation

/-- The relations of a database. -/
abbrev Schema := List Relation

/-! ## The database's own tables -/

/-- The names of the tables that describe the schema, and what each is called in messages. -/
def ownTables : List (String × String) :=
  [("sqlite_master", "sqlite_master"), ("sqlite_schema", "sqlite_master"),
   ("sqlite_temp_master", "sqlite_temp_master"), ("sqlite_temp_schema", "sqlite_temp_master")]

/-- What a table that describes the schema is called in messages. -/
def ownTable? (name : String) : Option String := ownTables.lookup (Text.lowerCase name)

/-- The columns of the tables that describe the schema. -/
def ownColumns : List ColumnDecl :=
  [⟨"type", "TEXT", false, none⟩, ⟨"name", "TEXT", false, none⟩, ⟨"tbl_name", "TEXT", false, none⟩,
   ⟨"rootpage", "INT", false, none⟩, ⟨"sql", "TEXT", false, none⟩]

/-! ## Columns -/

/-- The type names that are told in upper case. -/
def commonTypes : List String := ["ANY", "BLOB", "INT", "INTEGER", "REAL", "TEXT"]

/-- A type name as it is told. -/
def shownType (type : String) : String :=
  if Text.upperCase type ∈ commonTypes then Text.upperCase type else type

/-- A column as a table tells it. -/
def ColumnDecl.shown (c : ColumnDecl) : ColumnDecl := { c with type := shownType c.type }

/-- A column as a view tells it. -/
def ColumnDecl.viewed (c : ColumnDecl) : ColumnDecl :=
  ⟨c.name, if c.type = "" then "BLOB" else c.type, false, none⟩

namespace Schema

/-- The relation of a name. -/
def find? (schema : Schema) (name : String) : Option Relation :=
  List.find? (fun r => Text.sameLetters r.name name) schema

/-- The columns of a name, through at most `views` views. -/
def columnsThrough (schema : Schema) : (views : Nat) → String → List ColumnDecl
  | views, name =>
    match schema.find? name with
    | some (.table _ columns) => columns.map ColumnDecl.shown
    | some (.view _ source) =>
      match views with
      | 0 => []
      | views + 1 => (columnsThrough schema views source).map ColumnDecl.viewed
    | none => if (ownTable? name).isSome then ownColumns else []

/-- The columns of a name; there are none where there is no such relation. -/
def columns (schema : Schema) (name : String) : List ColumnDecl :=
  columnsThrough schema schema.length name

/-- Whether a name is kept for the database itself: it starts with the word for its tables, and has
a character after it. -/
def isReserved (name : String) : Bool :=
  "sqlite".toList.isPrefixOf (Text.lowerCase name).toList && 6 < name.length

/-- The names of the tables. -/
def tableNames (schema : Schema) : List String :=
  ((List.filter Relation.isTable schema).map Relation.name).filter (!isReserved ·)

end Schema

/-- The row that describes a column. -/
def ColumnDecl.cells (c : ColumnDecl) : List Cell :=
  [.ofText c.name, .ofText c.type, .int (if c.notNull then 1 else 0),
   c.default.elim .null .ofText]

end SqlBroker.Embedded
