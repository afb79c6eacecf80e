import SqlBroker.Backend.Basic

/-!
# Kinds of columns

What the name of a column's type says about its cells. Postgres and MySQL name types of their own; a
name that is not in their list is of a kind that is not read. SQLite gives columns no type: there
every cell tells for itself what it is.

Models the cases of `pg_row_to_json` and `mysql_row_to_json` (SPEC_FULL.md, section 14).
-/

namespace SqlBroker

/-- A kind of column. -/
inductive ColumnKind where
  | integer
  /-- Floats of 32 bits. -/
  | single
  /-- Floats of 64 bits. -/
  | double
  | fixed
  | flag
  | date
  | time
  | stamp
  | instant
  | uuid
  | json
  | binary
  | text
  /-- What each cell is. -/
  | stored
  /-- Nothing that is read. -/
  | other
deriving DecidableEq, Repr

namespace ColumnKind

/-- The types of Postgres that are read. -/
def postgresTypes : List (String × ColumnKind) :=
  [("INT2", .integer), ("INT4", .integer), ("INT8", .integer), ("FLOAT4", .single),
   ("FLOAT8", .double), ("NUMERIC", .fixed), ("BOOL", .flag), ("DATE", .date), ("TIME", .time),
   ("TIMESTAMP", .stamp), ("TIMESTAMPTZ", .instant), ("UUID", .uuid), ("JSON", .json),
   ("JSONB", .json), ("BYTEA", .binary), ("TEXT", .text), ("VARCHAR", .text), ("CHAR", .text),
   ("NAME", .text), ("UNKNOWN", .text)]

/-- The types of MySQL that are read, without the unsigned ones. -/
def mysqlTypes : List (String × ColumnKind) :=
  [("BOOLEAN", .flag), ("TINYINT", .integer), ("SMALLINT", .integer), ("MEDIUMINT", .integer),
   ("INT", .integer), ("BIGINT", .integer), ("FLOAT", .single), ("DOUBLE", .double),
   ("DECIMAL", .fixed), ("DATE", .date), ("TIME", .time), ("DATETIME", .stamp),
   ("TIMESTAMP", .instant), ("JSON", .json), ("BINARY", .binary), ("VARBINARY", .binary),
   ("TINYBLOB", .binary), ("BLOB", .binary), ("MEDIUMBLOB", .binary), ("LONGBLOB", .binary),
   ("CHAR", .text), ("VARCHAR", .text), ("TINYTEXT", .text), ("TEXT", .text),
   ("MEDIUMTEXT", .text), ("LONGTEXT", .text), ("ENUM", .text)]

/-- Whether the name of a type ends with the word for numbers without a sign. -/
def isUnsigned (type : String) : Bool := "UNSIGNED".toList.isSuffixOf type.toList

/-- The kind of the columns of a type. -/
def ofType (b : Backend) (type : String) : ColumnKind :=
  match b with
  | .postgres => (postgresTypes.lookup type).getD .other
  | .mysql => if isUnsigned type then .integer else (mysqlTypes.lookup type).getD .other
  | .sqlite => .stored

end ColumnKind

end SqlBroker
