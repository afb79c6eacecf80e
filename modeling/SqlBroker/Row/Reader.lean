import SqlBroker.Calendar.Instant
import SqlBroker.Calendar.Micros
import SqlBroker.Calendar.Pattern
import SqlBroker.Decimal.Groups
import SqlBroker.Json.Reader
import SqlBroker.Row.Cell
import SqlBroker.Row.Kind
import SqlBroker.Text.Case
import SqlBroker.Value.Basic

/-!
# Rows as JSON

Each cell becomes a JSON value by the kind of its column. Null is null, and so is a cell that cannot
be read: bytes that are no text, numbers that are none or too large, days that there are not. A row
becomes an object with the values under the names of the columns; of several columns with one name
the last counts.

Models `pg_row_to_json`, `mysql_row_to_json` and `sqlite_row_to_json` (SPEC_FULL.md, section 14).
-/

namespace SqlBroker

namespace Cell

open Calendar

/-! ## Numbers -/

/-- The whole number of a cell. -/
def readInteger? : Cell → Option Json
  | .int n => some (.int n)
  | _ => none

/-- The float of a cell; a whole number is the float nearest to it. -/
def float? : Cell → Option Decimal.Binary64
  | .float x => some x
  | .int n => some (.ofInt n)
  | _ => none

/-- A float as JSON, which has no infinities. -/
def finite? (x : Decimal.Binary64) : Option Json := if x.isFinite then some (.float x) else none

/-- The decimal of a cell; Postgres sends it in groups of digits. -/
def readFixed? (b : Backend) (c : Cell) : Option Json := do
  let s ← c.text?
  let d ← match b with
    | .postgres => Decimal.Fixed.readGroups? s
    | _ => Decimal.Fixed.read? s
  return .string d.text

/-- The truth value of a cell; a whole number is true unless it is zero. -/
def readFlag? : Cell → Option Json
  | .bool b => some (.bool b)
  | .int n => some (.bool (n != 0))
  | _ => none

/-! ## Dates and times -/

/-- The date of a cell. -/
def readDate? (c : Cell) : Option Json := do
  let s ← c.text?
  let d ← (readDate s).toOption
  return .string d.text

/-- A time as a backend has it, to the microsecond: Postgres carries a leap second into the next
one, MySQL knows none. -/
def knownClock? (b : Backend) (c : Clock) : Option Clock :=
  match b with
  | .mysql => if c.isLeap then none else some c.inMicros
  | _ => some c.inMicros

/-- A stamp as a backend has it: MySQL keeps the parts of a stamp, Postgres its distance from the
start of the year 2000. -/
def knownStamp? (b : Backend) (s : Stamp) : Option Stamp :=
  match b with
  | .mysql => if s.clock.isLeap then none else some { s with clock := s.clock.inMicros }
  | _ => some s.inMicros

/-- The text of a time without the sign that MySQL may put before it. -/
def unsigned (b : Backend) (s : String) : String :=
  match b, s.toList with
  | .mysql, '-' :: cs => String.ofList cs
  | _, _ => s

/-- The time of day of a text; the end of a day, which Postgres has as well, is the start of one. -/
def clock? (b : Backend) (s : String) : Option Clock := do
  if b = .postgres ∧ s = "24:00:00" then return .midnight
  let t ← (readClock (unsigned b s)).toOption
  knownClock? b t

/-- The time of day of a cell. -/
def readTime? (b : Backend) (c : Cell) : Option Json := do
  let s ← c.text?
  let t ← clock? b s
  return .string t.text

/-- The date and time of a cell. -/
def stamp? (b : Backend) (c : Cell) : Option Stamp := do
  let s ← c.text?
  let t ← (readStamp s).toOption
  knownStamp? b t

/-- The universal time of a cell: Postgres writes its offset, MySQL writes universal time without
one. -/
def instant? (b : Backend) (c : Cell) : Option Stamp :=
  match b with
  | .postgres => do
    let s ← c.text?
    let t ← Calendar.readAnyInstant? s
    knownStamp? b t
  | _ => c.stamp? b

/-! ## Identifiers, JSON and bytes -/

/-- Which characters of a UUID are digits; the others are hyphens. -/
def uuidShape : List Bool :=
  [false].intercalate ([8, 4, 4, 4, 12].map fun n => List.replicate n true)

/-- Whether a text has the shape of a UUID. -/
def isUuid (s : String) : Bool :=
  s.length == uuidShape.length &&
    (s.toList.zip uuidShape).all fun (c, digit) =>
      if digit then (Text.hexValue? c).isSome else c == '-'

/-- The UUID of a cell, in lower case. -/
def readUuid? (c : Cell) : Option Json := do
  let s ← c.text?
  if isUuid s then some (.string (Text.lowerCase s)) else none

/-- The JSON value that a cell writes. -/
def readJson? (c : Cell) : Option Json := do
  let s ← c.text?
  let j ← Json.read? Json.nestingLimit s
  return j.normalize

/-- The bytes of a cell as hexadecimal digits. -/
def readBinary? (c : Cell) : Option Json := c.bytes?.map fun bytes => .string (Text.hexText bytes)

/-- The text of a cell. -/
def readText? (c : Cell) : Option Json := c.text?.map .string

/-- A cell as what it is stored as. -/
def readStored? : Cell → Option Json
  | .null => none
  | .bool b => some (.bool b)
  | .int n => some (.int n)
  | .float x => finite? x
  | .text bytes => (Text.decode? bytes).map .string
  | .blob bytes => some (.string (Text.hexText bytes))

/-! ## Cells and rows -/

/-- A cell as JSON, if it can be read as what its column holds. -/
def read? (b : Backend) (kind : ColumnKind) (c : Cell) : Option Json :=
  match kind with
  | .integer => c.readInteger?
  | .single => c.float? >>= fun x => finite? x.narrowed
  | .double => c.float? >>= finite?
  | .fixed => c.readFixed? b
  | .flag => c.readFlag?
  | .date => c.readDate?
  | .time => c.readTime? b
  | .stamp => (c.stamp? b).map fun s => .string s.text
  | .instant => (c.instant? b).map fun s => .string s.universalText
  | .uuid => c.readUuid?
  | .json => c.readJson?
  | .binary => c.readBinary?
  | .text => c.readText?
  | .stored => c.readStored?
  | .other => none

/-- A cell as JSON; null where it cannot be read. -/
def toJson (b : Backend) (kind : ColumnKind) (c : Cell) : Json := (c.read? b kind).getD .null

end Cell

/-- A column of a result. -/
structure Column where
  name : String
  type : String
deriving DecidableEq, Repr

/-- The columns of a result and its rows, in the order in which the database sends them. -/
structure ResultSet where
  columns : List Column
  rows : List (List Cell)
deriving DecidableEq, Repr

namespace ResultSet

/-- One row as values under the names of the columns. -/
def rowOf (b : Backend) (columns : List Column) (cells : List Cell) : Keyed Json :=
  .ofList ((columns.zip cells).map fun (column, cell) =>
    (column.name, cell.toJson b (.ofType b column.type)))

/-- The rows as values under the names of the columns. -/
def objects (b : Backend) (r : ResultSet) : List (Keyed Json) := r.rows.map (rowOf b r.columns)

end ResultSet

end SqlBroker
