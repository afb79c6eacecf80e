import SqlBroker.Calendar.Micros
import SqlBroker.Row.Cell
import SqlBroker.Session.Fault
import SqlBroker.Value.Basic

/-!
# Values as they are sent

Each value of a placeholder goes to the database as a cell of one of its types. Postgres and MySQL
take times to the microsecond; SQLite takes dates and times as their texts. MySQL writes years with
four or five digits and no sign, and a date of any other year has no form in which it could be sent.

Models `bind_params` (SPEC_FULL.md, section 11).
-/

namespace SqlBroker.Session

/-- A value as it is sent: a cell, and the type that the database is told for it. -/
structure Param where
  type : String
  value : Cell
deriving DecidableEq, Repr

namespace Param

/-! ## The forms of MySQL -/

/-- The largest year that MySQL can be sent. -/
def yearMax : Int := 65535

/-- A date as MySQL writes it. -/
def plainDate (d : Calendar.Date) : List Char :=
  Text.padded 4 d.year.toNat ++ '-' :: Text.padded 2 d.month ++ '-' :: Text.padded 2 d.day

/-- A time as MySQL writes it: six places of the second, or none if they are zero. -/
def plainClock (c : Calendar.Clock) : List Char :=
  Text.padded 2 c.hour ++ ':' :: Text.padded 2 c.minute ++ ':' :: Text.padded 2 c.second ++
    if c.micro = 0 then [] else '.' :: Text.padded 6 c.micro

/-- A date and time as MySQL writes them. -/
def plainStamp (s : Calendar.Stamp) : List Char :=
  plainDate s.date ++ ' ' :: plainClock s.clock

/-- The cell of a text that has a date in it; the value is argument number `argument`. -/
def dated (argument : Nat) (d : Calendar.Date) (type : String) (cs : List Char) :
    Except Fault Param :=
  if 0 ≤ d.year ∧ d.year ≤ yearMax then .ok ⟨type, .ofText (String.ofList cs)⟩
  else .error (.unsendable argument d.text)

/-! ## Values -/

/-- A value as Postgres is sent it. -/
def forPostgres : Value → Param
  | .null => ⟨"TEXT", .null⟩
  | .bool b => ⟨"BOOL", .bool b⟩
  | .int n => ⟨"INT8", .int n⟩
  | .float x => ⟨"FLOAT8", .float x⟩
  | .text s => ⟨"TEXT", .ofText s⟩
  | .date d => ⟨"DATE", .ofText d.text⟩
  | .time c => ⟨"TIME", .ofText c.inMicros.text⟩
  | .stamp s => ⟨"TIMESTAMP", .ofText s.inMicros.text⟩
  | .instant s => ⟨"TIMESTAMPTZ", .ofText s.inMicros.universalText⟩
  | .json j => ⟨"JSONB", .ofText j.text⟩

/-- A value as MySQL is sent it, as argument number `argument`. -/
def forMysql (argument : Nat) : Value → Except Fault Param
  | .null => .ok ⟨"VARCHAR", .null⟩
  | .bool b => .ok ⟨"TINYINT", .int (if b then 1 else 0)⟩
  | .int n => .ok ⟨"BIGINT", .int n⟩
  | .float x => .ok ⟨"DOUBLE", .float x⟩
  | .text s => .ok ⟨"VARCHAR", .ofText s⟩
  | .date d => dated argument d "DATE" (plainDate d)
  | .time c => .ok ⟨"TIME", .ofText (String.ofList (plainClock c))⟩
  | .stamp s => dated argument s.date "DATETIME" (plainStamp s)
  | .instant s => dated argument s.date "TIMESTAMP" (plainStamp s)
  | .json j => .ok ⟨"CHAR", .ofText j.text⟩

/-- A value as SQLite is sent it. -/
def forSqlite : Value → Param
  | .null => ⟨"NULL", .null⟩
  | .bool b => ⟨"INTEGER", .int (if b then 1 else 0)⟩
  | .int n => ⟨"INTEGER", .int n⟩
  | .float x => ⟨"REAL", .float x⟩
  | .text s => ⟨"TEXT", .ofText s⟩
  | .date d => ⟨"TEXT", .ofText d.text⟩
  | .time c => ⟨"TEXT", .ofText c.text⟩
  | .stamp s => ⟨"TEXT", .ofText s.text⟩
  | .instant s => ⟨"TEXT", .ofText s.universalText⟩
  | .json j => ⟨"TEXT", .ofText j.text⟩

/-- A value as a backend is sent it, as argument number `argument`. -/
def ofValue (b : Backend) (argument : Nat) (v : Value) : Except Fault Param :=
  match b with
  | .postgres => .ok (forPostgres v)
  | .mysql => forMysql argument v
  | .sqlite => .ok (forSqlite v)

/-- Values as a backend is sent them, the first of them as argument number `argument`. -/
def ofValues (b : Backend) : (argument : Nat) → List Value → Except Fault (List Param)
  | _, [] => .ok []
  | argument, v :: rest => do
    let p ← ofValue b argument v
    let ps ← ofValues b (argument + 1) rest
    return p :: ps

end Param

end SqlBroker.Session
