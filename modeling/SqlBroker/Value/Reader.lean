import SqlBroker.Calendar.Instant
import SqlBroker.Calendar.Pattern
import SqlBroker.Value.Basic
import SqlBroker.Value.Type

/-!
# Reading values by their declared type

`Value.read` reads a JSON value as its declared type says. Null is null whatever the type; dates and
times are read from their text; trees have no value; all other types take the value as it is.

Models `parse` with `parse_time`, `parse_datetime`, `expect_str` and `format_error` (SPEC_FULL.md,
section 4.1).
-/

namespace SqlBroker.Value

/-- Why a value that should be a date or time is none. -/
inductive Fault where
  | noText
  | text (fault : Calendar.Fault)
deriving DecidableEq, Repr

/-- The fault in words. -/
def Fault.message : Fault → String
  | .noText => "expected an ISO-8601 string"
  | .text fault => fault.message

/-- Reads a date and time: an instant becomes universal time, everything else is local. -/
def readMoment (s : String) : Except Calendar.Fault Value :=
  match Calendar.readInstant? s with
  | some x => .ok (.instant x)
  | none => (Calendar.readStamp s).map .stamp

/-- Reads the text of a value; where there is none, or it does not read, the error names the
type. -/
def ofText (type : ValueType) (read : String → Except Calendar.Fault Value) (j : Json) :
    Except Error Value :=
  let refuse (fault : Fault) : Error := .valueFormat type.tag j.text fault.message
  match j with
  | .string s => (read s).mapError fun fault => refuse (.text fault)
  | _ => .error (refuse .noText)

/-- Reads a value that is not null by its declared type. -/
def readAs (type : ValueType) (j : Json) : Except Error Value :=
  match type with
  | .treeselect => .error (.unsupportedValueType type.tag)
  | .treemultiselect => .error (.unsupportedValueType type.tag)
  | .date => ofText type (fun s => (Calendar.readDate s).map .date) j
  | .time => ofText type (fun s => (Calendar.readClock s).map .time) j
  | .datetime => ofText type readMoment j
  | .datetimeCustom => ofText type readMoment j
  | _ => .ok (ofJson j)

/-- Reads a value by its declared type, if it has one. -/
def read (type : Option ValueType) (j : Json) : Except Error Value :=
  match j, type with
  | .null, _ => .ok .null
  | j, none => .ok (ofJson j)
  | j, some type => readAs type j

end SqlBroker.Value
