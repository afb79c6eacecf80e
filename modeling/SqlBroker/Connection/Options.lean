import SqlBroker.Error
import SqlBroker.Request.Basic
import SqlBroker.Value.Basic

/-!
# Connection options

The settings that a request may give for its connection. Each backend knows some keys, each key a
kind of value. Keys are taken in ascending order and the first that does not fit is the error.

Models `ConnectionOptions::parse` with `option_str`, `option_bool` and `option_secs` (SPEC_FULL.md,
section 11).
-/

namespace SqlBroker

/-- The settings of a connection. -/
structure ConnectionOptions where
  statementTimeout : Option Duration
  applicationName : Option String
  sslMode : Option String
  charset : Option String
  statementCacheCapacity : Option Nat
  readOnly : Option Bool
  createIfMissing : Option Bool
  busyTimeout : Option Duration
deriving DecidableEq, Repr

namespace ConnectionOptions

/-- No setting given. -/
def none : ConnectionOptions := ⟨.none, .none, .none, .none, .none, .none, .none, .none⟩

/-- A setting that some backends know. -/
inductive Key where
  | statementTimeout
  | applicationName
  | sslMode
  | charset
  | statementCacheCapacity
  | readOnly
  | createIfMissing
  | busyTimeout
deriving DecidableEq, Repr

namespace Key

/-- The name of a setting. -/
def name : Key → String
  | .statementTimeout => "statement_timeout_secs"
  | .applicationName => "application_name"
  | .sslMode => "ssl_mode"
  | .charset => "charset"
  | .statementCacheCapacity => "statement_cache_capacity"
  | .readOnly => "read_only"
  | .createIfMissing => "create_if_missing"
  | .busyTimeout => "busy_timeout_secs"

/-- The settings that a backend knows. -/
def known : Backend → List Key
  | .postgres => [.statementTimeout, .statementCacheCapacity, .applicationName, .sslMode]
  | .mysql => [.statementTimeout, .statementCacheCapacity, .sslMode, .charset]
  | .sqlite =>
    [.statementTimeout, .statementCacheCapacity, .readOnly, .createIfMissing, .busyTimeout]

/-- The setting of a name, where the backend knows it. -/
def ofName? (b : Backend) (name : String) : Option Key := (known b).find? (·.name = name)

end Key

/-! ## Values of settings -/

/-- The error of a value of the wrong kind. -/
def mistyped {α : Type} (key : Key) (kind : OptionKind) : Except Error α :=
  .error (.requestShape (.mistypedOption key.name kind))

/-- A length of time, given as a number of seconds. -/
def secondsOf (key : Key) (j : Json) : Except Error Duration :=
  match j with
  | .number n =>
    match Duration.ofSeconds? n.toFloat with
    | some d => .ok d
    | .none => mistyped key .seconds
  | _ => mistyped key .seconds

/-- An unsigned whole number. -/
def countOf (key : Key) (j : Json) : Except Error Nat :=
  match j with
  | .number (.integer n) => if 0 ≤ n then .ok n.toNat else mistyped key .count
  | _ => mistyped key .count

/-- A text. -/
def textOf (key : Key) (j : Json) : Except Error String :=
  match j with
  | .string s => .ok s
  | _ => mistyped key .text

/-- A truth value. -/
def flagOf (key : Key) (j : Json) : Except Error Bool :=
  match j with
  | .bool b => .ok b
  | _ => mistyped key .flag

/-- The settings with one of them set. -/
def set (o : ConnectionOptions) (key : Key) (j : Json) : Except Error ConnectionOptions :=
  match key with
  | .statementTimeout => do return { o with statementTimeout := some (← secondsOf key j) }
  | .applicationName => do return { o with applicationName := some (← textOf key j) }
  | .sslMode => do return { o with sslMode := some (← textOf key j) }
  | .charset => do return { o with charset := some (← textOf key j) }
  | .statementCacheCapacity => do return { o with statementCacheCapacity := some (← countOf key j) }
  | .readOnly => do return { o with readOnly := some (← flagOf key j) }
  | .createIfMissing => do return { o with createIfMissing := some (← flagOf key j) }
  | .busyTimeout => do return { o with busyTimeout := some (← secondsOf key j) }

/-- The settings with one entry taken. -/
def takeEntry (b : Backend) (o : ConnectionOptions) (name : String) (j : Json) :
    Except Error ConnectionOptions :=
  match Key.ofName? b name with
  | some key => o.set key j
  | .none => .error (.requestShape (.foreignOption name b))

/-- The settings with entries taken one after the other. -/
def takeEntries (b : Backend) : ConnectionOptions → List (String × Json) →
    Except Error ConnectionOptions
  | o, [] => .ok o
  | o, (name, j) :: rest => do
    let o ← takeEntry b o name j
    takeEntries b o rest

/-- The settings of a backend from a map. -/
def ofMap (b : Backend) (m : Keyed Json) : Except Error ConnectionOptions :=
  takeEntries b none m.entries

end ConnectionOptions

end SqlBroker
