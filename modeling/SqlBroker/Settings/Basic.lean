import SqlBroker.Duration
import SqlBroker.Settings.SocketAddress

/-!
# Settings

What the operator of the service can set, each by a variable of the environment. A variable that is
not set leaves its default; the first that cannot be read, in the order below, is the fault.

Models `AppConfig` with `from_env` (SPEC_FULL.md, section 10.3).
-/

namespace SqlBroker

-- Here `^` is the power of natural numbers, whatever instances are imported beside it.
attribute [local instance (2000)] instPowNat

open Settings

/-- The settings of the service. -/
structure Settings where
  address : SocketAddress
  /-- How many levels a filter tree may have. -/
  maxFilterDepth : Nat
  /-- How long connecting and running may each take. -/
  statementTimeout : Duration
deriving Repr

namespace Settings

/-- The settings where no variable is set. -/
def standard : Settings := ⟨.v4 [0, 0, 0, 0] 3000, 32, .ofSeconds 30⟩

/-- A variable of the environment. -/
inductive Variable where
  | address
  | maxFilterDepth
  | statementTimeout
deriving DecidableEq, Repr

/-- The name of a variable. -/
def Variable.name : Variable → String
  | .address => "QUERY_GATEWAY_ADDR"
  | .maxFilterDepth => "QUERY_MAX_FILTER_DEPTH"
  | .statementTimeout => "QUERY_STATEMENT_TIMEOUT_SECS"

/-- Why the value of a variable cannot be read. -/
inductive Cause where
  | noAddress
  | noNumber (fault : Text.NumberFault)
deriving DecidableEq, Repr

/-- The cause in words. -/
def Cause.message : Cause → String
  | .noAddress => "invalid socket address syntax"
  | .noNumber fault => fault.message

/-- What the value of a variable should be. -/
def Cause.expected : Cause → String
  | .noAddress => "a socket address"
  | .noNumber _ => "a number"

/-- A variable whose value cannot be read. -/
structure Fault where
  setting : Variable
  value : String
  cause : Cause
deriving DecidableEq, Repr

/-- The fault in words. -/
def Fault.message (f : Fault) : String :=
  s!"{f.setting.name} is not {f.cause.expected}: {f.value}"

/-- The largest number that a variable can hold. -/
def numberMax : Nat := 2 ^ (64 : Nat) - 1

/-- Sets one setting from the value of its variable. -/
def set (s : Settings) (v : Variable) (value : String) : Except Fault Settings :=
  let number (use : Nat → Settings) : Except Fault Settings :=
    match Text.readUnsigned numberMax value with
    | .ok n => .ok (use n)
    | .error fault => .error ⟨v, value, .noNumber fault⟩
  match v with
  | .address =>
    match SocketAddress.read? value with
    | some a => .ok { s with address := a }
    | none => .error ⟨v, value, .noAddress⟩
  | .maxFilterDepth => number fun n => { s with maxFilterDepth := n }
  | .statementTimeout => number fun n => { s with statementTimeout := .ofSeconds n }

/-- Sets the settings whose variables have a value. -/
def setAll (lookup : String → Option String) : Settings → List Variable → Except Fault Settings
  | s, [] => .ok s
  | s, v :: rest =>
    match lookup v.name with
    | none => setAll lookup s rest
    | some value => do
      let s ← s.set v value
      setAll lookup s rest

/-- The settings of an environment. -/
def ofEnvironment (lookup : String → Option String) : Except Fault Settings :=
  setAll lookup standard [.address, .maxFilterDepth, .statementTimeout]

end Settings

end SqlBroker
