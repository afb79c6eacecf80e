import SqlBroker.Error
import SqlBroker.Json.Draft
import SqlBroker.Json.Printer

/-!
# Faults of decoding

Why a JSON value is not the value of some type: what is wrong, and where. `Reason.message` is the
wording; a path leads from the whole value to the part that is at fault.
-/

namespace SqlBroker.Decode

/-- A JSON value as a message shows it: scalars in full, arrays and objects by their kind. -/
inductive Shown where
  | null
  | bool (b : Bool)
  | number (n : Number)
  | string (s : String)
  | sequence
  | map
deriving DecidableEq, Repr

/-- What a message shows of a draft, if there is a value or the start of one. -/
def Shown.of? : Draft → Option Shown
  | .null => some .null
  | .bool b => some (.bool b)
  | .number n => some (.number n)
  | .string s => some (.string s)
  | .array _ => some .sequence
  | .object _ => some .map
  | .flawed => none
  | .broken => none

/-- The words for a value. -/
def Shown.text : Shown → String
  | .null => "null"
  | .bool b => s!"boolean `{b}`"
  | .number (.integer n) => s!"integer `{(Number.integer n).text}`"
  | .number (.float x) => s!"floating point `{(Number.float x).text}`"
  | .string s => s!"string {Text.quoted s}"
  | .sequence => "sequence"
  | .map => "map"

/-- What is wrong with a value. -/
inductive Reason where
  /-- The text is no JSON text of the expected shape; nothing more is said. -/
  | malformed
  | missingField (name : String)
  | duplicateField (name : String)
  | unknownVariant (found : String) (known : List String)
  | wrongType (found : Shown) (expected : String)
  | wrongValue (found : Shown) (expected : String)
  | wrongLength (length : Nat) (expected : String)
  /-- The value has the right shape and is still refused. -/
  | refused (error : Error)
deriving DecidableEq, Repr

/-- The names of variants in a message. -/
def variantNames (known : List String) : String :=
  match known.map fun name => s!"`{name}`" with
  | [a] => a
  | [a, b] => s!"{a} or {b}"
  | names => "one of " ++ ", ".intercalate names

/-- The reason in words. -/
def Reason.message : Reason → String
  | .malformed => "malformed JSON"
  | .missingField name => s!"missing field `{name}`"
  | .duplicateField name => s!"duplicate field `{name}`"
  | .unknownVariant found known =>
    s!"unknown variant `{found}`, expected {variantNames known}"
  | .wrongType found expected => s!"invalid type: {found.text}, expected {expected}"
  | .wrongValue found expected => s!"invalid value: {found.text}, expected {expected}"
  | .wrongLength length expected => s!"invalid length {length}, expected {expected}"
  | .refused error => error.message

/-- A step from a value into one of its parts. -/
inductive Step where
  | key (k : String)
  | index (i : Nat)
deriving DecidableEq, Repr

/-- The text of a path: keys with points between them, positions in brackets. -/
def pathText : List Step → String
  | [] => ""
  | [.key k] => k
  | .key k :: .index i :: rest => k ++ pathText (.index i :: rest)
  | .key k :: rest => k ++ "." ++ pathText rest
  | [.index i] => s!"[{i}]"
  | .index i :: .index j :: rest => s!"[{i}]" ++ pathText (.index j :: rest)
  | .index i :: rest => s!"[{i}]." ++ pathText rest

/-- Why and where a value does not decode. -/
structure Fault where
  path : List Step
  reason : Reason
deriving DecidableEq, Repr

namespace Fault

/-- A fault of the value itself. -/
def here (reason : Reason) : Fault := ⟨[], reason⟩

/-- A fault of a part as a fault of the whole. -/
def under (step : Step) (fault : Fault) : Fault := { fault with path := step :: fault.path }

/-- A fault of some part, ascribed to the whole. -/
def asWhole (fault : Fault) : Fault := here fault.reason

/-- The fault in words, after its path if there is one. -/
def message (fault : Fault) : String :=
  match fault.path with
  | [] => fault.reason.message
  | path => s!"{pathText path}: {fault.reason.message}"

end Fault

end SqlBroker.Decode
