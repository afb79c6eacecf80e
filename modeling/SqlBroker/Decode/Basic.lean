import SqlBroker.Decode.Fault
import SqlBroker.Json.Reader

/-!
# Decoders

A decoder takes what is written of a JSON value to a value of some type, or to the first fault that
it meets in the order of the text: where the text ceases to be JSON is such a fault, and is met only
if no other comes before it. What a decoder accepts does not depend on where the value comes from;
`Source` decides only how some faults are worded and which of two is met first.
-/

namespace SqlBroker.Decode

/-- Where a value comes from. -/
inductive Source where
  /-- From a text that is read piece by piece. -/
  | text
  /-- From a value that was read before, its keys ascending. -/
  | tree
  /-- From inside an object or array whose tag says what the rest of it is. -/
  | held
deriving DecidableEq, Repr

/-- How values of a type are made from JSON. -/
abbrev Decoder (α : Type) := Source → Draft → Except Fault α

variable {α β : Type}

/-- A fault of the value itself. -/
def fail (reason : Reason) : Except Fault α := .error (.here reason)

/-- The fault of a value of the wrong type. -/
def wrongType (d : Draft) (expected : String) : Except Fault α :=
  match Shown.of? d with
  | some found => fail (.wrongType found expected)
  | none => fail .malformed

/-- The result for a part, its fault ascribed to that part. -/
def within (step : Step) (r : Except Fault α) : Except Fault α := r.mapError (Fault.under step)

/-! ## Scalars -/

/-- A text. -/
def string : Decoder String
  | _, .string s => .ok s
  | _, d => wrongType d "a string"

/-- A truth value. -/
def flag : Decoder Bool
  | _, .bool b => .ok b
  | _, d => wrongType d "a boolean"

/-- An unsigned whole number of 64 bits. -/
def word : Decoder Nat
  | _, .number (.integer n) =>
    if 0 ≤ n then .ok n.toNat else fail (.wrongValue (.number (.integer n)) "u64")
  | _, d => wrongType d "u64"

/-- Any value, with its keys ascending. -/
def json : Decoder Json := fun _ d =>
  match d.json? with
  | some j => .ok j.normalize
  | none => fail .malformed

/-! ## Combining decoders -/

/-- A value or null. -/
def optional (decode : Decoder α) : Decoder (Option α)
  | _, .null => .ok none
  | src, d => (decode src d).map some

/-- A value that is checked once it has the right shape. -/
def checked (decode : Decoder α) (check : α → Except Error β) : Decoder β := fun src d => do
  let a ← decode src d
  (check a).mapError fun e => .here (.refused e)

/-- The values of an array from position `i` on. -/
def items (decode : Decoder α) (src : Source) : Nat → List Draft → Except Fault (List α)
  | _, [] => .ok []
  | i, d :: rest => do
    let a ← within (.index i) (decode src d)
    let as ← items decode src (i + 1) rest
    return a :: as

/-- An array of values. -/
def list (decode : Decoder α) : Decoder (List α)
  | src, .array ds => items decode src 0 ds
  | _, d => wrongType d "a sequence"

/-- The text of a key. -/
def key (k : Draft) : Except Fault String :=
  match k.text? with
  | some s => .ok s
  | none => fail .malformed

/-- The entries of an object, one after the other. -/
def entries (decode : Decoder α) (src : Source) :
    List (Draft × Draft) → Except Fault (List (String × α))
  | [] => .ok []
  | (k, d) :: rest => do
    let k ← key k
    let a ← within (.key k) (decode src d)
    let as ← entries decode src rest
    return (k, a) :: as

/-- An object of values by key; of several entries with one key the last stays. -/
def keyed (decode : Decoder α) : Decoder (Keyed α)
  | src, .object es => (entries decode src es).map Keyed.ofList
  | _, d => wrongType d "a map"

/-! ## Where values come from -/

/-- Decodes a text that holds one value. What is wrong with the value is met before what comes after
it. -/
def fromText (decode : Decoder α) (s : String) : Except Fault α := do
  let document := Document.read Json.nestingLimit s
  let a ← decode .text document.value
  if document.ends then return a else fail .malformed

/-- Decodes a value. -/
def fromJson (decode : Decoder α) (j : Json) : Except Fault α := decode .tree (.ofJson j.normalize)

end SqlBroker.Decode
