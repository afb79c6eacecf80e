import SqlBroker.Calendar.Stamp
import SqlBroker.Json.Printer

/-!
# Values

The values that a statement compares and writes. `ofJson` takes a JSON value as it is;
`patternText` is the text of a value inside the pattern of a LIKE comparison.

Models `TypedValue` with `from_json` and `pattern_text` (SPEC_FULL.md, section 4.1).
-/

namespace SqlBroker

-- Here `^` is the power of natural numbers, whatever instances are imported beside it.
attribute [local instance (2000)] instPowNat

/-- A value of a statement. -/
inductive Value where
  | null
  | bool (b : Bool)
  | int (n : Int)
  | float (x : Decimal.Binary64)
  | text (s : String)
  | date (d : Calendar.Date)
  | time (c : Calendar.Clock)
  /-- A date and time on a local clock. -/
  | stamp (s : Calendar.Stamp)
  /-- A date and time in universal time. -/
  | instant (s : Calendar.Stamp)
  | json (j : Json)
deriving Repr

/-- Whether a number is a signed whole number of 64 bits. -/
def fitsSigned (n : Int) : Bool := -(2 ^ (63 : Nat)) ≤ n && n < 2 ^ (63 : Nat)

/-- The float that a number is or is nearest to. -/
def Number.toFloat : Number → Decimal.Binary64
  | .integer n => .ofInt n
  | .float x => x

/-- Floats in patterns: never an exponent, and of two equally near decimals the greater. -/
def patternLayout : Decimal.Layout := ⟨none, false, .up⟩

namespace Value

/-- The value of a JSON value, without regard to any declared type. -/
def ofJson : Json → Value
  | .null => .null
  | .bool b => .bool b
  | .number (.integer n) => if fitsSigned n then .int n else .float (.ofInt n)
  | .number (.float x) => .float x
  | .string s => .text s
  | .array items => .json (.array items)
  | .object entries => .json (.object entries)

/-- Whether this is null. -/
def isNull : Value → Bool
  | .null => true
  | _ => false

/-- The text of a value inside a pattern. -/
def patternText : Value → String
  | .null => ""
  | .bool true => "true"
  | .bool false => "false"
  | .int n => String.ofList (Number.integerChars n)
  | .float x => String.ofList (patternLayout.render x)
  | .text s => s
  | .date d => d.text
  | .time c => c.text
  | .stamp s => s.text
  | .instant s => s.universalText
  | .json j => j.text

end Value

end SqlBroker
