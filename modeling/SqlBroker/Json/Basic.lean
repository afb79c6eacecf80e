import SqlBroker.Decimal.Binary64
import SqlBroker.Keyed

/-!
# JSON values

`Json` keeps the entries of an object in the order in which they were written, repeated keys
included. `normalize` gives the value that such a text denotes: keys ascending, and of several
entries with one key the last. Whole numbers are kept apart from floats.
-/

namespace SqlBroker

/-- A number: whole, or a float. -/
inductive Number where
  | integer (n : Int)
  | float (x : Decimal.Binary64)
deriving DecidableEq, Repr

/-- A JSON value. -/
inductive Json where
  | null
  | bool (b : Bool)
  | number (n : Number)
  | string (s : String)
  | array (items : List Json)
  | object (entries : List (String × Json))
deriving Repr, Inhabited

namespace Json

/-- A whole number. -/
def int (n : Int) : Json := .number (.integer n)

/-- A float. -/
def float (x : Decimal.Binary64) : Json := .number (.float x)

/-- An object of values by key. -/
def ofKeyed (m : Keyed Json) : Json := .object m.entries

/-- A text, or null where there is none. -/
def ofText? (s : Option String) : Json := s.elim .null .string

mutual

/-- The value with the keys of every object ascending; of several entries with one key the last
stays. -/
def normalize : Json → Json
  | .array items => .array (normalizeAll items)
  | .object entries => .object (Keyed.ofList (normalizeEntries entries)).entries
  | j => j

/-- Each of the values normalized. -/
def normalizeAll : List Json → List Json
  | [] => []
  | j :: rest => j.normalize :: normalizeAll rest

/-- The entries with their values normalized. -/
def normalizeEntries : List (String × Json) → List (String × Json)
  | [] => []
  | (k, j) :: rest => (k, j.normalize) :: normalizeEntries rest

end

end Json

end SqlBroker
