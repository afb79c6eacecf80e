import SqlBroker.Error
import SqlBroker.Json.Basic

/-!
# HTTP answers

The status and body of an answer. A malformed request gets a code of its own and no data; an expired
login gets nothing but an empty result; every other error is worded.

Models `into_response` (SPEC_FULL.md, section 10.2).
-/

namespace SqlBroker.Http

/-- What stands in an answer. -/
inductive Body where
  | json (j : Json)
  | text (s : String)
deriving Repr

/-- An answer to a request. -/
structure Answer where
  status : Nat
  body : Body
deriving Repr

namespace Answer

/-- The code of a malformed request. -/
def shapeCode : Int := 10422

/-- The body for an error. -/
def errorBody : Error → Json
  | .requestShape fault =>
    .object
      [("data", .null), ("message", .string fault.message), ("status_code", .int shapeCode)]
  | .authenticationExpired _ => .object [("result", .null)]
  | e => .object [("message", .string e.message), ("result", .null)]

/-- The answer to a request that ends in an error. -/
def ofError (e : Error) : Answer := ⟨e.status, .json (errorBody e)⟩

/-- The answer to a request with a result. -/
def ofResult (result : Json) : Answer := ⟨200, .json (.object [("result", result)])⟩

/-- An answer of text. -/
def ofText (status : Nat) (s : String) : Answer := ⟨status, .text s⟩

end Answer

end SqlBroker.Http
