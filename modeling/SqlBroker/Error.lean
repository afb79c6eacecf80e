import SqlBroker.Backend.Basic
import SqlBroker.Duration
import SqlBroker.Text.Digits
import SqlBroker.Text.Encoded
import SqlBroker.Text.Quoted

/-!
# Errors

Everything that can end a request without a result. An `Error` says what went wrong in the terms of
the request; `message` is its wording and `status` its HTTP status: 422 for a request that is not
shaped as one, 400 for one that means nothing, 401 where the database no longer accepts the login,
500 where it fails otherwise.

Models `QueryError` and its `status` (SPEC_FULL.md, sections 7 and 10.2).
-/

namespace SqlBroker

/-! ## Malformed requests -/

/-- What the value of a connection option has to be. -/
inductive OptionKind where
  | seconds
  | count
  | text
  | flag
deriving DecidableEq, Repr

/-- The kind of value in words. -/
def OptionKind.expected : OptionKind → String
  | .seconds => "a non-negative number of seconds"
  | .count => "an unsigned integer"
  | .text => "a string"
  | .flag => "a boolean"

/-- What is wrong with a connection string or the encryption mode beside it. -/
inductive UriFault where
  | emptyHost
  | badHost
  | badBrackets
  | badPort
  | badAddress
  /-- A part of the string writes bytes that are no text. -/
  | notText (fault : Text.ByteFault)
  | badNumber (fault : Text.NumberFault)
  /-- A parameter has an encryption mode that there is not. -/
  | badMode (mode : String)
  | unknownSetting (key value : String)
  | unknownKey (key : String)
deriving DecidableEq, Repr

/-- A value that a setting does not have, in words. -/
def unknownValue (key value : String) : String :=
  s!"unknown value {Text.quoted value} for `{key}`"

/-- The fault in words. -/
def UriFault.message : UriFault → String
  | .emptyHost => "empty host"
  | .badHost => "invalid domain character"
  | .badBrackets => "invalid IPv6 address"
  | .badPort => "invalid port number"
  | .badAddress => "invalid IP address syntax"
  | .notText fault => fault.message
  | .badNumber fault => fault.message
  | .badMode mode => "error with configuration: " ++ unknownValue "ssl_mode" mode
  | .unknownSetting key value => unknownValue key value
  | .unknownKey key => s!"unknown query parameter `{key}` while parsing connection URL"

/-- What is wrong with the shape of a request. -/
inductive ShapeFault where
  /-- The resource is empty or white space. -/
  | emptyResource
  /-- The filter tree has more levels than are allowed. -/
  | tooDeep (depth limit : Nat)
  /-- An update sets nothing. -/
  | noWrites
  /-- A rule has not as many value types as values. -/
  | unpairedTypes (field : Option String) (values types : Nat)
  /-- A connection option is not one of the backend's. -/
  | foreignOption (key : String) (backend : Backend)
  /-- A connection option has a value of the wrong kind. -/
  | mistypedOption (key : String) (kind : OptionKind)
  /-- The connection string cannot be used. -/
  | badUri (fault : UriFault)
  /-- A fault in words. -/
  | described (text : String)
deriving DecidableEq, Repr

/-- The name of a rule's field in a message. -/
def shownField : Option String → String
  | none => "None"
  | some field => s!"Some({Text.quoted field})"

/-- The fault in words. -/
def ShapeFault.message : ShapeFault → String
  | .emptyResource => "resource must not be empty"
  | .tooDeep depth limit => s!"filter tree is {depth} levels deep, limit is {limit}"
  | .noWrites => "update needs at least one write"
  | .unpairedTypes field values types =>
    s!"rule on {shownField field} has {values} values but {types} value types"
  | .foreignOption key backend =>
    s!"unsupported connection option `{key}` for {backend.scheme}"
  | .mistypedOption key kind => s!"connection option `{key}` must be {kind.expected}"
  | .badUri fault => s!"invalid connection uri: error with configuration: {fault.message}"
  | .described text => text

/-! ## Failures of a database -/

/-- How the execution of a request failed. -/
inductive ExecutionFault where
  /-- No connection within the limit. -/
  | connectTimeout (limit : Duration)
  /-- No answer to a statement within the limit. -/
  | statementTimeout (limit : Duration)
  /-- The database or the way to it reported a failure. -/
  | reported (reason : String)
deriving DecidableEq, Repr

/-- The fault in words. -/
def ExecutionFault.message : ExecutionFault → String
  | .connectTimeout limit => s!"connect timed out after {limit.text}"
  | .statementTimeout limit => s!"statement timed out after {limit.text}"
  | .reported reason => reason

/-! ## Errors -/

/-- Why a request has no result. -/
inductive Error where
  | requestShape (fault : ShapeFault)
  | unsupportedValueType (tag : String)
  | valueFormat (type value reason : String)
  | arity (operator : String) (expected found : Nat)
  | unknownField (name : String)
  | unknownOperator (tag : String)
  | unknownConjunction (tag : String)
  | unsupportedBackend (scheme : String)
  | authenticationExpired (reason : String)
  | introspection (table reason : String)
  | execution (fault : ExecutionFault)
deriving DecidableEq, Repr

namespace Error

/-- The error in words. -/
def message : Error → String
  | .requestShape fault => s!"malformed request: {fault.message}"
  | .unsupportedValueType tag => s!"unsupported value type `{tag}`"
  | .valueFormat type value reason => s!"cannot parse {value} as {type}: {reason}"
  | .arity operator expected found =>
    s!"operator `{operator}` needs {expected} values, got {found}"
  | .unknownField name => s!"unknown field `{name}`"
  | .unknownOperator tag => s!"unknown operator `{tag}`"
  | .unknownConjunction tag => s!"unknown conjunction `{tag}`"
  | .unsupportedBackend scheme => s!"unsupported backend scheme `{scheme}`"
  | .authenticationExpired reason => s!"authentication expired: {reason}"
  | .introspection table reason => s!"cannot inspect table `{table}`: {reason}"
  | .execution fault => s!"execution failed: {fault.message}"

/-- The HTTP status of the error. -/
def status : Error → Nat
  | .requestShape _ => 422
  | .authenticationExpired _ => 401
  | .execution _ => 500
  | .introspection _ _ => 500
  | _ => 400

end Error

end SqlBroker
