/-!
# Backends

The three kinds of database that a request can name.

Models `Backend` and its `scheme` (SPEC_FULL.md, section 11).
-/

namespace SqlBroker

/-- A kind of database. -/
inductive Backend where
  | postgres
  | mysql
  | sqlite
deriving DecidableEq, Repr

/-- The scheme that a connection to the backend is written with. -/
def Backend.scheme : Backend → String
  | .postgres => "postgres"
  | .mysql => "mysql"
  | .sqlite => "sqlite"

end SqlBroker
