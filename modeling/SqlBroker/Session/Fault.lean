import SqlBroker.Error

/-!
# Failures of a database session

How a database, or the way to it, can fail, and the error that each failure is to the caller. A
database that no longer accepts the login says so by a code of its own: a state of class 28, or on
SQLite the primary code 23 in the lowest byte.

Models `is_sqlstate_auth`, `is_sqlite_auth` and the errors of a database as a `QueryError`
(SPEC_FULL.md, section 10.2).
-/

namespace SqlBroker.Session

-- Here `^` is the power of natural numbers, whatever instances are imported beside it.
attribute [local instance (2000)] instPowNat

/-- How a database, or the way to it, failed. -/
inductive Fault where
  /-- The database reports an error, with a code where it has one. -/
  | database (code : Option String) (message : String)
  /-- What the database sent makes no sense. -/
  | protocol (text : String)
  /-- There is no row where there has to be one. -/
  | rowNotFound
  /-- A cell is not what its column should hold. -/
  | undecodable
  /-- The database cannot be reached. -/
  | unreachable (reason : String)
  /-- The database cannot be reached encrypted. -/
  | noEncryption
  /-- The part of the program that works on an embedded database has died. -/
  | workerLost
  /-- There is no such character set. -/
  | unknownCharset (name : String)
  /-- There is no such collation. -/
  | unknownCollation (name : String)
  /-- A value has no form in which it could be sent. -/
  | unsendable (argument : Nat) (date : String)
deriving DecidableEq, Repr

namespace Fault

/-- The failure in words. -/
def message : Fault → String
  | .database _ message => message
  | .protocol text => s!"encountered unexpected or invalid data: {text}"
  | .rowNotFound =>
    "no rows returned by a query that expected to return at least one row"
  | .undecodable => "error occurred while decoding column"
  | .unreachable reason => s!"error communicating with database: {reason}"
  | .noEncryption =>
    "error occurred while attempting to establish a TLS connection: server does not support TLS"
  | .workerLost => "attempted to communicate with a crashed background worker"
  | .unknownCharset name => s!"error with configuration: unsupported MySQL charset: {name}"
  | .unknownCollation name => s!"error with configuration: unsupported MySQL collation: {name}"
  | .unsendable argument date =>
    s!"error occurred while encoding a value: Encoding argument ${argument} failed: " ++
      s!"NaiveDateTime out of range for Mysql: {date}"

/-- Whether the code of an SQLSTATE is of the class for failed logins. -/
def isStateOfLogin (code : String) : Bool := ['2', '8'].isPrefixOf code.toList

/-- The lowest byte of the code for failed logins on SQLite. -/
def loginCode : Int := 23

/-- Whether a code of SQLite is that of a failed login. -/
def isCodeOfLogin (code : String) : Bool :=
  match Text.readSigned (2 ^ (31 : Nat) - 1) code with
  | .ok n => n % 256 == loginCode
  | .error _ => false

/-- Whether a code means that the login failed. -/
def isCodeOf (b : Backend) (code : String) : Bool :=
  match b with
  | .sqlite => isCodeOfLogin code
  | _ => isStateOfLogin code

/-- Whether the database no longer accepts the login. -/
def isLoginFailure (b : Backend) : Fault → Bool
  | .database (some code) _ => isCodeOf b code
  | _ => false

/-- The error that a failure is to the caller. -/
def toError (b : Backend) (f : Fault) : Error :=
  if f.isLoginFailure b then .authenticationExpired f.message else .execution (.reported f.message)

end Fault

end SqlBroker.Session
