import SqlBroker.Connection.Charset
import SqlBroker.Connection.Options
import SqlBroker.Connection.Store
import SqlBroker.Connection.Target

/-!
# Logins

What a database is told when a connection to it is opened. The connection string is looked at first,
the encryption mode after it; what the settings beside it say goes before what it says itself. A
null character ends the name of an application. How many statements are kept prepared changes no
result and is not part of a login.

Models how `open` puts the connection string and the options together (SPEC_FULL.md, section 11).
-/

namespace SqlBroker

/-- What a database is told when a connection is opened. -/
inductive Login where
  | postgres (address : Address) (encryption : Encryption) (applicationName : Option String)
  | mysql (address : Address) (encryption : Encryption) (charset : String)
    (collation : Option String)
  /-- An embedded database, and how long it waits for a locked file. -/
  | sqlite (store : Store) (patience : Option Duration)
deriving DecidableEq, Repr

namespace Login

/-- The login of a connection string and the settings beside it. -/
def of (b : Backend) (uri : String) (o : ConnectionOptions) : Except UriFault Login :=
  match b with
  | .postgres => do
    let target ← Target.read .postgres uri
    let encryption ← Encryption.ofMode .postgres target.encryption o.sslMode
    let name := o.applicationName <|> target.applicationName
    return .postgres target.address encryption (name.map Text.beforeNull)
  | .mysql => do
    let target ← Target.read .mysql uri
    let encryption ← Encryption.ofMode .mysql target.encryption o.sslMode
    let charset := (o.charset <|> target.charset).getD Charset.standard
    return .mysql target.address encryption charset target.collation
  | .sqlite => do
    let store ← Store.read uri
    return .sqlite store o.busyTimeout

/-- The encryption of a login; an embedded database has none. -/
def encryption : Login → Encryption
  | .postgres _ e _ => e
  | .mysql _ e _ _ => e
  | .sqlite _ _ => .never

end Login

end SqlBroker
