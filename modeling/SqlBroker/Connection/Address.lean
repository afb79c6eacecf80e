import SqlBroker.Connection.Url
import SqlBroker.Text.Encoded

/-!
# Addresses of database servers

The host and port in the parts of a connection string, or on Postgres a socket on the same machine,
which is a host that starts with a slash once its percent signs are read.

Models what `open` finds in the connection string of a server (SPEC_FULL.md, section 11).
-/

namespace SqlBroker

/-- Where a database server is. A socket goes before a host. -/
structure Address where
  host : String
  port : Option Nat
  socket : Option String
deriving DecidableEq, Repr

namespace Address

/-- The text that a part of a connection string writes. -/
def decoded (cs : List Char) : Except UriFault String :=
  (Text.decode (Text.percentDecoded cs)).mapError .notText

/-- Whether a host is that of a socket: on Postgres one that starts with a slash is. -/
def namesSocket (b : Backend) (host : List Char) : Bool :=
  b == .postgres && (Text.percentDecoded host).head? == some 0x2F

/-- The address in the parts of a connection string. -/
def ofHost (b : Backend) (url : Url) : Except UriFault Address :=
  if namesSocket b url.host then (decoded url.host).map fun path => ⟨"", url.port, some path⟩
  else .ok ⟨String.ofList url.host, url.port, none⟩

/-- The address in the parts of a connection string, of which user, password and database have to be
texts. -/
def ofUrl (b : Backend) (url : Url) : Except UriFault Address := do
  let address ← ofHost b url
  let _ ← decoded url.user
  let _ ← decoded url.password
  let _ ← decoded (url.path.dropWhile (· = '/'))
  return address

/-- The address with another host; one that starts with a slash is a socket. -/
def withHost (a : Address) (host : String) : Address :=
  if host.toList.head? = some '/' then { a with socket := some host } else { a with host := host }

end Address

end SqlBroker
