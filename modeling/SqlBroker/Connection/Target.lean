import SqlBroker.Connection.Address
import SqlBroker.Connection.Encryption
import SqlBroker.Connection.Query

/-!
# What a connection string says of a server

The address of the server, and what the parameters of the string say of the connection to it. They
are taken in their order, and each may change what was said before it, the address too. Parameters
that the backend does not know say nothing.

Models what `open` finds in the connection string of a server (SPEC_FULL.md, section 11).
-/

namespace SqlBroker

-- Here `^` is the power of natural numbers, whatever instances are imported beside it.
attribute [local instance (2000)] instPowNat

/-- What a connection string says of a server. -/
structure Target where
  address : Address
  encryption : Encryption
  applicationName : Option String
  charset : Option String
  collation : Option String
deriving DecidableEq, Repr

namespace Target

/-- What a parameter is about. -/
inductive Topic where
  | encryption
  | cacheCapacity
  | host
  | hostAddress
  | port
  | socket
  | applicationName
  | charset
  | collation
deriving DecidableEq, Repr

/-- The parameters that a backend knows. -/
def topics : Backend → List (String × Topic)
  | .postgres =>
    [("sslmode", .encryption), ("ssl-mode", .encryption),
     ("statement-cache-capacity", .cacheCapacity), ("host", .host), ("hostaddr", .hostAddress),
     ("port", .port), ("application_name", .applicationName)]
  | .mysql =>
    [("sslmode", .encryption), ("ssl-mode", .encryption),
     ("statement-cache-capacity", .cacheCapacity), ("socket", .socket), ("charset", .charset),
     ("collation", .collation)]
  | .sqlite => []

/-- The largest capacity of a cache. -/
def capacityMax : Nat := 2 ^ (64 : Nat) - 1

/-- The number that a parameter gives, up to a limit. -/
def numberOf (limit : Nat) (value : String) : Except UriFault Nat :=
  (Text.readUnsigned limit value).mapError .badNumber

/-- The encryption mode that a parameter gives. -/
def encryptionOf (b : Backend) (mode : String) : Except UriFault Encryption :=
  match Encryption.ofName? b mode with
  | some encryption => .ok encryption
  | none => .error (.badMode mode)

/-- The internet address that a parameter gives. -/
def hostAddressOf (value : String) : Except UriFault String :=
  if Internet.isVersion4 value.toList || Internet.isVersion6 value.toList then .ok value
  else .error .badAddress

/-- The target with an address made from its own. -/
def mapAddress (t : Target) (f : Address → Address) : Target := { t with address := f t.address }

/-- The target with what is said about one topic. -/
def set (b : Backend) (t : Target) (topic : Topic) (value : String) : Except UriFault Target :=
  match topic with
  | .encryption => do return { t with encryption := ← encryptionOf b value }
  | .cacheCapacity => (numberOf capacityMax value).map fun _ => t
  | .host => .ok (t.mapAddress (·.withHost value))
  | .hostAddress => do
    let host ← hostAddressOf value
    return t.mapAddress ({ · with host := host })
  | .port => do
    let port ← numberOf Url.portMax value
    return t.mapAddress ({ · with port := some port })
  | .socket => .ok (t.mapAddress ({ · with socket := some value }))
  | .applicationName => .ok { t with applicationName := some value }
  | .charset => .ok { t with charset := some value }
  | .collation => .ok { t with collation := some value }

/-- The target with what one parameter says. -/
def take (b : Backend) (t : Target) (name value : String) : Except UriFault Target :=
  match (topics b).lookup name with
  | some topic => t.set b topic value
  | none => .ok t

/-- The target with what parameters say. -/
def takeAll (b : Backend) : Target → List (String × String) → Except UriFault Target
  | t, [] => .ok t
  | t, (name, value) :: rest => do
    let t ← t.take b name value
    takeAll b t rest

/-- The target of a connection string. -/
def read (b : Backend) (uri : String) : Except UriFault Target := do
  let url ← Url.read uri
  let address ← Address.ofUrl b url
  takeAll b ⟨address, .offered, none, none, none⟩ (Query.parameters url.query)

end Target

end SqlBroker
