import SqlBroker.Internet.Address

/-!
# Socket addresses

An internet address of either version, with a port. An address of version 6 stands in brackets, and
may have the number of a scope inside them.

Models the value of `QUERY_GATEWAY_ADDR` (SPEC_FULL.md, section 10.3).
-/

namespace SqlBroker.Settings

-- Here `^` is the power of natural numbers, whatever instances are imported beside it.
attribute [local instance (2000)] instPowNat

open Internet

/-- The address of a socket. -/
inductive SocketAddress where
  /-- Four bytes and a port. -/
  | v4 (bytes : List Nat) (port : Nat)
  /-- Eight groups of sixteen bits, the number of a scope and a port. -/
  | v6 (groups : List Nat) (scope port : Nat)
deriving DecidableEq, Repr

namespace SocketAddress

/-! ## Reading -/

/-- The number of a scope, zero where there is none. -/
def readScope (cs : List Char) : Nat × List Char :=
  match (after? '%' cs).bind (readLimited? (2 ^ (32 : Nat) - 1)) with
  | some r => r
  | none => (0, cs)

/-- A port with a colon before it and nothing after it. -/
def readPort? (cs : List Char) : Option Nat := do
  let cs ← after? ':' cs
  let (port, cs) ← readLimited? 65535 cs
  if cs = [] then some port else none

/-- Reads an address of version 4. -/
def readV4? (cs : List Char) : Option SocketAddress := do
  let (bytes, cs) ← readBytes? cs
  let port ← readPort? cs
  return .v4 bytes port

/-- Reads an address of version 6. -/
def readV6? (cs : List Char) : Option SocketAddress := do
  let cs ← after? '[' cs
  let (groups, cs) ← readEightGroups? cs
  let (scope, cs) := readScope cs
  let cs ← after? ']' cs
  let port ← readPort? cs
  return .v6 groups scope port

/-- Reads the address of a socket. -/
def read? (s : String) : Option SocketAddress := readV4? s.toList <|> readV6? s.toList

/-! ## Writing -/

/-- The address of a socket as text. -/
def text : SocketAddress → String
  | .v4 bytes port => String.ofList (joined '.' (bytes.map Text.digits) ++ ':' :: Text.digits port)
  | .v6 groups scope port =>
    let shownScope := if scope = 0 then [] else '%' :: Text.digits scope
    String.ofList
      ('[' :: eightGroupChars groups ++ shownScope ++ ']' :: ':' :: Text.digits port)

end SocketAddress

end SqlBroker.Settings
