import SqlBroker.Error
import SqlBroker.Internet.Address
import SqlBroker.Text.Digits

/-!
# Connection strings of servers

After its scheme a connection string may have two slashes and an authority, which ends at the next
slash, question mark or number sign: a user with a password before the last `@`, then a host, and a
port after a colon. After that come a path and, up to a number sign, the parameters. Blanks at the
end are not part of a string, tabs and line ends nowhere are.

Models what `open` finds in the connection string of a server (SPEC_FULL.md, section 11).
-/

namespace SqlBroker

/-- The parts of a connection string, as they are written. -/
structure Url where
  user : List Char
  password : List Char
  host : List Char
  port : Option Nat
  path : List Char
  query : List Char
deriving DecidableEq, Repr

namespace Url

/-! ## Hosts and ports -/

/-- The largest port. -/
def portMax : Nat := 65535

/-- The characters that no host has. -/
def forbidden : List Char :=
  ['\x00', '\t', '\n', '\r', ' ', '#', '/', ':', '<', '>', '?', '@', '[', '\\', ']', '^', '|']

/-- A host and what follows it from a colon on: a colon inside brackets is part of the host. -/
def splitHost (bracketed : Bool) : List Char → List Char × List Char
  | [] => ([], [])
  | c :: cs =>
    if c = ':' ∧ !bracketed then ([], c :: cs)
    else
      let r := splitHost (if c = '[' then true else if c = ']' then false else bracketed) cs
      (c :: r.1, r.2)

/-- Whether a host in brackets is closed at its end and has an address of version 6 in them. -/
def isClosedAddress (cs : List Char) : Bool :=
  cs.getLast? == some ']' && Internet.isVersion6 cs.dropLast

/-- Refuses what is no host. -/
def checkHost : List Char → Except UriFault Unit
  | '[' :: cs => if isClosedAddress cs then .ok () else .error .badBrackets
  | cs => if cs.any (· ∈ forbidden) then .error .badHost else .ok ()

/-- The port that a text of digits names; no digits name none. -/
def readPort (digits : List Char) : Except UriFault (Option Nat) :=
  if digits = [] then .ok none
  else
    match Text.readDigits portMax .tooLarge 0 digits with
    | .ok n => .ok (some n)
    | .error _ => .error .badPort

/-! ## The authority -/

/-- The part of a text before its last `@`, if it has one, and the part after it. -/
def splitUser (cs : List Char) : Option (List Char) × List Char :=
  let host := (cs.reverse.takeWhile (· ≠ '@')).reverse
  if host.length < cs.length then (some (cs.take (cs.length - host.length - 1)), host)
  else (none, host)

/-- Whether something is said of the user: an `@` or a colon alone says nothing. -/
def namesUser (user : Option (List Char)) : Bool :=
  match user with
  | none => false
  | some cs => cs ≠ [] && cs ≠ [':']

/-- A string of an authority and what comes after it. A user needs a host, and so do a port and a
lone `@` before a path. -/
def ofAuthority (authority rest : List Char) : Except UriFault Url := do
  let (user, place) := splitUser authority
  if user = some [] ∧ place = [] ∧ rest ≠ [] then throw .emptyHost
  let (host, port) := splitHost false place
  checkHost host
  if host = [] ∧ port ≠ [] then throw .emptyHost
  let number ← readPort ((port.drop 1).takeWhile (· ≠ '\\'))
  if host = [] ∧ namesUser user then throw .emptyHost
  let said := user.getD []
  return {
    user := said.takeWhile (· ≠ ':')
    password := (said.dropWhile (· ≠ ':')).drop 1
    host := host
    port := number
    path := port.dropWhile (· ≠ '\\') ++ rest.takeWhile (· ∉ ['?', '#'])
    query := ((rest.dropWhile (· ∉ ['?', '#'])).takeWhile (· ≠ '#')).drop 1 }

/-! ## Strings -/

/-- A string without blanks at its end, and without tabs and line ends. -/
def cleaned (cs : List Char) : List Char :=
  (cs.reverse.dropWhile (· ≤ ' ')).reverse.filter (· ∉ ['\t', '\n', '\r'])

/-- What a string has after its scheme. -/
def afterScheme (cs : List Char) : List Char := (cs.dropWhile (· ≠ ':')).drop 1

/-- The parts of a connection string. -/
def read (uri : String) : Except UriFault Url :=
  match afterScheme (cleaned uri.toList) with
  | '/' :: '/' :: cs =>
    let ends := fun c => decide (c ∉ ['/', '?', '#'])
    ofAuthority (cs.takeWhile ends) (cs.dropWhile ends)
  | cs => ofAuthority [] cs

end Url

end SqlBroker
