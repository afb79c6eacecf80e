import SqlBroker.Error
import SqlBroker.Text.Case

/-!
# Capabilities

What the backend of a connection string can do. The scheme, up to the first colon and the first plus
sign in it, names the backend in either case of letters. An unknown scheme is named in the error,
and nothing after it, since what follows may hold a password.

Models the registry, `for_uri`, `connect_uri` and `uri_prefix` (SPEC_FULL.md, sections 4.4 and 11).
-/

namespace SqlBroker

/-- What a backend can do. -/
structure Capabilities where
  backend : Backend
  /-- Whether a statement that writes can answer with the rows that it touched. -/
  returning : Bool
  /-- Whether a statement can ask for a window of the rows. -/
  pagination : Bool
deriving DecidableEq, Repr

namespace Capabilities

/-- The schemes and what stands behind them. -/
def registry : List (String × Capabilities) :=
  [("postgres", ⟨.postgres, true, true⟩),
   ("postgresql", ⟨.postgres, true, true⟩),
   ("mysql", ⟨.mysql, false, true⟩),
   ("mariadb", ⟨.mysql, false, true⟩),
   ("sqlite", ⟨.sqlite, true, true⟩)]

/-- A text before the first colon and after it, if it has a colon. -/
def splitColon? (uri : String) : Option (List Char × List Char) :=
  let cs := uri.toList
  match cs.dropWhile (· ≠ ':') with
  | [] => none
  | _ :: rest => some (cs.takeWhile (· ≠ ':'), rest)

/-- The scheme of a connection string, without the name of a driver after a plus sign. -/
def scheme? (uri : String) : Option String :=
  match splitColon? uri with
  | none => none
  | some (cs, _) =>
    match cs.takeWhile (· ≠ '+') with
    | [] => none
    | scheme => some (String.ofList scheme)

/-- The letters, digits and plus signs that a text starts with. -/
def harmlessStart (uri : String) : String :=
  String.ofList (uri.toList.takeWhile fun c => c.isAlphanum || c == '+')

/-- The capabilities of a scheme. -/
def ofScheme? (scheme : String) : Option Capabilities :=
  registry.lookup (Text.lowerCase scheme)

/-- The capabilities behind a connection string. -/
def ofUri (uri : String) : Except Error Capabilities :=
  match scheme? uri with
  | none => .error (.unsupportedBackend (harmlessStart uri))
  | some scheme =>
    match ofScheme? scheme with
    | some caps => .ok caps
    | none => .error (.unsupportedBackend scheme)

/-- The connection string with the backend's own scheme in place of what stands before the first
colon. -/
def connectUri (caps : Capabilities) (uri : String) : String :=
  match splitColon? uri with
  | none => uri
  | some (_, rest) => caps.backend.scheme ++ String.ofList (':' :: rest)

end Capabilities

end SqlBroker
