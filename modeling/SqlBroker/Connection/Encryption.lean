import SqlBroker.Backend.Basic
import SqlBroker.Error
import SqlBroker.Text.Case

/-!
# Encryption of connections

How far a connection is to be encrypted. Postgres and MySQL have modes of their own, written in
either case of letters; without one encryption is asked for and need not be given.

Models the values that the option `ssl_mode` may have (SPEC_FULL.md, section 11).
-/

namespace SqlBroker

/-- How far a connection is to be encrypted. -/
inductive Encryption where
  | never
  | offered
  | required
deriving DecidableEq, Repr

namespace Encryption

/-- The modes of a backend. -/
def modes : Backend → List (String × Encryption)
  | .postgres =>
    [("disable", .never), ("allow", .never), ("prefer", .offered), ("require", .required),
     ("verify-ca", .required), ("verify-full", .required)]
  | .mysql =>
    [("disabled", .never), ("preferred", .offered), ("required", .required),
     ("verify_ca", .required), ("verify_identity", .required)]
  | .sqlite => []

/-- The encryption of a mode. -/
def ofName? (b : Backend) (mode : String) : Option Encryption :=
  (modes b).lookup (Text.lowerCase mode)

/-- The encryption of a mode, or `otherwise` where there is none. -/
def ofMode (b : Backend) (otherwise : Encryption) : Option String → Except UriFault Encryption
  | none => .ok otherwise
  | some mode =>
    match ofName? b mode with
    | some encryption => .ok encryption
    | none => .error (.unknownSetting "ssl_mode" mode)

end Encryption

end SqlBroker
