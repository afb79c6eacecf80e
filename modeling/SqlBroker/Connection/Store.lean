import SqlBroker.Connection.Query
import SqlBroker.Error
import SqlBroker.Text.Encoded

/-!
# Where an embedded database is kept

In memory, or in a file. The connection string has the name, where percent signs write bytes, and
after a question mark parameters. The parameters are taken in their order and the first that does
not fit is the fault.

Models what `open` finds in the connection string of SQLite (SPEC_FULL.md, section 11).
-/

namespace SqlBroker

/-- A place for an embedded database. -/
inductive Place where
  | memory
  | file (name : String)
deriving DecidableEq, Repr

/-- Where an embedded database is kept: its place, whether nobody writes to it, and the layer
through which files are reached, if one is named. -/
structure Store where
  place : Place
  immutable : Bool
  layer : Option String
deriving DecidableEq, Repr

namespace Store

/-! ## Parameters -/

/-- The values that a parameter may have. -/
def allowed : List (String × List String) :=
  [("mode", ["ro", "rw", "rwc", "memory"]), ("cache", ["private", "shared"]),
   ("immutable", ["true", "1", "false", "0"])]

/-- The store with a value of a parameter: the mode for memory gives up the file. -/
def withSetting (s : Store) (name value : String) : Store :=
  if name = "mode" ∧ value = "memory" then { s with place := .memory }
  else if name = "immutable" then { s with immutable := value ∈ ["true", "1"] }
  else s

/-- The store after one parameter. -/
def take (s : Store) (name value : String) : Except UriFault Store :=
  match allowed.lookup name with
  | some values =>
    if value ∈ values then .ok (s.withSetting name value) else .error (.unknownSetting name value)
  | none =>
    if name = "vfs" then .ok { s with layer := some value } else .error (.unknownKey name)

/-- The store after parameters. -/
def takeAll : Store → List (String × String) → Except UriFault Store
  | s, [] => .ok s
  | s, (name, value) :: rest => do
    let s ← s.take name value
    takeAll s rest

/-! ## Names -/

/-- A text without any number of repetitions of a start. -/
def withoutStart (start : List Char) (cs : List Char) : List Char :=
  if _ : start ≠ [] ∧ start.isPrefixOf cs then withoutStart start (cs.drop start.length) else cs
termination_by cs.length
decreasing_by
  rename_i h
  have := (List.isPrefixOf_iff_prefix.mp h.2).length_le
  have := List.length_pos_iff.mpr h.1
  simp only [List.length_drop]
  omega

/-- The names of a database that is kept in no file: no name is one of them. -/
def memoryNames : List String := ["", ":memory:"]

/-- The place of a name. -/
def placeOf (cs : List Char) : Except UriFault Place :=
  if String.ofList cs ∈ memoryNames then .ok .memory
  else ((Text.decode (Text.percentDecoded cs)).mapError .notText).map .file

/-- The store that a connection string names. -/
def read (uri : String) : Except UriFault Store := do
  let cs := withoutStart "sqlite:".toList (withoutStart "sqlite://".toList uri.toList)
  let place ← placeOf (cs.takeWhile (· ≠ '?'))
  takeAll ⟨place, false, none⟩ (Query.parameters ((cs.dropWhile (· ≠ '?')).drop 1))

end Store

end SqlBroker
