import SqlBroker.Embedded.Schema
import SqlBroker.Session.Server
import SqlBroker.Sql.Depth

/-!
# An embedded database without rows

A database in memory that tells the columns of its schema and holds no rows. Statements see the
tables that describe the schema and no other: these can be read and not written. No file can be
opened, except through a layer that keeps files in memory, and no server can be reached.
-/

namespace SqlBroker.Embedded

-- Here `^` is the power of natural numbers, whatever instances are imported beside it.
attribute [local instance (2000)] instPowNat

open Session

/-- The code for a file that cannot be opened. -/
def cannotOpen : String := "14"

/-- The code for a statement that cannot be prepared. -/
def badStatement : String := "1"

/-- The code for a number that is none of the whole numbers there are. -/
def mismatch : String := "20"

/-- The failure to reach something on the way to a database. -/
def unreached (reason : String) : Reply Unit := .failure (.unreachable reason)

/-! ## Logins -/

/-- The layers through which files are reached, and whether a layer keeps its files in memory. -/
def layers : List (String × Bool) :=
  [("unix", false), ("unix-none", false), ("unix-dotfile", false), ("unix-excl", false),
   ("memdb", true)]

/-- The layer that a parameter names: the parameter is handed on as a part of a longer string of
parameters, and there percent signs write bytes once more. -/
def layerName (value : String) : String :=
  Text.beforeNull (Text.unescaped (value.toList.takeWhile (· ∉ ['&', '#'])))

/-- Whether the store's file or layer has a null character where it is handed on as it is: the name
of a file is not, once there are other things to hand on. -/
def handsOnNull (s : Store) : Bool :=
  match s.place, s.layer with
  | _, some layer => '\x00' ∈ layer.toList
  | .file name, none => '\x00' ∈ name.toList && !s.immutable
  | .memory, none => false

/-- Whether a place can be opened: memory always, files only where they are kept in memory. -/
def opens (place : Place) (inMemory : Bool) : Reply Unit :=
  if place = .memory ∨ inMemory then .answer ()
  else .failure (.database (some cannotOpen) "unable to open database file")

/-- The answer to the opening of a store. -/
def openStore (s : Store) : Reply Unit :=
  if handsOnNull s then unreached "filename passed to SQLite must not contain nul bytes"
  else
    match s.layer.map layerName with
    | none => opens s.place false
    | some layer =>
      match layers.lookup layer with
      | some inMemory => opens s.place inMemory
      | none => .failure (.database (some badStatement) s!"no such vfs: {layer}")

/-- The longest that a locked file can be waited for, in milliseconds. -/
def patienceMax : Nat := 2 ^ (31 : Nat) - 1

/-- Whether a locked file can be waited for so long. -/
def isPatience (d : Duration) : Bool := d.nanos / 1000000 ≤ patienceMax

/-- The failure to reach a server: none listens on any host, and there is no socket. -/
def reach (address : Address) : Reply Unit :=
  if address.socket.isSome then unreached "No such file or directory (os error 2)"
  else unreached "Connection refused (os error 111)"

/-- The answer to a login. -/
def connect : Login → Reply Unit
  | .sqlite store patience =>
    match openStore store with
    | .answer () => if patience.all isPatience then .answer () else .failure .workerLost
    | reply => reply
  | .postgres address _ _ => reach address
  | .mysql address _ _ _ => reach address

/-! ## Statements -/

/-- Whether a statement reads. -/
def reads (text : String) : Bool := "SELECT ".toList.isPrefixOf text.toList

/-- The failure of a statement that cannot be prepared. -/
def refused (message : String) : Reply ResultSet :=
  .failure (.database (some badStatement) message)

/-- Whether a number in a statement is a whole number of the database. -/
def isWhole (n : Nat) : Bool := n < 2 ^ (63 : Nat)

/-- Whether a window is of whole numbers; one that takes no rows does not look at what it passes
over. -/
def isCountable (w : Sql.Window) : Bool := isWhole w.limit && (w.limit == 0 || isWhole w.offset)

/-- The answer to a statement that reads one of the database's own tables. -/
def readOwn (text : String) : Reply ResultSet :=
  if (Sql.lastWindow? text).all isCountable then
    .answer ⟨ownColumns.map fun c => ⟨c.name, c.type⟩, []⟩
  else .failure (.database (some mismatch) "datatype mismatch")

/-- The greatest depth of a condition. -/
def depthMax : Nat := 1000

/-- The answer to a statement about a table. -/
def runOn (table text : String) : Reply ResultSet :=
  match ownTable? table with
  | none => refused s!"no such table: {table}"
  | some own =>
    if reads text then readOwn text
    else refused s!"table {own} may not be modified"

/-- The most values that one statement can have. -/
def paramsMax : Nat := 32766

/-- The answer to a statement whose names are all closed: how many values and how much depth it has
is looked at before its names are. -/
def runClosed (text : String) (params : List Param) : Reply ResultSet :=
  if depthMax < Sql.conditionDepth .sqlite text then
    refused s!"Expression tree is too large (maximum depth {depthMax})"
  else if paramsMax < params.length then refused "too many SQL variables"
  else runOn ((Sql.firstName? .sqlite text).getD "") text

/-- The answer to a statement, of which the part before the first null character is read. -/
def run (text : String) (params : List Param) : Reply ResultSet :=
  let seen := Text.beforeNull text
  match Sql.unclosedName? (Sql.nameQuote .sqlite) seen.toList with
  | some name => refused s!"unrecognized token: \"{String.ofList name}\""
  | none => runClosed seen params

/-- The embedded database of a schema. -/
def server (schema : Schema) : Server where
  connect := connect
  run := run
  tables := .answer (schema.tableNames.map Cell.ofText)
  columns _ table := .answer ((schema.columns table).map ColumnDecl.cells)
  close := .answer ()

end SqlBroker.Embedded
