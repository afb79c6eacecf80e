import SqlBroker.Connection.Login
import SqlBroker.Row.Reader
import SqlBroker.Session.Param

/-!
# Databases as a session meets them

A database is what it answers: to a login, to one statement, to the question for its tables, to each
question for the columns of a table, and to being closed. Each answer may be a failure, or not come
before the limit. The answer about a table may depend on the tables asked about before.

A session leaves a list of events: what the database was asked, in order.

Models what `open`, `run`, `list_tables`, `list_columns` and `close` ask of a database
(SPEC_FULL.md, section 4.5).
-/

namespace SqlBroker.Session

/-- What comes back from a database. -/
inductive Reply (α : Type) where
  | answer (a : α)
  | failure (f : Fault)
  /-- No answer within the limit. -/
  | silence
deriving DecidableEq, Repr

/-- An answer changed, all else left as it is. -/
def Reply.map {α β : Type} (f : α → β) : Reply α → Reply β
  | .answer a => .answer (f a)
  | .failure fault => .failure fault
  | .silence => .silence

/-- A database, by its answers. -/
structure Server where
  connect : Login → Reply Unit
  run : (text : String) → (params : List Param) → Reply ResultSet
  /-- The names of the tables. -/
  tables : Reply (List Cell)
  /-- The rows that describe the columns of a table, after questions about other tables. -/
  columns : (asked : List String) → (table : String) → Reply (List (List Cell))
  close : Reply Unit

/-- The same database where it cannot be reached encrypted. -/
def Server.withoutEncryption (s : Server) : Server :=
  { s with
    connect := fun login =>
      if login.encryption = .required then .failure .noEncryption else s.connect login }

/-- Something that a database is asked; a login and the closing with what came of them. -/
inductive Event where
  | connect (login : Login) (reply : Reply Unit)
  | statement (text : String) (params : List Param)
  | listTables
  | listColumns (table : String)
  | close (reply : Reply Unit)
deriving DecidableEq, Repr

/-- A result and the events on the way to it. -/
structure Logged (α : Type) where
  value : α
  events : List Event
deriving Repr

namespace Logged

variable {α β : Type}

/-- A result without events. -/
def quiet (a : α) : Logged α := ⟨a, []⟩

/-- The same after one more event. -/
def after (e : Event) (l : Logged α) : Logged α := ⟨l.value, e :: l.events⟩

/-- The result changed, the events as they are. -/
def map (f : α → β) (l : Logged α) : Logged β := ⟨f l.value, l.events⟩

end Logged

end SqlBroker.Session
