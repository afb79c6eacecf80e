import SqlBroker.Plan
import SqlBroker.Session.Inspect

/-!
# Sessions

A session opens a connection, does the one thing that a plan says, and closes the connection
whatever came of it. How the closing goes changes nothing. Opening and working are each limited by
the same length of time. A login that no database could understand is not tried.

Models `run` and `execute` (SPEC_FULL.md, section 4.5).
-/

namespace SqlBroker.Session

/-- What a request gets from a database. -/
inductive Result where
  | rows (objects : List (Keyed Json))
  | catalog (c : Catalog)
  /-- The statement was run and answers with no rows. -/
  | done
deriving Repr

/-- The result as JSON. -/
def Result.toJson : Result → Json
  | .rows objects => .array (objects.map Json.ofKeyed)
  | .catalog c => c.toJson
  | .done => .null

/-- The result of a statement. -/
def resultOf (b : Backend) (returnsRows : Bool) (r : ResultSet) : Result :=
  if returnsRows then .rows (r.objects b) else .done

/-- Runs one statement. Where a value has no form in which it could be sent, nothing is. -/
def runStatement (b : Backend) (server : Server) (s : Sql.Statement) : Logged (Reply Result) :=
  let script := s.script b
  match Param.ofValues b 1 script.params with
  | .error f => .quiet (.failure f)
  | .ok params =>
    ⟨(server.run script.text params).map (resultOf b s.returnsRows),
      [.statement script.text params]⟩

/-- Does what a plan says. -/
def perform (b : Backend) (server : Server) : Plan → Logged (Reply Result)
  | .statement s => runStatement b server s
  | .inspect tables => (inspect b server tables).map (Reply.map .catalog)

/-- The result of a reply for the caller; `late` is the error where there is none in time. -/
def settle {α : Type} (b : Backend) (late : Error) : Reply α → Except Error α
  | .answer a => .ok a
  | .failure f => .error (f.toError b)
  | .silence => .error late

/-- Opens a connection, does what a plan says, and closes the connection. -/
def converse (b : Backend) (server : Server) (login : Login) (limit : Duration) (plan : Plan) :
    Logged (Except Error Result) :=
  let opened := server.connect login
  match settle b (.execution (.connectTimeout limit)) opened with
  | .error e => ⟨.error e, [.connect login opened]⟩
  | .ok () =>
    let work := perform b server plan
    ⟨settle b (.execution (.statementTimeout limit)) work.value,
      .connect login opened :: work.events ++ [.close server.close]⟩

/-- What keeps a login from being tried. -/
def unfit? : Login → Option Fault
  | .mysql _ _ charset collation =>
    if !Charset.isCharset charset then some (.unknownCharset charset)
    else (collation.filter (!Charset.isCollation ·)).map .unknownCollation
  | _ => none

/-- A whole session, from a login to the result of a plan. -/
def execute (b : Backend) (server : Server) (login : Login) (limit : Duration) (plan : Plan) :
    Logged (Except Error Result) :=
  match unfit? login with
  | some f => .quiet (.error (f.toError b))
  | none => converse b server login limit plan

end SqlBroker.Session
