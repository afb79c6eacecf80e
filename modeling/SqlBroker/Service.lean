import SqlBroker.Session.Run
import SqlBroker.Settings.Basic

/-!
# The service

From a request to its result. Everything that the request alone decides is decided first, in this
order: whether it is valid, which backend it is for, what is to be done, and what its connection
options are. Only then is the connection string read, and only then a connection opened.

Models `run_envelope`, and the start of `execute` (SPEC_FULL.md, sections 2 and 7).
-/

namespace SqlBroker

/-- Does what a plan says on the database that a connection leads to. Opening and working may each
take as long as the options say, or else `usual`. -/
def Connection.execute (c : Connection) (caps : Capabilities) (usual : Duration)
    (server : Session.Server) (plan : Plan) : Session.Logged (Except Error Session.Result) :=
  match ConnectionOptions.ofMap caps.backend c.options with
  | .error error => .quiet (.error error)
  | .ok options =>
    match Login.of caps.backend (caps.connectUri c.uri) options with
    | .error fault => .quiet (.error (.requestShape (.badUri fault)))
    | .ok login =>
      Session.execute caps.backend server login (options.statementTimeout.getD usual) plan

/-- What the backend of a request can do, and the plan for it. -/
def Envelope.plan (settings : Settings) (e : Envelope) : Except Error (Capabilities × Plan) := do
  e.validate settings.maxFilterDepth
  let caps ← Capabilities.ofUri e.connection.uri
  let plan ← Plan.ofOperation caps e.operation
  return (caps, plan)

/-- The result of a request, and what the database was asked for it. -/
def serve (settings : Settings) (server : Session.Server) (e : Envelope) :
    Session.Logged (Except Error Session.Result) :=
  match e.plan settings with
  | .error error => .quiet (.error error)
  | .ok (caps, plan) => e.connection.execute caps settings.statementTimeout server plan

end SqlBroker
