import SqlBroker.Http.Answer
import SqlBroker.Http.MediaType
import SqlBroker.Json.Reader
import SqlBroker.Request.Decode
import SqlBroker.Service

/-!
# The service over HTTP

There are two places: one for queries, which are posted as JSON, and one that tells that the service
is up. A body is looked at in this order: whether it is said to be JSON, whether it is JSON, whether
it decodes. Everything that is wrong with it is a malformed request.

Models `router`, `execute_query` and `healthz` (SPEC_FULL.md, section 15), for bodies that are
texts: the limit on the length of a body is left out, and so are bytes that are no UTF-8.
-/

namespace SqlBroker.Http

/-- A request as it comes in. -/
structure Request where
  method : String
  /-- The path, and what may follow it after a question mark or a number sign. -/
  target : String
  contentType : Option String
  /-- The body, which is a text within the limit of its length. -/
  body : String
deriving DecidableEq, Repr

/-- What there is to be asked. -/
inductive Route where
  | query
  | health
deriving DecidableEq, Repr

namespace Route

/-- The path of a route. -/
def path : Route → String
  | .query => "/api/v1/query"
  | .health => "/healthz"

/-- Every route. -/
def all : List Route := [.query, .health]

/-- The methods of a route. -/
def methods : Route → List String
  | .query => ["POST"]
  | .health => ["GET", "HEAD"]

/-- The route of a target. -/
def ofTarget? (target : String) : Option Route :=
  let path := String.ofList (target.toList.takeWhile (· ∉ ['?', '#']))
  all.find? (·.path = path)

end Route

/-! ## Bodies -/

/-- Why a body holds no request. -/
inductive BodyFault where
  /-- It is not said to be JSON. -/
  | otherType
  /-- It is no JSON text. -/
  | unreadable
  | undecodable (fault : Decode.Fault)
deriving DecidableEq, Repr

/-- A text on one line. -/
def onOneLine (s : String) : String :=
  String.ofList (s.toList.map fun c => if c = '\n' then ' ' else c)

/-- The fault in words. -/
def BodyFault.message : BodyFault → String
  | .otherType => "Expected request with `Content-Type: application/json`"
  | .unreadable => "Failed to parse the request body as JSON"
  | .undecodable fault =>
    onOneLine s!"Failed to deserialize the JSON body into the target type: {fault.message}"

/-- Whether a request says that its body is JSON. -/
def Request.isJson (r : Request) : Bool :=
  ((r.contentType >>= MediaType.read?).map MediaType.isJson).getD false

/-- The envelope that a JSON text holds. -/
def readEnvelope (text : String) : Except BodyFault Envelope :=
  match Decode.fromText SqlBroker.Request.decodeEnvelope text with
  | .ok e => .ok e
  | .error fault =>
    if fault.reason = .malformed then .error .unreadable else .error (.undecodable fault)

/-- The envelope in the body of a request. That a body is too long, or bytes that are no text, is
not among the faults. -/
def Request.envelope (r : Request) : Except BodyFault Envelope :=
  if r.isJson then readEnvelope r.body else .error .otherType

/-! ## Answers -/

/-- The answer to a result or an error. -/
def answerTo : Except Error Session.Result → Answer
  | .ok result => .ofResult result.toJson
  | .error e => .ofError e

/-- The answer to a query, and what the database was asked for it. -/
def answerQuery (settings : Settings) (server : Session.Server) (r : Request) :
    Session.Logged Answer :=
  match r.envelope with
  | .error fault => .quiet (.ofError (.requestShape (.described fault.message)))
  | .ok e => (serve settings server e).map answerTo

/-- The answer to a request. Asking for the options of a place is answered everywhere. -/
def respond (settings : Settings) (server : Session.Server) (r : Request) :
    Session.Logged Answer :=
  if r.method = "OPTIONS" then .quiet (.ofText 200 "")
  else
    match Route.ofTarget? r.target with
    | none => .quiet (.ofText 404 "")
    | some route =>
      if r.method ∉ route.methods then .quiet (.ofText 405 "")
      else
        match route with
        | .query => answerQuery settings server r
        | .health => .quiet (.ofText 200 (if r.method = "HEAD" then "" else "ok"))

end SqlBroker.Http
