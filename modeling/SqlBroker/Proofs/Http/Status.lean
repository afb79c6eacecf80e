import SqlBroker.Http.Service
import SqlBroker.Proofs.Service
import SqlBroker.Proofs.Session.Alike
import SqlBroker.Proofs.Session.Ending

/-!
# What the answer to a query tells

The answer to a query says by its status how the request ended, and by its body no more than that
kind of ending allows. An expired login is answered with an empty result and nothing else, so that
what the database said about it is not passed on; and what an inspection keeps to itself does not
show in the status.

Concerns `execute_query`, `status` and `into_response` (SPEC_FULL.md, sections 6, 7 and 10.2).

Headlines:
* **`serve_expired_iff`**, **`serve_alike`**: which requests end by an expired login, and what the
  end of a request depends on.
* **`respond_separates`**: the answers to queries, by their endings.
-/

namespace SqlBroker

open Session

variable {settings : Settings} {server : Server} {e : Envelope}

/-! ## Requests and their sessions -/

/-- A request alone decides whether a database hears of it, and which session it is then. -/
theorem serve_eq (settings : Settings) (e : Envelope) :
    (∃ error, ∀ server, serve settings server e = .quiet (.error error)) ∨
    ∃ caps login limit plan, Capabilities.ofUri e.connection.uri = .ok caps ∧
      ∀ server, serve settings server e = converse caps.backend server login limit plan := by
  unfold serve
  cases planned : e.plan settings with
  | error error => exact .inl ⟨error, fun _ => rfl⟩
  | ok both =>
    obtain ⟨caps, plan⟩ := both
    obtain ⟨_, -, rest⟩ := bind_eq_ok_iff.mp planned
    obtain ⟨caps', backend, rest⟩ := bind_eq_ok_iff.mp rest
    obtain ⟨plan', -, same⟩ := bind_eq_ok_iff.mp rest
    obtain ⟨rfl, rfl⟩ := Prod.mk.inj (Except.ok.inj same)
    rcases e.connection.execute_eq caps' settings.statementTimeout with
      ⟨error, -, quiet⟩ | ⟨login, run⟩
    · exact .inl ⟨error, fun server => quiet server plan'⟩
    · exact .inr ⟨caps', login, _, plan', backend, fun server => run server plan'⟩

/-- A login that was not tried has not expired. -/
theorem quiet_ne_expired {error : Error} (h : serve settings server e = .quiet (.error error))
    (reason : String) : error ≠ .authenticationExpired reason := by
  rintro rfl
  have value := congrArg Logged.value h
  rcases serve_error value with refused | ⟨_, badUri⟩ | ⟨-, _, _, -, -, given⟩ | ⟨-, _, tried⟩
  · exact absurd refused.kind (by simp [Error.isShape, Error.isMeaning])
  · cases badUri
  · cases given
  · rw [h] at tried
    exact absurd tried List.not_mem_nil

/-- **A request ends by an expired login** iff a failure of the login has ended it. -/
theorem serve_expired_iff {reason : String} :
    (serve settings server e).value = .error (.authenticationExpired reason) ↔
      ∃ caps f, Capabilities.ofUri e.connection.uri = .ok caps ∧
        f.isLoginFailure caps.backend = true ∧ f.message = reason ∧
          server.EndedBy (serve settings server e).events f := by
  rcases serve_eq settings e with ⟨error, quiet⟩ | ⟨caps, login, limit, plan, backend, run⟩
  · rw [quiet server]
    constructor
    · intro h
      exact absurd (Except.error.inj h) (quiet_ne_expired (quiet server) reason)
    · rintro ⟨_, _, -, -, -, before, e, after, none, -⟩
      exact absurd none (by simp [Logged.quiet])
  · rw [run server, converse_expired_iff]
    constructor
    · rintro ⟨f, isLogin, message, ended⟩
      exact ⟨caps, f, backend, isLogin, message, ended⟩
    · rintro ⟨caps', f, backend', isLogin, message, ended⟩
      obtain rfl := Except.ok.inj (backend.symm.trans backend')
      exact ⟨f, isLogin, message, ended⟩

/-- **Two databases that answer alike let a request end alike.** -/
theorem serve_alike {told : Prop} {server' : Server}
    (alike : ∀ caps, Capabilities.ofUri e.connection.uri = .ok caps →
      server.Alike caps.backend told server') :
    EndAlike told (serve settings server e).value (serve settings server' e).value := by
  rcases serve_eq settings e with ⟨error, quiet⟩ | ⟨caps, login, limit, plan, backend, run⟩
  · rw [quiet server, quiet server']
    exact .errors error
  · rw [run server, run server']
    exact converse_alike (alike caps backend) login limit plan

namespace Http

variable {r : Request}

/-! ## Queries -/

/-- Whether a request is posted to the place for queries. -/
def Request.IsQuery (r : Request) : Prop :=
  r.method = "POST" ∧ Route.ofTarget? r.target = some .query

/-- The backend that a request is for. -/
def Request.backend? (r : Request) : Option Backend :=
  match r.envelope with
  | .error _ => none
  | .ok e => (Capabilities.ofUri e.connection.uri).toOption.map Capabilities.backend

theorem Request.backend?_eq_some_iff (h : r.envelope = .ok e) {b : Backend} :
    r.backend? = some b ↔
      ∃ caps, Capabilities.ofUri e.connection.uri = .ok caps ∧ caps.backend = b := by
  unfold backend?
  rw [h]
  dsimp only
  cases Capabilities.ofUri e.connection.uri with
  | error error => exact iff_of_false nofun nofun
  | ok caps => simp [Except.toOption]

theorem respond_posted (posted : r.IsQuery) :
    respond settings server r = answerQuery settings server r := by
  obtain ⟨method, target⟩ := posted
  unfold respond
  rw [method, target]
  rfl

theorem respond_undecodable (posted : r.IsQuery) {fault : BodyFault}
    (h : r.envelope = .error fault) :
    respond settings server r =
      .quiet (.ofError (.requestShape (.described fault.message))) := by
  rw [respond_posted posted, answerQuery, h]

theorem respond_decoded (posted : r.IsQuery) (h : r.envelope = .ok e) :
    respond settings server r = (serve settings server e).map answerTo := by
  rw [respond_posted posted, answerQuery, h]

/-! ## Answers -/

theorem status_answerTo_eq_expired_iff {outcome : Except Error Result} :
    (answerTo outcome).status = 401 ↔
      ∃ reason, outcome = .error (.authenticationExpired reason) := by
  cases outcome with
  | ok result => exact iff_of_false nofun nofun
  | error error =>
    cases error with
    | authenticationExpired reason => exact iff_of_true rfl ⟨reason, rfl⟩
    | _ => exact iff_of_false nofun nofun

/-- What an inspection finds out about one table is not the end of a request. -/
theorem answerTo_failed {outcome : Except Error Result}
    (kept : ∀ table reason, outcome ≠ .error (.introspection table reason))
    (h : (answerTo outcome).status = 500) : ∃ fault, outcome = .error (.execution fault) := by
  cases outcome with
  | ok result => exact nomatch h
  | error error =>
    cases error with
    | execution fault => exact ⟨fault, rfl⟩
    | introspection table reason => exact absurd rfl (kept table reason)
    | _ => exact nomatch h

theorem serve_ne_introspection (settings : Settings) (server : Server) (e : Envelope)
    (table reason : String) :
    (serve settings server e).value ≠ .error (.introspection table reason) := by
  intro h
  rcases serve_error h with refused | ⟨_, badUri⟩ | ⟨-, _, _, -, -, given⟩ | ⟨kind, -⟩
  · exact absurd refused.kind (by simp [Error.isShape, Error.isMeaning])
  · cases badUri
  · cases given
  · cases kind

/-- A failed execution comes after a login that was tried; or else MySQL's client knows no such
character set or collation. -/
theorem serve_failed {fault : ExecutionFault}
    (h : (serve settings server e).value = .error (.execution fault)) :
    (∃ login, .connect login (server.connect login) ∈ (serve settings server e).events) ∨
    (serve settings server e).events = [] ∧ ∃ address encryption charset collation,
      e.LeadsTo (.mysql address encryption charset collation) ∧
        (Charset.isCharset charset = false ∨
          ∃ c, collation = some c ∧ Charset.isCollation c = false) := by
  rcases serve_error h with refused | ⟨_, badUri⟩ | ⟨untried, _, f, leads, unfit, -⟩ | ⟨-, tried⟩
  · exact absurd refused.kind (by simp [Error.isShape, Error.isMeaning])
  · cases badUri
  · obtain ⟨address, encryption, charset, collation, rfl, unknown⟩ := unfit?_eq_some unfit
    refine .inr ⟨untried, address, encryption, charset, collation, leads, ?_⟩
    rcases unknown with ⟨unknown, -⟩ | ⟨c, same, unknown, -⟩
    · exact .inl unknown
    · exact .inr ⟨c, same, unknown⟩
  · exact .inl tried

/-- **Endings that are alike have one answer**, or at least one status. -/
theorem answerTo_alike {told : Prop} {outcome outcome' : Except Error Result}
    (h : EndAlike told outcome outcome') :
    (answerTo outcome).status = (answerTo outcome').status ∧
      (told → answerTo outcome = answerTo outcome') := by
  cases h with
  | results same => exact ⟨rfl, fun isTold => by rw [same isTold]⟩
  | expired reason reason' => exact ⟨rfl, fun _ => rfl⟩
  | errors error => exact ⟨rfl, fun _ => rfl⟩

theorem respond_alike (posted : r.IsQuery) {told : Prop} {server' : Server}
    (alike : ∀ b, r.backend? = some b → server.Alike b told server') :
    (respond settings server r).value.status = (respond settings server' r).value.status ∧
      (told → (respond settings server r).value = (respond settings server' r).value) := by
  cases h : r.envelope with
  | error fault =>
    rw [respond_undecodable posted h, respond_undecodable posted h]
    exact ⟨rfl, fun _ => rfl⟩
  | ok e =>
    rw [respond_decoded posted h, respond_decoded posted h]
    refine answerTo_alike (serve_alike fun caps backend => ?_)
    exact alike _ ((Request.backend?_eq_some_iff h).mpr ⟨caps, backend, rfl⟩)

/-! ## What answers tell -/

/-- The answer to a malformed request. -/
def shapeAnswer (message : String) : Answer :=
  ⟨422, .json (.object [("data", .null), ("message", .string message),
    ("status_code", .number (.integer 10422))])⟩

/-- The answer to a request that fails otherwise. -/
def failureAnswer (status : Nat) (e : Error) : Answer :=
  ⟨status, .json (.object [("message", .string e.message), ("result", .null)])⟩

/-- What the answer to a query tells of its ending. -/
structure Separated (settings : Settings) (server : Server) (r : Request) : Prop where
  /-- 401 stands for a failure of the login that ended the request. -/
  expired_iff : (respond settings server r).value.status = 401 ↔
    ∃ b f, r.backend? = some b ∧ f.isLoginFailure b = true ∧
      server.EndedBy (respond settings server r).events f
  /-- It tells nothing else. -/
  expired : (respond settings server r).value.status = 401 →
    (respond settings server r).value = ⟨401, .json (.object [("result", .null)])⟩
  /-- Nothing depends on the words for a failure of the login. -/
  alike : ∀ server', (∀ b, r.backend? = some b → server.Alike b True server') →
    (respond settings server' r).value = (respond settings server r).value
  /-- 422 stands for a body that does not decode. -/
  undecodable : ∀ fault, r.envelope = .error fault →
    respond settings server r = .quiet (shapeAnswer fault.message)
  /-- And for a request that is malformed. -/
  malformed : ∀ e fault, r.envelope = .ok e →
    (serve settings server e).value = .error (.requestShape fault) →
      (respond settings server r).value = shapeAnswer fault.message
  /-- 500 stands for a failed execution. -/
  failed_only : (respond settings server r).value.status = 500 →
    ∃ e fault, r.envelope = .ok e ∧ (serve settings server e).value = .error (.execution fault)
  /-- It comes after a login, or else MySQL's client knows no such character set or collation. -/
  failed : ∀ e fault, r.envelope = .ok e →
    (serve settings server e).value = .error (.execution fault) →
      (respond settings server r).value = failureAnswer 500 (.execution fault) ∧
      ((∃ login, .connect login (server.connect login) ∈ (respond settings server r).events) ∨
      (respond settings server r).events = [] ∧ ∃ address encryption charset collation,
        e.LeadsTo (.mysql address encryption charset collation) ∧
          (Charset.isCharset charset = false ∨
            ∃ c, collation = some c ∧ Charset.isCollation c = false))
  /-- 400 stands for everything else. -/
  other : ∀ e error, r.envelope = .ok e → (serve settings server e).value = .error error →
    error.isShape = false → error.isOfDatabase = false →
      (respond settings server r).value = failureAnswer 400 error
  /-- 200 stands for a result. -/
  result : ∀ e result, r.envelope = .ok e → (serve settings server e).value = .ok result →
    (respond settings server r).value = ⟨200, .json (.object [("result", result.toJson)])⟩
  /-- What is found out about tables does not show in the status. -/
  isolated : ∀ server', (∀ b, r.backend? = some b → server.Alike b False server') →
    (respond settings server' r).value.status = (respond settings server r).value.status

section

variable (posted : r.IsQuery)

include posted

theorem respond_value (h : r.envelope = .ok e) {outcome : Except Error Result}
    (ended : (serve settings server e).value = outcome) :
    (respond settings server r).value = answerTo outcome := by
  rw [respond_decoded posted h, Logged.map, ended]

/-- A body that is not answered with 422 has been decoded. -/
theorem decoded_of_status {status : Nat}
    (answered : (respond settings server r).value.status = status) (decodes : status ≠ 422) :
    ∃ e, r.envelope = .ok e ∧
      (respond settings server r).value = answerTo (serve settings server e).value := by
  cases h : r.envelope with
  | error fault =>
    rw [respond_undecodable posted h] at answered
    exact absurd answered.symm decodes
  | ok e => exact ⟨e, rfl, respond_value posted h rfl⟩

theorem respond_expired_iff : (respond settings server r).value.status = 401 ↔
    ∃ e reason, r.envelope = .ok e ∧
      (serve settings server e).value = .error (.authenticationExpired reason) := by
  constructor
  · intro status
    obtain ⟨e, h, answer⟩ := decoded_of_status posted status (by decide)
    rw [answer] at status
    obtain ⟨reason, expired⟩ := status_answerTo_eq_expired_iff.mp status
    exact ⟨e, reason, h, expired⟩
  · rintro ⟨e, reason, h, expired⟩
    rw [respond_value posted h expired]
    rfl

theorem respond_failed (status : (respond settings server r).value.status = 500) :
    ∃ e fault, r.envelope = .ok e ∧
      (serve settings server e).value = .error (.execution fault) := by
  obtain ⟨e, h, answer⟩ := decoded_of_status posted status (by decide)
  rw [answer] at status
  obtain ⟨fault, failed⟩ := answerTo_failed (serve_ne_introspection settings server e) status
  exact ⟨e, fault, h, failed⟩

/-- A request is answered with 401 if a failure of the login ended it, and only then. -/
theorem respond_expired_iff_ended : (respond settings server r).value.status = 401 ↔
    ∃ b f, r.backend? = some b ∧ f.isLoginFailure b = true ∧
      server.EndedBy (respond settings server r).events f := by
  rw [respond_expired_iff posted]
  constructor
  · rintro ⟨e, reason, h, expired⟩
    obtain ⟨caps, f, known, isLogin, -, ended⟩ := serve_expired_iff.mp expired
    rw [respond_decoded posted h]
    exact ⟨caps.backend, f, (Request.backend?_eq_some_iff h).mpr ⟨caps, known, rfl⟩, isLogin, ended⟩
  · rintro ⟨b, f, backend, isLogin, ended⟩
    cases h : r.envelope with
    | error fault =>
      rw [Request.backend?, h] at backend
      cases backend
    | ok e =>
      rw [respond_decoded posted h] at ended
      obtain ⟨caps, known, rfl⟩ := (Request.backend?_eq_some_iff h).mp backend
      exact ⟨e, f.message, rfl, serve_expired_iff.mpr ⟨caps, f, known, isLogin, rfl, ended⟩⟩

end

/-- What is neither malformed nor a matter of the database is answered with 400. -/
theorem answerTo_other {error : Error} (noShape : error.isShape = false)
    (noDatabase : error.isOfDatabase = false)
    (kept : ∀ table reason, error ≠ .introspection table reason) :
    answerTo (.error error) = failureAnswer 400 error := by
  cases error with
  | requestShape fault => cases noShape
  | authenticationExpired reason => cases noDatabase
  | execution fault => cases noDatabase
  | introspection table reason => exact absurd rfl (kept table reason)
  | _ => rfl

/-- **The answer to a query tells its ending apart from all others.** -/
theorem respond_separates (settings : Settings) (server : Server) (posted : r.IsQuery) :
    Separated settings server r where
  expired_iff := respond_expired_iff_ended posted
  expired status := by
    obtain ⟨e, reason, h, expired⟩ := (respond_expired_iff posted).mp status
    exact respond_value posted h expired
  alike server' alike := ((respond_alike posted alike).2 trivial).symm
  undecodable fault h := respond_undecodable posted h
  malformed e fault h malformed := respond_value posted h malformed
  failed_only := respond_failed posted
  failed e fault h failed := by
    refine ⟨respond_value posted h failed, ?_⟩
    rw [respond_decoded posted h]
    exact serve_failed failed
  other e error h failed noShape noDatabase := by
    refine (respond_value posted h failed).trans (answerTo_other noShape noDatabase ?_)
    intro table reason same
    exact serve_ne_introspection settings server e table reason (same ▸ failed)
  result e result h done := respond_value posted h done
  isolated server' alike := (respond_alike posted alike).1.symm

/-! ### Two queries over MySQL -/

/-- A reading of a table, with the connection options as JSON text. -/
def posted (options : String) : Request where
  method := "POST"
  target := "/api/v1/query"
  contentType := some "application/json"
  body := "\x7b\"connectionDescriptor\":\x7b\"uri\":\"mysql://h/d\",\"options\":" ++ options ++
    "\x7d,\"operation\":\x7b\"op\":\"select\",\"resource\":\"t\"\x7d\x7d"

/-- A database that refuses every login, in some words. -/
def refusing (reason : String) : Server :=
  { revoked with connect := fun _ => .failure (.database (some "28000") reason) }

/-- Where the login has expired nothing is told but that, and not in which words it was. -/
theorem respond_separates_expired :
    (posted "\x7b\x7d").IsQuery ∧
      (respond .standard revoked (posted "\x7b\x7d")).value =
        ⟨401, .json (.object [("result", .null)])⟩ ∧
      (respond .standard (refusing "no such role") (posted "\x7b\x7d")).value =
        (respond .standard revoked (posted "\x7b\x7d")).value := by
  have query : (posted "\x7b\x7d").IsQuery := by
    unfold Request.IsQuery
    decide +kernel
  have separated := respond_separates .standard revoked query
  refine ⟨query, separated.expired (by decide +kernel), separated.alike _ fun b backend => ?_⟩
  have mysql : (posted "\x7b\x7d").backend? = some .mysql := by decide +kernel
  obtain rfl := Option.some.inj (mysql.symm.trans backend)
  exact ⟨fun _ => .expired rfl rfl, fun _ _ => .silences, .silences, fun _ _ => .inl .silences⟩

/-- A character set that no client knows. -/
def klingon : Request := posted "\x7b\"charset\":\"klingon\"\x7d"

/-- It makes the execution fail, and no login is tried. -/
theorem failed_untried :
    klingon.IsQuery ∧ (respond .standard revoked klingon).value.status = 500 ∧
      (respond .standard revoked klingon).events = [] := by
  unfold Request.IsQuery
  decide +kernel

end Http

end SqlBroker
