import SqlBroker.Proofs.Refusal
import SqlBroker.Proofs.Session.Release

/-!
# How far a request comes

A request that is wrong by itself comes no further than the first check that finds it so, and no
database hears of it (`Envelope.Refused`). What is wrong with its connection string is found next,
still without a database. From then on every error is that of a database or of the way to it. There
is one such error without a login having been tried: a client of MySQL knows the character sets and
collations itself, and gives up on the others (`Session.unfit?`).

Concerns `run_envelope` (SPEC_FULL.md, sections 2 and 7).

Headlines:
* **`serve_of_refused`**: a refused request has no other effect than its error.
* **`serve_cases`**, **`serve_error`**: how far any request comes, and what errors it has there.
* **`serve_refuses_first`**: which errors come with a login that was tried, and which without.
-/

namespace SqlBroker

/-- The errors of a request that is wrong by itself: the first check to fail has the word. -/
inductive Envelope.Refused (settings : Settings) (e : Envelope) : Error → Prop
  | invalid {error : Error} (h : e.validate settings.maxFilterDepth = .error error) :
    Refused settings e error
  | backend {error : Error} (valid : e.validate settings.maxFilterDepth = .ok ())
    (h : Capabilities.ofUri e.connection.uri = .error error) : Refused settings e error
  | plan {caps : Capabilities} {error : Error}
    (valid : e.validate settings.maxFilterDepth = .ok ())
    (backend : Capabilities.ofUri e.connection.uri = .ok caps)
    (h : Plan.ofOperation caps e.operation = .error error) : Refused settings e error
  | options {caps : Capabilities} {plan : Plan} {error : Error}
    (valid : e.validate settings.maxFilterDepth = .ok ())
    (backend : Capabilities.ofUri e.connection.uri = .ok caps)
    (planned : Plan.ofOperation caps e.operation = .ok plan)
    (h : ConnectionOptions.ofMap caps.backend e.connection.options = .error error) :
    Refused settings e error

/-- The login of a request in which the connection string, too, can be used. -/
def Envelope.LeadsTo (e : Envelope) (login : Login) : Prop :=
  ∃ caps options, Capabilities.ofUri e.connection.uri = .ok caps ∧
    ConnectionOptions.ofMap caps.backend e.connection.options = .ok options ∧
    Login.of caps.backend (caps.connectUri e.connection.uri) options = .ok login

variable {settings : Settings} {server : Session.Server} {e : Envelope} {error : Error}

/-! ## Refused requests -/

/-- **A refused request is answered at once**, and no database is asked anything. -/
theorem serve_of_refused (h : e.Refused settings error) :
    serve settings server e = .quiet (.error error) := by
  unfold serve Envelope.plan
  cases h with
  | invalid h => rw [h]; rfl
  | backend valid h => rw [valid]; simp only [bind, Except.bind, h]
  | plan valid backend h => rw [valid]; simp only [bind, Except.bind, backend, h]
  | options valid backend planned h =>
    rw [valid]
    simp only [bind, Except.bind, backend, planned, pure, Except.pure, Connection.execute, h]

/-- A refusal is about the shape of the request, its backend or its meaning. -/
theorem Envelope.Refused.kind (h : e.Refused settings error) :
    error.isShape ∨ (∃ scheme, error = .unsupportedBackend scheme) ∨ error.isMeaning := by
  cases h with
  | invalid h => exact .inl (e.failsAs_validate _ error h)
  | backend _ h => exact .inr (.inl (Capabilities.ofUri_error h))
  | plan _ _ h => exact .inr (.inr (Plan.failsAs_ofOperation _ _ error h))
  | options _ _ _ h => exact .inl (ConnectionOptions.failsAs_ofMap _ _ error h)

/-! ## Logins that are given up -/

namespace Session

/-- **Only MySQL's client gives up on a login**, for a character set or a collation that there is
not. -/
theorem unfit?_eq_some {login : Login} {f : Fault} (h : unfit? login = some f) :
    ∃ address encryption charset collation, login = .mysql address encryption charset collation ∧
      (Charset.isCharset charset = false ∧ f = .unknownCharset charset ∨
        ∃ c, collation = some c ∧ Charset.isCollation c = false ∧ f = .unknownCollation c) := by
  cases login with
  | postgres => exact nomatch h
  | sqlite => exact nomatch h
  | mysql address encryption charset collation =>
    refine ⟨address, encryption, charset, collation, rfl, ?_⟩
    simp only [unfit?] at h
    split at h
    · rename_i unknown
      exact .inl ⟨by simpa using unknown, (Option.some.inj h).symm⟩
    · obtain ⟨c, kept, rfl⟩ := Option.map_eq_some_iff.mp h
      obtain ⟨rfl, unknown⟩ := Option.filter_eq_some_iff.mp kept
      exact .inr ⟨c, rfl, by simpa using unknown, rfl⟩

theorem toError_of_unfit (b : Backend) {login : Login} {f : Fault} (h : unfit? login = some f) :
    f.toError b = .execution (.reported f.message) := by
  obtain ⟨_, _, _, _, -, ⟨-, rfl⟩ | ⟨_, -, -, rfl⟩⟩ := unfit?_eq_some h
  · rfl
  · rfl

/-- Once a login is tried, errors are those of the database. -/
theorem converse_error {b : Backend} {login : Login} {limit : Duration} {plan : Plan}
    (h : (converse b server login limit plan).value = .error error) :
    error.isOfDatabase ∧
      .connect login (server.connect login) ∈ (converse b server login limit plan).events := by
  have failure (f : Fault) : (f.toError b).isOfDatabase := by
    rcases f.toError_eq b with e | e <;> rw [e] <;> rfl
  have settled {α : Type} {late : ExecutionFault} {reply : Reply α}
      (h : settle b (.execution late) reply = .error error) : error.isOfDatabase := by
    cases reply with
    | answer a => exact nomatch h
    | failure f => exact Except.error.inj h ▸ failure f
    | silence => exact Except.error.inj h ▸ rfl
  unfold converse at h ⊢
  dsimp only at h ⊢
  split at h
  · rename_i late
    exact ⟨settled (late.trans (congrArg _ (Except.error.inj h))), List.mem_singleton.mpr rfl⟩
  · exact ⟨settled h, List.mem_cons_self⟩

end Session

/-! ## All requests -/

open Session

/-- **How far a request comes**: it is refused, or its connection string is found wrong, or its
login is given up, or else it is tried. -/
theorem serve_cases (settings : Settings) (server : Server) (e : Envelope) :
    (∃ error, e.Refused settings error ∧ serve settings server e = .quiet (.error error)) ∨
    (∃ fault, serve settings server e = .quiet (.error (.requestShape (.badUri fault)))) ∨
    (∃ login f, e.LeadsTo login ∧ unfit? login = some f ∧
      serve settings server e = .quiet (.error (.execution (.reported f.message)))) ∨
    ∃ b login limit plan, serve settings server e = converse b server login limit plan := by
  have refused {error : Error} (h : e.Refused settings error) :
      ∃ error, e.Refused settings error ∧ serve settings server e = .quiet (.error error) :=
    ⟨error, h, serve_of_refused h⟩
  cases valid : e.validate settings.maxFilterDepth with
  | error error => exact .inl (refused (.invalid valid))
  | ok _ =>
  cases backend : Capabilities.ofUri e.connection.uri with
  | error error => exact .inl (refused (.backend valid backend))
  | ok caps =>
  cases planned : Plan.ofOperation caps e.operation with
  | error error => exact .inl (refused (.plan valid backend planned))
  | ok plan =>
  cases given : ConnectionOptions.ofMap caps.backend e.connection.options with
  | error error => exact .inl (refused (.options valid backend planned given))
  | ok options =>
  have run : serve settings server e =
      e.connection.execute caps settings.statementTimeout server plan := by
    simp only [serve, Envelope.plan, valid, backend, planned, bind, Except.bind, pure, Except.pure]
  simp only [Connection.execute, given] at run
  refine .inr ?_
  cases hl : Login.of caps.backend (caps.connectUri e.connection.uri) options with
  | error fault =>
    simp only [hl] at run
    exact .inl ⟨fault, run⟩
  | ok login =>
    simp only [hl, Session.execute] at run
    refine .inr ?_
    cases unfit : unfit? login with
    | some f =>
      simp only [unfit, toError_of_unfit caps.backend unfit] at run
      exact .inl ⟨login, f, ⟨caps, options, backend, given, hl⟩, unfit, run⟩
    | none =>
      simp only [unfit] at run
      exact .inr ⟨_, _, _, _, run⟩

/-- **The errors of all requests**, and how far each has come. -/
theorem serve_error (h : (serve settings server e).value = .error error) :
    e.Refused settings error ∨
    (∃ fault, error = .requestShape (.badUri fault)) ∨
    ((serve settings server e).events = [] ∧ ∃ login f, e.LeadsTo login ∧ unfit? login = some f ∧
      error = .execution (.reported f.message)) ∨
    error.isOfDatabase ∧ ∃ login,
      .connect login (server.connect login) ∈ (serve settings server e).events := by
  rcases serve_cases settings server e with
    ⟨_, refused, run⟩ | ⟨fault, run⟩ | ⟨login, f, leads, unfit, run⟩ | ⟨b, login, limit, plan, run⟩
  · rw [run] at h
    exact .inl (Except.error.inj h ▸ refused)
  · rw [run] at h
    exact .inr (.inl ⟨fault, (Except.error.inj h).symm⟩)
  · rw [run] at h ⊢
    exact .inr (.inr (.inl ⟨rfl, login, f, leads, unfit, (Except.error.inj h).symm⟩))
  · rw [run] at h ⊢
    obtain ⟨kind, tried⟩ := converse_error h
    exact .inr (.inr (.inr ⟨kind, login, tried⟩))

/-- **Nothing is opened for a request that is wrong.** The first of four checks to fail has the
word, and no database hears of the request. After them, errors are of the connection string or of
the database; an expired login is an answer to a login that was tried, and every failed execution
comes after one, except where MySQL's client does not know the character set or the collation. What
an inspection finds out about one table is never the error of a request, nor is a conjunction that
there is not. -/
theorem serve_refuses_first (settings : Settings) (server : Server) (e : Envelope) :
    (∀ error, e.Refused settings error → serve settings server e = .quiet (.error error)) ∧
    ((∀ error, ¬ e.Refused settings error) →
      ∀ error, (serve settings server e).value = .error error →
        (∃ fault, error = .requestShape (.badUri fault)) ∨
        (∃ reason, error = .authenticationExpired reason) ∨ ∃ fault, error = .execution fault) ∧
    (∀ reason, (serve settings server e).value = .error (.authenticationExpired reason) →
      ∃ login, .connect login (server.connect login) ∈ (serve settings server e).events) ∧
    (∀ fault, (serve settings server e).value = .error (.execution fault) →
      (∃ login, .connect login (server.connect login) ∈ (serve settings server e).events) ∨
      (serve settings server e).events = [] ∧ ∃ address encryption charset collation,
        e.LeadsTo (.mysql address encryption charset collation) ∧
          (Charset.isCharset charset = false ∨
            ∃ c, collation = some c ∧ Charset.isCollation c = false)) ∧
    (∀ table reason, (serve settings server e).value ≠ .error (.introspection table reason)) ∧
    ∀ tag, (serve settings server e).value ≠ .error (.unknownConjunction tag) := by
  refine ⟨fun error => serve_of_refused, fun accepted error h => ?_, fun reason h => ?_,
    fun fault h => ?_, fun table reason h => ?_, fun tag h => ?_⟩
  · rcases serve_error h with refused | badUri | ⟨-, _, f, -, -, rfl⟩ | ⟨kind, -⟩
    · exact absurd refused (accepted error)
    · exact .inl badUri
    · exact .inr (.inr ⟨_, rfl⟩)
    · cases error with
      | authenticationExpired reason => exact .inr (.inl ⟨reason, rfl⟩)
      | execution fault => exact .inr (.inr ⟨fault, rfl⟩)
      | _ => exact nomatch kind
  · rcases serve_error h with refused | ⟨_, badUri⟩ | ⟨-, _, f, -, -, given⟩ | ⟨-, tried⟩
    · exact absurd refused.kind (by simp [Error.isShape, Error.isMeaning])
    · exact nomatch badUri
    · exact nomatch given
    · exact tried
  · rcases serve_error h with refused | ⟨_, badUri⟩ | ⟨untried, _, f, leads, unfit, -⟩ | ⟨-, tried⟩
    · exact absurd refused.kind (by simp [Error.isShape, Error.isMeaning])
    · exact nomatch badUri
    · obtain ⟨address, encryption, charset, collation, rfl, unknown⟩ := unfit?_eq_some unfit
      refine .inr ⟨untried, address, encryption, charset, collation, leads, ?_⟩
      exact unknown.imp And.left fun ⟨c, same, unknown, _⟩ => ⟨c, same, unknown⟩
    · exact .inl tried
  · rcases serve_error h with refused | ⟨_, badUri⟩ | ⟨-, _, f, -, -, given⟩ | ⟨kind, -⟩
    · exact absurd refused.kind (by simp [Error.isShape, Error.isMeaning])
    · exact nomatch badUri
    · exact nomatch given
    · exact nomatch kind
  · rcases serve_error h with refused | ⟨_, badUri⟩ | ⟨-, _, f, -, -, given⟩ | ⟨kind, -⟩
    · exact absurd refused.kind (by simp [Error.isShape, Error.isMeaning])
    · exact nomatch badUri
    · exact nomatch given
    · exact nomatch kind

/-! ### Two requests over MySQL -/

/-- A reading of a table with some options. -/
def readingWith (options : Keyed Json) : Envelope :=
  ⟨⟨"mysql://h/d", options⟩, .select ⟨"t", none, none, none⟩⟩

/-- A database that no longer accepts any login. -/
def revoked : Server where
  connect _ := .failure (.database (some "28000") "role expired")
  run _ _ := .silence
  tables := .silence
  columns _ _ := .silence
  close := .silence

/-- An option that there is not is noticed before the login is refused. -/
theorem serve_refuses_first_option :
    serve .standard revoked (readingWith (Keyed.ofList [("pool", .null)])) =
        .quiet (.error (.requestShape (.foreignOption "pool" .mysql))) ∧
      ∃ login, .connect login (revoked.connect login) ∈
        (serve .standard revoked (readingWith .empty)).events := by
  obtain ⟨refuses, -⟩ :=
    serve_refuses_first .standard revoked (readingWith (Keyed.ofList [("pool", .null)]))
  obtain ⟨-, -, expired, -⟩ := serve_refuses_first .standard revoked (readingWith .empty)
  exact ⟨refuses _ (.options rfl rfl rfl rfl),
    expired "role expired" rfl⟩

/-- A character set that there is not makes the execution fail, and no login is tried. -/
theorem execution_untried :
    (serve .standard revoked (readingWith (Keyed.ofList [("charset", .string "klingon")]))).value =
        .error (.execution
          (.reported "error with configuration: unsupported MySQL charset: klingon")) ∧
      ∀ login reply, .connect login reply ∉
        (serve .standard revoked
          (readingWith (Keyed.ofList [("charset", .string "klingon")]))).events :=
  ⟨rfl, fun _ _ => List.not_mem_nil⟩

end SqlBroker
