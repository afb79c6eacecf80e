import SqlBroker.Proofs.Session.Release

/-!
# How sessions end

A failure of the login ends a session wherever it shows: at the login itself, at a statement, where
the tables are named, or at one of them. Nothing but the closing comes after it, and the session
comes to the error for it; no other session comes to that error (`Server.EndedBy`).

Headlines:
* **`converse_expired_iff`**: a session comes to an expired login iff a failure of the login ended
  it.
* **`expired_of_fails`**: such a failure is never passed over.
-/

namespace SqlBroker.Session

variable {b : Backend} {server : Server}

/-! ## Failures among the events -/

/-- Whether a database fails in this way at an event, after questions about other tables. -/
def Server.Fails (server : Server) (asked : List String) (f : Fault) : Event → Prop
  | .connect login _ => server.connect login = .failure f
  | .statement text params => server.run text params = .failure f
  | .listTables => server.tables = .failure f
  | .listColumns table => server.columns asked table = .failure f
  | .close _ => False

/-- The tables asked about, in order. -/
def tablesOf (events : List Event) : List String := events.filterMap Event.table?

@[simp] theorem tablesOf_nil : tablesOf [] = [] := rfl

@[simp] theorem tablesOf_listColumns (table : String) (events : List Event) :
    tablesOf (.listColumns table :: events) = table :: tablesOf events := rfl

@[simp] theorem tablesOf_listTables (events : List Event) :
    tablesOf (.listTables :: events) = tablesOf events := rfl

@[simp] theorem tablesOf_connect (login : Login) (reply : Reply Unit) (events : List Event) :
    tablesOf (.connect login reply :: events) = tablesOf events := rfl

/-- A failure after which a database is asked nothing more. -/
def Server.EndedBy (server : Server) (events : List Event) (f : Fault) : Prop :=
  ∃ before e after, events = before ++ e :: after ∧ server.Fails (tablesOf before) f e ∧
    ∀ e ∈ after, e.isClose = true

theorem parts_of_singleton {α : Type} {x y : α} {before after : List α}
    (h : [x] = before ++ y :: after) : before = [] ∧ y = x ∧ after = [] := by
  cases before with
  | nil =>
    obtain ⟨rfl, rfl⟩ := List.cons.inj h
    exact ⟨rfl, rfl, rfl⟩
  | cons _ before => exact absurd (List.cons.inj h).2 (by simp)

/-- An element of a list is its last, or stands before it. -/
theorem last_or_before {α : Type} {front before after : List α} {last x : α}
    (h : front ++ [last] = before ++ x :: after) :
    x = last ∨ ∃ rest, after = rest ++ [last] ∧ front = before ++ x :: rest := by
  rcases List.eq_nil_or_concat after with rfl | ⟨rest, y, rfl⟩
  · obtain ⟨-, same⟩ := List.append_inj' h rfl
    exact .inl (List.cons.inj same).1.symm
  · rw [List.concat_eq_append, ← List.cons_append, ← List.append_assoc] at h
    obtain ⟨work, same⟩ := List.append_inj' h rfl
    obtain rfl := (List.cons.inj same).1
    exact .inr ⟨rest, List.concat_eq_append, work⟩

/-! ## Inspections -/

theorem tableEntry_eq_failure_iff {table : String} {reply : Reply (List (List Cell))} {f : Fault} :
    tableEntry b table reply = .failure f ↔ reply = .failure f ∧ f.isLoginFailure b = true := by
  constructor
  · intro h
    cases reply with
    | answer rows => cases h
    | silence => cases h
    | failure g =>
      cases login : g.isLoginFailure b with
      | true =>
        rw [tableEntry_of_loginFailure login] at h
        obtain rfl := Reply.failure.inj h
        exact ⟨rfl, login⟩
      | false =>
        rw [tableEntry, Fault.toError, login] at h
        cases h
  · rintro ⟨rfl, login⟩
    exact tableEntry_of_loginFailure login

/-- Questions about tables fail with a failure of the login, which the last of them meets. -/
theorem ended_describe {f : Fault} : ∀ (tables : List String) {asked : List String}
    {catalog : Catalog},
    (describe b server asked catalog tables).value = .failure f →
      ∃ before e, (describe b server asked catalog tables).events = before ++ [e] ∧
        server.Fails (asked ++ tablesOf before) f e
  | [], _, _, h => nomatch h
  | table :: rest, asked, catalog, h => by
    cases entry : tableEntry b table (server.columns asked table) with
    | answer found =>
      rw [describe_cons entry] at h ⊢
      obtain ⟨before, e, events, fails⟩ := ended_describe rest h
      refine ⟨.listColumns table :: before, e, ?_, by simpa using fails⟩
      exact congrArg (Event.listColumns table :: ·) events
    | failure g =>
      rw [describe, entry] at h ⊢
      obtain rfl := Reply.failure.inj h
      obtain ⟨reply, -⟩ := tableEntry_eq_failure_iff.mp entry
      exact ⟨[], .listColumns table, rfl, by simpa [Server.Fails] using reply⟩
    | silence =>
      rw [describe, entry] at h
      cases h

/-- **No question about a table passes over a failure of the login**: it is the last. -/
theorem describe_fails {f : Fault} (login : f.isLoginFailure b = true) :
    ∀ (tables : List String) {asked : List String} {catalog : Catalog}
      {before after : List Event} {e : Event},
    (describe b server asked catalog tables).events = before ++ e :: after →
    server.Fails (asked ++ tablesOf before) f e →
      (describe b server asked catalog tables).value = .failure f ∧ after = []
  | [], _, _, before, after, e, h, _ => absurd h (by simp [describe, Logged.quiet])
  | table :: rest, asked, catalog, before, after, e, h, fails => by
    have here (none : before = []) (same : e = .listColumns table) :
        tableEntry b table (server.columns asked table) = .failure f := by
      subst none same
      refine tableEntry_eq_failure_iff.mpr ⟨?_, login⟩
      simpa [Server.Fails] using fails
    cases entry : tableEntry b table (server.columns asked table) with
    | answer found =>
      rw [describe_cons entry] at h ⊢
      cases before with
      | nil => cases entry.symm.trans (here rfl (List.cons.inj h).1.symm)
      | cons _ before =>
        obtain ⟨rfl, later⟩ := List.cons.inj h
        exact describe_fails login rest later (by simpa using fails)
    | failure g =>
      rw [describe, entry] at h ⊢
      obtain ⟨none, same, last⟩ := parts_of_singleton h
      obtain rfl := Reply.failure.inj (entry.symm.trans (here none same))
      exact ⟨rfl, last⟩
    | silence =>
      rw [describe, entry] at h
      obtain ⟨none, same, -⟩ := parts_of_singleton h
      cases entry.symm.trans (here none same)

theorem ended_inspect {request : Option (List String)} {f : Fault}
    (h : (inspect b server request).value = .failure f) :
    ∃ before e, (inspect b server request).events = before ++ [e] ∧
      server.Fails (tablesOf before) f e := by
  cases request with
  | some tables => exact ended_describe tables h
  | none =>
    unfold inspect at h ⊢
    cases named : server.tables with
    | answer cells =>
      rw [named] at h
      obtain ⟨before, e, events, fails⟩ := ended_describe (namesOf cells) h
      exact ⟨.listTables :: before, e, congrArg (Event.listTables :: ·) events, fails⟩
    | failure g =>
      rw [named] at h
      obtain rfl := Reply.failure.inj h
      exact ⟨[], .listTables, rfl, named⟩
    | silence =>
      rw [named] at h
      exact nomatch h

theorem inspect_fails (request : Option (List String)) {f : Fault}
    (login : f.isLoginFailure b = true) {before after : List Event} {e : Event}
    (h : (inspect b server request).events = before ++ e :: after)
    (fails : server.Fails (tablesOf before) f e) :
    (inspect b server request).value = .failure f ∧ after = [] := by
  cases request with
  | some tables => exact describe_fails login tables h fails
  | none =>
    unfold inspect at h ⊢
    cases named : server.tables with
    | answer cells =>
      rw [named] at h
      cases before with
      | nil =>
        obtain ⟨rfl, -⟩ := List.cons.inj h
        exact nomatch named.symm.trans fails
      | cons first before =>
        obtain ⟨rfl, later⟩ := List.cons.inj h
        exact describe_fails login (namesOf cells) later fails
    | failure g =>
      rw [named] at h
      obtain ⟨-, rfl, last⟩ := parts_of_singleton h
      obtain rfl := Reply.failure.inj (named.symm.trans fails)
      exact ⟨rfl, last⟩
    | silence =>
      rw [named] at h
      obtain ⟨-, rfl, -⟩ := parts_of_singleton h
      exact nomatch named.symm.trans fails

/-! ## Work -/

theorem Reply.map_eq_failure_iff {α β : Type} {g : α → β} {reply : Reply α} {f : Fault} :
    reply.map g = .failure f ↔ reply = .failure f := by
  cases reply with
  | answer a => exact iff_of_false nofun nofun
  | failure f' => exact ⟨fun h => congrArg _ (Reply.failure.inj h), fun h => h ▸ rfl⟩
  | silence => exact iff_of_false nofun nofun

/-- What has no form in which it could be sent is no matter of the login. -/
theorem Param.failsAs_ofValue (b : Backend) (argument : Nat) (v : Value) :
    FailsAs (fun f : Fault => f.isLoginFailure b = false) (Param.ofValue b argument v) := by
  have dated {b : Backend} (d : Calendar.Date) (type : String) (cs : List Char) :
      FailsAs (fun f : Fault => f.isLoginFailure b = false) (Param.dated argument d type cs) := by
    unfold Param.dated
    split
    · exact .ok _
    · exact .error rfl
  unfold Param.ofValue
  cases b with
  | postgres => exact .ok _
  | sqlite => exact .ok _
  | mysql =>
    cases v with
    | date d => exact dated d _ _
    | stamp s => exact dated s.date _ _
    | instant s => exact dated s.date _ _
    | _ => exact .ok _

theorem Param.failsAs_ofValues (b : Backend) : ∀ (argument : Nat) (vs : List Value),
    FailsAs (fun f : Fault => f.isLoginFailure b = false) (Param.ofValues b argument vs)
  | _, [] => .ok _
  | argument, v :: rest =>
    (Param.failsAs_ofValue b argument v).bind fun _ =>
      (Param.failsAs_ofValues b (argument + 1) rest).bind fun _ => .ok _

theorem perform_unsent {s : Sql.Statement} {f : Fault}
    (h : Param.ofValues b 1 (s.script b).params = .error f) :
    perform b server (.statement s) = .quiet (.failure f) := by
  simp only [perform, runStatement, h]

theorem perform_sent {s : Sql.Statement} {params : List Param}
    (h : Param.ofValues b 1 (s.script b).params = .ok params) :
    perform b server (.statement s) =
      ⟨(server.run (s.script b).text params).map (resultOf b s.returnsRows),
        [.statement (s.script b).text params]⟩ := by
  simp only [perform, runStatement, h]

theorem ended_perform {plan : Plan} {f : Fault} (login : f.isLoginFailure b = true)
    (h : (perform b server plan).value = .failure f) :
    ∃ before e, (perform b server plan).events = before ++ [e] ∧
      server.Fails (tablesOf before) f e := by
  cases plan with
  | inspect request => exact ended_inspect (Reply.map_eq_failure_iff.mp h)
  | statement s =>
    cases given : Param.ofValues b 1 (s.script b).params with
    | error g =>
      rw [perform_unsent given] at h
      obtain rfl := Reply.failure.inj h
      exact nomatch login.symm.trans (Param.failsAs_ofValues b 1 _ g given)
    | ok params =>
      rw [perform_sent given] at h ⊢
      exact ⟨[], .statement (s.script b).text params, rfl, Reply.map_eq_failure_iff.mp h⟩

theorem perform_fails {plan : Plan} {f : Fault} (login : f.isLoginFailure b = true)
    {before after : List Event} {e : Event}
    (h : (perform b server plan).events = before ++ e :: after)
    (fails : server.Fails (tablesOf before) f e) :
    (perform b server plan).value = .failure f ∧ after = [] := by
  cases plan with
  | inspect request =>
    obtain ⟨value, last⟩ := inspect_fails request login h fails
    exact ⟨Reply.map_eq_failure_iff.mpr value, last⟩
  | statement s =>
    cases given : Param.ofValues b 1 (s.script b).params with
    | error g =>
      rw [perform_unsent given] at h
      exact absurd h (by simp [Logged.quiet])
    | ok params =>
      rw [perform_sent given] at h ⊢
      obtain ⟨-, rfl, last⟩ := parts_of_singleton h
      exact ⟨Reply.map_eq_failure_iff.mpr fails, last⟩

/-! ## Sessions -/

variable {login : Login} {limit : Duration} {plan : Plan}

theorem converse_opened (h : server.connect login = .answer ()) :
    converse b server login limit plan =
      ⟨settle b (.execution (.statementTimeout limit)) (perform b server plan).value,
        .connect login (.answer ()) :: (perform b server plan).events ++
          [.close server.close]⟩ := by
  rw [converse, h]
  rfl

theorem converse_refused {f : Fault} (h : server.connect login = .failure f) :
    converse b server login limit plan =
      ⟨.error (f.toError b), [.connect login (.failure f)]⟩ := by
  rw [converse, h]
  rfl

theorem converse_unanswered (h : server.connect login = .silence) :
    converse b server login limit plan =
      ⟨.error (.execution (.connectTimeout limit)), [.connect login .silence]⟩ := by
  rw [converse, h]
  rfl

theorem Fault.toError_eq_expired_iff {f : Fault} {reason : String} :
    f.toError b = .authenticationExpired reason ↔
      f.isLoginFailure b = true ∧ f.message = reason := by
  rw [toError]
  constructor
  · intro h
    split at h
    · rename_i isLogin
      exact ⟨isLogin, Error.authenticationExpired.inj h⟩
    · cases h
  · rintro ⟨isLogin, rfl⟩
    rw [if_pos isLogin]

/-- **No session passes over a failure of the login**: it is what the session comes to, and after it
nothing is asked. -/
theorem expired_of_fails {f : Fault} (isLogin : f.isLoginFailure b = true)
    {before after : List Event} {e : Event}
    (h : (converse b server login limit plan).events = before ++ e :: after)
    (fails : server.Fails (tablesOf before) f e) :
    (converse b server login limit plan).value = .error (.authenticationExpired f.message) ∧
      ∀ e ∈ after, e.isClose = true := by
  have expired : f.toError b = .authenticationExpired f.message :=
    Fault.toError_eq_expired_iff.mpr ⟨isLogin, rfl⟩
  cases opened : server.connect login with
  | answer u =>
    rw [converse_opened opened] at h ⊢
    cases before with
    | nil =>
      obtain ⟨rfl, -⟩ := List.cons.inj h
      cases opened.symm.trans fails
    | cons first before =>
      obtain ⟨rfl, work⟩ := List.cons.inj h
      -- What comes after the login is the work, and last of all the close, which cannot fail so.
      rcases last_or_before work with rfl | ⟨rest, rfl, worked⟩
      · exact fails.elim
      · obtain ⟨value, rfl⟩ := perform_fails isLogin worked fails
        refine ⟨?_, ?_⟩
        · rw [value, settle, expired]
        · intro e mem
          obtain rfl := List.mem_singleton.mp mem
          rfl
  | failure g =>
    rw [converse_refused opened] at h ⊢
    obtain ⟨-, rfl, rfl⟩ := parts_of_singleton h
    obtain rfl := Reply.failure.inj (opened.symm.trans fails)
    exact ⟨by rw [expired], fun _ mem => absurd mem List.not_mem_nil⟩
  | silence =>
    rw [converse_unanswered opened] at h
    obtain ⟨-, rfl, -⟩ := parts_of_singleton h
    cases opened.symm.trans fails

/-- **A session comes to an expired login** iff a failure of the login ended it. -/
theorem converse_expired_iff {reason : String} :
    (converse b server login limit plan).value = .error (.authenticationExpired reason) ↔
      ∃ f, f.isLoginFailure b = true ∧ f.message = reason ∧
        server.EndedBy (converse b server login limit plan).events f := by
  constructor
  · intro h
    cases opened : server.connect login with
    | answer u =>
      rw [converse_opened opened] at h ⊢
      cases work : (perform b server plan).value with
      | answer result =>
        rw [work] at h
        cases h
      | silence =>
        rw [work] at h
        cases h
      | failure f =>
        rw [work] at h
        obtain ⟨isLogin, message⟩ := Fault.toError_eq_expired_iff.mp (Except.error.inj h)
        obtain ⟨before, e, events, fails⟩ := ended_perform isLogin work
        refine ⟨f, isLogin, message, .connect login (.answer ()) :: before, e,
          [.close server.close], ?_, fails, ?_⟩
        · simp [events]
        · simp [Event.isClose]
    | failure f =>
      rw [converse_refused opened] at h ⊢
      obtain ⟨isLogin, message⟩ := Fault.toError_eq_expired_iff.mp (Except.error.inj h)
      refine ⟨f, isLogin, message, [], .connect login (.failure f), [], rfl, opened, ?_⟩
      exact fun _ mem => absurd mem List.not_mem_nil
    | silence =>
      rw [converse_unanswered opened] at h
      cases h
  · rintro ⟨f, isLogin, rfl, before, e, after, events, fails, -⟩
    exact (expired_of_fails isLogin events fails).1

end SqlBroker.Session
