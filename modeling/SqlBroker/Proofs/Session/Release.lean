import SqlBroker.Proofs.Connection.Options
import SqlBroker.Proofs.Session.Inspect
import SqlBroker.Service

/-!
# Connections are released

A session opens at most one connection, and what it opened it closes, whatever came of the work in
between: this is read off the events, which take one of three courses (`Course`). How the closing
goes comes too late to matter, and what a session comes to is told by its events: a login that was
refused or not answered, or else the outcome of the work.

Concerns `execute` (SPEC_FULL.md, sections 4.5 and 10.3).

Headlines:
* **`Course.released`**: in each of the courses nothing stays open.
* **`course_converse`**: every session takes one of them.
* **`silence_perform_iff`**: work is without an outcome iff a question of it was not answered.
* **`accounted_converse`**: what a session comes to, by its events.
* **`Connection.execute_released`**: all this for a connection and its options.
-/

namespace SqlBroker

namespace Session

/-! ## Courses -/

namespace Event

/-- Whether an event is a login. -/
def isConnect : Event → Bool
  | .connect _ _ => true
  | _ => false

/-- Whether an event is a login that the database has accepted. -/
def isOpening : Event → Bool
  | .connect _ (.answer ()) => true
  | _ => false

/-- Whether an event is a question to a database that is connected to. -/
def isQuery : Event → Bool
  | .statement _ _ => true
  | .listTables => true
  | .listColumns _ => true
  | _ => false

/-- Whether an event is the closing. -/
def isClose : Event → Bool
  | .close _ => true
  | _ => false

/-- The table that an event asks about. -/
def table? : Event → Option String
  | .listColumns table => some table
  | _ => none

theorem of_isQuery {e : Event} (h : e.isQuery = true) :
    e.isConnect = false ∧ e.isOpening = false ∧ e.isClose = false := by
  cases e with
  | connect login reply => exact nomatch h
  | close reply => exact nomatch h
  | _ => exact ⟨rfl, rfl, rfl⟩

end Event

/-- Events that leave nothing open: there is one login at most, nothing is asked before it is
accepted, it is followed by a closing iff it is accepted, and the closing by nothing. -/
structure Released (events : List Event) : Prop where
  once : events.countP Event.isConnect ≤ 1
  opened : ∀ before query after, events = before ++ query :: after → query.isQuery = true →
    ∃ login, .connect login (.answer ()) ∈ before
  closed : events.countP Event.isClose = events.countP Event.isOpening
  last : ∀ before reply after, events = before ++ .close reply :: after → after = []

/-- The courses that a session can take. -/
inductive Course : List Event → Prop
  | untried : Course []
  | refused {login : Login} {reply : Reply Unit} (h : reply ≠ .answer ()) :
    Course [.connect login reply]
  | closed {login : Login} {queries : List Event} {reply : Reply Unit}
    (h : ∀ e ∈ queries, e.isQuery = true) :
    Course (.connect login (.answer ()) :: queries ++ [.close reply])

theorem countP_queries {queries : List Event} (h : ∀ e ∈ queries, e.isQuery = true) :
    queries.countP Event.isConnect = 0 ∧ queries.countP Event.isOpening = 0 ∧
      queries.countP Event.isClose = 0 := by
  have none {p : Event → Bool} (hp : ∀ e : Event, e.isQuery = true → p e = false) :
      queries.countP p = 0 := List.countP_eq_zero.mpr fun e he => by simp [hp e (h e he)]
  exact ⟨none fun e he => (Event.of_isQuery he).1, none fun e he => (Event.of_isQuery he).2.1,
    none fun e he => (Event.of_isQuery he).2.2⟩

theorem eq_of_singleton {α : Type} {x y : α} {before after : List α}
    (h : [x] = before ++ y :: after) : y = x :=
  List.mem_singleton.mp (h ▸ List.mem_append_right _ List.mem_cons_self)

/-- Nothing stands behind an element that is found only at the end. -/
theorem eq_nil_of_mem_last {α : Type} {front before after : List α} {x y : α}
    (h : front ++ [x] = before ++ y :: after) (only : y ∉ front) : after = [] := by
  rcases List.eq_nil_or_concat after with rfl | ⟨rest, z, rfl⟩
  · rfl
  · rw [List.concat_eq_append, ← List.cons_append, ← List.append_assoc] at h
    obtain ⟨rfl, -⟩ := List.append_inj' h rfl
    exact absurd (List.mem_append_right _ List.mem_cons_self) only

theorem released_refused {login : Login} {reply : Reply Unit} (h : reply ≠ .answer ()) :
    Released [.connect login reply] where
  once := by simp [Event.isConnect]
  opened before query after same asks := by
    obtain rfl := eq_of_singleton same
    exact nomatch asks
  closed := by
    cases reply with
    | answer _ => exact absurd rfl h
    | failure f => rfl
    | silence => rfl
  last before reply after same := nomatch eq_of_singleton same

theorem released_closed {login : Login} {queries : List Event} {reply : Reply Unit}
    (h : ∀ e ∈ queries, e.isQuery = true) :
    Released (.connect login (.answer ()) :: queries ++ [.close reply]) where
  once := by simp [List.countP_cons, (countP_queries h).1, Event.isConnect]
  opened before query after same asks := by
    -- what comes first is the login, and everything else comes after it
    cases before with
    | nil =>
      obtain ⟨rfl, -⟩ := List.cons.inj same
      exact nomatch asks
    | cons e before =>
      obtain ⟨rfl, -⟩ := List.cons.inj same
      exact ⟨login, List.mem_cons_self⟩
  closed := by
    obtain ⟨-, openings, closes⟩ := countP_queries h
    simp [List.countP_cons, openings, closes, Event.isClose, Event.isOpening]
  last before close after same := by
    refine eq_nil_of_mem_last same fun mem => ?_
    rcases List.mem_cons.mp mem with first | mem
    · exact nomatch first
    · exact nomatch h _ mem

/-- **Nothing stays open.** -/
theorem Course.released {events : List Event} (h : Course events) : Released events := by
  cases h with
  | untried =>
    exact ⟨Nat.zero_le 1, fun before _ _ h => absurd h (by simp), rfl,
      fun before _ _ h => absurd h (by simp)⟩
  | refused h => exact released_refused h
  | closed h => exact released_closed h

/-! ## Work -/

variable {b : Backend} {server : Server}

theorem isQuery_describe : ∀ {tables asked : List String} (catalog : Catalog),
    ∀ e ∈ (describe b server asked catalog tables).events, e.isQuery = true
  | [], _, _, e, h => absurd h List.not_mem_nil
  | table :: rest, asked, catalog, e, h => by
    unfold describe at h
    split at h
    · rcases List.mem_cons.mp h with rfl | h
      · rfl
      · exact isQuery_describe _ e h
    · exact List.mem_singleton.mp h ▸ rfl
    · exact List.mem_singleton.mp h ▸ rfl

theorem isQuery_inspect (request : Option (List String)) :
    ∀ e ∈ (inspect b server request).events, e.isQuery = true := by
  have first : ∀ e ∈ naming request, e.isQuery = true := by
    cases request with
    | some _ => simp [naming]
    | none => simp [naming, Event.isQuery]
  intro e h
  rw [inspect_eq] at h
  split at h
  · rcases List.mem_append.mp h with h | h
    · exact first e h
    · exact isQuery_describe _ e h
  · exact first e h
  · exact first e h

/-- Work asks questions, and neither opens nor closes anything. -/
theorem isQuery_perform (b : Backend) (server : Server) (plan : Plan) :
    ∀ e ∈ (perform b server plan).events, e.isQuery = true := by
  cases plan with
  | inspect tables => exact isQuery_inspect tables
  | statement s =>
    intro e h
    unfold perform runStatement at h
    dsimp only at h
    split at h
    · exact absurd h List.not_mem_nil
    · exact List.mem_singleton.mp h ▸ rfl

/-- **A statement is sent once**, with its own text and values, or not at all. -/
theorem events_statement (s : Sql.Statement) : (perform b server (.statement s)).events = [] ∨
    ∃ params, Param.ofValues b 1 (s.script b).params = .ok params ∧
      (perform b server (.statement s)).events = [.statement (s.script b).text params] := by
  unfold perform runStatement
  dsimp only
  split
  · exact .inl rfl
  · exact .inr ⟨_, ‹_›, rfl⟩

/-- Work depends on the answers to its questions alone. -/
theorem perform_close (reply : Reply Unit) (plan : Plan) :
    perform b { server with close := reply } plan = perform b server plan := by
  have describes : ∀ tables asked catalog,
      describe b { server with close := reply } asked catalog tables =
        describe b server asked catalog tables := by
    intro tables
    induction tables with
    | nil => exact fun _ _ => rfl
    | cons table rest ih =>
      intro asked catalog
      simp only [describe, ih]
  cases plan with
  | statement s => rfl
  | inspect request =>
    have named : Server.named { server with close := reply } request = server.named request := rfl
    simp only [perform, inspect_eq, named, describes]

/-! ## Answers that do not come -/

/-- Whether a database has no answer to a question, after questions about other tables. -/
def Server.Ignores (server : Server) (asked : List String) : Event → Prop
  | .connect _ _ => False
  | .statement text params => server.run text params = .silence
  | .listTables => server.tables = .silence
  | .listColumns table => server.columns asked table = .silence
  | .close _ => False

/-- Whether a database has no answer to one of the questions among events. -/
def Server.Unanswered (server : Server) : (asked : List String) → List Event → Prop
  | _, [] => False
  | asked, e :: rest =>
    server.Ignores asked e ∨ server.Unanswered (asked ++ e.table?.toList) rest

theorem unanswered_close (reply : Reply Unit) : ∀ (asked : List String) (events : List Event),
    server.Unanswered asked (events ++ [.close reply]) ↔ server.Unanswered asked events
  | _, [] => by simp [Server.Unanswered, Server.Ignores]
  | asked, e :: rest => or_congr Iff.rfl (unanswered_close reply _ rest)

theorem silence_tableEntry_iff (b : Backend) (table : String) (reply : Reply (List (List Cell))) :
    tableEntry b table reply = .silence ↔ reply = .silence := by
  cases reply with
  | answer rows => exact iff_of_false nofun nofun
  | silence => exact iff_of_true rfl rfl
  | failure f =>
    refine iff_of_false (fun h => ?_) nofun
    unfold tableEntry at h
    dsimp only at h
    split at h <;> exact nomatch h

theorem silence_describe_iff (tables asked : List String) (catalog : Catalog) :
    (describe b server asked catalog tables).value = .silence ↔
      server.Unanswered asked (describe b server asked catalog tables).events := by
  induction tables generalizing asked catalog with
  | nil => simp [describe, Logged.quiet, Server.Unanswered]
  | cons table rest ih =>
    have ignored := silence_tableEntry_iff b table (server.columns asked table)
    cases h : tableEntry b table (server.columns asked table) with
    | answer entry =>
      have answered : ¬ server.Ignores asked (.listColumns table) := by
        simp [Server.Ignores, ← ignored, h]
      rw [describe_cons h]
      exact (ih (asked ++ [table]) _).trans (or_iff_right answered).symm
    | failure f =>
      rw [describe, h]
      simp [Server.Unanswered, Server.Ignores, ← ignored, h]
    | silence =>
      rw [describe, h]
      exact iff_of_true rfl (.inl (ignored.mp h))

theorem silence_inspect_iff (request : Option (List String)) :
    (inspect b server request).value = .silence ↔
      server.Unanswered [] (inspect b server request).events := by
  cases request with
  | some tables => exact silence_describe_iff tables [] .empty
  | none =>
    unfold inspect
    cases h : server.tables with
    | answer cells =>
      refine (silence_describe_iff (namesOf cells) [] .empty).trans (or_iff_right ?_).symm
      rw [Server.Ignores, h]
      exact nofun
    | failure f =>
      refine iff_of_false nofun fun unanswered => unanswered.elim (fun none => ?_) id
      rw [Server.Ignores, h] at none
      exact nomatch none
    | silence => exact iff_of_true rfl (.inl h)

theorem silence_map_iff {α β : Type} {f : α → β} {reply : Reply α} :
    reply.map f = .silence ↔ reply = .silence := by
  cases reply with
  | silence => exact iff_of_true rfl rfl
  | _ => exact iff_of_false nofun nofun

/-- **Work is without an outcome** iff one of its questions was not answered. -/
theorem silence_perform_iff (plan : Plan) : (perform b server plan).value = .silence ↔
    server.Unanswered [] (perform b server plan).events := by
  cases plan with
  | inspect request => exact silence_map_iff.trans (silence_inspect_iff request)
  | statement s =>
    unfold perform runStatement
    dsimp only
    split
    · exact iff_of_false nofun id
    · exact silence_map_iff.trans (or_iff_left id).symm

/-! ## Sessions -/

variable {login : Login} {limit : Duration} {plan : Plan}

theorem course_converse : Course (converse b server login limit plan).events := by
  unfold converse
  cases h : server.connect login with
  | answer u => exact .closed (isQuery_perform b server plan)
  | failure f => exact .refused nofun
  | silence => exact .refused nofun

/-- A failure is the login's, or what the database reports. -/
theorem Fault.toError_eq (b : Backend) (f : Fault) :
    f.toError b = .authenticationExpired f.message ∨
      f.toError b = .execution (.reported f.message) := by
  unfold toError
  split
  · exact .inl rfl
  · exact .inr rfl

/-- Whether an execution failed for want of an answer in time. -/
def isLate : ExecutionFault → Bool
  | .connectTimeout _ => true
  | .statementTimeout _ => true
  | .reported _ => false

theorem toError_ne_late {fault : ExecutionFault} (h : isLate fault = true) (f : Fault) :
    f.toError b ≠ .execution fault := by
  rintro same
  rcases f.toError_eq b with failed | reported
  · exact nomatch failed.symm.trans same
  · obtain rfl := Error.execution.inj (reported.symm.trans same)
    exact nomatch h

/-- An error that is no failure stands for a missing answer. -/
theorem settle_eq_late_iff {α : Type} {late fault : ExecutionFault} {reply : Reply α}
    (h : isLate fault = true) : settle b (.execution late) reply = .error (.execution fault) ↔
      fault = late ∧ reply = .silence := by
  cases reply with
  | answer a => exact iff_of_false nofun fun h => nomatch h.2
  | failure f =>
    refine iff_of_false (fun same => ?_) fun h => nomatch h.2
    exact toError_ne_late h f (Except.error.inj same)
  | silence =>
    refine ⟨fun same => ⟨(Error.execution.inj (Except.error.inj same)).symm, rfl⟩, ?_⟩
    rintro ⟨rfl, -⟩
    rfl

/-- What a session comes to, by its events. -/
structure Accounted (b : Backend) (server : Server) (limit : Duration) (plan : Plan)
    (run : Logged (Except Error Result)) : Prop where
  answered : ∀ login reply, .connect login reply ∈ run.events → server.connect login = reply
  refused : ∀ login f, .connect login (.failure f) ∈ run.events → run.value = .error (f.toError b)
  worked : ∀ login, .connect login (.answer ()) ∈ run.events →
    run.events.filter Event.isQuery = (perform b server plan).events ∧
      run.value = settle b (.execution (.statementTimeout limit)) (perform b server plan).value
  connectTimeout : ∀ d, run.value = .error (.execution (.connectTimeout d)) ↔
    d = limit ∧ ∃ login, .connect login .silence ∈ run.events
  statementTimeout : ∀ d, run.value = .error (.execution (.statementTimeout d)) ↔
    d = limit ∧ server.Unanswered [] run.events

theorem connect_mem_closed {queries : List Event} (h : ∀ e ∈ queries, e.isQuery = true)
    {login' : Login} {reply closing : Reply Unit}
    (mem : Event.connect login' reply ∈
      .connect login (.answer ()) :: queries ++ [.close closing]) :
    login' = login ∧ reply = .answer () := by
  rcases List.mem_append.mp mem with mem | mem
  · rcases List.mem_cons.mp mem with same | mem
    · exact Event.connect.inj same
    · exact nomatch h _ mem
  · exact nomatch List.mem_singleton.mp mem

theorem connect_mem_singleton {login' : Login} {reply reply' : Reply Unit}
    (mem : Event.connect login' reply' ∈ [Event.connect login reply]) :
    login' = login ∧ reply' = reply := Event.connect.inj (List.mem_singleton.mp mem)

/-- A session whose login is accepted comes to what its work comes to. -/
theorem accounted_opened (h : server.connect login = .answer ()) :
    Accounted b server limit plan
      ⟨settle b (.execution (.statementTimeout limit)) (perform b server plan).value,
        .connect login (.answer ()) :: (perform b server plan).events ++
          [.close server.close]⟩ where
  answered login' reply mem := by
    obtain ⟨rfl, rfl⟩ := connect_mem_closed (isQuery_perform b server plan) mem
    exact h
  refused login' f mem := nomatch (connect_mem_closed (isQuery_perform b server plan) mem).2
  worked _ _ := by
    refine ⟨?_, rfl⟩
    simp [Event.isQuery, List.filter_eq_self.mpr (isQuery_perform b server plan)]
  connectTimeout d := by
    refine iff_of_false (fun late => ?_) ?_
    · exact nomatch ((settle_eq_late_iff rfl).mp late).1
    · rintro ⟨-, login', mem⟩
      exact nomatch (connect_mem_closed (isQuery_perform b server plan) mem).2
  statementTimeout d := by
    have unanswered : (perform b server plan).value = .silence ↔ server.Unanswered []
        (.connect login (.answer ()) :: (perform b server plan).events ++ [.close server.close]) :=
      calc (perform b server plan).value = .silence
        _ ↔ server.Unanswered [] (perform b server plan).events := silence_perform_iff plan
        _ ↔ server.Unanswered [] ((perform b server plan).events ++ [.close server.close]) :=
          (unanswered_close _ _ _).symm
        _ ↔ _ := (or_iff_right id).symm
    refine (settle_eq_late_iff rfl).trans (and_congr ?_ unanswered)
    exact ⟨ExecutionFault.statementTimeout.inj, congrArg _⟩

/-- A session whose login fails comes to that failure. -/
theorem accounted_failed {f : Fault} (h : server.connect login = .failure f) :
    Accounted b server limit plan ⟨.error (f.toError b), [.connect login (.failure f)]⟩ where
  answered login' reply mem := by
    obtain ⟨rfl, rfl⟩ := connect_mem_singleton mem
    exact h
  refused login' f' mem := by rw [Reply.failure.inj (connect_mem_singleton mem).2]
  worked login' mem := nomatch (connect_mem_singleton mem).2
  connectTimeout d := by
    refine iff_of_false (fun late => toError_ne_late rfl f (Except.error.inj late)) ?_
    rintro ⟨-, login', mem⟩
    exact nomatch (connect_mem_singleton mem).2
  statementTimeout d :=
    iff_of_false (fun late => toError_ne_late rfl f (Except.error.inj late)) fun unanswered =>
      unanswered.2.elim id id

/-- A session whose login is not answered comes to the error for that. -/
theorem accounted_unanswered (h : server.connect login = .silence) :
    Accounted b server limit plan
      ⟨.error (.execution (.connectTimeout limit)), [.connect login .silence]⟩ where
  answered login' reply mem := by
    obtain ⟨rfl, rfl⟩ := connect_mem_singleton mem
    exact h
  refused login' f mem := nomatch (connect_mem_singleton mem).2
  worked login' mem := nomatch (connect_mem_singleton mem).2
  connectTimeout d := by
    constructor
    · intro late
      have fault := Error.execution.inj (Except.error.inj late)
      exact ⟨(ExecutionFault.connectTimeout.inj fault).symm, login, List.mem_singleton.mpr rfl⟩
    · rintro ⟨rfl, -⟩
      rfl
  statementTimeout d := by
    refine iff_of_false (fun late => ?_) fun unanswered => unanswered.2.elim id id
    exact nomatch Error.execution.inj (Except.error.inj late)

/-- **A session that is tried** comes to what its events tell. -/
theorem accounted_converse :
    Accounted b server limit plan (converse b server login limit plan) := by
  unfold converse
  cases h : server.connect login with
  | answer u => exact accounted_opened h
  | failure f => exact accounted_failed h
  | silence => exact accounted_unanswered h

/-- A session that is not tried comes to an error, and to none about missing answers. -/
theorem accounted_quiet {error : Error}
    (h : ∀ fault, isLate fault = true → error ≠ .execution fault) :
    Accounted b server limit plan (.quiet (.error error)) := by
  have late {fault : ExecutionFault} (isLate : isLate fault = true) :
      (Except.error error : Except Error Result) ≠ .error (.execution fault) :=
    fun same => h fault isLate (Except.error.inj same)
  refine ⟨fun _ _ mem => absurd mem List.not_mem_nil, fun _ _ mem => absurd mem List.not_mem_nil,
    fun _ mem => absurd mem List.not_mem_nil, fun d => iff_of_false (late rfl) ?_,
    fun d => iff_of_false (late rfl) fun h => h.2⟩
  rintro ⟨-, login, mem⟩
  exact absurd mem List.not_mem_nil

theorem filter_converse (s : Sql.Statement) :
    (converse b server login limit (.statement s)).events.filter Event.isQuery = [] ∨
      ∃ params, Param.ofValues b 1 (s.script b).params = .ok params ∧
        (converse b server login limit (.statement s)).events.filter Event.isQuery =
          [.statement (s.script b).text params] := by
  cases h : server.connect login with
  | answer u =>
    have opened : Event.connect login (.answer ()) ∈
        (converse b server login limit (.statement s)).events := by
      rw [converse, h]
      exact List.mem_cons_self
    rw [(accounted_converse.worked login opened).1]
    exact events_statement s
  | failure f =>
    rw [converse, h]
    exact .inl rfl
  | silence =>
    rw [converse, h]
    exact .inl rfl

/-- How the closing goes changes nothing but what is told of it. -/
theorem converse_close (reply : Reply Unit) :
    (converse b { server with close := reply } login limit plan).value =
        (converse b server login limit plan).value ∧
      (converse b { server with close := reply } login limit plan).events.filter (!·.isClose) =
        (converse b server login limit plan).events.filter (!·.isClose) := by
  unfold converse
  dsimp only
  rw [perform_close]
  cases server.connect login with
  | answer u => exact ⟨rfl, by simp [settle, Event.isClose]⟩
  | failure f => exact ⟨rfl, rfl⟩
  | silence => exact ⟨rfl, rfl⟩

end Session

/-! ## Connections -/

namespace Connection

open Session

/-- How long opening and working may take: as long as the options say, or else `usual`. -/
def limit (c : Connection) (usual : Duration) : Duration :=
  ((c.options.get? ConnectionOptions.Key.statementTimeout.name).bind fun j =>
    (ConnectionOptions.secondsOf .statementTimeout j).toOption).getD usual

/-- A connection alone decides whether it is tried, and by which login. -/
theorem execute_eq (c : Connection) (caps : Capabilities) (usual : Duration) :
    (∃ error, (∀ fault, isLate fault = true → error ≠ .execution fault) ∧
      ∀ server plan, c.execute caps usual server plan = .quiet (.error error)) ∨
    ∃ login, ∀ server plan, c.execute caps usual server plan =
      converse caps.backend server login (c.limit usual) plan := by
  unfold Connection.execute
  cases ho : ConnectionOptions.ofMap caps.backend c.options with
  | error error =>
    refine .inl ⟨error, fun fault _ same => ?_, fun _ _ => rfl⟩
    have shape := ConnectionOptions.failsAs_ofMap _ _ error ho
    rw [same] at shape
    exact nomatch shape
  | ok options =>
    dsimp only
    cases hl : Login.of caps.backend (caps.connectUri c.uri) options with
    | error fault =>
      exact .inl ⟨.requestShape (.badUri fault), fun _ _ same => (nomatch same), fun _ _ => rfl⟩
    | ok login =>
      dsimp only
      unfold Session.execute
      cases unfit? login with
      | some f => exact .inl ⟨_, fun _ late => toError_ne_late late f, fun _ _ => rfl⟩
      | none =>
        refine .inr ⟨login, fun server plan => ?_⟩
        rw [limit, ← ConnectionOptions.statementTimeout_ofMap ho]

/-- **A connection is released on every path.** Nothing is left open, nothing is asked before the
login is accepted nor after the closing, and a statement is sent once at most. What the caller gets
is accounted for by the events, is the error for a missing answer where there is one that the limit
was too short for, and is the same however the closing goes. Where no login is tried, no database
has anything to do with it. -/
theorem execute_released (c : Connection) (caps : Capabilities) (usual : Duration)
    (server : Server) (plan : Plan) :
    Released (c.execute caps usual server plan).events ∧
    Accounted caps.backend server (c.limit usual) plan (c.execute caps usual server plan) ∧
    (∀ s, plan = .statement s →
      (c.execute caps usual server plan).events.filter Event.isQuery = [] ∨
      ∃ params, Param.ofValues caps.backend 1 (s.script caps.backend).params = .ok params ∧
        (c.execute caps usual server plan).events.filter Event.isQuery =
          [.statement (s.script caps.backend).text params]) ∧
    (∀ reply, (c.execute caps usual { server with close := reply } plan).value =
        (c.execute caps usual server plan).value ∧
      (c.execute caps usual { server with close := reply } plan).events.filter (!·.isClose) =
        (c.execute caps usual server plan).events.filter (!·.isClose)) ∧
    ((c.execute caps usual server plan).events = [] →
      ∀ server' plan', c.execute caps usual server' plan' = c.execute caps usual server plan) := by
  rcases c.execute_eq caps usual with ⟨error, notLate, quiet⟩ | ⟨login, run⟩
  · simp only [quiet]
    exact ⟨Course.untried.released, accounted_quiet notLate, fun _ _ => .inl rfl,
      fun _ => ⟨trivial, trivial⟩, fun _ _ _ => trivial⟩
  · simp only [run]
    refine ⟨course_converse.released, accounted_converse, ?_, converse_close, fun none => ?_⟩
    · rintro s rfl
      exact filter_converse s
    · -- a login that is tried is an event
      unfold converse at none
      dsimp only at none
      split at none <;> exact nomatch none

/-! ### A database without answers -/

/-- A database that accepts every login, answers nothing, and cannot be left without a failure. -/
def mute : Server where
  connect _ := .answer ()
  run _ _ := .silence
  tables := .silence
  columns _ _ := .silence
  close := .failure .workerLost

/-- A connection to a database in memory that allows two seconds. -/
def brief : Connection :=
  ⟨"sqlite::memory:", Keyed.ofList [("statement_timeout_secs", .number (.integer 2))]⟩

/-- The removal of all rows of a table over that connection. -/
def removal (server : Server) : Logged (Except Error Result) :=
  brief.execute ⟨.sqlite, true, true⟩ (.ofSeconds 30) server
    (.statement (.delete "t" .always false))

/-- It comes to an error after two seconds, and the connection is closed. -/
theorem execute_released_mute :
    (removal mute).events.countP Event.isClose = 1 ∧
      (∃ params, (removal mute).events.filter Event.isQuery =
        [.statement "DELETE FROM \"t\" WHERE TRUE" params]) ∧
      (removal mute).value = .error (.execution (.statementTimeout (.ofSeconds 2))) ∧
      ∀ reply, (removal { mute with close := reply }).value = (removal mute).value := by
  obtain ⟨released, accounted, sent, closing, -⟩ :=
    brief.execute_released ⟨.sqlite, true, true⟩ (.ofSeconds 30) mute
      (.statement (.delete "t" .always false))
  have text : ((Sql.Statement.delete "t" .always false).script .sqlite).text =
      "DELETE FROM \"t\" WHERE TRUE" := by decide +kernel
  have events : (removal mute).events =
      [.connect (.sqlite ⟨.memory, false, none⟩ none) (.answer ()),
        .statement "DELETE FROM \"t\" WHERE TRUE" [], .close (.failure .workerLost)] := by
    decide +kernel
  refine ⟨released.closed.trans (by decide +kernel), ?_, ?_, fun reply => (closing reply).1⟩
  · obtain ⟨params, -, once⟩ := (sent _ rfl).resolve_left (by decide +kernel)
    rw [text] at once
    exact ⟨params, once⟩
  · refine (accounted.statementTimeout _).mpr ⟨by decide +kernel, ?_⟩
    refine events ▸ ?_
    exact .inr (.inl rfl)

end Connection

end SqlBroker
