import Mathlib.Data.List.Forall2
import SqlBroker.Proofs.Catalog
import SqlBroker.Proofs.Keyed
import SqlBroker.Session.Inspect

/-!
# What an inspection finds

An inspection asks about one table after the other. What it makes of an answer depends on that
answer alone (`Describes`), so a table that cannot be described leaves no trace but its own entry.
The one failure that ends it is that of the login; an answer that does not come ends it as well.

The answers are those of `Server.answers`: each is the answer about one table of the list, after the
questions about the tables before it. Both runs and pairs of runs are followed along this list.

Concerns `inspect` (SPEC_FULL.md, sections 4.4 and 13).

Headlines:
* **`tableEntry_eq_answer_iff`**: what the catalog has for a table is what the answer describes.
* **`describe_ended`**, **`describe_completed`**: what an inspection comes to, by its answers.
* **`describe_apart`**: two databases that answer alike about all tables but one.
* **`inspect_isolates`**: the failures of an inspection, and whom they concern.
-/

namespace SqlBroker.Session

/-! ## Answers -/

/-- Whether an answer about a table lets an inspection go on to the next. -/
def Reply.goesOn {α : Type} (b : Backend) : Reply α → Bool
  | .answer _ => true
  | .failure f => !f.isLoginFailure b
  | .silence => false

/-- What the catalog should have for a table, by the answer about it: one column for each row, in
their order, if there are any rows and each describes a column, and nothing otherwise. -/
inductive Describes (b : Backend) : Reply (List (List Cell)) → Option (List ColumnInfo) → Prop
  | columns {rows : List (List Cell)} {columns : List ColumnInfo} (some : rows ≠ [])
    (told : List.Forall₂ (ColumnInfo.Tells b) rows columns) :
    Describes b (.answer rows) (.some columns)
  | empty : Describes b (.answer []) none
  | unreadable {rows : List (List Cell)} {row : List Cell} (mem : row ∈ rows)
    (untold : ∀ info, ¬ ColumnInfo.Tells b row info) : Describes b (.answer rows) none
  | failed {f : Fault} (other : f.isLoginFailure b = false) : Describes b (.failure f) none

/-! ## Rows -/

theorem mapM_eq_some_iff {α β : Type} {f : α → Option β} : ∀ (xs : List α) (ys : List β),
    xs.mapM f = some ys ↔ List.Forall₂ (fun x y => f x = some y) xs ys
  | [], ys => by cases ys <;> simp
  | x :: xs, ys => by
    cases hx : f x with
    | none => cases ys <;> simp [hx]
    | some y =>
      cases ys with
      | nil => cases h : xs.mapM f <;> simp [hx, h]
      | cons z zs =>
        have later := mapM_eq_some_iff (f := f) xs zs
        cases h : xs.mapM f with
        | none => simp [hx, h, ← later]
        | some ws => simp [hx, h, ← later]

theorem mapM_eq_none_iff {α β : Type} {f : α → Option β} : ∀ xs : List α,
    xs.mapM f = none ↔ ∃ x ∈ xs, f x = none
  | [] => by simp
  | x :: xs => by
    have later := mapM_eq_none_iff (f := f) xs
    cases hx : f x with
    | none => simp [hx]
    | some y => cases h : xs.mapM f <;> simp [hx, h, ← later]

/-- The columns of a table are those that its rows describe. -/
theorem mapM_ofCells?_eq_some_iff {b : Backend} {rows : List (List Cell)}
    {columns : List ColumnInfo} : rows.mapM (ColumnInfo.ofCells? b) = some columns ↔
      List.Forall₂ (ColumnInfo.Tells b) rows columns := by
  rw [mapM_eq_some_iff]
  simp only [ColumnInfo.ofCells?_eq_some_iff]

/-- **The entry of a table** is what the answer about it describes. -/
theorem tableEntry_eq_answer_iff {b : Backend} {table : String} {reply : Reply (List (List Cell))}
    {entry : Option (List ColumnInfo)} :
    tableEntry b table reply = .answer entry ↔ Describes b reply entry := by
  constructor
  · intro h
    cases reply with
    | silence => cases h
    | failure f =>
      cases failed : f.isLoginFailure b with
      | true => simp [tableEntry, Fault.toError, failed] at h
      | false =>
        simp only [tableEntry, Fault.toError, failed] at h
        obtain rfl := Reply.answer.inj h
        exact .failed failed
    | answer rows =>
      obtain rfl := Reply.answer.inj h
      unfold columnsOf
      split
      next unread =>
        obtain ⟨row, mem, unread⟩ := (mapM_eq_none_iff rows).mp unread
        exact .unreadable mem (ColumnInfo.ofCells?_eq_none_iff.mp unread)
      next read =>
        obtain rfl := List.forall₂_nil_right_iff.mp (mapM_ofCells?_eq_some_iff.mp read)
        exact .empty
      next columns some read =>
        refine .columns ?_ (mapM_ofCells?_eq_some_iff.mp read)
        rintro rfl
        exact some (Option.some.inj read).symm
  · intro h
    cases h with
    | @columns rows columns some told =>
      have read := mapM_ofCells?_eq_some_iff.mpr told
      cases told with
      | nil => exact absurd rfl some
      | cons => simp [tableEntry, columnsOf, read, Except.toOption]
    | empty => rfl
    | @unreadable rows row mem untold =>
      have unread := (mapM_eq_none_iff rows).mpr
        ⟨row, mem, ColumnInfo.ofCells?_eq_none_iff.mpr untold⟩
      simp [tableEntry, columnsOf, unread, Except.toOption]
    | failed other => simp [tableEntry, Fault.toError, other]

/-- An answer that ends nothing leaves an entry. -/
theorem tableEntry_of_goesOn {b : Backend} (table : String) {reply : Reply (List (List Cell))}
    (h : reply.goesOn b = true) :
    ∃ entry, tableEntry b table reply = .answer entry ∧ Describes b reply entry := by
  have entry : ∃ entry, tableEntry b table reply = .answer entry := by
    cases reply with
    | answer rows => exact ⟨_, rfl⟩
    | silence => cases h
    | failure f =>
      have other : f.isLoginFailure b = false := by simpa [Reply.goesOn] using h
      exact ⟨none, tableEntry_eq_answer_iff.mpr (.failed other)⟩
  obtain ⟨entry, h⟩ := entry
  exact ⟨entry, h, tableEntry_eq_answer_iff.mp h⟩

/-- An answer describes one entry. -/
theorem Describes.unique {b : Backend} {reply : Reply (List (List Cell))}
    {entry entry' : Option (List ColumnInfo)} (h : Describes b reply entry)
    (h' : Describes b reply entry') : entry = entry' := by
  have table : tableEntry b "" reply = .answer entry := tableEntry_eq_answer_iff.mpr h
  exact Reply.answer.inj (table.symm.trans (tableEntry_eq_answer_iff.mpr h'))

/-- What ends an inspection ends it as what it is. -/
theorem tableEntry_of_loginFailure {b : Backend} {table : String} {f : Fault}
    (h : f.isLoginFailure b = true) : tableEntry b table (.failure f) = .failure f := by
  simp [tableEntry, Fault.toError, h]

/-! ## Runs -/

/-- The answers about the tables of a list, each after the questions about those before it. -/
def Server.answers (server : Server) : (asked : List String) → List String →
    List (String × Reply (List (List Cell)))
  | _, [] => []
  | asked, table :: rest =>
    (table, server.columns asked table) :: server.answers (asked ++ [table]) rest

/-- There is one answer about each table of the list, in its order. -/
theorem names_answers (server : Server) : ∀ asked tables : List String,
    (server.answers asked tables).map Prod.fst = tables
  | _, [] => rfl
  | asked, table :: rest => by
    rw [Server.answers, List.map_cons, names_answers server (asked ++ [table]) rest]

variable {b : Backend} {server : Server}

theorem describe_cons {asked : List String} {table : String} {entry : Option (List ColumnInfo)}
    (h : tableEntry b table (server.columns asked table) = .answer entry) (catalog : Catalog)
    (rest : List String) :
    describe b server asked catalog (table :: rest) =
      (describe b server (asked ++ [table]) (catalog.put table entry) rest).after
        (.listColumns table) := by
  rw [describe, h]

/-- **A failed login ends an inspection** at the table where it shows. -/
theorem describe_ended {f : Fault} (failed : f.isLoginFailure b = true) {table : String}
    {post : List (String × Reply (List (List Cell)))} : ∀ {tables asked : List String}
    {pre : List (String × Reply (List (List Cell)))} (catalog : Catalog),
    server.answers asked tables = pre ++ (table, .failure f) :: post →
    (∀ a ∈ pre, a.2.goesOn b = true) →
      describe b server asked catalog tables =
        ⟨.failure f, (pre.map Prod.fst ++ [table]).map .listColumns⟩
  | [], asked, pre, catalog, h, _ => by cases pre <;> exact nomatch h
  | t :: rest, asked, [], catalog, h, _ => by
    obtain ⟨same, -⟩ := List.cons.inj h
    obtain ⟨rfl, reply⟩ := Prod.mk.inj same
    rw [describe, reply, tableEntry_of_loginFailure failed]
    rfl
  | t :: rest, asked, a :: pre, catalog, h, goesOn => by
    obtain ⟨first, later⟩ := List.forall_mem_cons.mp goesOn
    obtain ⟨rfl, tail⟩ := List.cons.inj h
    obtain ⟨entry, put, -⟩ := tableEntry_of_goesOn t first
    rw [describe_cons put, describe_ended failed _ tail later]
    rfl

/-- **Without such an end every table has its entry**, by the last answer about it. -/
theorem describe_completed : ∀ {tables asked : List String} (catalog : Catalog),
    (∀ a ∈ server.answers asked tables, a.2.goesOn b = true) →
      ∃ found, describe b server asked catalog tables =
          ⟨.answer found, tables.map .listColumns⟩ ∧
        (∀ name, name ∈ found.keys ↔ name ∈ tables ∨ name ∈ catalog.keys) ∧
        (∀ name, name ∉ tables → found.get? name = catalog.get? name) ∧
        ∀ pre name reply post, server.answers asked tables = pre ++ (name, reply) :: post →
          name ∉ post.map Prod.fst →
            ∃ entry, found.get? name = some entry ∧ Describes b reply entry
  | [], asked, catalog, _ =>
    ⟨catalog, rfl, by simp, fun _ _ => rfl, fun pre _ _ _ h => by cases pre <;> exact nomatch h⟩
  | t :: rest, asked, catalog, goesOn => by
    obtain ⟨first, later⟩ := List.forall_mem_cons.mp goesOn
    obtain ⟨entry, put, describes⟩ := tableEntry_of_goesOn t first
    obtain ⟨found, run, keys, other, last⟩ := describe_completed (catalog.put t entry) later
    refine ⟨found, ?_, fun name => ?_, fun name absent => ?_, ?_⟩
    · rw [describe_cons put, run]
      rfl
    · rw [keys, Keyed.mem_keys_put, List.mem_cons, or_left_comm, or_assoc]
    · obtain ⟨ne, absent⟩ := not_or.mp (mt List.mem_cons.mpr absent)
      rw [other name absent, Keyed.get?_put_of_ne ne]
    · intro pre name reply post h once
      cases pre with
      | cons a pre => exact last pre name reply post (List.cons.inj h).2 once
      | nil =>
        obtain ⟨same, rfl⟩ := List.cons.inj h
        obtain ⟨rfl, rfl⟩ := Prod.mk.inj same
        rw [names_answers] at once
        exact ⟨entry, by rw [other t once, Keyed.get?_put_self], describes⟩

/-! ## Two runs -/

/-- Two outcomes of inspections that differ in nothing but what the catalog has for one table. -/
inductive Apart (table : String) : Reply Catalog → Reply Catalog → Prop
  | answers {c c' : Catalog} (keys : ∀ name, name ∈ c.keys ↔ name ∈ c'.keys)
    (others : ∀ name, name ≠ table → c.get? name = c'.get? name) :
    Apart table (.answer c) (.answer c')
  | failures (f : Fault) : Apart table (.failure f) (.failure f)
  | silences : Apart table .silence .silence

/-- **What one table is answered stays with it**, as long as it does not end the inspection. -/
theorem describe_apart {server' : Server} {table : String}
    (alike : ∀ asked t, t ≠ table → server.columns asked t = server'.columns asked t) :
    ∀ (tables asked : List String) (catalog catalog' : Catalog),
      (∀ name, name ∈ catalog.keys ↔ name ∈ catalog'.keys) →
      (∀ name, name ≠ table → catalog.get? name = catalog'.get? name) →
      (∀ a ∈ server.answers asked tables, a.1 = table → a.2.goesOn b = true) →
      (∀ a ∈ server'.answers asked tables, a.1 = table → a.2.goesOn b = true) →
        Apart table (describe b server asked catalog tables).value
            (describe b server' asked catalog' tables).value ∧
          (describe b server asked catalog tables).events =
            (describe b server' asked catalog' tables).events
  | [], asked, catalog, catalog', keys, others, _, _ => ⟨.answers keys others, rfl⟩
  | t :: rest, asked, catalog, catalog', keys, others, goesOn, goesOn' => by
    obtain ⟨first, later⟩ := List.forall_mem_cons.mp goesOn
    obtain ⟨first', later'⟩ := List.forall_mem_cons.mp goesOn'
    -- both put an entry for the table, and go on with catalogs that differ in no other
    have put {entry entry' : Option (List ColumnInfo)}
        (h : tableEntry b t (server.columns asked t) = .answer entry)
        (h' : tableEntry b t (server'.columns asked t) = .answer entry')
        (same : t ≠ table → entry = entry') :
        Apart table (describe b server asked catalog (t :: rest)).value
            (describe b server' asked catalog' (t :: rest)).value ∧
          (describe b server asked catalog (t :: rest)).events =
            (describe b server' asked catalog' (t :: rest)).events := by
      rw [describe_cons h, describe_cons h']
      obtain ⟨apart, events⟩ := describe_apart alike rest (asked ++ [t])
        (catalog.put t entry) (catalog'.put t entry')
        (fun name => by rw [Keyed.mem_keys_put, Keyed.mem_keys_put, keys])
        (fun name ne => by
          by_cases here : name = t
          · subst here
            rw [Keyed.get?_put_self, Keyed.get?_put_self, same ne]
          · rw [Keyed.get?_put_of_ne here, Keyed.get?_put_of_ne here, others name ne])
        later later'
      exact ⟨apart, congrArg (Event.listColumns t :: ·) events⟩
    by_cases here : t = table
    · obtain ⟨entry, h, -⟩ := tableEntry_of_goesOn t (first here)
      obtain ⟨entry', h', -⟩ := tableEntry_of_goesOn t (first' here)
      exact put h h' (absurd here)
    · have same := alike asked t here
      cases h : tableEntry b t (server.columns asked t) with
      | answer entry => exact put h (same ▸ h) fun _ => rfl
      | failure f =>
        rw [describe, describe, ← same, h]
        exact ⟨.failures f, rfl⟩
      | silence =>
        rw [describe, describe, ← same, h]
        exact ⟨.silences, rfl⟩

/-! ## Inspections -/

/-- The tables that an inspection is about: those of the list, or those that the database names. -/
def Server.named (server : Server) : Option (List String) → Reply (List String)
  | some tables => .answer tables
  | none => server.tables.map namesOf

/-- What is asked before any table is asked about. -/
def naming : Option (List String) → List Event
  | some _ => []
  | none => [.listTables]

/-- The tables are found out first, and that may fail as any question may. -/
theorem inspect_eq (b : Backend) (server : Server) (request : Option (List String)) :
    inspect b server request =
      match server.named request with
      | .answer tables =>
        ⟨(describe b server [] .empty tables).value,
          naming request ++ (describe b server [] .empty tables).events⟩
      | .failure f => ⟨.failure f, naming request⟩
      | .silence => ⟨.silence, naming request⟩ := by
  cases request with
  | some tables => rfl
  | none =>
    unfold inspect Server.named
    cases server.tables <;> rfl

/-- **Whom the failures of an inspection concern.** If the tables cannot be named, that failure is
the outcome. If a login failure shows at a table and nothing before it ended the inspection, that
failure is, and no more is asked. If there is no such end the catalog has the tables asked about,
each with what the last answer about it describes; and a database that answers otherwise about one
table, without ending the inspection there, changes no other entry. -/
theorem inspect_isolates (b : Backend) (server : Server) (request : Option (List String)) :
    (∀ f, server.named request = .failure f →
      inspect b server request = ⟨.failure f, naming request⟩) ∧
    ∀ tables, server.named request = .answer tables →
      (∀ pre table f post, server.answers [] tables = pre ++ (table, .failure f) :: post →
        (∀ a ∈ pre, a.2.goesOn b = true) → f.isLoginFailure b = true →
          inspect b server request =
              ⟨.failure f, naming request ++ (pre.map Prod.fst ++ [table]).map .listColumns⟩ ∧
            f.toError b = .authenticationExpired f.message) ∧
      ((∀ a ∈ server.answers [] tables, a.2.goesOn b = true) →
        ∃ catalog, inspect b server request =
            ⟨.answer catalog, naming request ++ tables.map .listColumns⟩ ∧
          (∀ name, name ∈ catalog.keys ↔ name ∈ tables) ∧
          ∀ pre name reply post, server.answers [] tables = pre ++ (name, reply) :: post →
            name ∉ post.map Prod.fst →
              ∃ entry, catalog.get? name = some entry ∧ Describes b reply entry) ∧
      ∀ server' table, server'.named request = .answer tables →
        (∀ asked t, t ≠ table → server.columns asked t = server'.columns asked t) →
        (∀ a ∈ server.answers [] tables, a.1 = table → a.2.goesOn b = true) →
        (∀ a ∈ server'.answers [] tables, a.1 = table → a.2.goesOn b = true) →
          Apart table (inspect b server request).value (inspect b server' request).value ∧
            (inspect b server request).events = (inspect b server' request).events := by
  refine ⟨fun f h => by rw [inspect_eq, h], fun tables h => ?_⟩
  have run {server : Server} (h : server.named request = .answer tables) :
      inspect b server request =
        ⟨(describe b server [] .empty tables).value,
          naming request ++ (describe b server [] .empty tables).events⟩ := by rw [inspect_eq, h]
  refine ⟨?_, ?_, ?_⟩
  · intro pre table f post answers goesOn failed
    refine ⟨?_, by rw [Fault.toError, failed, if_pos rfl]⟩
    rw [run h, describe_ended failed .empty answers goesOn]
  · intro goesOn
    obtain ⟨catalog, described, keys, -, last⟩ := describe_completed .empty goesOn
    refine ⟨catalog, by rw [run h, described], fun name => ?_, last⟩
    simp [keys]
  · intro server' table h' alike goesOn goesOn'
    obtain ⟨apart, events⟩ := describe_apart alike tables [] .empty .empty (fun _ => Iff.rfl)
      (fun _ _ => rfl) goesOn goesOn'
    rw [run h, run h']
    exact ⟨apart, congrArg (naming request ++ ·) events⟩

/-! ### A table asked about twice -/

/-- A failure that is not of the login. -/
def denied : Fault := .database (some "42501") "permission denied"

/-- A failure of the login. -/
def expired : Fault := .database (some "28000") "role expired"

/-- Two rows of the catalog query. -/
def keyAndNote : List (List Cell) :=
  [[.ofText "id", .ofText "integer", .ofText "NO", .null],
   [.ofText "note", .ofText "text", .ofText "YES", .ofText "\x27none\x27::text"]]

/-- The columns that they describe. -/
theorem describes_keyAndNote :
    Describes .postgres (.answer keyAndNote)
      (some [⟨"id", "integer", false, none⟩, ⟨"note", "text", true, some "\x27none\x27::text"⟩]) :=
  .columns (List.cons_ne_nil _ _)
    (.cons
      (.cells (.text "id") (.text "integer") (.word (by decide) (.text "NO") (by decide)) .none)
      (.cons
        (.cells (.text "note") (.text "text") (.yes (by decide) (.text "YES")) (.text (.text _)))
        .nil))

/-- A database that does not name its tables, describes "a" when asked again, has `about` to say
about "b", and lets nobody ask about "c". -/
def reluctant (about : Reply (List (List Cell))) : Server where
  connect _ := .answer ()
  run _ _ := .failure denied
  tables := .failure denied
  columns asked table :=
    if table = "c" then .failure expired
    else if table = "b" then about
    else if table ∈ asked then .answer keyAndNote
    else .failure denied
  close := .answer ()

/-- The second answer about "a" counts, with its columns in their order; "c" ends an inspection, and
"b" is its own affair. -/
theorem inspect_isolates_repeated :
    inspect .postgres (reluctant .silence) none = ⟨.failure denied, [.listTables]⟩ ∧
    inspect .postgres (reluctant (.answer [])) (some ["b", "c", "a"]) =
      ⟨.failure expired, [.listColumns "b", .listColumns "c"]⟩ ∧
    (∃ catalog, inspect .postgres (reluctant (.answer [])) (some ["a", "b", "a"]) =
        ⟨.answer catalog, [.listColumns "a", .listColumns "b", .listColumns "a"]⟩ ∧
      (∀ name, name ∈ catalog.keys ↔ name ∈ ["a", "b", "a"]) ∧
      catalog.get? "a" = some (some
        [⟨"id", "integer", false, none⟩, ⟨"note", "text", true, some "\x27none\x27::text"⟩]) ∧
      catalog.get? "b" = some none) ∧
    Apart "b" (inspect .postgres (reluctant (.answer [])) (some ["a", "b", "a"])).value
      (inspect .postgres (reluctant (.failure denied)) (some ["a", "b", "a"])).value := by
  obtain ⟨unnamed, -⟩ := inspect_isolates .postgres (reluctant .silence) none
  obtain ⟨-, named⟩ :=
    inspect_isolates .postgres (reluctant (.answer [])) (some ["b", "c", "a"])
  obtain ⟨-, named'⟩ :=
    inspect_isolates .postgres (reluctant (.answer [])) (some ["a", "b", "a"])
  obtain ⟨failed, -⟩ := named _ rfl
  obtain ⟨-, completed, apart⟩ := named' _ rfl
  refine ⟨unnamed denied rfl, (failed [("b", .answer [])] "c" expired _ rfl (by decide)
    (by decide)).1, ?_, (apart (reluctant (.failure denied)) "b" rfl ?_ (by decide) (by decide)).1⟩
  · obtain ⟨catalog, run, keys, last⟩ := completed (by decide)
    obtain ⟨entry, about, describes⟩ := last [_, _] "a" _ [] rfl (by decide)
    obtain ⟨entry', about', describes'⟩ := last [_] "b" _ [_] rfl (by decide)
    obtain rfl := describes.unique describes_keyAndNote
    obtain rfl := describes'.unique .empty
    exact ⟨catalog, run, keys, about, about'⟩
  · intro asked t other
    simp [reluctant, other]

end SqlBroker.Session
