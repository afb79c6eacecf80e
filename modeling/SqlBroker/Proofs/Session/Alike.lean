import SqlBroker.Proofs.Session.Release

/-!
# Sessions with databases that answer alike

Two databases may differ in what they say where a login is no longer accepted, and in what they
answer about single tables, as long as it ends no inspection. What a session comes to differs by no
more than that. Whether the catalog counts is a parameter of what is alike (`told`): if it does, all
answers about tables have to agree, and so do the catalogs.

Headlines:
* **`describe_alike`**: one question after the other is answered alike.
* **`converse_alike`**: so two sessions end alike.
-/

namespace SqlBroker.Session

variable {b : Backend} {told : Prop} {server server' : Server}

/-! ## Alike -/

/-- Two replies that differ in nothing but the words for a failure of the login; and in what is
answered, unless that is told. -/
inductive Reply.Alike {α : Type} (b : Backend) (told : Prop) : Reply α → Reply α → Prop
  | answers {a a' : α} (same : told → a = a') : Alike b told (.answer a) (.answer a')
  | expired {f f' : Fault} (h : f.isLoginFailure b = true) (h' : f'.isLoginFailure b = true) :
    Alike b told (.failure f) (.failure f')
  | failures (f : Fault) : Alike b told (.failure f) (.failure f)
  | silences : Alike b told .silence .silence

/-- Two databases that answer alike. Unless it is told what is found out about tables, they may
differ there, too, where the inspection goes on. -/
structure Server.Alike (b : Backend) (told : Prop) (server server' : Server) : Prop where
  connect : ∀ login, (server.connect login).Alike b True (server'.connect login)
  run : ∀ text params, (server.run text params).Alike b True (server'.run text params)
  tables : server.tables.Alike b True server'.tables
  columns : ∀ asked table,
    (server.columns asked table).Alike b True (server'.columns asked table) ∨
    ¬ told ∧ (server.columns asked table).goesOn b = true ∧
      (server'.columns asked table).goesOn b = true

/-- Two ends of sessions that differ in nothing but the words for a failure of the login; and in the
result, unless that is told. -/
inductive EndAlike {α : Type} (told : Prop) : Except Error α → Except Error α → Prop
  | results {r r' : α} (same : told → r = r') : EndAlike told (.ok r) (.ok r')
  | expired (reason reason' : String) :
    EndAlike told (.error (.authenticationExpired reason)) (.error (.authenticationExpired reason'))
  | errors (e : Error) : EndAlike told (.error e) (.error e)

theorem Reply.Alike.map {α β : Type} {reply reply' : Reply α} (h : reply.Alike b told reply')
    (f : α → β) : (reply.map f).Alike b told (reply'.map f) := by
  cases h with
  | answers same => exact .answers fun isTold => congrArg f (same isTold)
  | expired h h' => exact .expired h h'
  | failures f => exact .failures f
  | silences => exact .silences

theorem Reply.Alike.of_told {α : Type} {reply reply' : Reply α} (h : reply.Alike b True reply') :
    reply.Alike b told reply' := by
  cases h with
  | answers same => exact .answers fun _ => same trivial
  | expired h h' => exact .expired h h'
  | failures f => exact .failures f
  | silences => exact .silences

theorem expired_alike {α : Type} {f f' : Fault} (h : f.isLoginFailure b = true)
    (h' : f'.isLoginFailure b = true) :
    EndAlike told (.error (f.toError b) : Except Error α) (.error (f'.toError b)) := by
  rw [Fault.toError, Fault.toError, if_pos h, if_pos h']
  exact .expired _ _

theorem settle_alike {α : Type} {reply reply' : Reply α} (late : Error)
    (h : reply.Alike b told reply') :
    EndAlike told (settle b late reply) (settle b late reply') := by
  cases h with
  | answers same => exact .results same
  | expired h h' => exact expired_alike h h'
  | failures f => exact .errors _
  | silences => exact .errors _

/-! ## Inspections -/

theorem tableEntry_alike (table : String) {reply reply' : Reply (List (List Cell))}
    (h : reply.Alike b True reply' ∨
      ¬ told ∧ reply.goesOn b = true ∧ reply'.goesOn b = true) :
    (tableEntry b table reply).Alike b told (tableEntry b table reply') := by
  rcases h with h | ⟨untold, goesOn, goesOn'⟩
  · cases h with
    | answers same =>
      obtain rfl := same trivial
      exact .answers fun _ => rfl
    | expired h h' =>
      rw [tableEntry_of_loginFailure h, tableEntry_of_loginFailure h']
      exact .expired h h'
    | silences => exact .silences
    | failures f =>
      cases login : f.isLoginFailure b with
      | true =>
        rw [tableEntry_of_loginFailure login]
        exact .failures f
      | false =>
        have goesOn : (Reply.failure f : Reply (List (List Cell))).goesOn b = true := by
          simp [Reply.goesOn, login]
        obtain ⟨entry, found, -⟩ := tableEntry_of_goesOn table goesOn
        rw [found]
        exact .answers fun _ => rfl
  · obtain ⟨entry, found, -⟩ := tableEntry_of_goesOn table goesOn
    obtain ⟨entry', found', -⟩ := tableEntry_of_goesOn table goesOn'
    rw [found, found']
    exact .answers fun isTold => absurd isTold untold

/-- **Questions that are answered alike come to the same**, but for the catalog where it is not
told. -/
theorem describe_alike (alike : server.Alike b told server') :
    ∀ (tables asked : List String) (catalog catalog' : Catalog), (told → catalog = catalog') →
      (describe b server asked catalog tables).value.Alike b told
        (describe b server' asked catalog' tables).value
  | [], _, _, _, same => .answers same
  | table :: rest, asked, catalog, catalog', same => by
    have entries := tableEntry_alike table (alike.columns asked table)
    unfold describe
    generalize tableEntry b table (server.columns asked table) = entry at entries
    generalize tableEntry b table (server'.columns asked table) = entry' at entries
    cases entries with
    | answers equal =>
      refine describe_alike alike rest (asked ++ [table]) _ _ fun isTold => ?_
      rw [same isTold, equal isTold]
    | expired h h' => exact .expired h h'
    | failures f => exact .failures f
    | silences => exact .silences

theorem inspect_alike (alike : server.Alike b told server') (request : Option (List String)) :
    (inspect b server request).value.Alike b told (inspect b server' request).value := by
  cases request with
  | some tables => exact describe_alike alike tables [] .empty .empty fun _ => rfl
  | none =>
    have named := alike.tables
    unfold inspect
    generalize server.tables = reply at named
    generalize server'.tables = reply' at named
    cases named with
    | answers same =>
      obtain rfl := same trivial
      exact describe_alike alike _ [] .empty .empty fun _ => rfl
    | expired h h' => exact .expired h h'
    | failures f => exact .failures f
    | silences => exact .silences

/-! ## Sessions -/

theorem perform_alike (alike : server.Alike b told server') (plan : Plan) :
    (perform b server plan).value.Alike b told (perform b server' plan).value := by
  cases plan with
  | inspect request => exact (inspect_alike alike request).map _
  | statement s =>
    unfold perform runStatement
    dsimp only
    split
    · exact .failures _
    · exact ((alike.run _ _).map _).of_told

/-- **Two databases that answer alike lead to sessions that end alike.** -/
theorem converse_alike (alike : server.Alike b told server') (login : Login) (limit : Duration)
    (plan : Plan) :
    EndAlike told (converse b server login limit plan).value
      (converse b server' login limit plan).value := by
  have opened := alike.connect login
  unfold converse
  generalize server.connect login = reply at opened
  generalize server'.connect login = reply' at opened
  cases opened with
  | answers => exact settle_alike _ (perform_alike alike plan)
  | expired h h' => exact expired_alike h h'
  | failures f => exact .errors _
  | silences => exact .errors _

end SqlBroker.Session
