import SqlBroker.Proofs.Plan
import SqlBroker.Proofs.Session.Param
import SqlBroker.Proofs.Sql.Spelling
import SqlBroker.Session.Run

/-!
# Placeholders and values in step

A database pairs the placeholders of a text with the values beside it by their order, and notices no
mistake but a wrong number of them. So the two have to be in step (`InStep`): cut into lexemes, the
text has as many placeholders as there are values, numbered without a gap on Postgres, and the
values are those that were written, in their order, without the ones that the text itself holds.

Concerns `push_value`, `push_predicate`, `plan` and `bind_params` (SPEC_FULL.md, section 11).

Headlines:
* **`filter_lexemesFrom`**: the placeholders among the lexemes of any spaced tokens.
* **`inStep_ofTokensFrom`**: what spaced tokens add to a script is in step.
* **`sends_runStatement`**: a session sends the text of a statement with what carries its values.
* **`scripts_in_step`**: every planned statement is in step, every condition that is added to a
  script is, and a session sends exactly these values.
-/

namespace SqlBroker

/-! ## The values of conditions and operations -/

namespace Predicate

mutual

/-- The values that a condition compares with, from left to right. -/
def values : Predicate → List Value
  | .always => []
  | .compare _ _ v => [v]
  | .like _ v _ => [v]
  | .between _ low high => [low, high]
  | .isNull _ _ => []
  | .all children => valuesAll children
  | .any children => valuesAll children
  | .not inner => inner.values

/-- The values of several conditions. -/
def valuesAll : List Predicate → List Value
  | [] => []
  | p :: rest => p.values ++ valuesAll rest

end

end Predicate

/-- The values that an operation writes down: those of its entries, then those of its condition. -/
def Operation.written (condition : Predicate) : Operation → List Value
  | .select _ => condition.values
  | .insert i => i.writes.values.map .ofJson
  | .update u => u.writes.values.map .ofJson ++ condition.values
  | .delete _ => condition.values
  | .inspect _ => []

theorem Predicate.joinedTokens_cons_cons (word : String) (p q : Predicate) (rest : List Predicate) :
    joinedTokens word (p :: q :: rest) =
      .word "(" :: (p.tokens ++ laterTokens word (q :: rest) ++ [.word ")"]) := rfl

namespace Sql

theorem separated_cons_cons (ts us : List Token) (rest : List (List Token)) :
    separated (ts :: us :: rest) = ts ++ .word ", " :: separated (us :: rest) := rfl

mutual

/-- The tokens of a condition hold its values. -/
theorem values_tokens : ∀ p : Predicate, values p.tokens = p.values
  | .always => rfl
  | .compare _ _ _ => rfl
  | .like _ _ _ => rfl
  | .between _ _ _ => rfl
  | .isNull _ _ => rfl
  | .all children => values_joinedTokens " AND " children
  | .any children => values_joinedTokens " OR " children
  | .not inner => by
    rw [Predicate.tokens, List.cons_append, values, values_append, values_tokens inner]
    exact List.append_nil _

theorem values_joinedTokens (word : String) : ∀ ps : List Predicate,
    values (Predicate.joinedTokens word ps) = Predicate.valuesAll ps
  | [] => rfl
  | [p] => by
    rw [Predicate.joinedTokens, values_tokens p]
    exact (List.append_nil _).symm
  | p :: q :: rest => by
    rw [Predicate.joinedTokens_cons_cons, values, values_append, values_append, values_tokens p,
      values_laterTokens word (q :: rest)]
    exact List.append_nil _

theorem values_laterTokens (word : String) : ∀ ps : List Predicate,
    values (Predicate.laterTokens word ps) = Predicate.valuesAll ps
  | [] => rfl
  | p :: rest => by
    rw [Predicate.laterTokens, List.cons_append, values, values_append, values_tokens p,
      values_laterTokens word rest]
    rfl

end

theorem values_separated : ∀ lists : List (List Token),
    values (separated lists) = lists.flatMap values
  | [] => rfl
  | [ts] => by simp [separated]
  | ts :: us :: rest => by
    rw [separated_cons_cons, values_append, values, values_separated (us :: rest)]
    rfl

theorem values_sortTokens (sort : List SortItem) : values (Statement.sortTokens sort) = [] := by
  unfold Statement.sortTokens
  split
  · rfl
  · rw [values, values_separated, List.flatMap_map, List.flatMap_eq_nil_iff]
    intro i _
    cases i.order <;> rfl

theorem values_assigned (writes : Keyed Json) {f : Assignment → List Token}
    (hf : ∀ a, values (f a) = [a.value]) :
    values (separated ((Operation.assigned writes).map f)) = writes.values.map .ofJson := by
  rw [values_separated, List.flatMap_map, funext hf, ← List.map_eq_flatMap, Operation.assigned,
    Keyed.values, List.map_map, List.map_map]
  rfl

theorem values_columns (writes : List Assignment) :
    values (separated (writes.map fun a => [.name a.column])) = [] := by
  rw [values_separated, List.flatMap_map, List.flatMap_eq_nil_iff]
  intro a _
  rfl

theorem values_rowTokens (b : Backend) (writes : Keyed Json) :
    values (Statement.rowTokens b (Operation.assigned writes)) = writes.values.map .ofJson := by
  unfold Statement.rowTokens
  split
  · rename_i empty
    have none : writes.entries = [] := by simpa [Operation.assigned] using empty
    cases b <;> simp [values, Keyed.values, none]
  · have row := values_assigned writes (f := fun a => [.value a.value]) fun _ => rfl
    simp [values, values_columns, row]

/-- **The tokens of a statement hold what the operation writes down.** -/
theorem values_statement {caps : Capabilities} {op : Operation} {p : Predicate} {s : Statement}
    (h : op.statement? caps p = some s) (b : Backend) : values (s.tokens b) = op.written p := by
  have condition (p : Predicate) : values (Statement.whereTokens p) = p.values := values_tokens p
  have window (w : Option Window) : values (Statement.windowTokens w) = [] := by cases w <;> rfl
  have returning (r : Bool) : values (Statement.returningTokens r) = [] := by cases r <;> rfl
  cases op with
  | select x =>
    obtain rfl := Option.some.inj h
    simp [Statement.tokens, values, condition, values_sortTokens, window, Operation.written]
  | insert x =>
    obtain rfl := Option.some.inj h
    simp [Statement.tokens, values, values_rowTokens, returning, Operation.written]
  | update x =>
    obtain rfl := Option.some.inj h
    have set := values_assigned x.writes
      (f := fun a => [.name a.column, .word " = ", .value a.value]) fun _ => rfl
    simp [Statement.tokens, Statement.setTokens, values, set, condition, returning,
      Operation.written]
  | delete x =>
    obtain rfl := Option.some.inj h
    simp [Statement.tokens, values, condition, returning, Operation.written]
  | inspect i => exact nomatch h

/-! ## Placeholders -/

/-- The next `n` placeholders after `k` values: numbered on Postgres, bare elsewhere. -/
def placeholdersFrom (b : Backend) (k n : Nat) : List Lexeme :=
  match b with
  | .postgres => (List.range' (k + 1) n).map .param
  | .mysql => List.replicate n .mark
  | .sqlite => List.replicate n .mark

theorem placeholdersFrom_succ (b : Backend) (k n : Nat) :
    placeholdersFrom b k (n + 1) = placeholderLexeme b (k + 1) :: placeholdersFrom b (k + 1) n := by
  cases b with
  | postgres => rw [placeholdersFrom, List.range'_succ]; rfl
  | mysql => rfl
  | sqlite => rfl

/-- **The placeholders of tokens** are the next ones, one for each value beside the text. -/
theorem filter_lexemesFrom {b : Backend} {ts : List Token} (h : Spaced ts) (n : Nat) :
    (lexemesFrom b n ts).filter Lexeme.isPlaceholder =
      placeholdersFrom b n (Script.ofTokensFrom b n ts).params.length := by
  induction ts generalizing n with
  | nil => cases b <;> rfl
  | cons t ts ih =>
    obtain ⟨spelled, -, spaced⟩ := h
    rw [lexemesFrom, List.filter_append, ih spaced, Script.ofTokensFrom, Script.append,
      List.length_append, params_ofToken]
    cases t with
    | word w =>
      have plain : ((Token.word w).lexemes b n).filter Lexeme.isPlaceholder = [] :=
        List.filter_eq_nil_iff.mpr fun l hl => by simp [spelled.isPlaceholder_lexemes b n l hl]
      rw [plain]
      simp [values]
    | name s => simp [Token.lexemes, Lexeme.isPlaceholder, values]
    | value v =>
      have one := isPlaceholder_valueLexeme b n v
      cases hb : isBound b v with
      | true =>
        rw [hb] at one
        simp only [Token.lexemes, values, List.filter_cons, one, hb, if_true, List.filter_nil,
          List.length_singleton]
        rw [Nat.add_comm 1, placeholdersFrom_succ, valueLexeme_of_isBound hb]
        rfl
      | false =>
        rw [hb] at one
        simp [Token.lexemes, values, one, hb]

/-! ## Scripts in step -/

/-- A script that goes on after `k` values is in step, and the values written in it are these. -/
structure InStep (b : Backend) (k : Nat) (s : Script) (written : List Value) : Prop where
  /-- The text has one placeholder for each value, and they are the next ones. -/
  placeholders : (lexemes? b s.chars).map (List.filter Lexeme.isPlaceholder) =
    some (placeholdersFrom b k s.params.length)
  /-- The values are those written, but for nulls and, on Postgres, texts without the null
  character. -/
  params : s.params = written.filter (isBound b)
  not_null : ∀ v ∈ s.params, v.isNull = false

/-- **Spaced tokens add to a script in step.** -/
theorem inStep_ofTokensFrom {b : Backend} {ts : List Token} (h : Spaced ts) (n : Nat) :
    InStep b n (Script.ofTokensFrom b n ts) (values ts) where
  placeholders := by
    rw [lexemes?_script h, Option.map_some, filter_lexemesFrom h]
  params := params_ofTokensFrom b n ts
  not_null := by
    intro v hv
    rw [params_ofTokensFrom] at hv
    have bound := (List.mem_filter.mp hv).2
    cases v with
    | null => exact absurd bound (by simp [isBound])
    | _ => rfl

/-! ## Values as they are sent -/

/-- What a session sends of a script: the text with parameters that carry the values one for one and
in their order; or nothing at all, if there is a value that cannot be sent. -/
structure Sends (b : Backend) (s : Script) (events : List Session.Event) : Prop where
  all : (∀ v ∈ s.params, Session.Param.Sendable b v) →
    ∃ ps, List.Forall₂ (Session.Param.Carries b) s.params ps ∧ events = [.statement s.text ps]
  none : (∃ v ∈ s.params, ¬ Session.Param.Sendable b v) → events = []

/-- **A session sends what carries the values** of a statement. -/
theorem sends_runStatement (b : Backend) (server : Session.Server) (s : Statement) :
    Sends b (s.script b) (Session.runStatement b server s).events where
  all sendable := by
    obtain ⟨ps, sent⟩ := (Session.Param.exists_ofValues_iff 1).mpr sendable
    refine ⟨ps, (Session.Param.ofValues_eq_ok_iff 1).mp sent, ?_⟩
    simp only [Session.runStatement, sent]
  none := by
    rintro ⟨v, hv, unsendable⟩
    cases sent : Session.Param.ofValues b 1 (s.script b).params with
    | error f =>
      simp only [Session.runStatement, sent]
      rfl
    | ok ps => exact absurd ((Session.Param.exists_ofValues_iff 1).mp ⟨ps, sent⟩ v hv) unsendable

/-! ## Plans and conditions -/

/-- **Placeholders and values stay in step**: in every planned statement, whose values are sent one
for each placeholder; and in what a condition adds to a script that has any number of values, of
which nothing changes. -/
theorem scripts_in_step :
    (∀ (caps : Capabilities) (op : Operation) (s : Statement),
      Plan.ofOperation caps op = .ok (.statement s) →
      ∃ p, Filter.conditionOf op.filters? (Table.ofOperation op) = .ok p ∧
        InStep caps.backend 0 (s.script caps.backend) (op.written p) ∧
        ∀ server, Sends caps.backend (s.script caps.backend)
          (Session.runStatement caps.backend server s).events) ∧
    ∀ (b : Backend) (before : Script) (p : Predicate), ∃ added,
      before.write b p.tokens = before.append added ∧
        InStep b before.params.length added p.values := by
  constructor
  · intro caps op s h
    have rows : ∀ i, op ≠ .inspect i := by
      rintro i rfl
      exact absurd (Except.ok.inj h) (by simp)
    obtain ⟨p, s', condition, asked, same⟩ := Plan.ofOperation_eq_ok h rows
    obtain rfl := Plan.statement.inj same
    refine ⟨p, condition, ?_, fun server => sends_runStatement caps.backend server s⟩
    rw [← values_statement asked caps.backend]
    exact inStep_ofTokensFrom (Statement.spaced_tokens s) 0
  · intro b before p
    refine ⟨_, rfl, ?_⟩
    rw [← values_tokens p]
    exact inStep_ofTokensFrom (spaced_tokens p) before.params.length

/-- An entry with a name that ends like a quote, and with null. -/
def quotedEntry : Operation :=
  .insert ⟨"t?", .ofList
    [("a\x60", .string "?, ?"), ("b", .null), ("c", .bool true)]⟩

/-- The statement for it where no row is returned. -/
def quotedStatement : Statement :=
  .insert "t?" [⟨"a\x60", .text "?, ?"⟩, ⟨"b", .null⟩, ⟨"c", .bool true⟩] false

/-- The entries before a stamp. -/
def entriesBefore (stamp : String) : Operation :=
  .delete ⟨"log", some ⟨.rule ⟨some "at", some .less, [⟨.string stamp, none⟩]⟩,
    .ofList [("at", ⟨.datetime, "At"⟩)]⟩⟩

/-- MySQL is sent two of three values for two placeholders, and no stamp before our era. Postgres
is sent the year 2000 for what is less than a microsecond before it; in a condition that is added
after one value, it finds a text in its place. -/
theorem scripts_in_step_quoted :
    (InStep .mysql 0 (quotedStatement.script .mysql) [.text "?, ?", .null, .bool true] ∧
      ∀ server, (Session.runStatement .mysql server quotedStatement).events =
        [.statement
          "INSERT INTO \x60t?\x60 (\x60a\x60\x60\x60, \x60b\x60, \x60c\x60) VALUES (?, NULL, ?)"
          [⟨"VARCHAR", .text [63, 44, 32, 63]⟩, ⟨"TINYINT", .int 1⟩]]) ∧
    (∀ server, (Session.runStatement .mysql server (.delete "log"
      (.compare "at" .lt (.stamp ⟨⟨-44, 3, 15, by decide, by decide⟩, .midnight⟩)) false)).events =
        []) ∧
    (∀ server, (Session.runStatement .postgres server (.delete "log"
      (.compare "at" .lt (.stamp ⟨⟨1999, 12, 31, by decide, by decide⟩,
        ⟨23, 59, 59, 999999900, by decide, by decide, by decide, by decide⟩⟩)) true)).events =
        [.statement "DELETE FROM \"log\" WHERE \"at\" < $1 RETURNING *"
          [⟨"TIMESTAMP", .ofText "2000-01-01 00:00:00"⟩]]) ∧
    InStep .postgres 1 ⟨"NOT (\"$7\" BETWEEN $2 AND E\x27it\x27\x27s $9\x27)".toList, [.int 1]⟩
      [.int 1, .text "it\x27s $9"] := by
  -- A session sends the parameters that carry the values, which is to say, those that are made.
  have sent {b : Backend} {s : Script} {events : List Session.Event} {ps : List Session.Param}
      (sends : Sends b s events) (made : Session.Param.ofValues b 1 s.params = .ok ps) :
      events = [.statement s.text ps] := by
    obtain ⟨qs, carried, same⟩ := sends.all ((Session.Param.exists_ofValues_iff 1).mp ⟨ps, made⟩)
    have own := (Session.Param.ofValues_eq_ok_iff 1).mpr carried
    rw [same, Except.ok.inj (own.symm.trans made)]
  refine ⟨?_, fun server => ?_, fun server => ?_, ?_⟩
  · obtain ⟨p, -, inStep, sends⟩ :=
      scripts_in_step.1 ⟨.mysql, false, true⟩ quotedEntry quotedStatement rfl
    exact ⟨inStep, fun server => sent (sends server) rfl⟩
  · obtain ⟨p, -, -, sends⟩ :=
      scripts_in_step.1 ⟨.mysql, false, true⟩ (entriesBefore "-0044-03-15 00:00:00") _ rfl
    refine (sends server).none ⟨_, List.mem_singleton_self _, fun sendable => ?_⟩
    exact absurd (sendable rfl _ rfl).1 (by decide)
  · obtain ⟨p, -, -, sends⟩ :=
      scripts_in_step.1 ⟨.postgres, true, true⟩ (entriesBefore "1999-12-31 23:59:59.9999999") _ rfl
    exact sent (sends server) rfl
  · obtain ⟨⟨chars, params⟩, same, inStep⟩ := scripts_in_step.2 .postgres
      ⟨"SELECT $1 = ".toList, [.int 5]⟩ (.not (.between "$7" (.int 1) (.text "it\x27s $9")))
    obtain rfl := List.append_cancel_left (congrArg Script.chars same)
    obtain rfl := List.append_cancel_left (congrArg Script.params same)
    exact inStep

end Sql

end SqlBroker
