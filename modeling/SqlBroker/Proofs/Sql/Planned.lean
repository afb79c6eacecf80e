import SqlBroker.Proofs.Plan
import SqlBroker.Proofs.Sql.Reading

/-!
# Reading planned statements back

Names, texts and filters come from whoever asks; nothing of them may change what a statement does.
So a database that reads a planned statement finds what was asked for, part by part, and there is
nothing else that it could find (`reads_planned`).

Concerns `plan` and what `SqlWriter` writes for it (SPEC_FULL.md, sections 4.4 and 11).

Headlines:
* **`readsAs_separated`**: a list with commas between its items.
* **`derives_tokens`**: a written statement reads as that statement, without the groups of one in
  its condition.
* **`reads_planned`**: a planned statement reads as what the operation asks for, in one way only.
-/

namespace SqlBroker.Sql

open Grammar

variable {b : Backend} {params : List Value}

/-! ## Lists -/

/-- Two parts, one after the other. -/
def Both {α β : Type} (R : List Lexeme → α → Prop) (S : List Lexeme → β → Prop)
    (ls : List Lexeme) (x : α) (y : β) : Prop :=
  ∃ ms ns, ls = ms ++ ns ∧ R ms x ∧ S ns y

theorem readsAs_append {α β : Type} {R : List Lexeme → α → Prop} {S : List Lexeme → β → Prop}
    {ts us : List Token} {x : α} {y : β} (h : ReadsAs b params R ts x)
    (h' : ReadsAs b params S us y) : ReadsAs b params (Both R S · x) (ts ++ us) y := by
  intro n beside
  obtain ⟨first, second⟩ := beside_append ts us beside
  exact ⟨_, _, numberedFrom_append ts us, h n first, h' _ second⟩

/-- **A list with commas** reads item by item. -/
theorem readsAs_separated {α β : Type} {R : List Lexeme → β → Prop} {f : α → List Token}
    {g : α → β} (h : ∀ x, ReadsAs b params R (f x) (g x)) : ∀ xs : List α, xs ≠ [] →
      ReadsAs b params (Joined (.sign ",") R) (separated (xs.map f)) (xs.map g)
  | [], h => absurd rfl h
  | [x], _ => fun n beside => .last (h x n beside)
  | x :: y :: rest, _ => by
    intro n beside
    have parts : separated ((x :: y :: rest).map f) =
        f x ++ .word ", " :: separated ((y :: rest).map f) := rfl
    rw [parts] at beside ⊢
    obtain ⟨first, later⟩ := beside_append (f x) _ beside
    have tail := readsAs_separated h (y :: rest) (by simp) _ later
    rw [numberedFrom_append, numberedFrom_word (by decide)]
    exact .next (h x n first) tail

/-! ## Parts of statements -/

theorem readsAs_sort (sort : List SortItem) :
    ReadsAs b params Sorting (Statement.sortTokens sort) sort := by
  intro n beside
  have item (i : SortItem) :
      ReadsAs b params SortKey [.name i.field, Statement.orderWord i.order] i := by
    intro n _
    obtain ⟨field, order⟩ := i
    cases order with
    | asc =>
      rw [numberedFrom_name, Statement.orderWord, numberedFrom_word (by decide)]
      exact .asc field
    | desc =>
      rw [numberedFrom_name, Statement.orderWord, numberedFrom_word (by decide)]
      exact .desc field
  unfold Statement.sortTokens at beside ⊢
  cases sort with
  | nil => exact .none
  | cons i rest =>
    have items := readsAs_separated item (i :: rest) (by simp) n beside
    rw [List.map_id'] at items
    rw [if_neg (by simp), numberedFrom_word (by decide)]
    exact .some items

theorem readsAs_window (w : Option Window) :
    ReadsAs b params Windowed (Statement.windowTokens w) w := by
  intro n _
  cases w with
  | none => exact .none
  | some w =>
    rw [Statement.windowTokens, numberedFrom_word (by decide), numberedFrom_digits,
      numberedFrom_word (by decide), numberedFrom_digits]
    exact .some w.limit w.offset

theorem readsAs_returning (returning : Bool) :
    ReadsAs b params Returning (Statement.returningTokens returning) returning := by
  intro n _
  cases returning with
  | false => exact .none
  | true =>
    rw [Statement.returningTokens, if_pos rfl, numberedFrom_word (by decide)]
    exact .all

/-- A part after its first lexeme. -/
def After {α : Type} (first : Lexeme) (R : List Lexeme → α → Prop) (ls : List Lexeme)
    (x : α) : Prop :=
  ∃ ms, ls = first :: ms ∧ R ms x

theorem readsAs_where {p : Predicate} (filled : p.isFilled = true) :
    ReadsAs b params (After (.word "WHERE") (Disjoined params)) (Statement.whereTokens p)
      p.simplified := by
  intro n beside
  rw [Statement.whereTokens, numberedFrom_word (by decide)]
  exact ⟨_, rfl, disjunction_tokens filled n beside⟩

theorem readsAs_set {writes : List Assignment} (sets : writes ≠ []) :
    ReadsAs b params (After (.word "SET") (Joined (.sign ",") (Setting params)))
      (Statement.setTokens writes) writes := by
  have item (a : Assignment) :
      ReadsAs b params (Setting params) [.name a.column, .word " = ", .value a.value] a := by
    intro n beside
    rw [numberedFrom_name, numberedFrom_word (by decide)]
    exact .mk (readsAs_value a.value n beside)
  intro n beside
  have items := readsAs_separated item writes sets n beside
  rw [List.map_id'] at items
  rw [Statement.setTokens, numberedFrom_word (by decide)]
  exact ⟨_, rfl, items⟩

theorem readsAs_row (writes : List Assignment) :
    ReadsAs b params (Row b params) (Statement.rowTokens b writes) writes := by
  intro n beside
  unfold Statement.rowTokens at beside ⊢
  cases writes with
  | nil =>
    rw [if_pos (by simp)]
    cases b with
    | mysql =>
      rw [numberedFrom_word (by decide)]
      exact .empty rfl
    | postgres =>
      rw [numberedFrom_word (by decide)]
      exact .default (by decide)
    | sqlite =>
      rw [numberedFrom_word (by decide)]
      exact .default (by decide)
  | cons a rest =>
    rw [if_neg (by simp)] at beside ⊢
    have column (a : Assignment) : ReadsAs b params ColumnName [.name a.column] a.column :=
      fun n _ => .mk a.column
    have value (a : Assignment) : ReadsAs b params (Operand params) [.value a.value] a.value :=
      readsAs_value a.value
    obtain ⟨parts, -⟩ := beside_append _ [.word ")"] beside
    obtain ⟨names, later⟩ := beside_append _ (.word ") VALUES (" :: _) parts
    have columns := readsAs_separated column (a :: rest) (by simp) n names
    have row := readsAs_separated value (a :: rest) (by simp) _ later
    have pairs :
        ((a :: rest).map Assignment.column).zipWith .mk ((a :: rest).map Assignment.value) =
          a :: rest := by
      rw [List.zipWith_map, List.zipWith_self]
      exact List.map_id' _
    rw [numberedFrom_append, numberedFrom_append, numberedFrom_word (by decide),
      numberedFrom_word (by decide), numberedFrom_word (by decide)]
    have listed := Row.listed (b := b) columns row (by simp)
    rw [pairs] at listed
    simp only [List.append_assoc]
    exact listed

/-! ## Statements -/

namespace Statement

/-- The statement without the groups of one in its condition. -/
def simplified : Statement → Statement
  | .select table p sort window => .select table p.simplified sort window
  | .insert table writes returning => .insert table writes returning
  | .update table writes p returning => .update table writes p.simplified returning
  | .delete table p returning => .delete table p.simplified returning

/-- Whether a statement is one at all: no group in its condition is empty, and an update sets
something. -/
def isFilled : Statement → Bool
  | .select _ p _ _ => p.isFilled
  | .insert _ _ _ => true
  | .update _ writes p _ => !writes.isEmpty && p.isFilled
  | .delete _ p _ => p.isFilled

end Statement

theorem readsAs_start {w : String} (hw : w ∈ words.map Prod.fst) (table : String) :
    ReadsAs b params (fun ls t => ls = spelled w ++ [.name t]) [.word w, .name table] table := by
  intro n _
  rw [numberedFrom_word hw]
  rfl

/-- **A written statement is read as it was written.** -/
theorem derives_tokens : ∀ s : Statement, s.isFilled = true →
    ReadsAs b params (Derives b params) (s.tokens b) s.simplified
  | .select table p sort window, h => by
    intro n beside
    obtain ⟨_, _, e, ⟨_, _, rfl, ⟨_, _, rfl, rfl, ls, rfl, condition⟩, sorting⟩, windowed⟩ :=
      readsAs_append (readsAs_append (readsAs_append (readsAs_start (by decide) table)
        (readsAs_where h)) (readsAs_sort sort)) (readsAs_window window) n beside
    rw [Statement.tokens, e]
    simp only [List.append_assoc]
    exact .select condition sorting windowed
  | .insert table writes returning, _ => by
    intro n beside
    obtain ⟨_, _, e, ⟨_, _, rfl, rfl, row⟩, returned⟩ :=
      readsAs_append (readsAs_append (readsAs_start (by decide) table) (readsAs_row writes))
        (readsAs_returning returning) n beside
    rw [Statement.tokens, e]
    simp only [List.append_assoc]
    have whole := Derives.insert (t := table) row returned
    exact whole
  | .update table writes p returning, h => by
    intro n beside
    obtain ⟨sets, filled⟩ : writes ≠ [] ∧ p.isFilled = true := by
      simpa [Statement.isFilled] using h
    obtain ⟨_, _, e, ⟨_, _, rfl, ⟨_, _, rfl, rfl, _, rfl, settings⟩, _, rfl, condition⟩,
        returned⟩ :=
      readsAs_append (readsAs_append (readsAs_append (readsAs_start (by decide) table)
        (readsAs_set sets)) (readsAs_where filled)) (readsAs_returning returning) n beside
    rw [Statement.tokens, e]
    simp only [List.append_assoc]
    exact .update settings condition returned
  | .delete table p returning, h => by
    intro n beside
    obtain ⟨_, _, e, ⟨_, _, rfl, rfl, ls, rfl, condition⟩, returned⟩ :=
      readsAs_append (readsAs_append (readsAs_start (by decide) table) (readsAs_where h))
        (readsAs_returning returning) n beside
    rw [Statement.tokens, e]
    simp only [List.append_assoc]
    exact .delete condition returned

/-- **The script of a statement reads as the statement**, and as nothing else. -/
theorem reads_script (b : Backend) {s : Statement} (filled : s.isFilled = true) (st : Statement) :
    Reads b (s.script b).text (s.script b).params st ↔ s.simplified = st := by
  have spaced := s.spaced_tokens (b := b)
  have lexemes : lexemes? b (s.script b).text.toList = some (lexemesFrom b 0 (s.tokens b)) := by
    rw [Script.text, String.toList_ofList]
    exact lexemes?_script spaced 0
  have reading := derives_tokens s filled 0 (beside_ofTokensFrom b .empty (s.tokens b))
  rw [← numbered_lexemesFrom spaced (.inr rfl)] at reading
  constructor
  · rintro ⟨ls, hls, h⟩
    rw [lexemes] at hls
    obtain rfl := Option.some.inj hls
    exact reading.unique h
  · rintro rfl
    exact ⟨_, lexemes, reading⟩

/-! ## Planned statements -/

theorem statement?_simplified {caps : Capabilities} {op : Operation} {p : Predicate}
    {s : Statement} (h : op.statement? caps p = some s) :
    op.statement? caps p.simplified = some s.simplified := by
  cases op with
  | inspect i => exact nomatch h
  | _ => exact Option.some.inj h ▸ rfl

theorem isFilled_statement {caps : Capabilities} {e : Envelope} {limit : Nat} {p : Predicate}
    {s : Statement} (valid : e.validate limit = .ok ()) (filled : p.isFilled = true)
    (h : e.operation.statement? caps p = some s) : s.isFilled = true := by
  obtain ⟨_, -, valid⟩ := bind_eq_ok_iff.mp valid
  obtain ⟨_, -, valid⟩ := bind_eq_ok_iff.mp valid
  unfold Envelope.checkWrites at valid
  cases ho : e.operation with
  | inspect i =>
    rw [ho] at h
    exact nomatch h
  | insert i =>
    rw [ho] at h
    exact Option.some.inj h ▸ rfl
  | update u =>
    rw [ho] at h valid
    obtain rfl := Option.some.inj h
    have sets : u.writes.isEmpty = false := by
      cases hw : u.writes.isEmpty with
      | false => rfl
      | true => simp [hw] at valid
    have entries : u.writes.entries ≠ [] := by simpa [Keyed.isEmpty] using sets
    simp [Statement.isFilled, filled, Operation.assigned, entries]
  | select x =>
    rw [ho] at h
    exact Option.some.inj h ▸ filled
  | delete d =>
    rw [ho] at h
    exact Option.some.inj h ▸ filled

/-- **No request changes the shape of a statement**: what is planned for a valid request on rows
reads as the statement that it asks for, with the condition of its filter, and as nothing else. -/
theorem reads_planned {caps : Capabilities} {e : Envelope} {limit : Nat} {plan : Plan}
    (valid : e.validate limit = .ok ()) (rows : ∀ i, e.operation ≠ .inspect i)
    (planned : Plan.ofOperation caps e.operation = .ok plan) :
    ∃ s p, plan = .statement s ∧
      Filter.conditionOf e.operation.filters? (Table.ofOperation e.operation) = .ok p ∧
      ∀ st, Reads caps.backend (s.script caps.backend).text (s.script caps.backend).params st ↔
        e.operation.statement? caps p.simplified = some st := by
  obtain ⟨p, s, condition, asked, rfl⟩ := Plan.ofOperation_eq_ok planned rows
  refine ⟨s, p, rfl, condition, fun st => ?_⟩
  have filled := isFilled_statement valid (Filter.isFilled_conditionOf condition) asked
  rw [reads_script caps.backend filled, statement?_simplified asked, Option.some.injEq]

/-! ### A request that looks like statements -/

/-- An update whose names and texts hold quotes, placeholders and parts of statements. -/
def hostile : Envelope where
  connection := ⟨"", Keyed.empty⟩
  operation := .update
    { resource := "t\"; DROP TABLE \"t"
      filters := some
        ⟨.group ⟨.or, some true⟩
          [.rule ⟨some "a?", some .between,
             [⟨.number (.integer 1), none⟩, ⟨.number (.integer 9), none⟩]⟩,
           .group ⟨.and, none⟩ [],
           .group ⟨.and, none⟩
             [.rule ⟨some "$7", some .equal, [⟨.string "it\x27s \\ $1 ?", none⟩]⟩]],
         Keyed.ofList [("a?", ⟨.number, ""⟩), ("$7", ⟨.text, ""⟩)]⟩
      writes := Keyed.ofList [("a?", .null), ("n", .number (.integer 3))] }

/-- What is planned for the update. -/
def hostileStatement : Statement :=
  .update "t\"; DROP TABLE \"t" [⟨"a?", .null⟩, ⟨"n", .int 3⟩]
    (.not (.any [.between "a?" (.int 1) (.int 9),
      .all [.compare "$7" .eq (.text "it\x27s \\ $1 ?")]]))
    true

/-- The text of the update on Postgres. -/
def hostileText : String :=
  "UPDATE \"t\"\"; DROP TABLE \"\"t\" SET \"a?\" = NULL, \"n\" = $1 WHERE NOT ((\"a?\" BETWEEN " ++
    "$2 AND $3 OR \"$7\" = E\x27it\x27\x27s \\\\ $1 ?\x27)) RETURNING *"

/-- It is read as what it asks for, and as nothing else. -/
theorem reads_planned_hostile :
    Reads .postgres hostileText [.int 3, .int 1, .int 9] hostileStatement.simplified ∧
      ∀ st, Reads .postgres hostileText [.int 3, .int 1, .int 9] st →
        st = hostileStatement.simplified := by
  have valid : hostile.validate 3 = .ok () := rfl
  have planned : Plan.ofOperation ⟨.postgres, true, true⟩ hostile.operation =
      .ok (.statement hostileStatement) := rfl
  obtain ⟨s, p, same, condition, reads⟩ := reads_planned valid (by simp [hostile]) planned
  obtain rfl := Plan.statement.inj same
  obtain rfl := Except.ok.inj condition
  have text : (hostileStatement.script .postgres).text = hostileText := by decide +kernel
  rw [text] at reads
  exact ⟨(reads _).mpr rfl, fun st h => (Option.some.inj ((reads st).mp h)).symm⟩

end SqlBroker.Sql
