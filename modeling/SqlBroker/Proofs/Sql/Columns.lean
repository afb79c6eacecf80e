import SqlBroker.Proofs.Filter.Leaves
import SqlBroker.Proofs.Plan
import SqlBroker.Proofs.Refusal
import SqlBroker.Proofs.Text.Encoded

/-!
# Columns in statements

A request is taken at its word: the columns that it may work on are the names that it declares, as a
field of its filter, as a field that it writes or as one that it sorts by. Nothing else is found by
look-up, and no statement names another column.

Concerns `infer`, `column` and `plan` (SPEC_FULL.md, sections 4.2 and 8).

Headlines:
* **`name_mem_tokens_iff`**: a condition names the columns that it tests and no others.
* **`Statement.names_columns`**: after its table a statement names its columns and nothing else.
* **`Filter.mem_columns_of_conditionOf`**: a filter that is understood tests columns of the table.
* **`Filter.unknownField_of_conditionOf`**: a field is unknown only if a rule names it.
* **`Table.columns_of_planned`**: a planned statement works in columns that are declared.
* **`Table.columns_declared`**: look-up is membership in the declared names, only a rule can ask for
  anything else, and no statement names it.
-/

namespace SqlBroker

open Sql

/-! ## Declared names -/

namespace Operation

/-- An operation declares a name in the catalog of its filter, by writing it or by sorting by it. -/
inductive Declares (op : Operation) (name : String) : Prop where
  | field (c : Filter.Clause) (h : op.filters? = some c) (mem : name ∈ c.fields.keys)
  | write (writes : Keyed Json) (h : op.writes? = some writes) (mem : name ∈ writes.keys)
  | sort (item : SortItem) (mem : item ∈ op.sortItems) (own : item.field = name)

/-- An operation with this sort, if it is one that sorts. -/
def sortedBy (items : List SortItem) : Operation → Operation
  | .select s => .select { s with sort := some items }
  | .insert i => .insert i
  | .update u => .update u
  | .delete d => .delete d
  | .inspect i => .inspect i

theorem mem_mentioned_iff {op : Operation} {name : String} :
    name ∈ Table.mentioned op ↔ op.Declares name := by
  rw [Table.mentioned, List.mem_append, List.mem_append]
  constructor
  · rintro ((mem | mem) | mem)
    · cases h : op.filters? with
      | none => simp [h] at mem
      | some c => exact .field c h (by simpa [h] using mem)
    · cases h : op.writes? with
      | none => simp [h] at mem
      | some writes => exact .write writes h (by simpa [h] using mem)
    · obtain ⟨item, mem, own⟩ := List.mem_map.mp mem
      exact .sort item mem own
  · rintro (⟨c, h, mem⟩ | ⟨writes, h, mem⟩ | ⟨item, mem, own⟩)
    · exact .inl (.inl (by simpa [h] using mem))
    · exact .inl (.inr (by simpa [h] using mem))
    · exact .inr (List.mem_map.mpr ⟨item, mem, own⟩)

end Operation

/-! ## Names in a text -/

namespace Sql

mutual

/-- **A condition names the columns that it tests** and no others. -/
theorem name_mem_tokens_iff {column : String} : ∀ {p : Predicate},
    .name column ∈ p.tokens ↔ column ∈ p.tested
  | .always => by simp [Predicate.tokens, Predicate.tested]
  | .compare c op v => by simp [Predicate.tokens, Predicate.tested]
  | .like c v negated => by simp [Predicate.tokens, Predicate.tested]
  | .between c low high => by simp [Predicate.tokens, Predicate.tested]
  | .isNull c negated => by simp [Predicate.tokens, Predicate.tested]
  | .all _ => name_mem_joinedTokens_iff " AND "
  | .any _ => name_mem_joinedTokens_iff " OR "
  | .not inner => by
    rw [Predicate.tested, ← name_mem_tokens_iff (p := inner)]
    simp [Predicate.tokens]

theorem name_mem_joinedTokens_iff {column : String} (word : String) : ∀ {ps : List Predicate},
    .name column ∈ Predicate.joinedTokens word ps ↔ column ∈ Predicate.testedAll ps
  | [] => by simp [Predicate.joinedTokens, Predicate.testedAll]
  | [p] => by
    rw [Predicate.joinedTokens, Predicate.testedAll, Predicate.testedAll, List.append_nil,
      name_mem_tokens_iff]
  | p :: q :: rest => by
    rw [Predicate.testedAll, List.mem_append, ← name_mem_tokens_iff,
      ← name_mem_laterTokens_iff word]
    simp [Predicate.joinedTokens]

theorem name_mem_laterTokens_iff {column : String} (word : String) : ∀ {ps : List Predicate},
    .name column ∈ Predicate.laterTokens word ps ↔ column ∈ Predicate.testedAll ps
  | [] => by simp [Predicate.laterTokens, Predicate.testedAll]
  | p :: rest => by
    rw [Predicate.testedAll, List.mem_append, ← name_mem_tokens_iff,
      ← name_mem_laterTokens_iff word]
    simp [Predicate.laterTokens]

end

/-- What is in a list but for its commas is in one of its items. -/
theorem mem_separated_iff {t : Token} (other : t ≠ .word ", ") : ∀ {tss : List (List Token)},
    t ∈ separated tss ↔ ∃ ts ∈ tss, t ∈ ts
  | [] => by simp [separated]
  | [ts] => by simp [separated]
  | ts :: us :: rest => by
    change t ∈ ts ++ .word ", " :: separated (us :: rest) ↔ _
    rw [List.mem_append, List.mem_cons, mem_separated_iff other, or_iff_right other]
    simp

/-- The names in a list whose items name one column each. -/
theorem name_mem_separated_iff {α : Type} {f : α → List Token} {g : α → String}
    {column : String} (one : ∀ x, .name column ∈ f x ↔ column = g x) {xs : List α} :
    .name column ∈ separated (xs.map f) ↔ column ∈ xs.map g := by
  rw [mem_separated_iff (t := .name column) nofun, List.mem_map]
  constructor
  · rintro ⟨ts, mem, h⟩
    obtain ⟨x, hx, rfl⟩ := List.mem_map.mp mem
    exact ⟨x, hx, ((one x).mp h).symm⟩
  · rintro ⟨x, hx, rfl⟩
    exact ⟨f x, List.mem_map_of_mem hx, (one x).mpr rfl⟩

namespace Statement

variable {column : String}

/-- The table of a statement. -/
def table : Statement → String
  | .select table _ _ _ => table
  | .insert table _ _ => table
  | .update table _ _ _ => table
  | .delete table _ _ => table

/-- The columns of a statement: those that its condition tests, that it sorts by, that it writes. -/
def columns : Statement → List String
  | .select _ p sort _ => p.tested ++ sort.map SortItem.field
  | .insert _ writes _ => writes.map Assignment.column
  | .update _ writes p _ => writes.map Assignment.column ++ p.tested
  | .delete _ p _ => p.tested

theorem name_mem_where_iff {p : Predicate} : .name column ∈ whereTokens p ↔ column ∈ p.tested := by
  rw [← name_mem_tokens_iff]
  simp [whereTokens]

theorem name_mem_sort_iff {sort : List SortItem} :
    .name column ∈ sortTokens sort ↔ column ∈ sort.map SortItem.field := by
  have one (i : SortItem) : .name column ∈ [.name i.field, orderWord i.order] ↔
      column = i.field := by
    obtain ⟨field, order⟩ := i
    cases order <;> simp [orderWord]
  rw [← name_mem_separated_iff one]
  cases sort <;> simp [sortTokens, separated]

theorem not_name_window {w : Option Window} : .name column ∉ windowTokens w := by
  cases w <;> simp [windowTokens]

theorem not_name_returning {returning : Bool} : .name column ∉ returningTokens returning := by
  cases returning <;> simp [returningTokens]

theorem name_mem_set_iff {writes : List Assignment} :
    .name column ∈ setTokens writes ↔ column ∈ writes.map Assignment.column := by
  have one (a : Assignment) : .name column ∈ [Token.name a.column, .word " = ", .value a.value] ↔
      column = a.column := by simp
  rw [← name_mem_separated_iff one]
  simp [setTokens]

theorem name_mem_row_iff {b : Backend} {writes : List Assignment} :
    .name column ∈ rowTokens b writes ↔ column ∈ writes.map Assignment.column := by
  unfold rowTokens
  split
  · rename_i empty
    rw [List.isEmpty_iff.mp empty]
    cases b <;> simp
  · have one (a : Assignment) : .name column ∈ [Token.name a.column] ↔ column = a.column := by simp
    have values : .name column ∉ separated (writes.map fun a => [.value a.value]) := by
      rw [mem_separated_iff (t := .name column) nofun]
      simp
    rw [← name_mem_separated_iff one]
    simp [values]

/-- **After its table a statement names its columns**, and nothing else. -/
theorem names_columns (b : Backend) (s : Statement) : ∃ word rest,
    s.tokens b = .word word :: .name s.table :: rest ∧
      ∀ column, .name column ∈ rest ↔ column ∈ s.columns := by
  cases s with
  | select table p sort window =>
    refine ⟨"SELECT * FROM ", whereTokens p ++ sortTokens sort ++ windowTokens window, rfl, ?_⟩
    intro column
    rw [List.mem_append, List.mem_append, name_mem_where_iff, name_mem_sort_iff,
      or_iff_left not_name_window]
    exact List.mem_append.symm
  | insert table writes returning =>
    refine ⟨"INSERT INTO ", rowTokens b writes ++ returningTokens returning, rfl, ?_⟩
    intro column
    rw [List.mem_append, name_mem_row_iff, or_iff_left not_name_returning]
    rfl
  | update table writes p returning =>
    refine ⟨"UPDATE ", setTokens writes ++ whereTokens p ++ returningTokens returning, rfl, ?_⟩
    intro column
    rw [List.mem_append, List.mem_append, name_mem_set_iff, name_mem_where_iff,
      or_iff_left not_name_returning]
    exact List.mem_append.symm
  | delete table p returning =>
    refine ⟨"DELETE FROM ", whereTokens p ++ returningTokens returning, rfl, ?_⟩
    intro column
    rw [List.mem_append, name_mem_where_iff, or_iff_left not_name_returning]
    rfl

end Statement

end Sql

/-! ## Fields of a filter -/

namespace Filter

variable {t : Table} {fields : Keyed FieldInfo}

theorem Rule.mem_columns_of_predicate {r : Rule} {field : String} {p : Predicate}
    (h : r.predicate field t fields = .ok p) : field ∈ t.columns := by
  obtain ⟨column, hc, -⟩ := bind_eq_ok_iff.mp h
  exact (Table.column_eq_ok hc).2

/-- A rule fails for its field only if the table has no such column. -/
theorem Rule.unknownField_of_predicate {r : Rule} {field name : String}
    (h : r.predicate field t fields = .error (.unknownField name)) :
    t.column field = .error (.unknownField name) := by
  rcases bind_eq_error_iff.mp h with h | ⟨column, -, h⟩
  · exact h
  · cases ho : r.operator with
    | none =>
      rw [ho] at h
      exact nomatch h
    | some op =>
      rw [ho] at h
      have operands := (Operand.failsAs_values ((fields.get? field).map FieldInfo.type)
        r.operands).bind fun values => op.failsAs_predicate column values
      exact nomatch operands _ h

/-- **A filter that is understood tests columns of the table.** -/
theorem mem_columns_of_conditionOf {filters : Option Clause} {p : Predicate}
    (h : conditionOf filters t = .ok p) : ∀ column ∈ p.tested, column ∈ t.columns := by
  intro column tested
  rw [tested_conditionOf h] at tested
  obtain ⟨r, mem, hf⟩ := List.mem_filterMap.mp tested
  cases filters with
  | none => exact nomatch mem
  | some c =>
    obtain ⟨q, hq, -⟩ := map_eq_ok_iff.mp h
    have asks : r ∈ c.tree.rules.filter Rule.asks :=
      List.mem_filter.mpr ⟨mem, by rw [Rule.asks, hf]; rfl⟩
    have own : r.condition t c.fields ∈ (c.tree.rules.filter Rule.asks).map fun r =>
        r.condition t c.fields := List.mem_map_of_mem asks
    rw [Node.map_condition_rules hq] at own
    obtain ⟨p', -, hr⟩ := List.mem_map.mp own
    rw [Rule.condition, hf] at hr
    obtain ⟨p'', hp, -⟩ := map_eq_ok_iff.mp hr.symm
    exact Rule.mem_columns_of_predicate hp

/-- **A field is unknown only if a rule names it.** -/
theorem unknownField_of_conditionOf {filters : Option Clause} {name : String}
    (h : conditionOf filters t = .error (.unknownField name)) :
    ∃ field ∈ fieldsOf (rulesOf filters), t.column field = .error (.unknownField name) := by
  cases filters with
  | none => exact nomatch h
  | some c =>
    obtain ⟨before, r, after, same, -, hr⟩ :=
      Node.condition_eq_error_iff.mp (map_eq_error_iff.mp h)
    have asks : r ∈ c.tree.rules.filter Rule.asks := by
      rw [same]
      exact List.mem_append_right before List.mem_cons_self
    obtain ⟨mem, named⟩ := List.mem_filter.mp asks
    obtain ⟨field, hf⟩ := Option.isSome_iff_exists.mp named
    rw [Rule.condition, hf] at hr
    exact ⟨field, List.mem_filterMap.mpr ⟨r, mem, hf⟩,
      Rule.unknownField_of_predicate (map_eq_error_iff.mp hr)⟩

end Filter

/-! ## Tables of operations -/

namespace Table

variable {op : Operation} {name : String}

theorem mem_columns_ofOperation : name ∈ (ofOperation op).columns ↔ op.Declares name :=
  mem_sortedNames.trans Operation.mem_mentioned_iff

/-- **A table is the same for every sort by the same fields**, whatever their order and however
often they are sorted by. -/
theorem ofOperation_sortedBy {items : List SortItem}
    (same : ∀ field, field ∈ items.map SortItem.field ↔ field ∈ op.sortItems.map SortItem.field) :
    ofOperation (op.sortedBy items) = ofOperation op := by
  cases op with
  | select s =>
    have columns : sortedNames (mentioned (.select { s with sort := some items })) =
        sortedNames (mentioned (.select s)) := by
      refine sortedNames_eq fun name => ?_
      exact List.mem_append.trans ((or_congr_right (same name)).trans List.mem_append.symm)
    exact congrArg (Table.mk s.resource) columns
  | _ => rfl

/-- **A planned statement works on the table of its operation**, in columns that are declared. -/
theorem columns_of_planned {caps : Capabilities} {s : Statement}
    (h : Plan.ofOperation caps op = .ok (.statement s)) :
    s.table = (ofOperation op).name ∧ ∀ column ∈ s.columns, op.Declares column := by
  obtain ⟨p, condition, hs⟩ := Plan.statement?_of_planned h
  have tested : ∀ column ∈ p.tested, op.Declares column := fun column mem =>
    mem_columns_ofOperation.mp (Filter.mem_columns_of_conditionOf condition column mem)
  have written (writes : Keyed Json) (own : op.writes? = some writes) :
      ∀ column ∈ (Operation.assigned writes).map Assignment.column, op.Declares column := by
    intro column mem
    rw [Operation.assigned, List.map_map] at mem
    exact .write writes own mem
  cases op with
  | inspect i => exact nomatch hs
  | select x =>
    obtain rfl := Option.some.inj hs
    refine ⟨rfl, fun column mem => (List.mem_append.mp mem).elim (tested column) fun mem => ?_⟩
    obtain ⟨item, mem, own⟩ := List.mem_map.mp mem
    exact .sort item mem own
  | insert i =>
    obtain rfl := Option.some.inj hs
    exact ⟨rfl, written i.writes rfl⟩
  | update u =>
    obtain rfl := Option.some.inj hs
    exact ⟨rfl, fun column mem => (List.mem_append.mp mem).elim (written u.writes rfl column)
      (tested column)⟩
  | delete d =>
    obtain rfl := Option.some.inj hs
    exact ⟨rfl, tested⟩

/-- **A plan fails for a field only if a rule names it** and nothing declares it. -/
theorem unknownField_of_planned {caps : Capabilities}
    (h : Plan.ofOperation caps op = .error (.unknownField name)) :
    name ∈ Filter.fieldsOf (Filter.rulesOf op.filters?) ∧ ¬ op.Declares name := by
  obtain ⟨field, asked, unknown⟩ :=
    Filter.unknownField_of_conditionOf (Plan.ofOperation_eq_error_iff.mp h)
  rw [column_ofOperation] at unknown
  split at unknown
  · exact nomatch unknown
  · rename_i undeclared
    obtain rfl : field = name := by injection Except.error.inj unknown
    exact ⟨asked, mt Operation.mem_mentioned_iff.mpr undeclared⟩

/-- **Look-up is membership in the declared names.** The columns of a table ascend byte by byte,
each stands once, they are what the operation declares and do not depend on how its sort is written,
and a name is found iff it is one of them. So what an operation writes and sorts by never stands in
the way of its plan: only its filter does, and a field is unknown only if a rule names it and
nothing declares it. After its table a planned statement names nothing but what is declared. -/
theorem columns_declared (op : Operation) :
    let t := ofOperation op
    (t.columns.Pairwise fun a b => Text.encode a < Text.encode b) ∧ t.columns.Nodup ∧
    (∀ name, name ∈ t.columns ↔ op.Declares name) ∧
    (∀ items : List SortItem,
      (∀ field, field ∈ items.map SortItem.field ↔ field ∈ op.sortItems.map SortItem.field) →
        ofOperation (op.sortedBy items) = t) ∧
    (∀ name, (op.Declares name → t.column name = .ok name) ∧
      (¬ op.Declares name → t.column name = .error (.unknownField name))) ∧
    ∀ caps,
      (∀ e, Plan.ofOperation caps op = .error e ↔
        Filter.conditionOf op.filters? t = .error e) ∧
      (∀ field, Plan.ofOperation caps op = .error (.unknownField field) →
        field ∈ Filter.fieldsOf (Filter.rulesOf op.filters?) ∧ ¬ op.Declares field) ∧
      ∀ s, Plan.ofOperation caps op = .ok (.statement s) → ∃ word rest,
        s.tokens caps.backend = .word word :: .name t.name :: rest ∧
          ∀ name, .name name ∈ rest → op.Declares name := by
  intro t
  refine ⟨?_, nodup_sortedNames _, fun name => mem_columns_ofOperation,
    fun items same => ofOperation_sortedBy same,
    fun name => ⟨fun declared => ?_, fun undeclared => ?_⟩,
    fun caps => ⟨fun e => Plan.ofOperation_eq_error_iff, fun field h => unknownField_of_planned h,
      fun s h => ?_⟩⟩
  · exact (ascending_sortedNames _).imp Text.encode_lt_encode_iff.mpr
  · rw [column_ofOperation, if_pos (Operation.mem_mentioned_iff.mpr declared)]
  · rw [column_ofOperation, if_neg (mt Operation.mem_mentioned_iff.mp undeclared)]
  · obtain ⟨own, declared⟩ := columns_of_planned h
    obtain ⟨word, rest, tokens, named⟩ := s.names_columns caps.backend
    exact ⟨word, rest, own ▸ tokens, fun name mem => declared name ((named name).mp mem)⟩

/-! ### Names that are not ASCII -/

/-- A ligature, and a letter that stands after it by its bytes and before it in UTF-16. -/
def letters (field : String) : Operation := .select
  { resource := "glyphs"
    filters := some ⟨.rule ⟨some field, some .isNull, []⟩, Keyed.ofList [("age", ⟨.number, "Age"⟩)]⟩
    sort := some [⟨"𝐀", .asc⟩, ⟨"ﬁ", .desc⟩, ⟨"𝐀", .desc⟩]
    page := none }

/-- Both are found in the columns of a select that sorts by them, in whatever order, and a field of
its filter that nothing declares is not. -/
theorem columns_declared_letters :
    let t := ofOperation (letters "age")
    t.columns = ["age", "ﬁ", "𝐀"] ∧ t.column "𝐀" = .ok "𝐀" ∧
    t.column "ghost" = .error (.unknownField "ghost") ∧
    ofOperation ((letters "age").sortedBy [⟨"ﬁ", .asc⟩, ⟨"𝐀", .asc⟩]) = t ∧
    (Plan.ofOperation ⟨.mysql, false, true⟩ (letters "ghost") = .error (.unknownField "ghost") ∧
      ¬ (letters "ghost").Declares "ghost") ∧
    ∃ s, Plan.ofOperation ⟨.mysql, false, true⟩ (letters "age") = .ok (.statement s) ∧
      ∃ word rest, s.tokens .mysql = .word word :: .name "glyphs" :: rest ∧
        ∀ name, .name name ∈ rest → (letters "age").Declares name := by
  intro t
  have columns : t.columns = ["age", "ﬁ", "𝐀"] := by decide
  obtain ⟨-, -, members, sorted, found, planned⟩ := columns_declared (letters "age")
  obtain ⟨-, -, -, -, -, planned'⟩ := columns_declared (letters "ghost")
  have undeclared : ¬ (letters "age").Declares "ghost" := by
    rw [← members, columns]
    decide
  have unknown : Plan.ofOperation ⟨.mysql, false, true⟩ (letters "ghost") =
      .error (.unknownField "ghost") := by
    rw [(planned' _).1]
    rfl
  refine ⟨columns, (found "𝐀").1 (.sort ⟨"𝐀", .asc⟩ (by decide) rfl), (found "ghost").2 undeclared,
    sorted _ ?_, ⟨unknown, ((planned' _).2.1 "ghost" unknown).2⟩, _, rfl, (planned _).2.2 _ rfl⟩
  intro field
  simpa [letters, Operation.sortItems] using Or.inr

end Table

end SqlBroker
