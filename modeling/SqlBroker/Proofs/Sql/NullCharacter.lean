import SqlBroker.Proofs.Sql.Columns
import SqlBroker.Proofs.Sql.Spelling

/-!
# The null character in statements

Some databases take the text of a statement up to its first null character, so a text that has one
cannot be sent to them. No value brings it into a text: a text with a null character stands beside
the statement, as do all other values but null and the plain texts of Postgres. A name does, as it
is written between quotes with all its characters.

Concerns `push_ident`, `push_value` and `plan` (SPEC_FULL.md, section 11).

Headlines:
* **`null_not_mem_value`**: no value brings a null character into a text.
* **`null_mem_ofTokensFrom_iff`**: the null characters of a script are those of its names.
* **`Plan.null_mem_text_iff`**: a planned statement has one iff its operation has a name with one.
-/

namespace SqlBroker

namespace Sql

variable {b : Backend}

/-! ## Tokens with a null character -/

theorem null_not_mem_digits (n : Nat) : '\x00' ∉ Text.digits n := fun mem =>
  absurd (isDigit_of_mem_digits mem) (by decide)

theorem null_not_mem_word {w : String} (h : (Token.word w).IsSpelled) : '\x00' ∉ w.toList := by
  rcases h with mem | ⟨n, rfl⟩
  · have all : ∀ w ∈ words.map Prod.fst, '\x00' ∉ w.toList := by decide +kernel
    exact all w mem
  · rw [String.toList_ofList]
    exact null_not_mem_digits n

theorem mem_doubled_iff {quote c : Char} : ∀ cs : List Char, c ∈ doubled quote cs ↔ c ∈ cs
  | [] => Iff.rfl
  | d :: cs => by
    rw [doubled]
    split <;> simp [mem_doubled_iff cs, *]

theorem null_mem_nameChars_iff {s : String} : '\x00' ∈ nameChars b s ↔ '\x00' ∈ s.toList := by
  have quote : '\x00' ≠ nameQuote b := by cases b <;> decide
  simp [nameChars, mem_doubled_iff, quote]

theorem null_mem_literalChar_iff {c : Char} : '\x00' ∈ literalChar c ↔ c = '\x00' := by
  unfold literalChar
  split
  · simp [*]
  · split <;> simp [*, eq_comm]

/-- **No value brings a null character into a text.** -/
theorem null_not_mem_value (n : Nat) (v : Value) :
    '\x00' ∉ (Script.ofToken b n (.value v)).chars := by
  cases h : inPlace? b v with
  | none =>
    simp only [Script.ofToken, h]
    have numbered : '\x00' ∉ Text.digits (n + 1) := null_not_mem_digits _
    cases b <;> simp [placeholder, numbered]
  | some cs =>
    simp only [Script.ofToken, h]
    cases v with
    | null =>
      obtain rfl := Option.some.inj h
      decide
    | text s =>
      -- A text is written in place only if it has no null character itself.
      obtain ⟨⟨-, plain⟩, literal⟩ := Option.ite_none_right_eq_some.mp h
      obtain rfl := Option.some.inj literal
      simp [literalChars, null_mem_literalChar_iff, plain]
    | _ => exact absurd h (by simp [inPlace?])

/-- **The null characters of a script are those of its names.** -/
theorem null_mem_ofTokensFrom_iff {ts : List Token} (h : Spaced ts) (n : Nat) :
    '\x00' ∈ (Script.ofTokensFrom b n ts).chars ↔ ∃ s, .name s ∈ ts ∧ '\x00' ∈ s.toList := by
  induction ts generalizing n with
  | nil => simp [Script.ofTokensFrom, Script.empty]
  | cons t ts ih =>
    obtain ⟨spelled, -, spaced⟩ := h
    rw [Script.ofTokensFrom, Script.append, List.mem_append, ih spaced]
    cases t with
    | word w =>
      rw [Script.ofToken, or_iff_right (null_not_mem_word spelled)]
      simp
    | name s =>
      rw [Script.ofToken, null_mem_nameChars_iff]
      simp [or_and_right, exists_or]
    | value v =>
      rw [or_iff_right (null_not_mem_value n v)]
      simp

end Sql

/-! ## Operations with a null character -/

/-- The names of an operation: its resource, the fields that the rules of its filter name, those
that it writes and those that it sorts by. -/
def Operation.names (op : Operation) : List String :=
  op.resource?.toList ++ Filter.fieldsOf (Filter.rulesOf op.filters?) ++
    (op.writes?.elim [] Keyed.keys) ++ op.sortItems.map SortItem.field

namespace Plan

open Sql

variable {caps : Capabilities} {op : Operation} {s : Statement}

/-- **A planned statement has the names of its operation** and no others. -/
theorem mem_names_iff (planned : ofOperation caps op = .ok (.statement s)) {name : String} :
    name = s.table ∨ name ∈ s.columns ↔ name ∈ op.names := by
  obtain ⟨p, condition, hs⟩ := statement?_of_planned planned
  have tested := Filter.tested_conditionOf condition
  have written (writes : Keyed Json) :
      (Operation.assigned writes).map Assignment.column = writes.keys := by
    rw [Operation.assigned, List.map_map]
    rfl
  cases op with
  | inspect i => exact absurd hs (by simp [Operation.statement?])
  | select x =>
    obtain rfl := Option.some.inj hs
    simp [Operation.names, Operation.resource?, Operation.writes?, Operation.sortItems,
      Statement.table, Statement.columns, tested]
  | insert i =>
    obtain rfl := Option.some.inj hs
    simp [Operation.names, Operation.resource?, Operation.writes?, Operation.sortItems,
      Operation.filters?, Filter.rulesOf, Filter.fieldsOf, Statement.table, Statement.columns,
      written]
  | update u =>
    obtain rfl := Option.some.inj hs
    simp [Operation.names, Operation.resource?, Operation.writes?, Operation.sortItems,
      Statement.table, Statement.columns, tested, written, or_comm]
  | delete d =>
    obtain rfl := Option.some.inj hs
    simp [Operation.names, Operation.resource?, Operation.writes?, Operation.sortItems,
      Statement.table, Statement.columns, tested]

/-- **A planned statement has a null character in its text iff its operation has one in a name.**
Whatever the values are, they bring none into it. -/
theorem null_mem_text_iff (planned : ofOperation caps op = .ok (.statement s)) :
    '\x00' ∈ (s.script caps.backend).text.toList ↔ ∃ name ∈ op.names, '\x00' ∈ name.toList := by
  obtain ⟨word, rest, tokens, columns⟩ := s.names_columns caps.backend
  have named (name : String) : .name name ∈ s.tokens caps.backend ↔ name ∈ op.names := by
    rw [tokens, ← mem_names_iff planned, ← columns]
    simp
  rw [Script.text, String.toList_ofList, Statement.script, Script.ofTokens,
    null_mem_ofTokensFrom_iff s.spaced_tokens]
  simp only [named]

/-- A removal by a text with a null character, from a table of this name. -/
def removal (resource : String) : Operation := .delete
  { resource
    filters := some
      ⟨.rule ⟨some "note", some .startsWith, [⟨.string "a\x00b", some .text⟩]⟩,
        Keyed.ofList [("note", ⟨.text, "Note"⟩)]⟩ }

/-- The statement of a removal. -/
def removed (resource : String) : Statement :=
  .delete resource (.like "note" (.text "a\x00b%") false) true

theorem ofOperation_removal (resource : String) :
    ofOperation ⟨.postgres, true, true⟩ (removal resource) =
      .ok (.statement (removed resource)) := rfl

/-- The text is left out of the statement, and the name is not. -/
theorem null_mem_text_iff_removal :
    '\x00' ∉ ((removed "notes").script .postgres).text.toList ∧
      '\x00' ∈ ((removed "no\x00tes").script .postgres).text.toList := by
  have plain := null_mem_text_iff (ofOperation_removal "notes")
  have named := null_mem_text_iff (ofOperation_removal "no\x00tes")
  exact ⟨fun mem => absurd (plain.mp mem) (by decide), named.mpr (by decide)⟩

/-- A statement that Postgres cannot be sent as a whole. -/
theorem null_mem_text_removal : ∃ s,
    ofOperation ⟨.postgres, true, true⟩ (removal "no\x00tes") = .ok (.statement s) ∧
      '\x00' ∈ (s.script .postgres).text.toList :=
  ⟨_, ofOperation_removal "no\x00tes", by decide⟩

end Plan

end SqlBroker
