import SqlBroker.Proofs.Sql.Columns
import SqlBroker.Proofs.Sql.Spelling

/-!
# Statements about every row

An update or a removal without a condition is about every row of its table. That may be asked for by
having no filter, or one that names no field at all, and it must not come about in any other way: a
filter that names a field, however deep and under whatever groups, has a test of that column in the
statement, or there is no statement.

Concerns `plan` and `compile_clause` (SPEC_FULL.md, sections 4.3, 4.4 and 9).

Headlines:
* **`tested_eq_nil_of_text`**: a text that is the same with `TRUE` for its condition tests nothing.
* **`Plan.ofOperation_unfiltered`**: a filter that names no field has no part in any plan.
* **`Plan.every_row_iff`**: an update or removal is about every row iff its filter is such a one.
-/

namespace SqlBroker

namespace Operation

/-- Whether an operation changes or removes the rows that a condition selects. -/
def changesRows : Operation → Bool
  | .update _ => true
  | .delete _ => true
  | _ => false

/-- The same operation without a filter. -/
def unfiltered : Operation → Operation
  | .select s => .select { s with filters := none }
  | .insert i => .insert i
  | .update u => .update { u with filters := none }
  | .delete d => .delete { d with filters := none }
  | .inspect i => .inspect i

@[simp] theorem filters?_unfiltered (op : Operation) : op.unfiltered.filters? = none := by
  cases op <;> rfl

theorem statement?_unfiltered (caps : Capabilities) (p : Predicate) (op : Operation) :
    op.unfiltered.statement? caps p = op.statement? caps p := by
  cases op <;> rfl

end Operation

namespace Sql

variable {b : Backend}

/-- The condition of a statement that has one. -/
def Statement.condition? : Statement → Option Predicate
  | .select _ p _ _ => some p
  | .insert _ _ _ => none
  | .update _ _ p _ => some p
  | .delete _ p _ => some p

/-! ## The condition in a text -/

theorem name_mem_lexemesFrom {s : String} {ts : List Token} (h : .name s ∈ ts) (n : Nat) :
    .name s ∈ lexemesFrom b n ts := by
  induction ts generalizing n with
  | nil => exact absurd h List.not_mem_nil
  | cons t ts ih =>
    rcases List.mem_cons.mp h with rfl | h
    · exact List.mem_cons_self
    · exact List.mem_append_right _ (ih h _)

theorem lexemesFrom_append (n : Nat) (ts us : List Token) :
    lexemesFrom b n (ts ++ us) =
      lexemesFrom b n ts ++ lexemesFrom b (n + (Script.ofTokensFrom b n ts).params.length) us := by
  induction ts generalizing n with
  | nil => rfl
  | cons t ts ih =>
    rw [List.cons_append, lexemesFrom, lexemesFrom, ih, List.append_assoc, Script.ofTokensFrom,
      Script.append, List.length_append, Nat.add_assoc]

/-- Statements with the same text have the same lexemes. -/
theorem lexemesFrom_eq_of_text {s t : Statement} (h : (s.script b).text = (t.script b).text) :
    lexemesFrom b 0 (s.tokens b) = lexemesFrom b 0 (t.tokens b) := by
  have reading := lexemes?_script (b := b) (s.spaced_tokens (b := b)) 0
  have chars : (s.script b).chars = (t.script b).chars := by
    simpa [Script.text] using congrArg String.toList h
  have same : (Script.ofTokensFrom b 0 (s.tokens b)).chars =
      (Script.ofTokensFrom b 0 (t.tokens b)).chars := chars
  rw [same, lexemes?_script t.spaced_tokens 0] at reading
  exact (Option.some.inj reading).symm

/-- The last part of a statement reads alike whatever stands before it. -/
theorem lexemesFrom_returningTokens (n m : Nat) (returning : Bool) :
    lexemesFrom b n (Statement.returningTokens returning) =
      lexemesFrom b m (Statement.returningTokens returning) := by
  cases returning <;> rfl

theorem lexemesFrom_always (n : Nat) :
    lexemesFrom b n Predicate.always.tokens = [.word "TRUE"] := by
  have word := lexemes_word (w := "TRUE") (by decide) b n
  rw [Predicate.tokens, lexemesFrom, word]
  rfl

/-- **What reads as `TRUE` tests nothing.** -/
theorem tested_eq_nil_of_lexemes {p : Predicate} {n : Nat}
    (h : lexemesFrom b n p.tokens = [.word "TRUE"]) : p.tested = [] := by
  refine List.eq_nil_iff_forall_not_mem.mpr fun column tested => ?_
  have named := name_mem_lexemesFrom (b := b) (name_mem_tokens_iff.mpr tested) n
  rw [h] at named
  exact nomatch List.mem_singleton.mp named

/-- **A text that is the same with `TRUE` for its condition tests nothing.** -/
theorem tested_eq_nil_of_text {s whole : Statement} {before : List Token} {p : Predicate}
    {returning : Bool}
    (hs : s.tokens b = before ++ Statement.whereTokens p ++ Statement.returningTokens returning)
    (hw : whole.tokens b =
      before ++ Statement.whereTokens .always ++ Statement.returningTokens returning)
    (h : (s.script b).text = (whole.script b).text) : p.tested = [] := by
  have lexemes := lexemesFrom_eq_of_text h
  rw [hs, hw, lexemesFrom_append, lexemesFrom_append, lexemesFrom_append, lexemesFrom_append,
    lexemesFrom_returningTokens _ 0, lexemesFrom_returningTokens (_ + _) 0] at lexemes
  have condition := List.append_cancel_left (List.append_cancel_right lexemes)
  rw [Statement.whereTokens, Statement.whereTokens, lexemesFrom, lexemesFrom,
    lexemesFrom_always] at condition
  exact tested_eq_nil_of_lexemes (List.append_cancel_left condition)

end Sql

/-! ## Updates and removals -/

namespace Plan

open Sql SqlBroker.Filter

/-- The statement that an update or a removal asks for has the condition of its filter, and the text
with `TRUE` in its place is another one if the filter tests anything. -/
theorem statement?_of_changesRows (caps : Capabilities) {op : Operation}
    (changes : op.changesRows = true) (p : Predicate) :
    ∃ s whole, op.statement? caps p = some s ∧ op.statement? caps .always = some whole ∧
      s.condition? = some p ∧ whole.condition? = some .always ∧
      ∀ b, (s.script b).text = (whole.script b).text → p.tested = [] := by
  cases op with
  | update u => exact ⟨_, _, rfl, rfl, rfl, rfl, fun b => tested_eq_nil_of_text rfl rfl⟩
  | delete d => exact ⟨_, _, rfl, rfl, rfl, rfl, fun b => tested_eq_nil_of_text rfl rfl⟩
  | select x => exact nomatch changes
  | insert i => exact nomatch changes
  | inspect i => exact nomatch changes

/-- Without its filter an operation is planned as what it asks for of every row. -/
theorem unfiltered_eq_ok {caps : Capabilities} {op : Operation} {s : Statement}
    (h : op.statement? caps .always = some s) :
    ofOperation caps op.unfiltered = .ok (.statement s) := by
  refine ofOperation_of_condition (p := .always) ?_ ?_
  · rw [Operation.filters?_unfiltered]
    rfl
  · rw [Operation.statement?_unfiltered, h]

/-- **A filter that names no field has no part in a plan**, whatever else is in it. -/
theorem ofOperation_unfiltered {op : Operation} (caps : Capabilities)
    (h : ∀ r ∈ rulesOf op.filters?, r.field = none) :
    ofOperation caps op.unfiltered = ofOperation caps op := by
  have nameless := (fieldsOf_eq_nil_iff _).mpr h
  cases hs : op.statement? caps .always with
  | some s =>
    rw [ofOperation_of_condition (conditionOf_of_nameless nameless) hs, unfiltered_eq_ok hs]
  | none =>
    cases op with
    | inspect i => rfl
    | _ => exact nomatch hs

/-- **No statement is about every row by accident.** The statement of an update or a removal tests
each field that a rule of its filter names, and has `TRUE` for its condition iff there is none; then
it is the statement of the same operation without a filter, and else it has another text. -/
theorem every_row_iff {caps : Capabilities} {op : Operation} {plan : Plan}
    (changes : op.changesRows = true) (planned : ofOperation caps op = .ok plan) :
    ∃ s p whole, plan = .statement s ∧ s.condition? = some p ∧
      p.tested = (rulesOf op.filters?).filterMap Rule.field ∧
      (p = .always ↔ ∀ r ∈ rulesOf op.filters?, r.field = none) ∧
      ofOperation caps op.unfiltered = .ok (.statement whole) ∧
      whole.condition? = some .always ∧
      ((∀ r ∈ rulesOf op.filters?, r.field = none) → s = whole) ∧
      ∀ b, (s.script b).text = (whole.script b).text ↔
        ∀ r ∈ rulesOf op.filters?, r.field = none := by
  have rows : ∀ i, op ≠ .inspect i := fun i h => by simp [h, Operation.changesRows] at changes
  obtain ⟨p, s, hp, hs, rfl⟩ := ofOperation_eq_ok planned rows
  obtain ⟨s', whole, hs', hwhole, condition, constant, text⟩ :=
    statement?_of_changesRows caps changes p
  obtain rfl := Option.some.inj (hs.symm.trans hs')
  have tested := tested_conditionOf hp
  have always := always_iff_of_conditionOf hp
  rw [fieldsOf_eq_nil_iff] at always
  have same (nameless : ∀ r ∈ rulesOf op.filters?, r.field = none) : s = whole := by
    have unfiltered := ofOperation_unfiltered caps nameless
    rw [unfiltered_eq_ok hwhole, planned] at unfiltered
    exact (Plan.statement.inj (Except.ok.inj unfiltered)).symm
  refine ⟨s, p, whole, rfl, condition, tested, always, unfiltered_eq_ok hwhole, constant, same,
    fun b => ⟨fun h => ?_, fun h => by rw [same h]⟩⟩
  rw [← fieldsOf_eq_nil_iff, ← tested]
  exact text b h

/-! ### Groups under negations -/

/-- A removal whose filter has a negated group without children and a rule without a field. -/
def nameless : Operation := .delete
  { resource := "t"
    filters := some
      ⟨.group ⟨.and, some true⟩ [.group ⟨.or, some true⟩ [], .rule ⟨none, some .between, []⟩],
        Keyed.empty⟩ }

/-- An update whose filter has, among such groups, one rule with a field. -/
def named : Operation := .update
  { resource := "t"
    filters := some
      ⟨.group ⟨.or, some true⟩
        [.group ⟨.and, none⟩ [.group ⟨.or, some true⟩ []],
         .group ⟨.and, some true⟩ [.rule ⟨some "id", some .equal, [⟨.number (.integer 3), none⟩]⟩]],
        Keyed.ofList [("id", ⟨.number, ""⟩)]⟩
    writes := Keyed.ofList [("n", .null)] }

/-- The removal is about every row, and the update is not. -/
theorem every_row_iff_nested :
    (∃ s, ofOperation ⟨.mysql, false, true⟩ nameless = .ok (.statement s) ∧
      ofOperation ⟨.mysql, false, true⟩ nameless.unfiltered = .ok (.statement s)) ∧
    ∃ s p whole, ofOperation ⟨.sqlite, true, true⟩ named = .ok (.statement s) ∧
      s.condition? = some p ∧ p ≠ .always ∧ p.tested = ["id"] ∧
      ofOperation ⟨.sqlite, true, true⟩ named.unfiltered = .ok (.statement whole) ∧
      (s.script .sqlite).text ≠ (whole.script .sqlite).text := by
  constructor
  · have planned : ofOperation ⟨.mysql, false, true⟩ nameless =
        .ok (.statement (.delete "t" .always false)) := rfl
    obtain ⟨s, p, whole, e, -, -, -, unfiltered, -, same, -⟩ := every_row_iff rfl planned
    obtain rfl := same (by decide)
    exact ⟨s, e ▸ planned, unfiltered⟩
  · have planned : ofOperation ⟨.sqlite, true, true⟩ named =
        .ok (.statement (.update "t" [⟨"n", .null⟩]
          (.not (.any [.not (.all [.compare "id" .eq (.int 3)])])) true)) := rfl
    obtain ⟨s, p, whole, e, condition, tested, always, unfiltered, -, -, text⟩ :=
      every_row_iff rfl planned
    have asks : ¬ ∀ r ∈ rulesOf named.filters?, r.field = none := by decide
    exact ⟨s, p, whole, e ▸ planned, condition, fun h => asks (always.mp h), tested, unfiltered,
      fun h => asks ((text .sqlite).mp h)⟩

end Plan

end SqlBroker
