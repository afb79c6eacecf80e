import Mathlib.Data.List.Infix
import SqlBroker.Backend.Basic

/-!
# Texts that are like a pattern

Patterns are read in two steps: `marks?` says what each character stands for in a backend, `covers`
compares the marks with a text. A text before or after the sign for any run is a pattern for what
starts or ends with it, if all its characters stand for themselves. What another text gets wrong is
seen on a text as short as its pattern allows (`sample`).

Headlines:
* **`Like.isVerbatim_of_prefix_sample`**: only a verbatim operand is the start of such a text.
* **`Like.holds_prefix_iff`**, **`Like.holds_suffix_iff`**: the patterns are the tests for a prefix
  and for a suffix exactly if the operand is verbatim.
-/

namespace SqlBroker.Like

/-! ## Patterns -/

/-- What a character of a pattern stands for. -/
inductive Mark where
  /-- Any run of characters, also of none. -/
  | run
  /-- Any one character. -/
  | single
  | exactly (c : Char)
deriving DecidableEq, Repr

/-- The character that makes the one after it stand for itself. -/
def escape? : Backend → Option Char
  | .postgres => some '\\'
  | .mysql => some '\\'
  | .sqlite => none

/-- The mark of a character that stands behind no escape. -/
def Mark.of (c : Char) : Mark :=
  if c = '%' then .run else if c = '_' then .single else .exactly c

/-- The marks of a pattern. An escape with nothing behind it stands for itself on MySQL and is an
error on Postgres. -/
def marks? (b : Backend) : List Char → Option (List Mark)
  | [] => some []
  | [c] =>
    if escape? b = some c then (if b = .mysql then some [.exactly c] else none)
    else some [.of c]
  | c :: d :: rest =>
    if escape? b = some c then (marks? b rest).map (.exactly d :: ·)
    else (marks? b (d :: rest)).map (.of c :: ·)

/-- Whether a text is what marks stand for, upper and lower case apart. -/
def covers : List Mark → List Char → Bool
  | [], s => s.isEmpty
  | .run :: ms, s => s.tails.any (covers ms)
  | .single :: ms, s =>
    match s with
    | [] => false
    | _ :: rest => covers ms rest
  | .exactly c :: ms, s =>
    match s with
    | [] => false
    | d :: rest => c == d && covers ms rest

/-- Whether a text is like a pattern. -/
def holds (b : Backend) (pattern s : List Char) : Bool :=
  match marks? b pattern with
  | none => false
  | some ms => covers ms s

/-- Whether a character stands for itself wherever it is in a pattern. -/
def isLiteral (b : Backend) (c : Char) : Bool := c != '%' && c != '_' && escape? b != some c

/-- Whether all characters of a text stand for themselves. -/
def isVerbatim (b : Backend) (cs : List Char) : Bool := cs.all (isLiteral b)

variable {b : Backend}

/-! ### Reading marks -/

theorem isLiteral_iff {c : Char} :
    isLiteral b c ↔ c ≠ '%' ∧ c ≠ '_' ∧ escape? b ≠ some c := by
  simp [isLiteral, and_assoc]

theorem Mark.of_literal {c : Char} (h : isLiteral b c) : Mark.of c = .exactly c := by
  obtain ⟨percent, underscore, -⟩ := isLiteral_iff.mp h
  rw [Mark.of, if_neg percent, if_neg underscore]

/-- A character that is no escape stands for what it does alone. -/
theorem marks?_cons {c : Char} (h : escape? b ≠ some c) (rest : List Char) :
    marks? b (c :: rest) = (marks? b rest).map (.of c :: ·) := by
  cases rest with
  | nil => simp only [marks?, if_neg h, Option.map_some]
  | cons d rest => rw [marks?, if_neg h]

theorem marks?_escape {c d : Char} {rest : List Char} {ms : List Mark} (h : escape? b = some c)
    (hms : marks? b (c :: d :: rest) = some ms) :
    ∃ later, marks? b rest = some later ∧ ms = .exactly d :: later := by
  rw [marks?, if_pos h] at hms
  obtain ⟨later, hlater, rfl⟩ := Option.map_eq_some_iff.mp hms
  exact ⟨later, hlater, rfl⟩

theorem escape?_ne_percent : escape? b ≠ some '%' := by cases b <;> decide

/-- Of a verbatim text each character is its own mark. -/
theorem marks?_verbatim (closing : List Char) : ∀ {cs : List Char}, isVerbatim b cs →
    marks? b (cs ++ closing) = (marks? b closing).map (cs.map .exactly ++ ·)
  | [], _ => by simp
  | c :: cs, h => by
    obtain ⟨literal, later⟩ := Bool.and_eq_true_iff.mp h
    have unescaped : escape? b ≠ some c := (isLiteral_iff.mp literal).2.2
    rw [List.cons_append, marks?_cons unescaped, marks?_verbatim closing later, Option.map_map,
      Mark.of_literal literal]
    rfl

/-! ## Verbatim operands -/

theorem covers_run {ms : List Mark} {s : List Char} :
    covers (.run :: ms) s ↔ ∃ after, after <:+ s ∧ covers ms after := by
  simp [covers]

theorem covers_exactly (ms : List Mark) : ∀ cs s : List Char,
    covers (cs.map .exactly ++ ms) s ↔ ∃ rest, s = cs ++ rest ∧ covers ms rest
  | [], s => by simp
  | c :: cs, [] => by simp [covers]
  | c :: cs, d :: s => by
    change (c == d && covers (cs.map .exactly ++ ms) s) = true ↔ _
    rw [Bool.and_eq_true, beq_iff_eq, covers_exactly ms cs s]
    constructor
    · rintro ⟨rfl, rest, rfl, h⟩
      exact ⟨rest, rfl, h⟩
    · rintro ⟨rest, same, h⟩
      obtain ⟨rfl, rfl⟩ := List.cons.inj same
      exact ⟨rfl, rest, rfl, h⟩

/-- **Before the sign for any run, a verbatim text is a prefix.** -/
theorem holds_prefix {cs : List Char} (h : isVerbatim b cs) (s : List Char) :
    holds b (cs ++ ['%']) s ↔ cs <+: s := by
  have closing : marks? b ['%'] = some [.run] := by
    rw [marks?_cons escape?_ne_percent]
    rfl
  rw [holds, marks?_verbatim ['%'] h, closing]
  change covers (cs.map .exactly ++ [.run]) s ↔ _
  rw [covers_exactly]
  constructor
  · rintro ⟨rest, rfl, -⟩
    exact List.prefix_append cs rest
  · rintro ⟨rest, rfl⟩
    exact ⟨rest, rfl, covers_run.mpr ⟨[], List.nil_suffix, rfl⟩⟩

/-- **Behind it, one is a suffix**, whatever its marks are as long as they stand for its own
characters. -/
theorem holds_suffix {cs : List Char} (h : marks? b cs = some (cs.map .exactly)) (s : List Char) :
    holds b ('%' :: cs) s ↔ cs <:+ s := by
  rw [holds, marks?_cons escape?_ne_percent, h]
  change covers (.run :: cs.map .exactly) s ↔ _
  rw [covers_run]
  have whole (after : List Char) : covers (cs.map .exactly) after ↔ after = cs := by
    have parts := covers_exactly [] cs after
    rw [List.append_nil] at parts
    rw [parts]
    constructor
    · rintro ⟨rest, rfl, empty⟩
      rw [List.isEmpty_iff.mp empty, List.append_nil]
    · rintro rfl
      exact ⟨[], (List.append_nil _).symm, rfl⟩
  constructor
  · rintro ⟨after, suffix, h⟩
    rwa [← (whole after).mp h]
  · intro suffix
    exact ⟨cs, suffix, (whole cs).mpr rfl⟩

/-! ## Other operands -/

/-- A text that marks stand for, of the fewest characters and without `_`. -/
def sample : List Mark → List Char
  | [] => []
  | .run :: ms => sample ms
  | .single :: ms => '?' :: sample ms
  | .exactly c :: ms => c :: sample ms

theorem covers_sample : ∀ ms : List Mark, covers ms (sample ms)
  | [] => rfl
  | .run :: ms => covers_run.mpr ⟨sample ms, List.suffix_rfl, covers_sample ms⟩
  | .single :: ms => covers_sample ms
  | .exactly c :: ms => by
    change (c == c && covers ms (sample ms)) = true
    rw [covers_sample ms, beq_self_eq_true]
    rfl

theorem sample_of (c : Char) (ms : List Mark) :
    sample (.of c :: ms) = if c = '%' then sample ms
      else (if c = '_' then '?' else c) :: sample ms := by
  unfold Mark.of
  by_cases percent : c = '%'
  · rw [if_pos percent, if_pos percent, sample]
  · rw [if_neg percent, if_neg percent]
    by_cases underscore : c = '_'
    · rw [if_pos underscore, if_pos underscore, sample]
    · rw [if_neg underscore, if_neg underscore, sample]

/-- What may stand behind the operand of a pattern: nothing, or the sign for any run. -/
def IsClosing (closing : List Char) : Prop := closing = [] ∨ closing = ['%']

/-- An escape at the end of the operand stands for itself, or for the sign behind it. -/
theorem marks?_last_escape {closing : List Char} (hc : IsClosing closing) {c : Char}
    {ms : List Mark} (escape : escape? b = some c) (h : marks? b (c :: closing) = some ms) :
    (closing = [] ∧ b = .mysql ∧ ms = [.exactly c]) ∨ ms = [.exactly '%'] := by
  rcases hc with rfl | rfl
  · rw [marks?, if_pos escape] at h
    split at h
    next mysql => exact .inl ⟨rfl, mysql, (Option.some.inj h).symm⟩
    next => exact nomatch h
  · obtain ⟨later, hlater, rfl⟩ := marks?_escape escape h
    obtain rfl := Option.some.inj hlater
    exact .inr rfl

/-- A sample is no longer than the operand: a sign for any run adds nothing to it, unless an escape
stands before it, and that adds nothing either. -/
theorem length_sample_le {closing : List Char} (hc : IsClosing closing) {cs : List Char}
    {ms : List Mark} (h : marks? b (cs ++ closing) = some ms) :
    (sample ms).length ≤ cs.length := by
  match cs with
  | [] =>
    rcases hc with rfl | rfl
    · obtain rfl := Option.some.inj h
      exact Nat.le_refl 0
    · rw [List.nil_append, marks?_cons escape?_ne_percent] at h
      obtain rfl := Option.some.inj h
      exact Nat.le_refl 0
  | c :: cs =>
    by_cases escape : escape? b = some c
    · match cs with
      | [] =>
        rcases marks?_last_escape hc escape h with ⟨-, -, rfl⟩ | rfl
        · exact Nat.le_refl 1
        · exact Nat.le_refl 1
      | d :: rest =>
        obtain ⟨ms, hms, rfl⟩ := marks?_escape escape h
        have shorter : (sample ms).length ≤ rest.length := length_sample_le hc hms
        change (sample ms).length + 1 ≤ rest.length + 2
        omega
    · rw [List.cons_append, marks?_cons escape] at h
      obtain ⟨ms, hms, rfl⟩ := Option.map_eq_some_iff.mp h
      have shorter : (sample ms).length ≤ cs.length := length_sample_le hc hms
      rw [sample_of]
      split
      · exact Nat.le_succ_of_le shorter
      · exact Nat.succ_le_succ shorter
termination_by cs.length

/-- **Only of a verbatim operand a sample starts with it**, but for an escape that stands for
itself. -/
theorem isVerbatim_of_prefix_sample {closing : List Char} (hc : IsClosing closing) {cs : List Char}
    {ms : List Mark} (h : marks? b (cs ++ closing) = some ms) (starts : cs <+: sample ms) :
    isVerbatim b cs ∨
      closing = [] ∧ b = .mysql ∧ ∃ before, isVerbatim b before ∧ cs = before ++ ['\\'] := by
  match cs with
  | [] => exact .inl rfl
  | c :: cs =>
    by_cases escape : escape? b = some c
    · match cs with
      | [] =>
        rcases marks?_last_escape hc escape h with ⟨nothing, mysql, -⟩ | rfl
        · have backslash : c = '\\' := by
            rw [mysql] at escape
            exact (Option.some.inj escape).symm
          exact .inr ⟨nothing, mysql, [], rfl, congrArg (fun c => [c]) backslash⟩
        · have percent : c = '%' := (List.cons_prefix_cons.mp starts).1
          exact absurd (percent ▸ escape) escape?_ne_percent
      | d :: rest =>
        -- The sample lacks the escape, so that the operand is too long to start it.
        obtain ⟨ms, hms, rfl⟩ := marks?_escape escape h
        have shorter : (sample ms).length ≤ rest.length := length_sample_le hc hms
        have longer : rest.length + 2 ≤ (sample ms).length + 1 := starts.length_le
        omega
    · rw [List.cons_append, marks?_cons escape] at h
      obtain ⟨ms, hms, rfl⟩ := Option.map_eq_some_iff.mp h
      have shorter : (sample ms).length ≤ cs.length := length_sample_le hc hms
      rw [sample_of] at starts
      by_cases percent : c = '%'
      · rw [if_pos percent] at starts
        have longer : cs.length + 1 ≤ (sample ms).length := starts.length_le
        omega
      · rw [if_neg percent, List.cons_prefix_cons] at starts
        by_cases underscore : c = '_'
        · rw [if_pos underscore, underscore] at starts
          exact absurd starts.1 (by decide)
        · have literal : isLiteral b c := isLiteral_iff.mpr ⟨percent, underscore, escape⟩
          rcases isVerbatim_of_prefix_sample hc hms starts.2 with
            later | ⟨nothing, mysql, before, later, rfl⟩
          · exact .inl (Bool.and_eq_true_iff.mpr ⟨literal, later⟩)
          · refine .inr ⟨nothing, mysql, c :: before, ?_, rfl⟩
            exact Bool.and_eq_true_iff.mpr ⟨literal, later⟩
termination_by cs.length

/-- **To start as an operand does is to match its pattern exactly if the operand is verbatim.** -/
theorem holds_prefix_iff (cs : List Char) :
    (∀ s, holds b (cs ++ ['%']) s ↔ cs <+: s) ↔ isVerbatim b cs := by
  constructor
  · intro isPrefix
    cases hms : marks? b (cs ++ ['%']) with
    | none =>
      have fails : ¬ holds b (cs ++ ['%']) cs := by simp [holds, hms]
      exact absurd ((isPrefix cs).mpr List.prefix_rfl) fails
    | some ms =>
      have like : holds b (cs ++ ['%']) (sample ms) := by
        rw [holds, hms]
        exact covers_sample ms
      rcases isVerbatim_of_prefix_sample (.inr rfl) hms ((isPrefix _).mp like) with h | ⟨h, -⟩
      · exact h
      · exact nomatch h
  · exact holds_prefix

/-- Whether all characters of a text stand for themselves behind the sign for any run: on MySQL the
last of them may be the escape. -/
def EndsVerbatim (b : Backend) (cs : List Char) : Prop :=
  isVerbatim b cs ∨ b = .mysql ∧ ∃ before, isVerbatim b before ∧ cs = before ++ ['\\']

theorem marks?_endsVerbatim {cs : List Char} (h : EndsVerbatim b cs) :
    marks? b cs = some (cs.map .exactly) := by
  rcases h with h | ⟨rfl, before, h, rfl⟩
  · have marks := marks?_verbatim [] h
    rwa [List.append_nil, marks?, Option.map_some, List.append_nil] at marks
  · rw [marks?_verbatim ['\\'] h, List.map_append]
    rfl

/-- **To end as an operand does is to match its pattern exactly if the operand is verbatim** behind
the sign for any run. -/
theorem holds_suffix_iff (cs : List Char) :
    (∀ s, holds b ('%' :: cs) s ↔ cs <:+ s) ↔ EndsVerbatim b cs := by
  constructor
  · intro isSuffix
    have marks : marks? b ('%' :: cs) = (marks? b cs).map (.run :: ·) :=
      marks?_cons escape?_ne_percent cs
    cases hms : marks? b cs with
    | none =>
      have fails : ¬ holds b ('%' :: cs) cs := by simp [holds, marks, hms]
      exact absurd ((isSuffix cs).mpr List.suffix_rfl) fails
    | some ms =>
      have like : holds b ('%' :: cs) (sample ms) := by
        rw [holds, marks, hms]
        exact covers_sample (.run :: ms)
      have whole : marks? b (cs ++ []) = some ms := by rw [List.append_nil, hms]
      have ends : cs <:+ sample ms := (isSuffix _).mp like
      -- A sample is no longer than the operand, so that it starts with it as well.
      have same : cs = sample ms := ends.eq_of_length_le (length_sample_le (.inl rfl) whole)
      rcases isVerbatim_of_prefix_sample (.inl rfl) whole (same ▸ List.prefix_rfl) with
        h | ⟨-, mysql, before⟩
      · exact .inl h
      · exact .inr ⟨mysql, before⟩
  · intro h
    exact holds_suffix (marks?_endsVerbatim h)

end SqlBroker.Like
