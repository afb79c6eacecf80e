import SqlBroker.Proofs.Filter.Condition
import SqlBroker.Proofs.Sql.Grammar
import SqlBroker.Proofs.Sql.Spelling

/-!
# Reading conditions back

A database that reads a text and the values beside it cuts the text into lexemes, counts the bare
placeholders, and follows the grammar (`Reads`, `ReadsCondition`). What was written token by token
is found again that way, whatever stood in the script before: values where their placeholders or
literals are, and the order of NOT, AND and OR as the parentheses make it.

Concerns `push_predicate` and `push_value` (SPEC_FULL.md, section 11).

Headlines:
* **`numbered_lexemesFrom`**: the lexemes of tokens, once their placeholders are numbered, are alike
  on every backend.
* **`factor_tokens`**: a written condition reads as one factor, so that anything may stand around
  it.
* **`reads_condition`**: a condition that is added to a script is read there, and nothing else is.
-/

namespace SqlBroker.Sql

open Grammar

/-! ## Readers -/

/-- Lexemes after `k` placeholders, in which every bare placeholder has its number. -/
def numbered : (k : Nat) → List Lexeme → List Lexeme
  | _, [] => []
  | k, l :: ls => if l = .mark then .param (k + 1) :: numbered (k + 1) ls else l :: numbered k ls

/-- A text that has `k` placeholders before it reads as this condition, all of it. -/
def ReadsCondition (b : Backend) (k : Nat) (text : List Char) (params : List Value)
    (p : Predicate) : Prop :=
  ∃ ls, lexemes? b text = some ls ∧ Disjoined params (numbered k ls) p

/-- A text reads as this statement, all of it. -/
def Reads (b : Backend) (text : String) (params : List Value) (s : Statement) : Prop :=
  ∃ ls, lexemes? b text.toList = some ls ∧ Derives b params (numbered 0 ls) s

/-! ## Tokens with numbers -/

/-- How many values of tokens go beside the text. -/
def boundCount (b : Backend) (ts : List Token) : Nat := ((values ts).filter (isBound b)).length

/-- The lexemes of a token after `n` values, its placeholder with a number. -/
def Token.numbered (b : Backend) (n : Nat) : Token → List Lexeme
  | .value v => [if isBound b v then .param (n + 1) else valueLexeme b n v]
  | t => t.lexemes b n

/-- The lexemes of tokens after `n` values, all placeholders with numbers. -/
def numberedFrom (b : Backend) : (n : Nat) → List Token → List Lexeme
  | _, [] => []
  | n, t :: ts => t.numbered b n ++ numberedFrom b (n + boundCount b [t]) ts

variable {b : Backend} {params : List Value} {n : Nat}

theorem numbered_append_of_plain {ls : List Lexeme} (h : ∀ l ∈ ls, l.isPlaceholder = false)
    (k : Nat) (ms : List Lexeme) : numbered k (ls ++ ms) = ls ++ numbered k ms := by
  induction ls with
  | nil => rfl
  | cons l ls ih =>
    have plain : l ≠ .mark := by
      rintro rfl
      exact absurd (h .mark List.mem_cons_self) (by decide)
    rw [List.cons_append, numbered, if_neg plain, ih fun m hm => h m (List.mem_cons_of_mem _ hm)]
    rfl

/-- **Numbering is the same on every backend.** Postgres has its numbers already, so that there it
does not matter how many placeholders were counted before. -/
theorem numbered_lexemesFrom {ts : List Token} (h : Spaced ts) {k : Nat}
    (hk : b = .postgres ∨ k = n) : numbered k (lexemesFrom b n ts) = numberedFrom b n ts := by
  induction ts generalizing k n with
  | nil => rfl
  | cons t ts ih =>
    obtain ⟨spelled, -, spaced⟩ := h
    have count : (Script.ofToken b n t).params.length = boundCount b [t] := by
      rw [params_ofToken]
      rfl
    have later {k : Nat} (hk : b = .postgres ∨ k = n + boundCount b [t]) := ih spaced hk
    rw [lexemesFrom, numberedFrom, count]
    cases t with
    | word w =>
      rw [numbered_append_of_plain (spelled.isPlaceholder_lexemes b n), later hk]
      rfl
    | name s =>
      rw [numbered_append_of_plain (by simp [Token.lexemes, Lexeme.isPlaceholder]), later hk]
      rfl
    | value v =>
      have one := isPlaceholder_valueLexeme b n v
      cases hb : isBound b v with
      | false =>
        have free : boundCount b [.value v] = 0 := by simp [boundCount, values, hb]
        rw [Token.lexemes, numbered_append_of_plain (by simp [one, hb]), later (by simpa [free]),
          Token.numbered, hb, if_neg Bool.false_ne_true]
      | true =>
        have bound : boundCount b [.value v] = 1 := by simp [boundCount, values, hb]
        rw [Token.lexemes, valueLexeme_of_isBound hb, Token.numbered, if_pos hb,
          List.singleton_append, List.singleton_append, numbered, placeholderLexeme]
        by_cases hp : b = .postgres
        · rw [if_pos hp, if_neg (by simp), later (.inl hp)]
        · obtain rfl := hk.resolve_left hp
          rw [if_neg hp, if_pos rfl, later (.inr (by rw [bound]))]

theorem numberedFrom_append (ts us : List Token) :
    numberedFrom b n (ts ++ us) =
      numberedFrom b n ts ++ numberedFrom b (n + boundCount b ts) us := by
  induction ts generalizing n with
  | nil => rfl
  | cons t ts ih =>
    have count : boundCount b (t :: ts) = boundCount b [t] + boundCount b ts := by
      rw [boundCount, ← List.singleton_append, values_append, List.filter_append,
        List.length_append]
      rfl
    rw [List.cons_append, numberedFrom, numberedFrom, ih, count, List.append_assoc, Nat.add_assoc]

theorem numberedFrom_word {w : String} (hw : w ∈ words.map Prod.fst) (ts : List Token) :
    numberedFrom b n (.word w :: ts) = spelled w ++ numberedFrom b n ts := by
  rw [← lexemes_word hw b n]
  rfl

theorem numberedFrom_name (s : String) (ts : List Token) :
    numberedFrom b n (.name s :: ts) = .name s :: numberedFrom b n ts := rfl

theorem numberedFrom_digits (m : Nat) (ts : List Token) :
    numberedFrom b n (.word (String.ofList (Text.digits m)) :: ts) =
      .number m :: numberedFrom b n ts := by
  rw [← List.singleton_append (l := numberedFrom b n ts), ← lexemes_digits b n m]
  rfl

/-! ## Values beside the text -/

/-- The values of tokens that go beside the text stand there, after the first `n`. -/
def Beside (b : Backend) (params : List Value) (n : Nat) (ts : List Token) : Prop :=
  (values ts).filter (isBound b) <+: params.drop n

theorem beside_append (ts us : List Token) (h : Beside b params n (ts ++ us)) :
    Beside b params n ts ∧ Beside b params (n + boundCount b ts) us := by
  obtain ⟨rest, h⟩ := h
  rw [values_append, List.filter_append, List.append_assoc] at h
  refine ⟨⟨_, h⟩, rest, ?_⟩
  rw [← List.drop_drop, ← h, boundCount, List.drop_left]

/-- Tokens that read as this wherever they stand, if their values stand beside the text. -/
def ReadsAs {α : Type} (b : Backend) (params : List Value) (R : List Lexeme → α → Prop)
    (ts : List Token) (x : α) : Prop :=
  ∀ n, Beside b params n ts → R (numberedFrom b n ts) x

/-- **A value is found again**, in the text or beside it. -/
theorem readsAs_value (v : Value) : ReadsAs b params (Operand params) [.value v] v := by
  intro n h
  rw [numberedFrom, Token.numbered, numberedFrom, List.append_nil]
  cases hb : isBound b v with
  | true =>
    obtain ⟨rest, h⟩ : [v] <+: params.drop n := by simpa [Beside, values, hb] using h
    have found : params[n]? = some v := by
      rw [← Nat.add_zero n, ← List.getElem?_drop, ← h]
      rfl
    exact .param found
  | false =>
    rw [if_neg Bool.false_ne_true]
    cases v with
    | null => exact .null
    | text s =>
      rw [valueLexeme, if_neg (by simp [hb])]
      exact .literal s
    | _ => exact absurd hb (by simp [isBound])

/-! ## Conditions -/

/-- **Parentheses**: around a whole condition they make one factor. -/
theorem readsAs_parentheses {ts : List Token} {p : Predicate}
    (h : ReadsAs b params (Disjoined params) ts p) :
    ReadsAs b params (Factor params) (.word "(" :: (ts ++ [.word ")"])) p := by
  intro n beside
  have inner := h n (beside_append ts [.word ")"] beside).1
  rw [numberedFrom_word (by decide), numberedFrom_append, numberedFrom_word (by decide)]
  exact .term (.group inner)

theorem readsAs_test {ts : List Token} {p : Predicate}
    (h : ReadsAs b params (Test params) ts p) : ReadsAs b params (Factor params) ts p :=
  fun n beside => .term (.test (h n beside))

theorem readsAs_compare (column : String) (op : Comparison) (v : Value) :
    ReadsAs b params (Test params) (Predicate.compare column op v).tokens
      (.compare column op v) := by
  intro n beside
  have sign : s!" {op.sign} " ∈ words.map Prod.fst ∧
      spelled s!" {op.sign} " = [.sign op.sign] := by cases op <;> decide
  rw [Predicate.tokens, numberedFrom_name, numberedFrom_word sign.1, sign.2]
  exact .compare (readsAs_value v n beside)

theorem readsAs_like (column : String) (v : Value) (negated : Bool) :
    ReadsAs b params (Test params) (Predicate.like column v negated).tokens
      (.like column v negated) := by
  intro n beside
  cases negated with
  | false =>
    rw [Predicate.tokens, numberedFrom_name, numberedFrom_word (by decide)]
    exact .like (readsAs_value v n beside)
  | true =>
    rw [Predicate.tokens, numberedFrom_name, numberedFrom_word (by decide)]
    exact .notLike (readsAs_value v n beside)

theorem readsAs_between (column : String) (low high : Value) :
    ReadsAs b params (Test params) (Predicate.between column low high).tokens
      (.between column low high) := by
  intro n beside
  obtain ⟨first, second⟩ := beside_append [.value low] [.word " AND ", .value high] beside
  have parts : (Predicate.between column low high).tokens = .name column :: .word " BETWEEN " ::
      ([.value low] ++ .word " AND " :: [.value high]) := rfl
  rw [parts, numberedFrom_name, numberedFrom_word (by decide), numberedFrom_append,
    numberedFrom_word (by decide)]
  exact .between (readsAs_value low n first) (readsAs_value high _ second)

theorem readsAs_isNull (column : String) (negated : Bool) :
    ReadsAs b params (Test params) (Predicate.isNull column negated).tokens
      (.isNull column negated) := by
  intro n _
  cases negated with
  | false =>
    rw [Predicate.tokens, numberedFrom_name, numberedFrom_word (by decide)]
    exact .isNull
  | true =>
    rw [Predicate.tokens, numberedFrom_name, numberedFrom_word (by decide)]
    exact .isNotNull

mutual

/-- **A written condition is one factor**, whatever it is made of. -/
theorem factor_tokens : ∀ p : Predicate, p.isFilled = true →
    ReadsAs b params (Factor params) p.tokens p.simplified
  | .always, _ => by
    intro n _
    rw [Predicate.tokens, numberedFrom_word (by decide)]
    exact .term (.test .always)
  | .compare column op v, _ => readsAs_test (readsAs_compare column op v)
  | .like column v negated, _ => readsAs_test (readsAs_like column v negated)
  | .between column low high, _ => readsAs_test (readsAs_between column low high)
  | .isNull column negated, _ => readsAs_test (readsAs_isNull column negated)
  | .all [], h => absurd h (by decide)
  | .any [], h => absurd h (by decide)
  | .all [p], h => factor_tokens p (by simpa [Predicate.isFilled, Predicate.areFilled] using h)
  | .any [p], h => factor_tokens p (by simpa [Predicate.isFilled, Predicate.areFilled] using h)
  | .all (p :: q :: rest), h => by
    obtain ⟨first, later⟩ : p.isFilled = true ∧ Predicate.areFilled (q :: rest) = true := by
      simpa [Predicate.isFilled, Predicate.areFilled] using h
    have joined := joined_laterTokens " AND " (.word "AND") (by decide) (q :: rest) later
      (factor_tokens p first)
    -- the factors are one conjunction, and that one is the only one of its disjunction
    exact readsAs_parentheses fun n beside => .single (.mk (joined n beside))
  | .any (p :: q :: rest), h => by
    obtain ⟨first, later⟩ : p.isFilled = true ∧ Predicate.areFilled (q :: rest) = true := by
      simpa [Predicate.isFilled, Predicate.areFilled] using h
    have joined := joined_laterTokens " OR " (.word "OR") (by decide) (q :: rest) later
      (factor_tokens p first)
    -- each factor is a conjunction by itself
    exact readsAs_parentheses fun n beside => .mk ((joined n beside).imp .single)
  | .not inner, h => by
    intro n beside
    have group := readsAs_parentheses (fun n beside =>
      .single (.single (factor_tokens inner h n beside))) n beside
    rw [numberedFrom_word (by decide)] at group
    rw [Predicate.tokens, List.cons_append, numberedFrom_word (by decide)]
    exact .not group

/-- Conditions with a word between them read as factors with its lexeme between them. -/
theorem joined_laterTokens (word : String) (between : Lexeme)
    (hw : word ∈ words.map Prod.fst ∧ spelled word = [between]) : ∀ ps : List Predicate,
    Predicate.areFilled ps = true → ∀ {ts : List Token} {p : Predicate},
      ReadsAs b params (Factor params) ts p →
      ReadsAs b params (Joined between (Factor params)) (ts ++ Predicate.laterTokens word ps)
        (p :: Predicate.simplifiedAll ps)
  | [], _, ts, p, h => by
    intro n beside
    rw [Predicate.laterTokens, List.append_nil] at beside ⊢
    exact .last (h n beside)
  | q :: rest, filled, ts, p, h => by
    intro n beside
    obtain ⟨first, later⟩ := Bool.and_eq_true_iff.mp filled
    obtain ⟨here, after⟩ := beside_append ts _ beside
    have joined := joined_laterTokens word between hw rest later (factor_tokens q first)
    rw [numberedFrom_append, Predicate.laterTokens, List.cons_append, numberedFrom_word hw.1, hw.2]
    exact .next (h n here) (joined _ after)

end

theorem disjunction_tokens {p : Predicate} (filled : p.isFilled = true) :
    ReadsAs b params (Disjoined params) p.tokens p.simplified :=
  fun n beside => .single (.single (factor_tokens p filled n beside))

/-! ## Conditions in scripts -/

/-- The values that tokens add to a script stand beside them. -/
theorem beside_ofTokensFrom (b : Backend) (before : Script) (ts : List Token) :
    Beside b (before.append (.ofTokensFrom b before.params.length ts)).params before.params.length
      ts :=
  ⟨[], by simp [Script.append, params_ofTokensFrom]⟩

theorem readsCondition_iff (before : Script) {p : Predicate} (filled : p.isFilled = true)
    (q : Predicate) :
    ReadsCondition b before.params.length
        (Script.ofTokensFrom b before.params.length p.tokens).chars
        (before.write b p.tokens).params q ↔
      q = p.simplified := by
  have spaced := spaced_tokens p
  have reading := disjunction_tokens filled _ (beside_ofTokensFrom b before p.tokens)
  rw [← numbered_lexemesFrom spaced (.inr rfl)] at reading
  constructor
  · rintro ⟨ls, hls, h⟩
    rw [lexemes?_script spaced] at hls
    obtain rfl := Option.some.inj hls
    exact h.unique reading
  · rintro rfl
    exact ⟨_, lexemes?_script spaced _, reading⟩

/-- **A condition is read as it was written**, without its groups of one, and in no other way: what
is read is as true of every row. -/
theorem reads_condition (b : Backend) (before : Script) (p : Predicate)
    (filled : p.isFilled = true) :
    ∃ added, before.write b p.tokens = before.append added ∧
      (∀ q, ReadsCondition b before.params.length added.chars (before.write b p.tokens).params q ↔
        q = p.simplified) ∧
      ∀ q, ReadsCondition b before.params.length added.chars (before.write b p.tokens).params q →
        ∀ (D : Domain) (row : D.Row), q.truth D row = p.truth D row := by
  refine ⟨_, rfl, readsCondition_iff before filled, fun q hq D row => ?_⟩
  rw [(readsCondition_iff before filled q).mp hq, Predicate.truth_simplified]

/-- A negated disjunction on MySQL, after one value, with a name and a text that look like parts of
a statement. The group of one is gone; nothing else has moved. -/
theorem reads_condition_quoted :
    let text := "NOT ((\x60a\x60\x60 = ? OR (\x60 = ? OR \x60b\x60 BETWEEN ? AND NULL))".toList
    let params : List Value := [.int 1, .text "x\x27 OR ?", .int 2]
    let written := Predicate.not (.any [.compare "a\x60 = ? OR (" .eq (.text "x\x27 OR ?"),
      .between "b" (.int 2) .null])
    ReadsCondition .mysql 1 text params written ∧
      ∀ q, ReadsCondition .mysql 1 text params q → q = written := by
  obtain ⟨added, same, reads, -⟩ := reads_condition .mysql ⟨"SELECT ?, ".toList, [.int 1]⟩
    (.not (.any [.all [.compare "a\x60 = ? OR (" .eq (.text "x\x27 OR ?")],
      .between "b" (.int 2) .null])) (by decide)
  have text := List.append_cancel_left (congrArg Script.chars same)
  rw [← text] at reads
  exact ⟨(reads _).mpr rfl, fun q => (reads q).mp⟩

end SqlBroker.Sql
