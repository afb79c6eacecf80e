import SqlBroker.Proofs.Sql.Lexeme
import SqlBroker.Sql.Statement

/-!
# Spelling of tokens

What a database finds in the text of a script: the lexemes of its tokens, one token after the other.
This needs care only where two tokens meet. A word that ends with a blank or an opening parenthesis
may be followed by anything; everything else has to be followed by a token that starts with a blank,
a comma or a parenthesis (`Spaced`).

Headlines:
* **`lexemes?_ofTokensFrom`**: the lexemes of a script are those of its tokens.
* **`spaced_tokens`**, **`Statement.spaced_tokens`**: the tokens of conditions and of statements are
  spaced, whatever names and values they have.
* **`params_ofTokensFrom`**: the values beside a script are those of its tokens that are not written
  in place.
-/

namespace SqlBroker.Sql

/-! ## Words -/

/-- The words of statements, each with its lexemes. -/
def words : List (String × List Lexeme) :=
  [("TRUE", [.word "TRUE"]),
   (" = ", [.sign "="]), (" <> ", [.sign "<>"]), (" < ", [.sign "<"]), (" <= ", [.sign "<="]),
   (" > ", [.sign ">"]), (" >= ", [.sign ">="]),
   (" LIKE ", [.word "LIKE"]), (" NOT LIKE ", [.word "NOT", .word "LIKE"]),
   (" BETWEEN ", [.word "BETWEEN"]),
   (" IS NULL", [.word "IS", .word "NULL"]),
   (" IS NOT NULL", [.word "IS", .word "NOT", .word "NULL"]),
   (" AND ", [.word "AND"]), (" OR ", [.word "OR"]), ("NOT (", [.word "NOT", .sign "("]),
   ("(", [.sign "("]), (")", [.sign ")"]), (", ", [.sign ","]),
   ("SELECT * FROM ", [.word "SELECT", .sign "*", .word "FROM"]),
   (" WHERE ", [.word "WHERE"]), (" ORDER BY ", [.word "ORDER", .word "BY"]),
   (" ASC", [.word "ASC"]), (" DESC", [.word "DESC"]),
   (" LIMIT ", [.word "LIMIT"]), (" OFFSET ", [.word "OFFSET"]),
   ("INSERT INTO ", [.word "INSERT", .word "INTO"]), (" (", [.sign "("]),
   (") VALUES (", [.sign ")", .word "VALUES", .sign "("]),
   (" DEFAULT VALUES", [.word "DEFAULT", .word "VALUES"]),
   (" () VALUES ()", [.sign "(", .sign ")", .word "VALUES", .sign "(", .sign ")"]),
   ("UPDATE ", [.word "UPDATE"]), (" SET ", [.word "SET"]),
   ("DELETE FROM ", [.word "DELETE", .word "FROM"]),
   (" RETURNING *", [.word "RETURNING", .sign "*"])]

/-- The lexemes of a word. -/
def spelled (w : String) : List Lexeme := (words.lookup w).getD []

/-- Whether anything may follow a word. -/
def endsOpen (w : String) : Bool := w.toList.getLast?.any fun c => c == ' ' || c == '('

/-- The text of a word up to the character that lets anything follow. -/
def stem (w : String) : List Char := if endsOpen w then w.toList.dropLast else w.toList

/-- **Every word reads as its lexemes**, on every backend, and none of them is a placeholder. -/
theorem lexemes?_words (b : Backend) : ∀ e ∈ words,
    lexemes? b e.1.toList = some (spelled e.1) ∧ (lexemes? b (stem e.1)).isSome ∧
      ∀ l ∈ spelled e.1, l.isPlaceholder = false := by
  cases b <;> decide +kernel

/-! ## Values beside the text -/

/-- Whether a value goes beside the text: all but null, and on Postgres the texts without the null
character. -/
def isBound (b : Backend) : Value → Bool
  | .null => false
  | .text s => b != .postgres || s.toList.contains '\x00'
  | _ => true

theorem inPlace?_eq_none_iff (b : Backend) (v : Value) :
    inPlace? b v = none ↔ isBound b v = true := by
  cases v <;> simp [inPlace?, isBound, Decidable.imp_iff_not_or]

/-- The values that tokens hold, in their order. -/
def values : List Token → List Value
  | [] => []
  | .word _ :: ts => values ts
  | .name _ :: ts => values ts
  | .value v :: ts => v :: values ts

@[simp] theorem values_append (ts us : List Token) :
    values (ts ++ us) = values ts ++ values us := by
  induction ts with
  | nil => rfl
  | cons t ts ih => cases t <;> simp [values, ih]

theorem params_ofToken (b : Backend) (n : Nat) (t : Token) :
    (Script.ofToken b n t).params = (values [t]).filter (isBound b) := by
  cases t with
  | word w => rfl
  | name s => rfl
  | value v =>
    cases h : inPlace? b v with
    | none => simp [Script.ofToken, h, values, (inPlace?_eq_none_iff b v).mp h]
    | some cs =>
      have hb : isBound b v ≠ true := fun hb => by simp [(inPlace?_eq_none_iff b v).mpr hb] at h
      simp [Script.ofToken, h, values, hb]

/-- **The values beside a script** are those of its tokens that are not written in place. -/
theorem params_ofTokensFrom (b : Backend) (n : Nat) (ts : List Token) :
    (Script.ofTokensFrom b n ts).params = (values ts).filter (isBound b) := by
  induction ts generalizing n with
  | nil => rfl
  | cons t ts ih =>
    rw [Script.ofTokensFrom, ← List.singleton_append, values_append, List.filter_append,
      ← params_ofToken b n]
    exact congrArg _ (ih _)

/-! ## Lexemes of tokens -/

/-- The lexeme of a value's placeholder; MySQL and SQLite count placeholders, Postgres numbers
them. -/
def placeholderLexeme (b : Backend) (n : Nat) : Lexeme := if b = .postgres then .param n else .mark

/-- The lexeme of a value in a script that has `n` values. -/
def valueLexeme (b : Backend) (n : Nat) : Value → Lexeme
  | .null => .word "NULL"
  | .text s => if isBound b (.text s) then placeholderLexeme b (n + 1) else .literal s
  | _ => placeholderLexeme b (n + 1)

theorem valueLexeme_of_isBound {b : Backend} {v : Value} (h : isBound b v = true) (n : Nat) :
    valueLexeme b n v = placeholderLexeme b (n + 1) := by
  cases v with
  | null => exact absurd h (by simp [isBound])
  | text s => exact if_pos h
  | _ => rfl

/-- A value is a placeholder iff it stands beside the text. -/
theorem isPlaceholder_valueLexeme (b : Backend) (n : Nat) (v : Value) :
    (valueLexeme b n v).isPlaceholder = isBound b v := by
  have placeholder (m : Nat) : (placeholderLexeme b m).isPlaceholder = true := by cases b <;> rfl
  cases h : isBound b v with
  | true => rw [valueLexeme_of_isBound h, placeholder]
  | false =>
    cases v with
    | null => rfl
    | text s => rw [valueLexeme, if_neg (by simp [h])]; rfl
    | _ => exact absurd h (by simp [isBound])

/-- The lexemes of a token in a script that has `n` values. -/
def Token.lexemes (b : Backend) (n : Nat) : Token → List Lexeme
  | .word w => (lexemes? b w.toList).getD []
  | .name s => [.name s]
  | .value v => [valueLexeme b n v]

/-- The lexemes of tokens in a script that has `n` values. -/
def lexemesFrom (b : Backend) : (n : Nat) → List Token → List Lexeme
  | _, [] => []
  | n, t :: ts => t.lexemes b n ++ lexemesFrom b (n + (Script.ofToken b n t).params.length) ts

theorem lexemes_word {w : String} (h : w ∈ words.map Prod.fst) (b : Backend) (n : Nat) :
    (Token.word w).lexemes b n = spelled w := by
  obtain ⟨e, he, rfl⟩ := List.mem_map.mp h
  rw [Token.lexemes, (lexemes?_words b e he).1]
  rfl

theorem lexemes_digits (b : Backend) (n m : Nat) :
    (Token.word (String.ofList (Text.digits m))).lexemes b n = [.number m] := by
  rw [Token.lexemes, String.toList_ofList, lexemes?_digits]
  rfl

/-- A value is one lexeme. -/
theorem lexemes?_value (b : Backend) (n : Nat) (v : Value) {rest : List Char} (hr : Clear rest) :
    lexemes? b ((Script.ofToken b n (.value v)).chars ++ rest) =
      (lexemes? b rest).map (valueLexeme b n v :: ·) := by
  cases h : inPlace? b v with
  | none =>
    have bound := (inPlace?_eq_none_iff b v).mp h
    simp only [Script.ofToken, h, valueLexeme_of_isBound bound]
    rw [lexemes?_append (lexemes?_placeholder b (n + 1)) hr]
    rfl
  | some cs =>
    have free : isBound b v = false := by
      simpa [h] using not_congr (inPlace?_eq_none_iff b v)
    simp only [Script.ofToken, h]
    cases v with
    | null =>
      obtain rfl := Option.some.inj h
      have null : lexemes? b ['N', 'U', 'L', 'L'] = some [.word "NULL"] := by
        cases b <;> decide +kernel
      rw [lexemes?_append null hr]
      rfl
    | text s =>
      obtain ⟨⟨rfl, -⟩, literal⟩ := Option.ite_none_right_eq_some.mp h
      obtain rfl := Option.some.inj literal
      rw [lexemes?_of_lexeme? (lexeme?_literalChars s hr), valueLexeme, if_neg (by simp [free])]
    | _ => exact absurd h (by simp [inPlace?])

/-! ## Spacing -/

/-- Whether anything may follow a token. -/
def Token.isOpen : Token → Bool
  | .word w => endsOpen w
  | _ => false

/-- Whether tokens start with a blank, a comma or a parenthesis, if there are any. -/
def startsClear : List Token → Bool
  | [] => true
  | .word w :: _ => w.toList.head?.any fun c => c == ' ' || c == ',' || c == '(' || c == ')'
  | _ => false

/-- A word that is one of the words of statements or a number. -/
def Token.IsSpelled : Token → Prop
  | .word w => w ∈ words.map Prod.fst ∨ ∃ n, w = String.ofList (Text.digits n)
  | _ => True

/-- No token reaches into the next. -/
def Spaced : List Token → Prop
  | [] => True
  | t :: ts => t.IsSpelled ∧ (t.isOpen ∨ startsClear ts) ∧ Spaced ts

theorem endsOpen_digits (n : Nat) : endsOpen (String.ofList (Text.digits n)) = false := by
  rw [endsOpen, String.toList_ofList, Option.any_eq_false]
  intro c hc
  have digit : c.isDigit = true := isDigit_of_mem_digits (List.mem_of_getLast? hc)
  rcases Decidable.em (c = ' ' ∨ c = '(') with (rfl | rfl) | other
  · exact absurd digit (by decide)
  · exact absurd digit (by decide)
  · simpa using other

/-- Whatever may follow a word, it reads up to there. -/
theorem Token.IsSpelled.isSome_stem {w : String} (h : (Token.word w).IsSpelled) (b : Backend) :
    (lexemes? b (stem w)).isSome := by
  rcases h with mem | ⟨n, rfl⟩
  · obtain ⟨e, he, rfl⟩ := List.mem_map.mp mem
    exact (lexemes?_words b e he).2.1
  · rw [stem, endsOpen_digits, if_neg Bool.false_ne_true, String.toList_ofList, lexemes?_digits]
    rfl

/-- No lexeme of a word is a placeholder. -/
theorem Token.IsSpelled.isPlaceholder_lexemes {w : String} (h : (Token.word w).IsSpelled)
    (b : Backend) (n : Nat) : ∀ l ∈ (Token.word w).lexemes b n, l.isPlaceholder = false := by
  rcases h with mem | ⟨m, rfl⟩
  · rw [lexemes_word mem]
    obtain ⟨e, he, rfl⟩ := List.mem_map.mp mem
    exact (lexemes?_words b e he).2.2
  · intro l hl
    rw [lexemes_digits, List.mem_singleton] at hl
    rw [hl]
    rfl

theorem clear_of_startsClear {b : Backend} {n : Nat} {ts : List Token} (h : startsClear ts) :
    Clear (Script.ofTokensFrom b n ts).chars := by
  cases ts with
  | nil => exact clear_nil
  | cons t ts =>
    cases t with
    | word w =>
      cases hw : w.toList with
      | nil => simp [startsClear, hw] at h
      | cons c cs =>
        simpa [startsClear, hw, or_assoc, Clear, Script.ofTokensFrom, Script.append,
          Script.ofToken] using h
    | name s => simp [startsClear] at h
    | value v => simp [startsClear] at h

/-- An opening parenthesis is a lexeme whatever follows. -/
theorem lexemes?_parenthesis (b : Backend) (rest : List Char) :
    lexemes? b ('(' :: rest) = (lexemes? b rest).map (.sign "(" :: ·) := by
  have read : lexeme? b ('(' :: rest) = some (.sign "(", rest) := by
    cases b <;> simp [lexeme?, start?, nameQuote, isComparing, isMark, Start.read]
  exact lexemes?_of_lexeme? read

/-- **Anything may follow a word that ends open.** -/
theorem lexemes?_open {b : Backend} {w : String} (hs : (Token.word w).IsSpelled)
    (ho : endsOpen w = true) (n : Nat) (rest : List Char) :
    lexemes? b (w.toList ++ rest) = (lexemes? b rest).map ((Token.word w).lexemes b n ++ ·) := by
  obtain ⟨ls, hls⟩ := Option.isSome_iff_exists.mp (hs.isSome_stem b)
  rw [stem, if_pos ho] at hls
  obtain ⟨c, hc, last⟩ : ∃ c, w.toList.getLast? = some c ∧ (c = ' ' ∨ c = '(') := by
    simpa [endsOpen, Option.any_eq_true] using ho
  have parts : w.toList = w.toList.dropLast ++ [c] := by
    obtain ⟨cs, hcs⟩ := List.getLast?_eq_some_iff.mp hc
    rw [hcs, List.dropLast_concat]
  -- the last character is clear of the stem, so the stem reads alike before any text
  have clear (after : List Char) : Clear (c :: after) := by
    rcases last with rfl | rfl <;> simp [Clear]
  have read (after : List Char) :
      lexemes? b (w.toList ++ after) = (lexemes? b (c :: after)).map (ls ++ ·) := by
    rw [parts, List.append_assoc, List.singleton_append, lexemes?_append hls (clear after)]
  have word : lexemes? b w.toList = (lexemes? b [c]).map (ls ++ ·) := by
    simpa using read []
  rw [read rest, Token.lexemes, word]
  rcases last with rfl | rfl
  · simp
  · simp [lexemes?_parenthesis, Function.comp_def]

/-- Clear text may follow a token. -/
theorem lexemes?_closed {b : Backend} {t : Token} (hs : t.IsSpelled) (ho : t.isOpen = false)
    (n : Nat) {rest : List Char} (hr : Clear rest) :
    lexemes? b ((Script.ofToken b n t).chars ++ rest) =
      (lexemes? b rest).map (t.lexemes b n ++ ·) := by
  cases t with
  | word w =>
    obtain ⟨ls, hls⟩ := Option.isSome_iff_exists.mp (hs.isSome_stem b)
    rw [stem, if_neg (by simpa [Token.isOpen] using ho)] at hls
    rw [Script.ofToken, lexemes?_append hls hr, Token.lexemes, hls]
    rfl
  | name s =>
    rw [Script.ofToken, lexemes?_of_lexeme? (lexeme?_nameChars b s hr)]
    rfl
  | value v => exact lexemes?_value b n v hr

/-- **The lexemes of a script are those of its tokens.** -/
theorem lexemes?_ofTokensFrom {b : Backend} {ts : List Token} (h : Spaced ts) (n : Nat)
    {rest : List Char} (hr : Clear rest) :
    lexemes? b ((Script.ofTokensFrom b n ts).chars ++ rest) =
      (lexemes? b rest).map (lexemesFrom b n ts ++ ·) := by
  induction ts generalizing n with
  | nil => simp [Script.ofTokensFrom, Script.empty, lexemesFrom]
  | cons t ts ih =>
    obtain ⟨spelled, apart, spaced⟩ := h
    have later := ih spaced (n + (Script.ofToken b n t).params.length)
    have token (after : List Char) (ha : t.isOpen ∨ Clear after) :
        lexemes? b ((Script.ofToken b n t).chars ++ after) =
          (lexemes? b after).map (t.lexemes b n ++ ·) := by
      cases ho : t.isOpen with
      | true =>
        cases t with
        | word w => exact lexemes?_open spelled ho n after
        | name s => exact absurd ho (by simp [Token.isOpen])
        | value v => exact absurd ho (by simp [Token.isOpen])
      | false => exact lexemes?_closed spelled ho n (ha.resolve_left (by simp [ho]))
    have first := token ((Script.ofTokensFrom b (n + (Script.ofToken b n t).params.length) ts).chars
      ++ rest) (apart.imp_right fun start => clear_append (clear_of_startsClear start) hr)
    rw [Script.ofTokensFrom, Script.append, List.append_assoc, first, later, Option.map_map,
      lexemesFrom]
    simp [Function.comp_def]

theorem lexemes?_script {b : Backend} {ts : List Token} (h : Spaced ts) (n : Nat) :
    lexemes? b (Script.ofTokensFrom b n ts).chars = some (lexemesFrom b n ts) := by
  simpa using lexemes?_ofTokensFrom h n clear_nil

/-! ## Putting tokens together -/

variable {b : Backend}

/-- Tokens that may stand after any others. -/
structure Follows (ts : List Token) : Prop where
  spaced : Spaced ts
  clear : startsClear ts

theorem follows_nil : Follows [] := ⟨trivial, rfl⟩

theorem spaced_append {ts us : List Token} (ht : Spaced ts) (hu : Follows us) :
    Spaced (ts ++ us) := by
  induction ts with
  | nil => exact hu.spaced
  | cons t ts ih =>
    obtain ⟨spelled, apart, spaced⟩ := ht
    refine ⟨spelled, apart.imp_right fun start => ?_, ih spaced⟩
    cases ts with
    | nil => exact hu.clear
    | cons t ts => cases t <;> exact start

/-- An open word may stand before any tokens. -/
theorem spaced_open {w : String} {ts : List Token}
    (hw : w ∈ words.map Prod.fst ∧ endsOpen w = true) (ht : Spaced ts) :
    Spaced (.word w :: ts) :=
  ⟨.inl hw.1, .inl hw.2, ht⟩

theorem spaced_closed {w : String} {ts : List Token} (hw : w ∈ words.map Prod.fst)
    (ht : Follows ts) : Spaced (.word w :: ts) :=
  ⟨.inl hw, .inr ht.clear, ht.spaced⟩

theorem spaced_name (s : String) {ts : List Token} (ht : Follows ts) : Spaced (.name s :: ts) :=
  ⟨trivial, .inr ht.clear, ht.spaced⟩

theorem spaced_value (v : Value) {ts : List Token} (ht : Follows ts) :
    Spaced (.value v :: ts) :=
  ⟨trivial, .inr ht.clear, ht.spaced⟩

theorem spaced_digits (n : Nat) {ts : List Token} (ht : Follows ts) :
    Spaced (.word (String.ofList (Text.digits n)) :: ts) :=
  ⟨.inr ⟨n, rfl⟩, .inr ht.clear, ht.spaced⟩

theorem spaced_separated : ∀ {lists : List (List Token)}, (∀ ts ∈ lists, Spaced ts) →
    Spaced (separated lists)
  | [], _ => trivial
  | [ts], h => h ts List.mem_cons_self
  | ts :: us :: rest, h =>
    spaced_append (h ts List.mem_cons_self)
      ⟨spaced_open (by decide) (spaced_separated fun vs hv => h vs (List.mem_cons_of_mem _ hv)),
        rfl⟩

/-! ## The tokens of a condition -/

/-- A word that stands between conditions. -/
def IsJoint (word : String) : Prop :=
  (word ∈ words.map Prod.fst ∧ endsOpen word = true) ∧ startsClear [.word word]

mutual

/-- **The tokens of a condition are spaced.** -/
theorem spaced_tokens : ∀ p : Predicate, Spaced p.tokens
  | .always => spaced_closed (by decide) follows_nil
  | .compare column op v => by
    have word : IsJoint s!" {op.sign} " := by cases op <;> exact ⟨by decide, rfl⟩
    exact spaced_name column ⟨spaced_open word.1 (spaced_value v follows_nil), word.2⟩
  | .like column v negated => by
    cases negated <;>
    exact spaced_name column ⟨spaced_open (by decide) (spaced_value v follows_nil), rfl⟩
  | .between column low high =>
    spaced_name column ⟨spaced_open (by decide) (spaced_value low
      ⟨spaced_open (by decide) (spaced_value high follows_nil), rfl⟩), rfl⟩
  | .isNull column negated => by
    cases negated <;> exact spaced_name column ⟨spaced_closed (by decide) follows_nil, rfl⟩
  | .all children => spaced_joinedTokens ⟨by decide, rfl⟩ children
  | .any children => spaced_joinedTokens ⟨by decide, rfl⟩ children
  | .not inner =>
    spaced_open (by decide)
      (spaced_append (spaced_tokens inner) ⟨spaced_closed (by decide) follows_nil, rfl⟩)

theorem spaced_joinedTokens {word : String} (hw : IsJoint word) :
    ∀ ps : List Predicate, Spaced (Predicate.joinedTokens word ps)
  | [] => spaced_open (by decide) (spaced_closed (by decide) follows_nil)
  | [p] => spaced_tokens p
  | p :: q :: rest =>
    spaced_open (by decide) (spaced_append
      (spaced_append (spaced_tokens p) (follows_laterTokens hw (q :: rest)))
      ⟨spaced_closed (by decide) follows_nil, rfl⟩)

theorem follows_laterTokens {word : String} (hw : IsJoint word) :
    ∀ ps : List Predicate, Follows (Predicate.laterTokens word ps)
  | [] => follows_nil
  | p :: rest =>
    ⟨spaced_open hw.1 (spaced_append (spaced_tokens p) (follows_laterTokens hw rest)), hw.2⟩

end

/-! ## The tokens of a statement -/

namespace Statement

theorem follows_whereTokens (p : Predicate) : Follows (whereTokens p) :=
  ⟨spaced_open (by decide) (SqlBroker.Sql.spaced_tokens p), rfl⟩

theorem follows_sortTokens (sort : List SortItem) : Follows (sortTokens sort) := by
  unfold sortTokens
  split
  · exact follows_nil
  · refine ⟨spaced_open (by decide) (spaced_separated fun ts hts => ?_), rfl⟩
    obtain ⟨i, -, rfl⟩ := List.mem_map.mp hts
    cases i.order <;> exact spaced_name i.field ⟨spaced_closed (by decide) follows_nil, rfl⟩

theorem follows_windowTokens (w : Option Window) : Follows (windowTokens w) := by
  cases w with
  | none => exact follows_nil
  | some w =>
    exact ⟨spaced_open (by decide) (spaced_digits w.limit
      ⟨spaced_open (by decide) (spaced_digits w.offset follows_nil), rfl⟩), rfl⟩

theorem follows_returningTokens (returning : Bool) : Follows (returningTokens returning) := by
  cases returning with
  | false => exact follows_nil
  | true => exact ⟨spaced_closed (by decide) follows_nil, rfl⟩

theorem follows_rowTokens (writes : List Assignment) : Follows (rowTokens b writes) := by
  unfold rowTokens
  split
  · cases b <;> exact ⟨spaced_closed (by decide) follows_nil, rfl⟩
  · have columns : Spaced (separated (writes.map fun a => [.name a.column])) := by
      refine spaced_separated fun ts hts => ?_
      obtain ⟨a, -, rfl⟩ := List.mem_map.mp hts
      exact spaced_name a.column follows_nil
    have row : Spaced (separated (writes.map fun a => [.value a.value])) := by
      refine spaced_separated fun ts hts => ?_
      obtain ⟨a, -, rfl⟩ := List.mem_map.mp hts
      exact spaced_value a.value follows_nil
    have closed : Follows [.word ")"] := ⟨spaced_closed (by decide) follows_nil, rfl⟩
    exact ⟨spaced_open (by decide) (spaced_append
      (spaced_append columns ⟨spaced_open (by decide) row, rfl⟩) closed), rfl⟩

theorem follows_setTokens (writes : List Assignment) : Follows (setTokens writes) := by
  refine ⟨spaced_open (by decide) (spaced_separated fun ts hts => ?_), rfl⟩
  obtain ⟨a, -, rfl⟩ := List.mem_map.mp hts
  exact spaced_name a.column ⟨spaced_open (by decide) (spaced_value a.value follows_nil), rfl⟩

/-- **The tokens of a statement are spaced.** -/
theorem spaced_tokens (s : Statement) : Spaced (s.tokens b) := by
  have start (w table : String) (hw : w ∈ words.map Prod.fst ∧ endsOpen w = true) :
      Spaced [.word w, .name table] := spaced_open hw (spaced_name table follows_nil)
  cases s with
  | select table condition sort window =>
    exact spaced_append (spaced_append (spaced_append (start _ table (by decide))
      (follows_whereTokens condition)) (follows_sortTokens sort)) (follows_windowTokens window)
  | insert table writes returning =>
    exact spaced_append (spaced_append (start _ table (by decide)) (follows_rowTokens writes))
      (follows_returningTokens returning)
  | update table writes condition returning =>
    exact spaced_append (spaced_append (spaced_append (start _ table (by decide))
      (follows_setTokens writes)) (follows_whereTokens condition))
      (follows_returningTokens returning)
  | delete table condition returning =>
    exact spaced_append (spaced_append (start _ table (by decide))
      (follows_whereTokens condition)) (follows_returningTokens returning)

end Statement

end SqlBroker.Sql
