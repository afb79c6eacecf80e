import SqlBroker.Sql.Lexer

/-!
# Lexemes of a statement

How a database cuts the text of a statement before it looks at any rule of grammar: quoted names, on
Postgres text literals with the prefix that makes the backslash escape, words of letters, numbers,
placeholders, and signs. Blanks stand between lexemes and mean nothing. A lexeme is as long as it
can be, so a text has at most one list of lexemes.

Headlines:
* **`lexemes?_append`**: what follows a text leaves its lexemes as they are, if it starts with a
  blank, a comma or a parenthesis (`Clear`).
* **`lexeme?_nameChars`**, **`lexeme?_literalChars`**: a written name or literal is one lexeme that
  holds what was written, whatever characters that has.
-/

namespace SqlBroker.Sql

/-- A lexeme of a statement. -/
inductive Lexeme where
  /-- Letters that stand by themselves. -/
  | word (s : String)
  /-- Parentheses, commas, the star and the signs of comparisons. -/
  | sign (s : String)
  | name (s : String)
  | literal (s : String)
  | number (n : Nat)
  /-- The placeholder of the value with this number. -/
  | param (n : Nat)
  /-- The placeholder of the value that is next. -/
  | mark
deriving DecidableEq, Repr

/-- Whether a value stands beside the text for this lexeme. -/
def Lexeme.isPlaceholder : Lexeme → Bool
  | .param _ => true
  | .mark => true
  | _ => false

/-! ## Cutting one lexeme -/

/-- Reads a literal after its opening quote: the text, and what follows the closing one. A doubled
quote and a doubled backslash stand for one; no other escape is known. -/
def readLiteral : List Char → Option (List Char × List Char)
  | [] => none
  | [c] => if c = '\x27' then some ([], []) else none
  | c :: d :: cs =>
    if c = '\x27' then
      if d = '\x27' then (readLiteral cs).map fun r => ('\x27' :: r.1, r.2) else some ([], d :: cs)
    else if c = '\\' then
      if d = '\\' then (readLiteral cs).map fun r => ('\\' :: r.1, r.2) else none
    else (readLiteral (d :: cs)).map fun r => (c :: r.1, r.2)

/-- Whether a character is part of the sign of a comparison. -/
def isComparing (c : Char) : Bool := c == '=' || c == '<' || c == '>'

/-- Whether a character is a sign by itself. -/
def isMark (c : Char) : Bool := c == '(' || c == ')' || c == ',' || c == '*'

/-- What a lexeme can start as. -/
inductive Start where
  | name
  | literal
  | word
  | number
  | comparison
  | mark
  /-- A placeholder with its number. -/
  | numbered
  /-- A placeholder without one. -/
  | next
deriving DecidableEq, Repr

/-- What the lexeme of a text starts as, by its first character and what follows. -/
def start? (b : Backend) (c : Char) (cs : List Char) : Option Start :=
  if c = nameQuote b then some .name
  else if b = .postgres ∧ c = 'E' ∧ cs.head? = some '\x27' then some .literal
  else if c.isAlpha then some .word
  else if c.isDigit then some .number
  else if isComparing c then some .comparison
  else if isMark c then some .mark
  else if b = .postgres ∧ c = '$' ∧ cs.head?.any Char.isDigit then some .numbered
  else if b ≠ .postgres ∧ c = '?' then some .next
  else none

/-- Reads a lexeme that starts as this, and gives what follows it. -/
def Start.read (c : Char) (cs : List Char) : Start → Option (Lexeme × List Char)
  | .name => (readName c cs).map fun r => (.name (String.ofList r.1), r.2)
  | .literal => (readLiteral cs.tail).map fun r => (.literal (String.ofList r.1), r.2)
  | .word =>
    some (.word (String.ofList (c :: cs.takeWhile Char.isAlpha)), cs.dropWhile Char.isAlpha)
  | .number =>
    some (.number (Nat.ofDigitChars 10 (c :: cs.takeWhile Char.isDigit) 0),
      cs.dropWhile Char.isDigit)
  | .comparison =>
    some (.sign (String.ofList (c :: cs.takeWhile isComparing)), cs.dropWhile isComparing)
  | .mark => some (.sign (String.ofList [c]), cs)
  | .numbered =>
    some (.param (Nat.ofDigitChars 10 (cs.takeWhile Char.isDigit) 0), cs.dropWhile Char.isDigit)
  | .next => some (.mark, cs)

/-- The lexeme that a text starts with, and what follows it. -/
def lexeme? (b : Backend) : List Char → Option (Lexeme × List Char)
  | [] => none
  | c :: cs => (start? b c cs).bind (Start.read c cs)

theorem length_of_readLiteral {cs : List Char} {r : List Char × List Char}
    (h : readLiteral cs = some r) : r.2.length < cs.length := by
  fun_induction readLiteral cs generalizing r with
  | case1 => simp at h
  | case2 => simp [← Option.some.inj h]
  | case3 => simp at h
  | case4 cs ih =>
    obtain ⟨s, hs, rfl⟩ := Option.map_eq_some_iff.mp h
    have := ih hs
    simp only [List.length_cons]
    omega
  | case5 => simp [← Option.some.inj h]
  | case6 cs _ ih =>
    obtain ⟨s, hs, rfl⟩ := Option.map_eq_some_iff.mp h
    have := ih hs
    simp only [List.length_cons]
    omega
  | case7 => simp at h
  | case8 c d cs _ _ ih =>
    obtain ⟨s, hs, rfl⟩ := Option.map_eq_some_iff.mp h
    have := ih hs
    simp only [List.length_cons] at this ⊢
    omega

theorem Start.length_of_read {c : Char} {cs : List Char} {r : Lexeme × List Char} (s : Start)
    (h : s.read c cs = some r) : r.2.length ≤ cs.length := by
  have drop (p : Char → Bool) : (cs.dropWhile p).length ≤ cs.length :=
    (List.dropWhile_sublist p).length_le
  cases s with
  | name =>
    obtain ⟨r, hr, rfl⟩ := Option.map_eq_some_iff.mp h
    exact Nat.le_of_lt (length_of_readName hr)
  | literal =>
    obtain ⟨r, hr, rfl⟩ := Option.map_eq_some_iff.mp h
    have := length_of_readLiteral hr
    simp only [List.length_tail] at this ⊢
    omega
  | word => exact Option.some.inj h ▸ drop _
  | number => exact Option.some.inj h ▸ drop _
  | comparison => exact Option.some.inj h ▸ drop _
  | mark => exact Option.some.inj h ▸ Nat.le_refl _
  | numbered => exact Option.some.inj h ▸ drop _
  | next => exact Option.some.inj h ▸ Nat.le_refl _

/-- **A lexeme is not empty.** -/
theorem length_of_lexeme? {b : Backend} {cs : List Char} {r : Lexeme × List Char}
    (h : lexeme? b cs = some r) : r.2.length < cs.length := by
  cases cs with
  | nil => exact absurd h (by simp [lexeme?])
  | cons c cs =>
    obtain ⟨s, -, hr⟩ := Option.bind_eq_some_iff.mp h
    exact Nat.lt_succ_of_le (s.length_of_read hr)

/-! ## Cutting a text -/

/-- The lexemes of a text, if it consists of lexemes and blanks. -/
def lexemes? (b : Backend) (cs : List Char) : Option (List Lexeme) :=
  match cs with
  | [] => some []
  | c :: rest =>
    if c = ' ' then lexemes? b rest
    else
      match _read : lexeme? b (c :: rest) with
      | some r => (lexemes? b r.2).map (r.1 :: ·)
      | none => none
termination_by cs.length
decreasing_by
  · simp
  · exact length_of_lexeme? _read

@[simp] theorem lexemes?_nil (b : Backend) : lexemes? b [] = some [] := by rw [lexemes?]

@[simp] theorem lexemes?_blank (b : Backend) (cs : List Char) :
    lexemes? b (' ' :: cs) = lexemes? b cs := by
  rw [lexemes?, if_pos rfl]

theorem lexeme?_blank (b : Backend) (cs : List Char) : lexeme? b (' ' :: cs) = none := by
  cases b <;> simp [lexeme?, start?, nameQuote, isComparing, isMark]

/-- A text that starts with a lexeme. -/
theorem lexemes?_of_lexeme? {b : Backend} {cs rest : List Char} {l : Lexeme}
    (h : lexeme? b cs = some (l, rest)) : lexemes? b cs = (lexemes? b rest).map (l :: ·) := by
  cases cs with
  | nil => simp [lexeme?] at h
  | cons c cs =>
    by_cases hc : c = ' '
    · rw [hc, lexeme?_blank] at h
      exact absurd h (by simp)
    · rw [lexemes?, if_neg hc]
      split
      · rename_i r hr
        obtain rfl := Option.some.inj (hr.symm.trans h)
        rfl
      · rename_i hn
        rw [hn] at h
        exact absurd h (by simp)

/-! ## What follows a text -/

/-- A text that no lexeme before it reaches into: it is empty, or it starts with a blank, a comma
or a parenthesis. -/
def Clear (cs : List Char) : Prop := ∀ c ∈ cs.head?, c = ' ' ∨ c = ',' ∨ c = '(' ∨ c = ')'

theorem clear_nil : Clear [] := by simp [Clear]

theorem clear_append {cs ds : List Char} (hc : Clear cs) (hd : Clear ds) : Clear (cs ++ ds) := by
  cases cs with
  | nil => exact hd
  | cons c cs => simpa [Clear] using hc

/-- No class of characters without the four reaches into a clear text. -/
theorem any_head?_of_clear {cs : List Char} (h : Clear cs) {p : Char → Bool}
    (hp : p ' ' = false ∧ p ',' = false ∧ p '(' = false ∧ p ')' = false) :
    cs.head?.any p = false := by
  cases cs with
  | nil => rfl
  | cons c cs =>
    obtain ⟨blank, comma, opened, closed⟩ := hp
    rcases h c (by simp) with rfl | rfl | rfl | rfl
    · exact blank
    · exact comma
    · exact opened
    · exact closed

theorem head?_ne_of_clear {cs : List Char} (h : Clear cs) {c : Char}
    (hc : c ≠ ' ' ∧ c ≠ ',' ∧ c ≠ '(' ∧ c ≠ ')') : cs.head? ≠ some c := by
  intro e
  rcases h c e with rfl | rfl | rfl | rfl <;> simp at hc

/-- A run of characters ends where a text starts that does not go on with them. -/
theorem span_append {p : Char → Bool} {rest : List Char} (h : rest.head?.any p = false)
    (cs : List Char) :
    (cs ++ rest).takeWhile p = cs.takeWhile p ∧
      (cs ++ rest).dropWhile p = cs.dropWhile p ++ rest := by
  induction cs with
  | nil =>
    cases rest with
    | nil => simp
    | cons c rest =>
      have hc : p c = false := h
      simp [hc]
  | cons c cs ih =>
    rw [List.cons_append, List.takeWhile_cons, List.takeWhile_cons, List.dropWhile_cons,
      List.dropWhile_cons]
    split
    · exact ⟨by rw [ih.1], ih.2⟩
    · exact ⟨rfl, rfl⟩

theorem readName_append {quote : Char} {cs rest : List Char} {r : List Char × List Char}
    (h : readName quote cs = some r) (hr : rest.head? ≠ some quote) :
    readName quote (cs ++ rest) = some (r.1, r.2 ++ rest) := by
  fun_induction readName quote cs generalizing r with
  | case1 => exact absurd h (by simp)
  | case2 =>
    obtain rfl := Option.some.inj h
    cases rest with
    | nil => simp [readName]
    | cons d rest =>
      have hd : d ≠ quote := by simpa using hr
      simp [readName, hd]
  | case3 => exact absurd h (by simp)
  | case4 cs ih =>
    obtain ⟨s, hs, rfl⟩ := Option.map_eq_some_iff.mp h
    simp [readName, ih hs]
  | case5 d cs hd =>
    obtain rfl := Option.some.inj h
    simp [readName, hd]
  | case6 c d cs hc ih =>
    obtain ⟨s, hs, rfl⟩ := Option.map_eq_some_iff.mp h
    have := ih hs
    rw [List.cons_append] at this
    simp [readName, hc, this]

theorem readLiteral_append {cs rest : List Char} {r : List Char × List Char}
    (h : readLiteral cs = some r) (hr : rest.head? ≠ some '\x27') :
    readLiteral (cs ++ rest) = some (r.1, r.2 ++ rest) := by
  fun_induction readLiteral cs generalizing r with
  | case1 => exact absurd h (by simp)
  | case2 =>
    obtain rfl := Option.some.inj h
    cases rest with
    | nil => simp [readLiteral]
    | cons d rest =>
      have hd : d ≠ '\x27' := by simpa using hr
      simp [readLiteral, hd]
  | case3 => exact absurd h (by simp)
  | case4 cs ih =>
    obtain ⟨s, hs, rfl⟩ := Option.map_eq_some_iff.mp h
    simp [readLiteral, ih hs]
  | case5 d cs hd =>
    obtain rfl := Option.some.inj h
    simp [readLiteral, hd]
  | case6 cs hc ih =>
    obtain ⟨s, hs, rfl⟩ := Option.map_eq_some_iff.mp h
    simp [readLiteral, ih hs]
  | case7 => exact absurd h (by simp)
  | case8 c d cs hc hb ih =>
    obtain ⟨s, hs, rfl⟩ := Option.map_eq_some_iff.mp h
    have := ih hs
    rw [List.cons_append] at this
    simp [readLiteral, hc, hb, this]

theorem start?_append (b : Backend) (c : Char) (cs : List Char) {rest : List Char}
    (hr : Clear rest) : start? b c (cs ++ rest) = start? b c cs := by
  have literal : (cs ++ rest).head? = some '\x27' ↔ cs.head? = some '\x27' := by
    cases cs with
    | nil => simpa using head?_ne_of_clear hr (by decide)
    | cons d cs => rfl
  have numbered : (cs ++ rest).head?.any Char.isDigit = cs.head?.any Char.isDigit := by
    cases cs with
    | nil => exact any_head?_of_clear hr (by decide)
    | cons d cs => rfl
  simp only [start?, literal, numbered]

theorem eq_nameQuote_of_start? {b : Backend} {c : Char} {cs : List Char}
    (h : start? b c cs = some .name) : c = nameQuote b := by
  unfold start? at h
  grind

theorem head?_of_start? {b : Backend} {c : Char} {cs : List Char}
    (h : start? b c cs = some .literal) : cs.head? = some '\x27' := by
  unfold start? at h
  grind

/-- **What follows does not change the lexeme before it**, if it is clear of it. -/
theorem lexeme?_append {b : Backend} {cs rest : List Char} {r : Lexeme × List Char}
    (h : lexeme? b cs = some r) (hr : Clear rest) :
    lexeme? b (cs ++ rest) = some (r.1, r.2 ++ rest) := by
  cases cs with
  | nil => exact absurd h (by simp [lexeme?])
  | cons c cs =>
    have span (p : Char → Bool) (hp) := span_append (any_head?_of_clear hr (p := p) hp) cs
    obtain ⟨s, hs, h⟩ := Option.bind_eq_some_iff.mp h
    rw [List.cons_append, lexeme?, start?_append b c cs hr, hs, Option.bind_some]
    cases s with
    | name =>
      obtain ⟨r, read, rfl⟩ := Option.map_eq_some_iff.mp h
      have quote : rest.head? ≠ some c :=
        head?_ne_of_clear hr (by rw [eq_nameQuote_of_start? hs]; cases b <;> decide)
      rw [Start.read, readName_append read quote]
      rfl
    | literal =>
      obtain ⟨r, read, rfl⟩ := Option.map_eq_some_iff.mp h
      obtain ⟨ds, rfl⟩ := List.head?_eq_some_iff.mp (head?_of_start? hs)
      rw [List.tail_cons] at read
      rw [Start.read, List.cons_append, List.tail_cons,
        readLiteral_append read (head?_ne_of_clear hr (by decide))]
      rfl
    | word =>
      obtain rfl := Option.some.inj h
      obtain ⟨letters, after⟩ := span Char.isAlpha (by decide)
      rw [Start.read, letters, after]
    | number =>
      obtain rfl := Option.some.inj h
      obtain ⟨digits, after⟩ := span Char.isDigit (by decide)
      rw [Start.read, digits, after]
    | comparison =>
      obtain rfl := Option.some.inj h
      obtain ⟨signs, after⟩ := span isComparing (by decide)
      rw [Start.read, signs, after]
    | mark => exact Option.some.inj h ▸ rfl
    | numbered =>
      obtain rfl := Option.some.inj h
      obtain ⟨digits, after⟩ := span Char.isDigit (by decide)
      rw [Start.read, digits, after]
    | next => exact Option.some.inj h ▸ rfl

/-- **What follows does not change the lexemes before it**, if it is clear of them. -/
theorem lexemes?_append {b : Backend} {cs rest : List Char} {ls : List Lexeme}
    (h : lexemes? b cs = some ls) (hr : Clear rest) :
    lexemes? b (cs ++ rest) = (lexemes? b rest).map (ls ++ ·) := by
  fun_induction lexemes? b cs generalizing ls with
  | case1 =>
    obtain rfl := Option.some.inj h
    simp
  | case2 cs ih =>
    rw [List.cons_append, lexemes?_blank]
    exact ih h
  | case3 c cs hc r read ih =>
    obtain ⟨ms, hms, rfl⟩ := Option.map_eq_some_iff.mp h
    rw [lexemes?_of_lexeme? (lexeme?_append read hr), ih hms, Option.map_map]
    rfl
  | case4 => exact absurd h (by simp)

/-! ## Written names, literals and numbers -/

/-- **A quoted name reads back**, whatever characters it has. -/
theorem readName_doubled {quote : Char} {rest : List Char} (hr : rest.head? ≠ some quote) :
    ∀ cs : List Char, readName quote (doubled quote cs ++ quote :: rest) = some (cs, rest)
  | [] => by
    cases rest with
    | nil => simp [doubled, readName]
    | cons c rest =>
      have hc : c ≠ quote := by simpa using hr
      simp [doubled, readName, hc]
  | c :: cs => by
    have ih := readName_doubled hr cs
    rw [doubled]
    split
    · rename_i hc
      simp [readName, ih, hc]
    · rename_i hc
      obtain ⟨d, ds, hd⟩ := List.exists_cons_of_ne_nil
        (show doubled quote cs ++ quote :: rest ≠ [] by simp)
      rw [List.cons_append, hd, readName, if_neg hc, ← hd, ih]
      rfl

/-- **A text literal reads back**, whatever characters it has. -/
theorem readLiteral_flatMap {rest : List Char} (hr : rest.head? ≠ some '\x27') :
    ∀ cs : List Char, readLiteral (cs.flatMap literalChar ++ '\x27' :: rest) = some (cs, rest)
  | [] => by
    cases rest with
    | nil => simp [readLiteral]
    | cons c rest =>
      have hc : c ≠ '\x27' := by simpa using hr
      simp [readLiteral, hc]
  | c :: cs => by
    have ih := readLiteral_flatMap hr cs
    rw [List.flatMap_cons, literalChar]
    split
    · rename_i hc
      simp [readLiteral, ih, hc]
    split
    · rename_i hc
      simp [readLiteral, ih, hc]
    · rename_i hq hc
      obtain ⟨d, ds, hd⟩ := List.exists_cons_of_ne_nil
        (show cs.flatMap literalChar ++ '\x27' :: rest ≠ [] by simp)
      rw [List.append_assoc, List.singleton_append, hd, readLiteral, if_neg hq, if_neg hc, ← hd, ih]
      rfl

/-- A written name is one lexeme. -/
theorem lexeme?_nameChars (b : Backend) (s : String) {rest : List Char}
    (hr : Clear rest) : lexeme? b (nameChars b s ++ rest) = some (.name s, rest) := by
  have quote : rest.head? ≠ some (nameQuote b) := head?_ne_of_clear hr (by cases b <;> decide)
  have start (cs : List Char) : start? b (nameQuote b) cs = some .name := if_pos rfl
  simp only [nameChars, List.cons_append, List.append_assoc, List.nil_append]
  rw [lexeme?, start, Option.bind_some, Start.read, readName_doubled quote, Option.map_some,
    String.ofList_toList]

/-- A written literal is one lexeme. -/
theorem lexeme?_literalChars (s : String) {rest : List Char} (hr : Clear rest) :
    lexeme? .postgres (literalChars s ++ rest) = some (.literal s, rest) := by
  have apostrophe : rest.head? ≠ some '\x27' := head?_ne_of_clear hr (by decide)
  have start (cs : List Char) : start? .postgres 'E' ('\x27' :: cs) = some .literal := by
    simp [start?, nameQuote]
  simp only [literalChars, List.cons_append, List.append_assoc, List.nil_append]
  rw [lexeme?, start, Option.bind_some, Start.read, List.tail_cons, readLiteral_flatMap apostrophe,
    Option.map_some, String.ofList_toList]

theorem isDigit_of_mem_digits {n : Nat} {c : Char} (h : c ∈ Text.digits n) : c.isDigit = true :=
  Nat.isDigit_of_mem_toDigits (by decide) (by decide) h

theorem span_digits (n : Nat) :
    (Text.digits n).takeWhile Char.isDigit = Text.digits n ∧
      (Text.digits n).dropWhile Char.isDigit = [] := by
  have digits : ∀ c ∈ Text.digits n, c.isDigit = true := fun _ h => isDigit_of_mem_digits h
  constructor
  · have kept : (Text.digits n ++ []).takeWhile Char.isDigit =
        Text.digits n ++ [].takeWhile Char.isDigit := List.takeWhile_append_of_pos digits
    simpa using kept
  · have dropped : (Text.digits n ++ []).dropWhile Char.isDigit = [].dropWhile Char.isDigit :=
      List.dropWhile_append_of_pos digits
    simpa using dropped

theorem start?_of_isDigit (b : Backend) {c : Char} (cs : List Char) (hc : c.isDigit = true) :
    start? b c cs = some .number := by
  have quote : c ≠ nameQuote b := by
    rintro rfl
    revert hc
    cases b <;> decide
  have letter : c ≠ 'E' := by
    rintro rfl
    exact absurd hc (by decide)
  have alpha : c.isAlpha = false := by
    delta Char.isAlpha Char.isUpper Char.isLower
    delta Char.isDigit at hc
    grind
  simp [start?, quote, letter, alpha, hc]

/-- Digits are one number. -/
theorem lexemes?_digits (b : Backend) (n : Nat) :
    lexemes? b (Text.digits n) = some [.number n] := by
  obtain ⟨digits, after⟩ := span_digits n
  cases h : Text.digits n with
  | nil => exact absurd h Nat.toDigits_ne_nil
  | cons c cs =>
    have hc : c.isDigit = true := isDigit_of_mem_digits (h ▸ List.mem_cons_self)
    rw [h, List.takeWhile_cons, if_pos hc] at digits
    rw [h, List.dropWhile_cons, if_pos hc] at after
    have read : lexeme? b (c :: cs) = some (.number n, []) := by
      rw [lexeme?, start?_of_isDigit b cs hc, Option.bind_some, Start.read, digits, after, ← h,
        Text.digits, Nat.ofDigitChars_ten_toDigits]
    rw [lexemes?_of_lexeme? read, lexemes?_nil]
    rfl

/-- A placeholder is one lexeme. -/
theorem lexemes?_placeholder (b : Backend) (n : Nat) :
    lexemes? b (placeholder b n) = some [if b = .postgres then .param n else .mark] := by
  have numbered : lexeme? .postgres ('$' :: Text.digits n) = some (.param n, []) := by
    obtain ⟨digits, after⟩ := span_digits n
    have start : start? .postgres '$' (Text.digits n) = some .numbered := by
      cases h : Text.digits n with
      | nil => exact absurd h Nat.toDigits_ne_nil
      | cons c cs =>
        have hc : c.isDigit = true := isDigit_of_mem_digits (h ▸ List.mem_cons_self)
        simp [start?, nameQuote, isComparing, isMark, hc]
    rw [lexeme?, start, Option.bind_some, Start.read, digits, after, Text.digits,
      Nat.ofDigitChars_ten_toDigits]
  have next (b : Backend) (hb : b ≠ .postgres) : lexeme? b ['?'] = some (.mark, []) := by
    cases b <;> first | exact absurd rfl hb | rfl
  cases b with
  | postgres => rw [placeholder, lexemes?_of_lexeme? numbered, lexemes?_nil]; rfl
  | mysql => rw [placeholder, lexemes?_of_lexeme? (next _ (by decide)), lexemes?_nil]; rfl
  | sqlite => rw [placeholder, lexemes?_of_lexeme? (next _ (by decide)), lexemes?_nil]; rfl

example : lexemes? .postgres "\"a\"\"b\"<=E\x27it\x27\x27s $1\x27, $12".toList =
    some [.name "a\"b", .sign "<=", .literal "it\x27s $1", .sign ",", .param 12] := by
  decide +kernel

end SqlBroker.Sql
