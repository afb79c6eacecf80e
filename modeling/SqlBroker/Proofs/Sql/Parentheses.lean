import SqlBroker.Proofs.Filter.Depth
import SqlBroker.Proofs.Filter.WellFormed
import SqlBroker.Proofs.Sql.EveryRow
import SqlBroker.Proofs.Sql.Reading

/-!
# Parentheses of a condition

The text of a condition has a parenthesis for a group of several and for an opposite, so that no
more of them are open than the condition is deep. Around nothing there is none, as no group is
empty, and what stands after LIKE is a text because the condition has no other patterns. Both are
said of the lexemes of a text, where quoted names and literals are one lexeme each. Statements with
a condition have no other parentheses and no other LIKE; an insertion has parentheses of its own,
and no condition.

What a condition is put together from is the same for both: plain lexemes, LIKE with its operand,
one part after the other, and parentheses around a part (`Nests`).

Concerns `validate`, `compile` and `push_joined` (SPEC_FULL.md, sections 9 and 12).

Headlines:
* **`Nests.readsAs_tokens`**: what holds of the parts of a well-formed condition holds of its
  lexemes, to its depth.
* **`nests_nested`**, **`nests_joinable`**: parentheses to a depth, and neighbours that fit.
* **`Envelope.validate_bounds`**: the limit on filters bounds paths, conditions and parentheses.
* **`wellFormed_compiled`**: compiled conditions are well formed, and so are their texts.
-/

namespace SqlBroker

namespace Sql

open Grammar

variable {b : Backend} {params : List Value}

/-! ## Plain lexemes -/

/-- Whether a lexeme is neither a parenthesis nor LIKE. -/
def Lexeme.isPlain (l : Lexeme) : Bool :=
  l ≠ .sign "(" ∧ l ≠ .sign ")" ∧ l ≠ .word "LIKE"

theorem Lexeme.isPlain_iff {l : Lexeme} :
    l.isPlain = true ↔ l ≠ .sign "(" ∧ l ≠ .sign ")" ∧ l ≠ .word "LIKE" := decide_eq_true_iff

/-- A token of plain lexemes, at least one. -/
def Token.IsPlain (t : Token) : Prop :=
  ∀ b n, t.numbered b n ≠ [] ∧ ∀ l ∈ t.numbered b n, l.isPlain = true

theorem isPlain_word {w : String} (hw : w ∈ words.map Prod.fst ∧ spelled w ≠ [] ∧
    ∀ l ∈ spelled w, l.isPlain = true) : (Token.word w).IsPlain := by
  intro b n
  change (Token.word w).lexemes b n ≠ [] ∧ ∀ l ∈ (Token.word w).lexemes b n, l.isPlain = true
  rw [lexemes_word hw.1]
  exact hw.2

theorem isPlain_digits (m : Nat) : (Token.word (String.ofList (Text.digits m))).IsPlain := by
  intro b n
  have number := lexemes_digits b n m
  change (Token.word _).lexemes b n ≠ [] ∧ ∀ l ∈ (Token.word _).lexemes b n, l.isPlain = true
  rw [number]
  exact ⟨List.cons_ne_nil _ _, by simp [Lexeme.isPlain]⟩

theorem isPlain_name (s : String) : (Token.name s).IsPlain :=
  fun _ _ => ⟨List.cons_ne_nil _ _, by simp [Token.numbered, Token.lexemes, Lexeme.isPlain]⟩

theorem isPlain_value (v : Value) : (Token.value v).IsPlain := by
  intro b n
  refine ⟨List.cons_ne_nil _ _, fun l hl => ?_⟩
  obtain rfl := List.mem_singleton.mp hl
  cases hb : isBound b v with
  | true => simp [Lexeme.isPlain]
  | false =>
    cases v with
    | null => rfl
    | text s => simp [valueLexeme, hb, Lexeme.isPlain]
    | _ => exact absurd hb (by simp [isBound])

theorem isPlain_numberedFrom {ts : List Token} (h : ∀ t ∈ ts, t.IsPlain) (n : Nat) :
    ∀ l ∈ numberedFrom b n ts, l.isPlain = true := by
  induction ts generalizing n with
  | nil => exact fun l hl => absurd hl List.not_mem_nil
  | cons t ts ih =>
    obtain ⟨first, later⟩ := List.forall_mem_cons.mp h
    exact List.forall_mem_append.mpr ⟨(first b n).2, ih later _⟩

theorem numberedFrom_ne_nil {ts : List Token} (h : ∀ t ∈ ts, t.IsPlain) (some : ts ≠ [])
    (n : Nat) : numberedFrom b n ts ≠ [] := by
  obtain ⟨t, rest, rfl⟩ := List.exists_cons_of_ne_nil some
  exact fun empty => (h t List.mem_cons_self b n).1 (List.append_eq_nil_iff.mp empty).1

/-! ## Parts of a condition -/

/-- What can be said of lexemes to a depth, whatever condition they are put together to: of plain
ones, of LIKE with a pattern, of two parts in a row, and one deeper of a part in parentheses. -/
structure Nests (params : List Value) (R : List Lexeme → Nat → Prop) : Prop where
  plain {ls : List Lexeme} (some : ls ≠ []) (h : ∀ l ∈ ls, l.isPlain = true) : R ls 1
  like {ls : List Lexeme} {v : Value} (h : Operand params ls v) (pattern : v.IsPattern) :
    R (.word "LIKE" :: ls) 1
  append {ls ms : List Lexeme} {k : Nat} (h : R ls k) (h' : R ms k) : R (ls ++ ms) k
  wrap {ls : List Lexeme} {k : Nat} (h : R ls k) : R (.sign "(" :: (ls ++ [.sign ")"])) (k + 1)
  weaken {ls : List Lexeme} {k m : Nat} (le : k ≤ m) (h : R ls k) : R ls m

namespace Nests

variable {R : List Lexeme → Nat → Prop} {k : Nat} {ts us : List Token}

theorem readsAs_plain (hR : Nests params R) (h : ∀ t ∈ ts, t.IsPlain) (some : ts ≠ []) :
    ReadsAs b params R ts 1 :=
  fun n _ => hR.plain (numberedFrom_ne_nil h some n) (isPlain_numberedFrom h n)

theorem readsAs_weaken (hR : Nests params R) {m : Nat} (le : k ≤ m)
    (h : ReadsAs b params R ts k) : ReadsAs b params R ts m :=
  fun n beside => hR.weaken le (h n beside)

theorem readsAs_append (hR : Nests params R) (h : ReadsAs b params R ts k)
    (h' : ReadsAs b params R us k) : ReadsAs b params R (ts ++ us) k := by
  intro n beside
  obtain ⟨first, second⟩ := beside_append ts us beside
  rw [numberedFrom_append]
  exact hR.append (h n first) (h' _ second)

theorem readsAs_wrap (hR : Nests params R) (h : ReadsAs b params R ts k) :
    ReadsAs b params R (.word "(" :: (ts ++ [.word ")"])) (k + 1) := by
  intro n beside
  have inner := h n (beside_append ts [.word ")"] beside).1
  rw [numberedFrom_word (by decide), numberedFrom_append, numberedFrom_word (by decide)]
  exact hR.wrap inner

/-- The opposite of a part is one deeper, in parentheses of its own. -/
theorem readsAs_opposite (hR : Nests params R) (h : ReadsAs b params R ts k) :
    ReadsAs b params R (.word "NOT (" :: (ts ++ [.word ")"])) (k + 1) := by
  intro n beside
  have wrapped := hR.readsAs_wrap h n beside
  have plain : R [.word "NOT"] (k + 1) :=
    hR.weaken (Nat.le_add_left 1 k) (hR.plain (List.cons_ne_nil _ _) (by decide))
  have parts : spelled "NOT (" = [.word "NOT"] ++ spelled "(" := by decide
  rw [numberedFrom_word (by decide)] at wrapped ⊢
  rw [parts, List.append_assoc]
  exact hR.append plain wrapped

theorem readsAs_like (hR : Nests params R) (column : String) {v : Value} (pattern : v.IsPattern)
    (negated : Bool) : ReadsAs b params R (Predicate.like column v negated).tokens 1 := by
  intro n beside
  have operand := hR.like (readsAs_value v n beside) pattern
  cases negated with
  | false =>
    rw [Predicate.tokens, numberedFrom_name, numberedFrom_word (by decide)]
    exact hR.append (hR.plain (List.cons_ne_nil (.name column) []) (by simp [Lexeme.isPlain]))
      operand
  | true =>
    rw [Predicate.tokens, numberedFrom_name, numberedFrom_word (by decide)]
    exact hR.append (hR.plain (List.cons_ne_nil (.name column) [.word "NOT"])
      (by simp [Lexeme.isPlain])) operand

theorem readsAs_laterTokens (hR : Nests params R) {word : String}
    (joint : (Token.word word).IsPlain) (some : 1 ≤ k) : ∀ {ps : List Predicate},
    (∀ p ∈ ps, ReadsAs b params R p.tokens k) → ∀ {ts : List Token}, ReadsAs b params R ts k →
      ReadsAs b params R (ts ++ Predicate.laterTokens word ps) k
  | [], _, ts, h => by
    rw [Predicate.laterTokens, List.append_nil]
    exact h
  | p :: rest, each, ts, h => by
    obtain ⟨first, later⟩ := List.forall_mem_cons.mp each
    have word : ReadsAs b params R [.word word] k :=
      hR.readsAs_weaken some (hR.readsAs_plain (by simpa using joint) (List.cons_ne_nil _ _))
    have joined := hR.readsAs_append h (hR.readsAs_append word first)
    have all := hR.readsAs_laterTokens joint some later joined
    rw [List.append_assoc] at all
    exact all

/-- **A group is one deeper than what it joins**, in parentheses if it joins several. -/
theorem readsAs_joinedTokens (hR : Nests params R) {word : String}
    (joint : (Token.word word).IsPlain) {ps : List Predicate} (filled : ps ≠ [])
    (each : ∀ p ∈ ps, ReadsAs b params R p.tokens p.depth) :
    ReadsAs b params R (Predicate.joinedTokens word ps) (1 + Predicate.depthAll ps) := by
  have below : ∀ p ∈ ps, ReadsAs b params R p.tokens (Predicate.depthAll ps) :=
    fun p hp => hR.readsAs_weaken (Predicate.depth_le_depthAll hp) (each p hp)
  match ps with
  | [] => exact absurd rfl filled
  | [p] => exact hR.readsAs_weaken (Nat.le_add_left _ 1) (below p List.mem_cons_self)
  | p :: q :: rest =>
    obtain ⟨first, later⟩ := List.forall_mem_cons.mp below
    have some : 1 ≤ Predicate.depthAll (p :: q :: rest) :=
      Nat.le_trans p.depth_pos (Predicate.depth_le_depthAll List.mem_cons_self)
    rw [Nat.add_comm]
    exact hR.readsAs_wrap (hR.readsAs_laterTokens joint some later first)

/-- **A well-formed condition reads to its depth.** -/
theorem readsAs_tokens (hR : Nests params R) {columns : List String} {p : Predicate}
    (h : p.WellFormed columns) : ReadsAs b params R p.tokens p.depth := by
  induction h with
  | compare _ op v =>
    have word : (Token.word s!" {op.sign} ").IsPlain := by
      cases op <;> exact isPlain_word (by decide)
    exact hR.readsAs_plain (by simp [Predicate.tokens, isPlain_name, isPlain_value, word])
      (List.cons_ne_nil _ _)
  | like _ pattern negated => exact hR.readsAs_like _ pattern negated
  | between _ low high =>
    have between : (Token.word " BETWEEN ").IsPlain := isPlain_word (by decide)
    have and : (Token.word " AND ").IsPlain := isPlain_word (by decide)
    exact hR.readsAs_plain
      (by simp [Predicate.tokens, isPlain_name, isPlain_value, between, and])
      (List.cons_ne_nil _ _)
  | isNull _ negated =>
    have word : (Token.word (if negated then " IS NOT NULL" else " IS NULL")).IsPlain := by
      cases negated <;> exact isPlain_word (by decide)
    exact hR.readsAs_plain (by simp [Predicate.tokens, isPlain_name, word]) (List.cons_ne_nil _ _)
  | all filled _ ih => exact hR.readsAs_joinedTokens (isPlain_word (by decide)) filled ih
  | any filled _ ih => exact hR.readsAs_joinedTokens (isPlain_word (by decide)) filled ih
  | not _ _ ih =>
    rw [Predicate.depth, Nat.add_comm]
    exact hR.readsAs_opposite ih

/-- **The condition of a statement reads to its depth**, well formed or constant. -/
theorem readsAs_condition (hR : Nests params R) {columns : List String} {p : Predicate}
    (h : p = .always ∨ p.WellFormed columns) : ReadsAs b params R p.tokens p.depth := by
  rcases h with rfl | h
  · have word : (Token.word "TRUE").IsPlain := isPlain_word (by decide)
    exact hR.readsAs_plain (by simp [Predicate.tokens, word]) (List.cons_ne_nil _ _)
  · exact hR.readsAs_tokens h

/-- A part stays as deep as it is between plain tokens. -/
theorem readsAs_amid (hR : Nests params R) (some : 1 ≤ k) (h : ReadsAs b params R ts k)
    {before after : List Token} (hb : ∀ t ∈ before, t.IsPlain) (ha : ∀ t ∈ after, t.IsPlain) :
    ReadsAs b params R (before ++ ts ++ after) k := by
  have plain {us : List Token} (hu : ∀ t ∈ us, t.IsPlain) (ne : us ≠ []) :
      ReadsAs b params R us k := hR.readsAs_weaken some (hR.readsAs_plain hu ne)
  have front : ReadsAs b params R (before ++ ts) k := by
    by_cases empty : before = []
    · rw [empty]
      exact h
    · exact hR.readsAs_append (plain hb empty) h
  by_cases empty : after = []
  · rw [empty, List.append_nil]
    exact front
  · exact hR.readsAs_append front (plain ha empty)

end Nests

/-- What tokens read as is found in the text that they add to a script. -/
theorem ReadsAs.written {α : Type} {R : List Lexeme → α → Prop} {ts : List Token} {x : α}
    (before : Script) (h : ReadsAs b (before.write b ts).params R ts x) (spaced : Spaced ts) :
    ∃ added ls, before.write b ts = before.append added ∧ lexemes? b added.chars = some ls ∧
      R (numbered before.params.length ls) x := by
  refine ⟨_, _, rfl, lexemes?_script spaced _, ?_⟩
  rw [numbered_lexemesFrom spaced (.inr rfl)]
  exact h _ (beside_ofTokensFrom b before ts)

/-! ## Open parentheses -/

/-- Lexemes whose parentheses close what they open, with fewer than `k` open at any point. -/
structure Nested (ls : List Lexeme) (k : Nat) : Prop where
  balanced : ls.count (.sign ")") = ls.count (.sign "(")
  within : ∀ ms, ms <+: ls → ms.count (.sign ")") ≤ ms.count (.sign "(") ∧
    ms.count (.sign "(") < ms.count (.sign ")") + k

theorem nested_of_flat {ls : List Lexeme} (h : ∀ l ∈ ls, l ≠ .sign "(" ∧ l ≠ .sign ")") :
    Nested ls 1 := by
  have none (ms : List Lexeme) (hm : ms ⊆ ls) :
      ms.count (.sign "(") = 0 ∧ ms.count (.sign ")") = 0 :=
    ⟨List.count_eq_zero.mpr fun mem => (h _ (hm mem)).1 rfl,
      List.count_eq_zero.mpr fun mem => (h _ (hm mem)).2 rfl⟩
  refine ⟨?_, fun ms hms => ?_⟩
  · obtain ⟨opened, closed⟩ := none ls (List.Subset.refl ls)
    rw [opened, closed]
  · obtain ⟨opened, closed⟩ := none ms hms.subset
    rw [opened, closed]
    exact ⟨Nat.le_refl 0, Nat.zero_lt_one⟩

theorem Nested.append {ls ms : List Lexeme} {k : Nat} (h : Nested ls k) (h' : Nested ms k) :
    Nested (ls ++ ms) k := by
  refine ⟨by rw [List.count_append, List.count_append, h.balanced, h'.balanced], fun ns hns => ?_⟩
  rcases List.prefix_or_prefix_of_prefix hns (List.prefix_append ls ms) with inFirst | ⟨rest, rfl⟩
  · exact h.within ns inFirst
  · have inSecond := h'.within rest ((List.prefix_append_right_inj ls).mp hns)
    have whole := h.balanced
    rw [List.count_append, List.count_append]
    omega

theorem Nested.wrap {ls : List Lexeme} {k : Nat} (h : Nested ls k) :
    Nested (.sign "(" :: (ls ++ [.sign ")"])) (k + 1) := by
  have whole := h.balanced
  refine ⟨by simp [whole], fun ns hns => ?_⟩
  rcases List.prefix_cons_iff.mp hns with rfl | ⟨ms, rfl, hms⟩
  · simp
  · rcases List.prefix_concat_iff.mp hms with rfl | inside
    · simp [whole]
    · have bounds := h.within ms inside
      have closed : (Lexeme.sign "(" :: ms).count (.sign ")") = ms.count (.sign ")") :=
        List.count_cons_of_ne (by decide)
      rw [closed, List.count_cons_self]
      omega

theorem nests_nested (params : List Value) : Nests params Nested where
  plain _ h := nested_of_flat fun l hl => by
    obtain ⟨opening, closing, -⟩ := Lexeme.isPlain_iff.mp (h l hl)
    exact ⟨opening, closing⟩
  like h _ := nested_of_flat (by cases h <;> simp)
  append := Nested.append
  wrap := Nested.wrap
  weaken le h := ⟨h.balanced, fun ms hms => by
    have bounds := h.within ms hms
    omega⟩

theorem count_numbered (s : String) : ∀ (k : Nat) (ls : List Lexeme),
    (numbered k ls).count (.sign s) = ls.count (.sign s)
  | _, [] => rfl
  | k, l :: ls => by
    rw [numbered]
    split
    next mark => simp [mark, count_numbered s (k + 1) ls]
    next => simp [List.count_cons, count_numbered s k ls]

theorem prefix_numbered {ms ls : List Lexeme} (h : ms <+: ls) (k : Nat) :
    numbered k ms <+: numbered k ls := by
  induction ms generalizing ls k with
  | nil => exact List.nil_prefix
  | cons m ms ih =>
    obtain ⟨rest, rfl⟩ := h
    have later (k : Nat) := ih (List.prefix_append ms rest) k
    rw [List.cons_append, numbered, numbered]
    split
    · exact List.cons_prefix_cons.mpr ⟨rfl, later (k + 1)⟩
    · exact List.cons_prefix_cons.mpr ⟨rfl, later k⟩

/-- Numbers of placeholders have nothing to do with parentheses. -/
theorem Nested.of_numbered {ls : List Lexeme} {j k : Nat} (h : Nested (numbered j ls) k) :
    Nested ls k := by
  obtain ⟨balanced, within⟩ := h
  rw [count_numbered, count_numbered] at balanced
  refine ⟨balanced, fun ms hms => ?_⟩
  have bounds := within _ (prefix_numbered hms j)
  rwa [count_numbered, count_numbered] at bounds

/-! ## Neighbours -/

/-- What may stand next to each other: behind an opening parenthesis no closing one, behind LIKE
what reads as a text or null. -/
structure Fits (params : List Value) (l m : Lexeme) : Prop where
  filled (h : l = .sign "(") : m ≠ .sign ")"
  pattern (h : l = .word "LIKE") : ∃ v, Operand params [m] v ∧ v.IsPattern

theorem Lexeme.fits_of_isPlain {l : Lexeme} (h : l.isPlain = true) (m : Lexeme) :
    Fits params l m := by
  obtain ⟨opening, -, like⟩ := Lexeme.isPlain_iff.mp h
  exact ⟨fun own => absurd own opening, fun own => absurd own like⟩

/-- Lexemes that fit each other and may be put together with others. -/
structure Joinable (params : List Value) (ls : List Lexeme) : Prop where
  fit : ls.IsChain (Fits params)
  some : ls ≠ []
  starts : ∀ l ∈ ls.head?, l ≠ .sign ")"
  ends : ∀ l ∈ ls.getLast?, ∀ m, Fits params l m

theorem joinable_of_plain {ls : List Lexeme} (some : ls ≠ []) (h : ∀ l ∈ ls, l.isPlain = true) :
    Joinable params ls where
  fit := List.isChain_iff_forall_rel_of_append_cons_cons.mpr fun {l m before after} e =>
    Lexeme.fits_of_isPlain (h l (by simp [e])) m
  some := some
  starts l hl := (Lexeme.isPlain_iff.mp (h l (List.mem_of_mem_head? hl))).2.1
  ends l hl := Lexeme.fits_of_isPlain (h l (List.mem_of_mem_getLast? hl))

theorem joinable_like {ls : List Lexeme} {v : Value} (h : Operand params ls v)
    (pattern : v.IsPattern) : Joinable params (.word "LIKE" :: ls) := by
  obtain ⟨m, rfl⟩ := List.length_eq_one_iff.mp h.length
  have plain : m.isPlain = true := by cases h <;> rfl
  exact {
    fit := .cons_cons ⟨nofun, fun _ => ⟨v, h, pattern⟩⟩ (.singleton m)
    some := List.cons_ne_nil _ _
    starts := by simp
    ends := by
      intro l hl
      obtain rfl := Option.some.inj hl
      exact Lexeme.fits_of_isPlain plain }

theorem Joinable.append {ls ms : List Lexeme} (h : Joinable params ls) (h' : Joinable params ms) :
    Joinable params (ls ++ ms) where
  fit := h.fit.append h'.fit fun l hl m _ => h.ends l hl m
  some := List.append_ne_nil_of_left_ne_nil h.some ms
  starts := by
    rw [List.head?_append_of_ne_nil ls h.some]
    exact h.starts
  ends := by
    rw [List.getLast?_append_of_ne_nil ls h'.some]
    exact h'.ends

theorem Joinable.wrap {ls : List Lexeme} (h : Joinable params ls) :
    Joinable params (.sign "(" :: (ls ++ [.sign ")"])) where
  fit := by
    refine List.isChain_cons.mpr ⟨fun m hm => ⟨fun _ => ?_, nofun⟩, ?_⟩
    · rw [List.head?_append_of_ne_nil ls h.some] at hm
      exact h.starts m hm
    · exact h.fit.append (.singleton _) fun l hl m _ => h.ends l hl m
  some := List.cons_ne_nil _ _
  starts := by simp
  ends := by
    intro l hl m
    rw [← List.cons_append, List.getLast?_concat] at hl
    obtain rfl := Option.some.inj hl
    exact ⟨nofun, nofun⟩

theorem nests_joinable (params : List Value) :
    Nests params fun ls _ => Joinable params ls where
  plain := joinable_of_plain
  like := joinable_like
  append := Joinable.append
  wrap := Joinable.wrap
  weaken _ h := h

/-- Lexemes with nothing empty between parentheses, and with a text or null behind each LIKE. -/
structure Proper (params : List Value) (ls : List Lexeme) : Prop where
  filled : ¬ [.sign "(", .sign ")"] <:+: ls
  like : ∀ m, [.word "LIKE", m] <:+: ls → ∃ v, Operand params [m] v ∧ v.IsPattern
  ended : ls.getLast? ≠ some (.word "LIKE")

theorem Joinable.fits {l m : Lexeme} {ls : List Lexeme} (h : Joinable params ls)
    (pair : [l, m] <:+: ls) : Fits params l m := by
  obtain ⟨before, after, rfl⟩ := pair
  exact List.isChain_iff_forall_rel_of_append_cons_cons.mp h.fit
    (List.append_assoc before [l, m] after)

theorem Joinable.proper {ls : List Lexeme} (h : Joinable params ls) : Proper params ls where
  filled pair := (h.fits pair).filled rfl rfl
  like m pair := (h.fits pair).pattern rfl
  ended last := by
    -- whatever may stand behind the last lexeme, a parenthesis is no operand
    obtain ⟨v, operand, -⟩ := (h.ends _ last (.sign ")")).pattern rfl
    exact nomatch operand

/-! ## Statements with a condition -/

theorem isPlain_separated {lists : List (List Token)} (h : ∀ ts ∈ lists, ∀ t ∈ ts, t.IsPlain) :
    ∀ t ∈ separated lists, t.IsPlain := by
  intro t ht
  by_cases comma : t = .word ", "
  · rw [comma]
    exact isPlain_word (by decide)
  · obtain ⟨ts, hts, mem⟩ := (mem_separated_iff comma).mp ht
    exact h ts hts t mem

namespace Statement

theorem isPlain_sortTokens (sort : List SortItem) : ∀ t ∈ sortTokens sort, t.IsPlain := by
  unfold sortTokens
  split
  · exact fun t ht => absurd ht List.not_mem_nil
  · refine List.forall_mem_cons.mpr ⟨isPlain_word (by decide), isPlain_separated fun ts hts => ?_⟩
    obtain ⟨i, -, rfl⟩ := List.mem_map.mp hts
    have order : (orderWord i.order).IsPlain := by cases i.order <;> exact isPlain_word (by decide)
    simp [isPlain_name, order]

theorem isPlain_windowTokens (w : Option Window) : ∀ t ∈ windowTokens w, t.IsPlain := by
  cases w with
  | none => exact fun t ht => absurd ht List.not_mem_nil
  | some w =>
    have limit : (Token.word " LIMIT ").IsPlain := isPlain_word (by decide)
    have offset : (Token.word " OFFSET ").IsPlain := isPlain_word (by decide)
    simp [windowTokens, isPlain_digits, limit, offset]

theorem isPlain_returningTokens (returning : Bool) :
    ∀ t ∈ returningTokens returning, t.IsPlain := by
  have word : (Token.word " RETURNING *").IsPlain := isPlain_word (by decide)
  cases returning <;> simp [returningTokens, word]

theorem isPlain_setTokens (writes : List Assignment) : ∀ t ∈ setTokens writes, t.IsPlain := by
  refine List.forall_mem_cons.mpr ⟨isPlain_word (by decide), isPlain_separated fun ts hts => ?_⟩
  obtain ⟨a, -, rfl⟩ := List.mem_map.mp hts
  have equals : (Token.word " = ").IsPlain := isPlain_word (by decide)
  simp [isPlain_name, isPlain_value, equals]

/-- **A statement with a condition has no parentheses but those of the condition**, and no LIKE but
there either. -/
theorem exists_tokens {s : Statement} {p : Predicate} (h : s.condition? = some p) (b : Backend) :
    ∃ before after, s.tokens b = before ++ p.tokens ++ after ∧ (∀ t ∈ before, t.IsPlain) ∧
      ∀ t ∈ after, t.IsPlain := by
  have start {w : String} (hw : (Token.word w).IsPlain) (table : String) :
      ∀ t ∈ [Token.word w, .name table], t.IsPlain := by simp [isPlain_name, hw]
  have whereWord : ∀ t ∈ [Token.word " WHERE "], t.IsPlain :=
    List.forall_mem_singleton.mpr (isPlain_word (by decide))
  cases s with
  | insert table writes returning => exact nomatch h
  | select table condition sort window =>
    obtain rfl := Option.some.inj h
    refine ⟨[.word "SELECT * FROM ", .name table] ++ [.word " WHERE "],
      sortTokens sort ++ windowTokens window, by simp [tokens, whereTokens], ?_, ?_⟩
    · exact List.forall_mem_append.mpr ⟨start (isPlain_word (by decide)) table, whereWord⟩
    · exact List.forall_mem_append.mpr ⟨isPlain_sortTokens sort, isPlain_windowTokens window⟩
  | update table writes condition returning =>
    obtain rfl := Option.some.inj h
    refine ⟨[.word "UPDATE ", .name table] ++ setTokens writes ++ [.word " WHERE "],
      returningTokens returning, by simp [tokens, whereTokens], ?_,
      isPlain_returningTokens returning⟩
    exact List.forall_mem_append.mpr ⟨List.forall_mem_append.mpr
      ⟨start (isPlain_word (by decide)) table, isPlain_setTokens writes⟩, whereWord⟩
  | delete table condition returning =>
    obtain rfl := Option.some.inj h
    refine ⟨[.word "DELETE FROM ", .name table] ++ [.word " WHERE "],
      returningTokens returning, by simp [tokens, whereTokens], ?_,
      isPlain_returningTokens returning⟩
    exact List.forall_mem_append.mpr ⟨start (isPlain_word (by decide)) table, whereWord⟩

end Statement

/-- The condition of a planned statement is that of its filter. -/
theorem condition_of_planned {caps : Capabilities} {op : Operation} {s : Statement}
    {p : Predicate} (planned : Plan.ofOperation caps op = .ok (.statement s))
    (h : s.condition? = some p) :
    Filter.conditionOf op.filters? (Table.ofOperation op) = .ok p := by
  obtain ⟨q, condition, asked⟩ := Plan.statement?_of_planned planned
  have same : q = p := by
    cases op with
    | inspect i => exact nomatch asked
    | insert i =>
      obtain rfl := Option.some.inj asked
      exact nomatch h
    | _ =>
      obtain rfl := Option.some.inj asked
      exact Option.some.inj h
  exact same ▸ condition

/-! ## Compiled conditions -/

/-- **Compiled conditions are well formed.** What is compiled from a tree is about columns of the
table, has no group of nothing and no test that holds of every row, asks for the opposite only of
groups and ranges, and has only texts and null for patterns. So there is no empty pair of
parentheses in its text, wherever it is written, and what stands behind each LIKE reads as a text or
null on any backend. The same goes for the whole text of every planned statement with a
condition. -/
theorem wellFormed_compiled :
    (∀ (n : Filter.Node) (t : Table) (fields : Keyed Filter.FieldInfo) (p : Predicate),
      n.condition t fields = .ok (some p) → p.WellFormed t.columns ∧
        ∀ (b : Backend) (before : Script), ∃ added ls,
          before.write b p.tokens = before.append added ∧ lexemes? b added.chars = some ls ∧
          Proper (before.write b p.tokens).params (numbered before.params.length ls)) ∧
    ∀ (caps : Capabilities) (op : Operation) (s : Statement) (p : Predicate),
      Plan.ofOperation caps op = .ok (.statement s) → s.condition? = some p →
        ∀ b : Backend, ∃ ls, lexemes? b (s.script b).chars = some ls ∧
          Proper (s.script b).params (numbered 0 ls) := by
  constructor
  · intro n t fields p compiled
    have wellFormed := Filter.Node.wellFormed_condition compiled p rfl
    refine ⟨wellFormed, fun b before => ?_⟩
    obtain ⟨added, ls, same, lexemes, joinable⟩ :=
      ReadsAs.written before ((nests_joinable _).readsAs_tokens wellFormed) (spaced_tokens p)
    exact ⟨added, ls, same, lexemes, joinable.proper⟩
  · intro caps op s p planned condition b
    obtain ⟨before, after, tokens, plainBefore, plainAfter⟩ := Statement.exists_tokens condition b
    have wellFormed := Filter.wellFormed_conditionOf (condition_of_planned planned condition)
    have reads (params : List Value) : ReadsAs b params (fun ls _ => Joinable params ls)
        (s.tokens b) p.depth := by
      rw [tokens]
      exact (nests_joinable params).readsAs_amid p.depth_pos
        ((nests_joinable params).readsAs_condition wellFormed) plainBefore plainAfter
    obtain ⟨added, ls, same, lexemes, joinable⟩ :=
      ReadsAs.written .empty (reads _) s.spaced_tokens
    have whole : s.script b = added := same
    exact ⟨ls, whole ▸ lexemes, joinable.proper⟩

/-! ### A pattern that is a number -/

/-- A removal by a number as a pattern, with a group of nothing and the opposite of a range. -/
def byCode : Operation := .delete
  { resource := "t"
    filters := some
      ⟨.group ⟨.and, some true⟩
        [.rule ⟨some "code", some .like, [⟨.number (.integer 5), none⟩]⟩,
         .group ⟨.or, some true⟩ [],
         .rule ⟨some "age", some .notBetween,
           [⟨.number (.integer 1), none⟩, ⟨.number (.integer 9), none⟩]⟩],
        Keyed.ofList [("code", ⟨.number, ""⟩), ("age", ⟨.number, ""⟩)]⟩ }

def byCodeCondition : Predicate :=
  .not (.all [.like "code" (.text "5") false, .not (.between "age" (.int 1) (.int 9))])

/-- The group of nothing leaves no parentheses, and the number is a text behind LIKE. -/
theorem wellFormed_compiled_number :
    byCodeCondition.WellFormed ["age", "code"] ∧
      (∃ ls, lexemes? .postgres
          "NOT ((\"code\" LIKE E\x275\x27 AND NOT (\"age\" BETWEEN $1 AND $2)))".toList = some ls ∧
        Proper [.int 1, .int 9] (numbered 0 ls)) ∧
      ∃ ls, lexemes? .sqlite
          ("DELETE FROM \"t\" WHERE " ++
            "NOT ((\"code\" LIKE ? AND NOT (\"age\" BETWEEN ? AND ?)))").toList = some ls ∧
        Proper [.text "5", .int 1, .int 9] (numbered 0 ls) := by
  obtain ⟨compiled, planned⟩ := wellFormed_compiled
  obtain ⟨c, hc, condition⟩ : ∃ c, byCode.filters? = some c ∧
      c.condition (Table.ofOperation byCode) = .ok (some byCodeCondition) := ⟨_, rfl, rfl⟩
  obtain ⟨wellFormed, written⟩ := compiled c.tree _ c.fields _ condition
  refine ⟨wellFormed, ?_, ?_⟩
  · obtain ⟨added, ls, same, lexemes, proper⟩ := written .postgres .empty
    have text : added.chars =
        "NOT ((\"code\" LIKE E\x275\x27 AND NOT (\"age\" BETWEEN $1 AND $2)))".toList := by
      change (Script.empty.append added).chars = _
      rw [← same]
      decide +kernel
    exact ⟨ls, text ▸ lexemes, proper⟩
  · have deletion : Plan.ofOperation ⟨.sqlite, false, true⟩ byCode =
        .ok (.statement (.delete "t" byCodeCondition false)) := rfl
    obtain ⟨ls, lexemes, proper⟩ := planned _ _ _ _ deletion rfl .sqlite
    have text : (Statement.script .sqlite (.delete "t" byCodeCondition false)).chars =
        ("DELETE FROM \"t\" WHERE " ++
          "NOT ((\"code\" LIKE ? AND NOT (\"age\" BETWEEN ? AND ?)))").toList := by
      decide +kernel
    exact ⟨ls, text ▸ lexemes, proper⟩

end Sql

/-! ## The limit on filters -/

/-- **The limit on filters bounds what follows.** In a request that is let through no path of the
filter is longer than the limit, what is compiled from it is at most twice as deep, and fewer
parentheses than that are ever open in its text, wherever it is written. With a longer path the
request is refused, whatever else is in the filter. -/
theorem Envelope.validate_bounds {e : Envelope} {c : Filter.Clause} (limit : Nat)
    (hc : e.operation.filters? = some c) :
    (e.validate limit = .ok () →
      (∀ path, c.tree.IsPath path → path.length ≤ limit) ∧
      ∀ t p, c.condition t = .ok (some p) → p.depth ≤ 2 * limit ∧
        ∀ (b : Backend) (before : Sql.Script), ∃ added ls,
          before.write b p.tokens = before.append added ∧
          Sql.lexemes? b added.chars = some ls ∧ Sql.Nested ls (2 * limit)) ∧
    ((∃ path, c.tree.IsPath path ∧ limit < path.length) →
      ∃ fault, e.validate limit = .error (.requestShape fault) ∧
        (e.checkResource = .ok () → fault = .tooDeep c.tree.depth limit)) := by
  constructor
  · intro valid
    have levels := Envelope.depth_of_validate hc valid
    refine ⟨fun path isPath => Nat.le_trans isPath.length_le levels, fun t p compiled => ?_⟩
    have deep : p.depth ≤ 2 * limit := by
      have twice := Filter.Node.depth_condition compiled p rfl
      omega
    refine ⟨deep, fun b before => ?_⟩
    have wellFormed := Filter.Node.wellFormed_condition compiled p rfl
    have nests := Sql.nests_nested (before.write b p.tokens).params
    have reads := nests.readsAs_weaken deep (nests.readsAs_tokens (b := b) wellFormed)
    obtain ⟨added, ls, same, lexemes, nested⟩ := reads.written before (Sql.spaced_tokens p)
    exact ⟨added, ls, same, lexemes, nested.of_numbered⟩
  · intro long
    exact Envelope.validate_of_deep hc (Filter.Node.lt_depth_iff.mpr long)

/-! ### Two levels -/

/-- A filter of two levels: the opposite of two rules, each of which is an opposite. -/
def outside : Filter.Clause :=
  ⟨.group ⟨.and, some true⟩
    [.rule ⟨some "age", some .notBetween,
      [⟨.number (.integer 1), none⟩, ⟨.number (.integer 2), none⟩]⟩,
     .rule ⟨some "age", some .notBetween,
      [⟨.number (.integer 5), none⟩, ⟨.number (.integer 6), none⟩]⟩],
    Keyed.ofList [("age", ⟨.number, ""⟩)]⟩

/-- A removal with this filter. -/
def outsiders : Envelope where
  connection := ⟨"", Keyed.empty⟩
  operation := .delete { resource := "t", filters := some outside }

/-- The condition is four deep and has three parentheses open; with a limit of one level there is
no condition. -/
theorem Envelope.validate_bounds_twice :
    (∃ p ls, outside.condition ⟨"t", ["age"]⟩ = .ok (some p) ∧ p.depth = 2 * 2 ∧
      Sql.lexemes? .sqlite
        ("NOT ((NOT (\"age\" BETWEEN ? AND ?) AND " ++
          "NOT (\"age\" BETWEEN ? AND ?)))").toList = some ls ∧ Sql.Nested ls 4) ∧
    outsiders.validate 1 = .error (.requestShape (.tooDeep 2 1)) := by
  have filtered : outsiders.operation.filters? = some outside := rfl
  constructor
  · obtain ⟨bounds, -⟩ := Envelope.validate_bounds 2 filtered
    obtain ⟨-, compiled⟩ := bounds rfl
    obtain ⟨-, written⟩ := compiled ⟨"t", ["age"]⟩ _ rfl
    obtain ⟨added, ls, same, lexemes, nested⟩ := written .sqlite .empty
    have text : added.chars = ("NOT ((NOT (\"age\" BETWEEN ? AND ?) AND " ++
        "NOT (\"age\" BETWEEN ? AND ?)))").toList := by
      change (Sql.Script.empty.append added).chars = _
      rw [← same]
      decide +kernel
    exact ⟨_, ls, rfl, rfl, text ▸ lexemes, nested⟩
  · obtain ⟨-, refused⟩ := Envelope.validate_bounds 1 filtered
    have path : outside.tree.IsPath (outside.tree :: outside.tree.children.take 1) :=
      ⟨rfl, .cons_cons List.mem_cons_self (.singleton _)⟩
    obtain ⟨fault, failed, own⟩ := refused ⟨_, path, Nat.lt_succ_self 1⟩
    rw [failed, own rfl]
    rfl

end SqlBroker
