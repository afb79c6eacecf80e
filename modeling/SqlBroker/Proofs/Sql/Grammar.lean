import SqlBroker.Proofs.Filter.Truth
import SqlBroker.Proofs.Sql.Lexeme
import SqlBroker.Sql.Statement

/-!
# The grammar of statements

What the lexemes of a text can mean, as a relation: a statement is read off lexemes by the rules
below and in no other way. Negation binds tighter than conjunction and conjunction tighter than
disjunction; parentheses hold a whole condition; of BETWEEN the first AND is its own. Placeholders
have their numbers and stand for the values beside the text.

Each rule consumes a part of the lexemes, and the question is whether two readings can divide the
same lexemes differently. They cannot (`Settled`): where one part ends is decided by what it is and
by the lexeme after it.

Headlines:
* **`Joined.settled`**: parts with a separator between them are settled if each part is.
* **`Disjoined.settled`**: a condition has one reading.
* **`Derives.unique`**: a statement has one reading.
-/

namespace SqlBroker

namespace Sql.Grammar

/-! ## Conditions -/

/-- Parts with a lexeme between each two, at least one. -/
inductive Joined {α : Type} (between : Lexeme) (R : List Lexeme → α → Prop) :
    List Lexeme → List α → Prop
  | last {ls x} : R ls x → Joined between R ls [x]
  | next {ls ms x xs} : R ls x → Joined between R ms xs →
      Joined between R (ls ++ between :: ms) (x :: xs)

/-- A value: null, a literal, or one from beside the text. -/
inductive Operand (params : List Value) : List Lexeme → Value → Prop
  | null : Operand params [.word "NULL"] .null
  | literal (s) : Operand params [.literal s] (.text s)
  | param {n v} : params[n]? = some v → Operand params [.param (n + 1)] v

/-- A condition on one column, or the one that holds of every row. -/
inductive Test (params : List Value) : List Lexeme → Predicate → Prop
  | always : Test params [.word "TRUE"] .always
  | compare {c op ls v} : Operand params ls v →
      Test params (.name c :: .sign (Comparison.sign op) :: ls) (.compare c op v)
  | like {c ls v} : Operand params ls v →
      Test params (.name c :: .word "LIKE" :: ls) (.like c v false)
  | notLike {c ls v} : Operand params ls v →
      Test params (.name c :: .word "NOT" :: .word "LIKE" :: ls) (.like c v true)
  | between {c ls low ms high} : Operand params ls low → Operand params ms high →
      Test params (.name c :: .word "BETWEEN" :: (ls ++ .word "AND" :: ms)) (.between c low high)
  | isNull {c} : Test params [.name c, .word "IS", .word "NULL"] (.isNull c false)
  | isNotNull {c} :
      Test params [.name c, .word "IS", .word "NOT", .word "NULL"] (.isNull c true)

mutual

/-- A test, or a condition in parentheses. -/
inductive Term (params : List Value) : List Lexeme → Predicate → Prop
  | test {ls p} : Test params ls p → Term params ls p
  | group {ls p} : Disjoined params ls p → Term params (.sign "(" :: (ls ++ [.sign ")"])) p

/-- A term under any number of negations. -/
inductive Factor (params : List Value) : List Lexeme → Predicate → Prop
  | term {ls p} : Term params ls p → Factor params ls p
  | not {ls p} : Factor params ls p → Factor params (.word "NOT" :: ls) (.not p)

/-- Factors with AND between them. -/
inductive Conjoined (params : List Value) : List Lexeme → Predicate → Prop
  | mk {ls ps} : Joined (.word "AND") (Factor params) ls ps → Conjoined params ls (.allOf ps)

/-- Conjunctions with OR between them: a whole condition. -/
inductive Disjoined (params : List Value) : List Lexeme → Predicate → Prop
  | mk {ls ps} : Joined (.word "OR") (Conjoined params) ls ps →
      Disjoined params ls (.anyOf ps)

end

/-! ## One alone -/

variable {params : List Value} {ls : List Lexeme}

theorem Conjoined.single {p : Predicate} (h : Factor params ls p) : Conjoined params ls p := by
  change Conjoined params ls (.allOf [p])
  exact .mk (.last h)

theorem Disjoined.single {p : Predicate} (h : Conjoined params ls p) :
    Disjoined params ls p := by
  change Disjoined params ls (.anyOf [p])
  exact .mk (.last h)

theorem Joined.imp {α : Type} {between : Lexeme} {R S : List Lexeme → α → Prop}
    (hRS : ∀ {ls x}, R ls x → S ls x) {xs : List α} (h : Joined between R ls xs) :
    Joined between S ls xs := by
  induction h with
  | last h => exact .last (hRS h)
  | next h _ ih => exact .next (hRS h) ih

/-! ## Statements -/

/-- A column and the value to set in it. -/
inductive Setting (params : List Value) : List Lexeme → Assignment → Prop
  | mk {c ls v} : Operand params ls v → Setting params (.name c :: .sign "=" :: ls) ⟨c, v⟩

/-- The name of a column. -/
inductive ColumnName : List Lexeme → String → Prop
  | mk (c) : ColumnName [.name c] c

/-- A row to insert: values for columns, or none at all as the backend says it. -/
inductive Row (b : Backend) (params : List Value) : List Lexeme → List Assignment → Prop
  | default : b ≠ .mysql → Row b params [.word "DEFAULT", .word "VALUES"] []
  | empty : b = .mysql →
      Row b params [.sign "(", .sign ")", .word "VALUES", .sign "(", .sign ")"] []
  | listed {ls cs ms vs} : Joined (.sign ",") ColumnName ls cs →
      Joined (.sign ",") (Operand params) ms vs → cs.length = vs.length →
      Row b params (.sign "(" :: (ls ++ .sign ")" :: .word "VALUES" :: .sign "(" ::
        (ms ++ [.sign ")"]))) (cs.zipWith .mk vs)

/-- A column to sort by. -/
inductive SortKey : List Lexeme → SortItem → Prop
  | asc (c) : SortKey [.name c, .word "ASC"] ⟨c, .asc⟩
  | desc (c) : SortKey [.name c, .word "DESC"] ⟨c, .desc⟩

/-- A sort, if there is one. -/
inductive Sorting : List Lexeme → List SortItem → Prop
  | none : Sorting [] []
  | some {ls items} : Joined (.sign ",") SortKey ls items →
      Sorting (.word "ORDER" :: .word "BY" :: ls) items

/-- A window, if there is one. -/
inductive Windowed : List Lexeme → Option Window → Prop
  | none : Windowed [] none
  | some (limit offset) :
      Windowed [.word "LIMIT", .number limit, .word "OFFSET", .number offset] (some ⟨limit, offset⟩)

/-- Whether the rows touched are asked for. -/
inductive Returning : List Lexeme → Bool → Prop
  | none : Returning [] false
  | all : Returning [.word "RETURNING", .sign "*"] true

/-- A statement. -/
inductive Derives (b : Backend) (params : List Value) : List Lexeme → Statement → Prop
  | select {t ls p ms sort ns w} : Disjoined params ls p → Sorting ms sort → Windowed ns w →
      Derives b params (.word "SELECT" :: .sign "*" :: .word "FROM" :: .name t :: .word "WHERE" ::
        (ls ++ (ms ++ ns))) (.select t p sort w)
  | insert {t ls writes ms r} : Row b params ls writes → Returning ms r →
      Derives b params (.word "INSERT" :: .word "INTO" :: .name t :: (ls ++ ms))
        (.insert t writes r)
  | update {t ls writes ms p ns r} : Joined (.sign ",") (Setting params) ls writes →
      Disjoined params ms p → Returning ns r →
      Derives b params (.word "UPDATE" :: .name t :: .word "SET" ::
        (ls ++ .word "WHERE" :: (ms ++ ns))) (.update t writes p r)
  | delete {t ls p ms r} : Disjoined params ls p → Returning ms r →
      Derives b params (.word "DELETE" :: .word "FROM" :: .name t :: .word "WHERE" :: (ls ++ ms))
        (.delete t p r)

/-! ## Where a part ends -/

/-- Lexemes that start with none of these. -/
def Stops (stops : List Lexeme) (rest : List Lexeme) : Prop := ∀ l ∈ rest.head?, l ∉ stops

theorem stops_nil (rest : List Lexeme) : Stops [] rest := fun _ _ => List.not_mem_nil

theorem stops_end (stops : List Lexeme) : Stops stops [] := fun _ h => absurd h (by simp)

theorem stops_cons {stops : List Lexeme} {l : Lexeme} {rest : List Lexeme} (h : l ∉ stops) :
    Stops stops (l :: rest) := by
  intro m hm
  obtain rfl := Option.some.inj hm
  exact h

theorem Stops.weaken {stops fewer rest : List Lexeme} (h : Stops stops rest) (hf : fewer ⊆ stops) :
    Stops fewer rest := fun l hl hs => h l hl (hf hs)

/-- A reading of lexemes that decides where they end: among lexemes that start with them, and go on
with none of `stops`, no reading ends elsewhere or means something else. -/
def Settled {α : Type} (stops : List Lexeme) (R : List Lexeme → α → Prop) (ls : List Lexeme)
    (x : α) : Prop :=
  ∀ ⦃ms y r s⦄, R ms y → ls ++ r = ms ++ s → Stops stops r → Stops stops s → ls = ms ∧ x = y

/-- **Joined parts are settled** if each part is, and if nothing goes on with the separator. -/
theorem Joined.settled {α : Type} {between : Lexeme} {stops : List Lexeme}
    {R : List Lexeme → α → Prop} (hb : between ∉ stops) {ls : List Lexeme} {xs : List α}
    (h : Joined between (Settled stops R) ls xs) :
    Settled (between :: stops) (Joined between R) ls xs := by
  have weaker {rest : List Lexeme} (hr : Stops (between :: stops) rest) : Stops stops rest :=
    hr.weaken (List.subset_cons_self _ _)
  have apart {rest : List Lexeme} : ¬ Stops (between :: stops) (between :: rest) :=
    fun hr => hr between rfl List.mem_cons_self
  induction h with
  | last h =>
    intro ms ys r s hj e hr hs
    cases hj with
    | last hR =>
      obtain ⟨rfl, rfl⟩ := h hR e (weaker hr) (weaker hs)
      exact ⟨rfl, rfl⟩
    | next hR hj =>
      rw [List.append_assoc] at e
      obtain ⟨rfl, rfl⟩ := h hR e (weaker hr) (stops_cons hb)
      obtain rfl := List.append_cancel_left e
      exact absurd hr apart
  | next h _ ih =>
    intro ms ys r s hj e hr hs
    rw [List.append_assoc] at e
    cases hj with
    | last hR =>
      obtain ⟨rfl, rfl⟩ := h hR e (stops_cons hb) (weaker hs)
      obtain rfl := List.append_cancel_left e
      exact absurd hs apart
    | next hR hj =>
      rw [List.append_assoc] at e
      obtain ⟨rfl, rfl⟩ := h hR e (stops_cons hb) (stops_cons hb)
      obtain ⟨rfl, rfl⟩ := ih hj (List.cons.inj (List.append_cancel_left e)).2 hr hs
      exact ⟨rfl, rfl⟩

/-- Readings that all take the same number of lexemes are settled. -/
theorem settled_of_length {α : Type} {R : List Lexeme → α → Prop} (n : Nat)
    (length : ∀ {ls x}, R ls x → ls.length = n) (one : ∀ {ls x y}, R ls x → R ls y → x = y)
    {ls : List Lexeme} {x : α} (h : R ls x) : Settled [] R ls x := by
  intro ms y r s hR e _ _
  obtain ⟨rfl, -⟩ := List.append_inj e ((length h).trans (length hR).symm)
  exact ⟨rfl, one h hR⟩

/-! ## Conditions have one reading -/

theorem Operand.length {v : Value} (h : Operand params ls v) : ls.length = 1 := by
  cases h <;> rfl

theorem Operand.settled {v : Value} (h : Operand params ls v) :
    Settled [] (Operand params) ls v := by
  refine settled_of_length 1 Operand.length (fun {ls x y} hx hy => ?_) h
  cases hx with
  | null => cases hy; rfl
  | literal s => cases hy; rfl
  | param hx =>
    cases hy with
    | param hy => exact Option.some.inj (hx.symm.trans hy)

theorem Comparison.eq_of_sign {a b : Comparison} (h : a.sign = b.sign) : a = b := by
  revert h
  cases a <;> cases b <;> decide

/-- **A test has one reading.** -/
theorem Test.settled {p : Predicate} (h : Test params ls p) : Settled [] (Test params) ls p := by
  intro ms q r s hR e _ _
  have stop (rest : List Lexeme) := stops_nil rest
  cases h with
  | always =>
    cases hR with
    | always => exact ⟨rfl, rfl⟩
    | _ => exact absurd e (by simp)
  | compare h =>
    cases hR with
    | compare hR =>
      simp only [List.cons_append, List.cons.injEq, Lexeme.name.injEq, Lexeme.sign.injEq] at e
      obtain ⟨rfl, sign, e⟩ := e
      obtain rfl := Comparison.eq_of_sign sign
      obtain ⟨rfl, rfl⟩ := h.settled hR e (stop _) (stop _)
      exact ⟨rfl, rfl⟩
    | _ => exact absurd e (by simp)
  | like h =>
    cases hR with
    | like hR =>
      simp only [List.cons_append, List.cons.injEq, Lexeme.name.injEq, true_and] at e
      obtain ⟨rfl, e⟩ := e
      obtain ⟨rfl, rfl⟩ := h.settled hR e (stop _) (stop _)
      exact ⟨rfl, rfl⟩
    | _ => exact absurd e (by simp)
  | notLike h =>
    cases hR with
    | notLike hR =>
      simp only [List.cons_append, List.cons.injEq, Lexeme.name.injEq, true_and] at e
      obtain ⟨rfl, e⟩ := e
      obtain ⟨rfl, rfl⟩ := h.settled hR e (stop _) (stop _)
      exact ⟨rfl, rfl⟩
    | _ => exact absurd e (by simp)
  | between low high =>
    cases hR with
    | between lowR highR =>
      simp only [List.cons_append, List.append_assoc, List.cons.injEq, Lexeme.name.injEq,
        true_and] at e
      obtain ⟨rfl, e⟩ := e
      obtain ⟨rfl, rfl⟩ := low.settled lowR e (stop _) (stop _)
      -- the first bound is read, so this AND is the one of BETWEEN
      have e := (List.cons.inj (List.append_cancel_left e)).2
      obtain ⟨rfl, rfl⟩ := high.settled highR e (stop _) (stop _)
      exact ⟨rfl, rfl⟩
    | _ => exact absurd e (by simp)
  | isNull =>
    cases hR with
    | isNull =>
      simp only [List.cons_append, List.cons.injEq, Lexeme.name.injEq, true_and] at e
      obtain ⟨rfl, -⟩ := e
      exact ⟨rfl, rfl⟩
    | _ => exact absurd e (by simp)
  | isNotNull =>
    cases hR with
    | isNotNull =>
      simp only [List.cons_append, List.cons.injEq, Lexeme.name.injEq, true_and] at e
      obtain ⟨rfl, -⟩ := e
      exact ⟨rfl, rfl⟩
    | _ => exact absurd e (by simp)

/-- What a term starts with is neither a negation nor a joining word. -/
theorem Test.head {p : Predicate} (h : Test params ls p) :
    ∃ l rest, ls = l :: rest ∧ (l = .word "TRUE" ∨ ∃ c, l = .name c) := by
  cases h with
  | always => exact ⟨_, _, rfl, .inl rfl⟩
  | _ => exact ⟨_, _, rfl, .inr ⟨_, rfl⟩⟩

theorem Term.head {p : Predicate} (h : Term params ls p) :
    ∃ l rest, ls = l :: rest ∧ l ≠ .word "NOT" := by
  cases h with
  | test h =>
    obtain ⟨l, rest, rfl, rfl | ⟨c, rfl⟩⟩ := h.head
    · exact ⟨_, _, rfl, by simp⟩
    · exact ⟨_, _, rfl, by simp⟩
  | group _ => exact ⟨_, _, rfl, by simp⟩

mutual

theorem Term.settled : ∀ {ls : List Lexeme} {p : Predicate}, Term params ls p →
    Settled [] (Term params) ls p
  | _, _, .test h => by
    intro ms q r s hR e hr hs
    cases hR with
    | test hR => exact h.settled hR e hr hs
    | group _ =>
      obtain ⟨l, rest, rfl, rfl | ⟨c, rfl⟩⟩ := h.head
      · exact absurd e (by simp)
      · exact absurd e (by simp)
  | _, _, .group h => by
    intro ms q r s hR e _ _
    cases hR with
    | test hR =>
      obtain ⟨l, rest, rfl, rfl | ⟨c, rfl⟩⟩ := hR.head
      · exact absurd e (by simp)
      · exact absurd e (by simp)
    | group hR =>
      simp only [List.cons_append, List.append_assoc, List.nil_append, List.cons.injEq,
        true_and] at e
      obtain ⟨rfl, rfl⟩ := h.settled hR e (stops_cons (by simp)) (stops_cons (by simp))
      exact ⟨rfl, rfl⟩

/-- Negation binds tightest: a factor ends where its term does. -/
theorem Factor.settled : ∀ {ls : List Lexeme} {p : Predicate}, Factor params ls p →
    Settled [] (Factor params) ls p
  | _, _, .term h => by
    intro ms q r s hR e hr hs
    cases hR with
    | term hR => exact h.settled hR e hr hs
    | not _ =>
      obtain ⟨l, rest, rfl, first⟩ := h.head
      exact absurd (List.cons.inj e).1 first
  | _, _, .not h => by
    intro ms q r s hR e hr hs
    cases hR with
    | term hR =>
      obtain ⟨l, rest, rfl, first⟩ := hR.head
      exact absurd (List.cons.inj e).1.symm first
    | not hR =>
      obtain ⟨rfl, rfl⟩ := h.settled hR (List.cons.inj e).2 hr hs
      exact ⟨rfl, rfl⟩

theorem Factor.joined : ∀ {ls : List Lexeme} {ps : List Predicate},
    Joined (.word "AND") (Factor params) ls ps →
    Joined (.word "AND") (Settled [] (Factor params)) ls ps
  | _, _, .last h => .last h.settled
  | _, _, .next h hj => .next h.settled (Factor.joined hj)

/-- A conjunction goes on as long as there is an AND. -/
theorem Conjoined.settled : ∀ {ls : List Lexeme} {p : Predicate}, Conjoined params ls p →
    Settled [.word "AND"] (Conjoined params) ls p
  | _, _, .mk h => by
    intro ms q r s hR e hr hs
    cases hR with
    | mk hR =>
      obtain ⟨rfl, rfl⟩ := (Factor.joined h).settled (by simp) hR e hr hs
      exact ⟨rfl, rfl⟩

theorem Conjoined.joined : ∀ {ls : List Lexeme} {ps : List Predicate},
    Joined (.word "OR") (Conjoined params) ls ps →
    Joined (.word "OR") (Settled [.word "AND"] (Conjoined params)) ls ps
  | _, _, .last h => .last h.settled
  | _, _, .next h hj => .next h.settled (Conjoined.joined hj)

/-- **A condition has one reading**: it goes on as long as there is an OR or an AND. -/
theorem Disjoined.settled : ∀ {ls : List Lexeme} {p : Predicate}, Disjoined params ls p →
    Settled [.word "OR", .word "AND"] (Disjoined params) ls p
  | _, _, .mk h => by
    intro ms q r s hR e hr hs
    cases hR with
    | mk hR =>
      obtain ⟨rfl, rfl⟩ := (Conjoined.joined h).settled (by simp) hR e hr hs
      exact ⟨rfl, rfl⟩

end

theorem Disjoined.unique {p q : Predicate} (h : Disjoined params ls p)
    (h' : Disjoined params ls q) : p = q :=
  (h.settled h' rfl (stops_end _) (stops_end _)).2

/-! ## Statements have one reading -/

/-- **Joined parts of one kind are settled** if that kind is. -/
theorem Joined.settled_of {α : Type} {between : Lexeme} {R : List Lexeme → α → Prop}
    (hR : ∀ {ls x}, R ls x → Settled [] R ls x) {xs : List α} (h : Joined between R ls xs) :
    Settled [between] (Joined between R) ls xs := by
  refine Joined.settled List.not_mem_nil ?_
  induction h with
  | last h => exact .last (hR h)
  | next h _ ih => exact .next (hR h) ih

theorem Setting.settled {a : Assignment} (h : Setting params ls a) :
    Settled [] (Setting params) ls a := by
  refine settled_of_length 3 (fun h => ?_) (fun hx hy => ?_) h
  · cases h with
    | mk h => simp [h.length]
  · cases hx with
    | mk hx =>
      cases hy with
      | mk hy =>
        obtain ⟨-, rfl⟩ := hx.settled hy rfl (stops_nil []) (stops_nil [])
        rfl

theorem ColumnName.settled {c : String} (h : ColumnName ls c) : Settled [] ColumnName ls c := by
  refine settled_of_length 1 (fun h => ?_) (fun hx hy => ?_) h
  · cases h; rfl
  · cases hx; cases hy; rfl

theorem SortKey.settled {i : SortItem} (h : SortKey ls i) : Settled [] SortKey ls i := by
  refine settled_of_length 2 (fun h => ?_) (fun hx hy => ?_) h
  · cases h <;> rfl
  · -- the words of the two directions differ
    cases hx with
    | asc c =>
      generalize e : [Lexeme.name c, .word "ASC"] = ls at hy
      cases hy <;> simp_all
    | desc c =>
      generalize e : [Lexeme.name c, .word "DESC"] = ls at hy
      cases hy <;> simp_all

theorem Joined.head_of_columnName {cs : List String} (h : Joined (.sign ",") ColumnName ls cs) :
    ∃ c rest, ls = .name c :: rest := by
  cases h with
  | last h => cases h; exact ⟨_, _, rfl⟩
  | next h _ => cases h; exact ⟨_, _, rfl⟩

/-- **A row has one reading**, whatever follows it. -/
theorem Row.settled {b : Backend} {writes : List Assignment} (h : Row b params ls writes) :
    Settled [] (Row b params) ls writes := by
  intro ms writes' r s hR e _ _
  cases h with
  | default _ =>
    cases hR with
    | default _ => exact ⟨rfl, rfl⟩
    | _ => exact absurd e (by simp)
  | empty _ =>
    cases hR with
    | empty _ => exact ⟨rfl, rfl⟩
    | default _ => exact absurd e (by simp)
    | listed columns _ _ =>
      obtain ⟨c, rest, rfl⟩ := columns.head_of_columnName
      exact absurd e (by simp)
  | listed columns row length =>
    cases hR with
    | default _ => exact absurd e (by simp)
    | empty _ =>
      obtain ⟨c, rest, rfl⟩ := columns.head_of_columnName
      exact absurd e (by simp)
    | listed columns' row' length' =>
      have closed (rest : List Lexeme) : Stops [.sign ","] (.sign ")" :: rest) :=
        stops_cons (by simp)
      simp only [List.cons_append, List.append_assoc, List.nil_append, List.cons.injEq,
        true_and] at e
      obtain ⟨rfl, rfl⟩ := columns.settled_of ColumnName.settled columns' e (closed _) (closed _)
      have e := List.append_cancel_left e
      simp only [List.cons.injEq, true_and] at e
      obtain ⟨rfl, rfl⟩ := row.settled_of Operand.settled row' e (closed _) (closed _)
      exact ⟨rfl, rfl⟩

theorem Sorting.settled {sort : List SortItem} (h : Sorting ls sort) :
    Settled [.sign ",", .word "ORDER"] Sorting ls sort := by
  intro ms sort' r s hR e hr hs
  have apart {rest : List Lexeme} : ¬ Stops [.sign ",", .word "ORDER"] (.word "ORDER" :: rest) :=
    fun h => h _ rfl (by simp)
  have fewer : [Lexeme.sign ","] ⊆ [.sign ",", .word "ORDER"] := by simp
  cases h with
  | none =>
    cases hR with
    | none => exact ⟨rfl, rfl⟩
    | some _ =>
      rw [show r = _ from e] at hr
      exact absurd hr apart
  | some h =>
    cases hR with
    | none =>
      rw [show s = _ from e.symm] at hs
      exact absurd hs apart
    | some hR =>
      simp only [List.cons_append, List.cons.injEq, true_and] at e
      obtain ⟨rfl, rfl⟩ := h.settled_of SortKey.settled hR e (hr.weaken fewer) (hs.weaken fewer)
      exact ⟨rfl, rfl⟩

theorem Windowed.unique {w w' : Option Window} (h : Windowed ls w) (h' : Windowed ls w') :
    w = w' := by
  cases h <;> cases h' <;> rfl

theorem Returning.unique {r r' : Bool} (h : Returning ls r) (h' : Returning ls r') : r = r' := by
  cases h <;> cases h' <;> rfl

/-! ### What goes on after a condition, and after a sort -/

theorem Windowed.stops {w : Option Window} (h : Windowed ls w) {stops : List Lexeme}
    (hs : .word "LIMIT" ∉ stops) : Stops stops ls := by
  cases h with
  | none => exact stops_end stops
  | some => exact stops_cons hs

theorem Returning.stops {r : Bool} (h : Returning ls r) {stops : List Lexeme}
    (hs : .word "RETURNING" ∉ stops) : Stops stops ls := by
  cases h with
  | none => exact stops_end stops
  | all => exact stops_cons hs

theorem Sorting.stops {sort : List SortItem} (h : Sorting ls sort) {ms : List Lexeme}
    {stops : List Lexeme} (hs : .word "ORDER" ∉ stops) (hm : Stops stops ms) :
    Stops stops (ls ++ ms) := by
  cases h with
  | none => exact hm
  | some => exact stops_cons hs

/-- **A statement has one reading.** -/
theorem Derives.unique {b : Backend} {st st' : Statement} (h : Derives b params ls st)
    (h' : Derives b params ls st') : st = st' := by
  generalize e : ls = ms at h'
  cases h with
  | select hp hs hw =>
    cases h' with
    | select hp' hs' hw' =>
      simp only [List.cons.injEq, Lexeme.name.injEq, true_and] at e
      obtain ⟨rfl, e⟩ := e
      obtain ⟨rfl, rfl⟩ := hp.settled hp' e (hs.stops (by simp) (hw.stops (by simp)))
        (hs'.stops (by simp) (hw'.stops (by simp)))
      obtain ⟨rfl, rfl⟩ := hs.settled hs' (List.append_cancel_left e) (hw.stops (by simp))
        (hw'.stops (by simp))
      obtain rfl := List.append_cancel_left (List.append_cancel_left e)
      obtain rfl := hw.unique hw'
      rfl
    | _ => exact absurd e (by simp)
  | insert hw hr =>
    cases h' with
    | insert hw' hr' =>
      simp only [List.cons.injEq, Lexeme.name.injEq, true_and] at e
      obtain ⟨rfl, e⟩ := e
      obtain ⟨rfl, rfl⟩ := hw.settled hw' e (stops_nil _) (stops_nil _)
      obtain rfl := List.append_cancel_left e
      obtain rfl := hr.unique hr'
      rfl
    | _ => exact absurd e (by simp)
  | update hw hp hr =>
    cases h' with
    | update hw' hp' hr' =>
      simp only [List.cons.injEq, Lexeme.name.injEq, true_and] at e
      obtain ⟨rfl, e⟩ := e
      obtain ⟨rfl, rfl⟩ := hw.settled_of Setting.settled hw' e (stops_cons (by simp))
        (stops_cons (by simp))
      have e := (List.cons.inj (List.append_cancel_left e)).2
      obtain ⟨rfl, rfl⟩ := hp.settled hp' e (hr.stops (by simp)) (hr'.stops (by simp))
      obtain rfl := List.append_cancel_left e
      obtain rfl := hr.unique hr'
      rfl
    | _ => exact absurd e (by simp)
  | delete hp hr =>
    cases h' with
    | delete hp' hr' =>
      simp only [List.cons.injEq, Lexeme.name.injEq, true_and] at e
      obtain ⟨rfl, e⟩ := e
      obtain ⟨rfl, rfl⟩ := hp.settled hp' e (hr.stops (by simp)) (hr'.stops (by simp))
      obtain rfl := List.append_cancel_left e
      obtain rfl := hr.unique hr'
      rfl
    | _ => exact absurd e (by simp)

end Sql.Grammar

end SqlBroker
