import SqlBroker.Proofs.Plan
import SqlBroker.Proofs.Text.Digits
import SqlBroker.Sql.Lexer

/-!
# Pages

A page is what its window shows of the rows that there are. The window says what to pass over in 64
bits, and where the pages before hold more rows than that it stays at the largest such number. Two
pages can have one window then, but no result has a row at or past that number, so that neither
shows anything.

Concerns `plan` (SPEC_FULL.md, section 4.4).

Headlines:
* **`Sql.lastWindow?_select`**: the text of a select ends with its window, as digits.
* **`Sql.Window.shown_ofPage`**: a window shows what it would if it could say every product.
* **`Page.among_eq`**: the rows at the positions of a page are one piece of all rows.
* **`Page.eq_of_holds`**, **`Page.flatMap_pieces`**: the pieces do not meet, and there is nothing
  between them.
* **`Select.pages_tile`**: so the texts of the pages show every row once.
-/

namespace SqlBroker

variable {α : Type}

/-! ## Rows of a page -/

namespace Page

/-- The row at a position belongs to a page. -/
def Holds (p : Page) (i : Nat) : Prop := p.index * p.size ≤ i ∧ i < (p.index + 1) * p.size

instance (p : Page) (i : Nat) : Decidable (p.Holds i) :=
  inferInstanceAs (Decidable (_ ≤ i ∧ i < _))

/-- The rows at the positions of a page. -/
def among (p : Page) (rows : List α) : List α :=
  (rows.zipIdx.filter fun e => p.Holds e.2).map Prod.fst

/-- The rows at positions from `low` up to `high`, of rows that are counted from `k`. -/
theorem filter_zipIdx (low high : Nat) : ∀ (rows : List α) (k : Nat),
    ((rows.zipIdx k).filter fun e => low ≤ e.2 ∧ e.2 < high).map Prod.fst =
      (rows.take (high - k)).drop (low - k)
  | [], k => by simp
  | row :: rest, k => by
    -- The first row is past `high`, before `low` or between; the others are counted from `k + 1`.
    have later := filter_zipIdx low high rest (k + 1)
    rw [List.zipIdx_cons, List.filter_cons]
    rcases Nat.lt_or_ge k high with before | past
    · have more : high - k = (high - (k + 1)) + 1 := by omega
      rcases Nat.lt_or_ge k low with early | reached
      · have skip : low - k = (low - (k + 1)) + 1 := by omega
        rw [if_neg (by simp; omega), later, more, skip, List.take_succ_cons, List.drop_succ_cons]
      · have here : low - k = 0 ∧ low - (k + 1) = 0 := by omega
        rw [if_pos (by simp; omega), List.map_cons, later, more, here.1, here.2,
          List.take_succ_cons, List.drop_zero, List.drop_zero]
    · have beyond : high - k = 0 ∧ high - (k + 1) = 0 := by omega
      rw [if_neg (by simp; omega), later, beyond.1, beyond.2, List.take_zero, List.take_zero,
        List.drop_nil, List.drop_nil]

/-- **The rows of a page are one piece of all rows.** -/
theorem among_eq (p : Page) (rows : List α) :
    p.among rows = (rows.drop (p.index * p.size)).take p.size := by
  rw [among, List.take_drop, ← Nat.succ_mul]
  exact filter_zipIdx _ _ rows 0

/-- **A row is on one page**, of pages of one size. -/
theorem eq_of_holds {size i j position : Nat} (hi : Holds ⟨size, i⟩ position)
    (hj : Holds ⟨size, j⟩ position) : i = j := by
  have before : i < j + 1 := Nat.lt_of_mul_lt_mul_right (Nat.lt_of_le_of_lt hi.1 hj.2)
  have after : j < i + 1 := Nat.lt_of_mul_lt_mul_right (Nat.lt_of_le_of_lt hj.1 hi.2)
  omega

/-- Rows that come with their positions are on a page by these. -/
theorem holds_of_mem_among {p : Page} {rows : List α} {e : α × Nat}
    (h : e ∈ p.among rows.zipIdx) : p.Holds e.2 := by
  obtain ⟨⟨_, i⟩, mem, rfl⟩ := List.mem_map.mp h
  obtain ⟨there, holds⟩ := List.mem_filter.mp mem
  have row := List.mem_zipIdx_iff_getElem?.mp there
  rw [List.getElem?_zipIdx] at row
  obtain ⟨x, -, same⟩ := Option.map_eq_some_iff.mp row
  rw [← same]
  simpa using holds

/-- **There is nothing between the pages**: the first of them are the first rows. -/
theorem flatMap_pieces (size : Nat) (rows : List α) (n : Nat) :
    (List.range n).flatMap (fun i => (rows.drop (i * size)).take size) = rows.take (n * size) := by
  induction n with
  | zero => simp
  | succ n ih =>
    rw [List.range_succ, List.flatMap_append, ih, List.flatMap_singleton, Nat.succ_mul,
      List.take_add]

end Page

namespace Sql

/-- The rows that a window shows. -/
def Window.shown (w : Window) (rows : List α) : List α := (rows.drop w.offset).take w.limit

/-- **A window shows what it would if it could say every product**: past the largest number that it
can say there are no rows. -/
theorem Window.shown_ofPage (p : Page) {rows : List α} (few : rows.length < 2 ^ 64) :
    (Window.ofPage p).shown rows = (rows.drop (p.index * p.size)).take p.size := by
  rw [shown, ofPage]
  rcases Nat.le_total (p.index * p.size) offsetMax with said | past
  · rw [Nat.min_eq_left said]
  · have fit : rows.length ≤ offsetMax := Nat.le_pred_of_lt few
    rw [Nat.min_eq_right past, List.drop_eq_nil_of_le fit,
      List.drop_eq_nil_of_le (Nat.le_trans fit past)]

/-! ## Numbers in a text -/

/-- **The number after a word and a blank is read back.** -/
theorem lastNumber?_append (cs word : List Char) (n : Nat) :
    lastNumber? (word ++ [' ']) (cs ++ (word ++ [' ']) ++ Text.digits n) = some (n, cs) := by
  have digits : ((cs ++ (word ++ [' ']) ++ Text.digits n).reverse.takeWhile Char.isDigit).reverse =
      Text.digits n := by
    rw [List.reverse_append, List.takeWhile_append_of_pos fun d mem =>
      Text.areDigits_digits n d (List.mem_reverse.mp mem)]
    simp
  have front (xs ys : List Char) : (xs ++ ys).take ((xs ++ ys).length - ys.length) = xs := by
    rw [List.length_append, Nat.add_sub_cancel, List.take_left]
  have ends : (word ++ [' ']).isSuffixOf (cs ++ (word ++ [' '])) :=
    List.isSuffixOf_iff_suffix.mpr (List.suffix_append cs _)
  have value : Nat.ofDigitChars 10 (Text.digits n) 0 = n := Nat.ofDigitChars_ten_toDigits
  unfold lastNumber?
  dsimp only
  rw [digits, front, front, value]
  exact if_pos ⟨Nat.toDigits_ne_nil, ends⟩

/-- Words at the end of tokens are written as they are. -/
theorem chars_ofTokensFrom_words (b : Backend) (words : List String) : ∀ (n : Nat)
    (ts : List Token), (Script.ofTokensFrom b n (ts ++ words.map Token.word)).chars =
      (Script.ofTokensFrom b n ts).chars ++ words.flatMap String.toList
  | n, [] => by
    induction words with
    | nil => rfl
    | cons w words ih => exact congrArg (w.toList ++ ·) ih
  | n, t :: ts => by
    rw [List.cons_append, Script.ofTokensFrom, Script.ofTokensFrom, Script.append, Script.append,
      chars_ofTokensFrom_words b words, List.append_assoc]

/-- **The text of a select ends with its window.** -/
theorem lastWindow?_select (b : Backend) (table : String) (condition : Predicate)
    (sort : List SortItem) (w : Window) :
    lastWindow? ((Statement.select table condition sort (some w)).script b).text = some w := by
  let front := [.word "SELECT * FROM ", .name table] ++ Statement.whereTokens condition ++
    Statement.sortTokens sort
  have window : Statement.windowTokens (some w) =
      [" LIMIT ", String.ofList (Text.digits w.limit), " OFFSET ",
        String.ofList (Text.digits w.offset)].map Token.word := rfl
  have text : ((Statement.select table condition sort (some w)).script b).text.toList =
      (Script.ofTokens b front).chars ++ (" LIMIT".toList ++ [' ']) ++ Text.digits w.limit ++
        (" OFFSET".toList ++ [' ']) ++ Text.digits w.offset := by
    rw [Script.text, String.toList_ofList, Statement.script, Statement.tokens, window,
      Script.ofTokens, chars_ofTokensFrom_words]
    simp [front, Script.ofTokens]
  have offset := lastNumber?_append ((Script.ofTokens b front).chars ++
    (" LIMIT".toList ++ [' ']) ++ Text.digits w.limit) " OFFSET".toList w.offset
  have limit := lastNumber?_append (Script.ofTokens b front).chars " LIMIT".toList w.limit
  rw [← text] at offset
  exact Option.bind_eq_some_iff.mpr ⟨_, offset, Option.bind_eq_some_iff.mpr ⟨_, limit, rfl⟩⟩

end Sql

/-! ## Pages of a select -/

namespace Select

open Sql

/-- A select of one page. -/
def paged (s : Select) (p : Page) : Operation := .select { s with page := some p }

/-- The rows that the window at the end of a select's text shows, of those that there are. -/
def pageRows? (caps : Capabilities) (s : Select) (p : Page) (rows : List α) : Option (List α) :=
  match Plan.ofOperation caps (s.paged p) with
  | .ok (.statement st) => (lastWindow? (st.script caps.backend).text).map fun w => w.shown rows
  | _ => none

variable {caps : Capabilities} {s : Select} {condition : Predicate}

/-- **The text of a page shows the rows at its positions.** -/
theorem pageRows?_eq (pages : caps.pagination = true)
    (understood : Filter.conditionOf s.filters (Table.ofOperation (.select s)) = .ok condition)
    (p : Page) {rows : List α} (few : rows.length < 2 ^ 64) :
    s.pageRows? caps p rows = some (p.among rows) := by
  have planned : Plan.ofOperation caps (s.paged p) = .ok (.statement
      (.select s.resource condition (s.sort.getD []) (some (.ofPage p)))) := by
    refine Plan.ofOperation_of_condition understood ?_
    rw [paged, Operation.statement?, Operation.window?, if_pos pages]
    rfl
  rw [pageRows?, planned]
  dsimp only
  rw [lastWindow?_select, Option.map_some, Window.shown_ofPage p few, Page.among_eq]

/-- **Pages tile the rows**, whatever their size and however far they are. What the text of a page
shows are the rows at its positions. A row that is told from others by its position is on no two
pages, and the first pages one after the other are the first rows: if pages have rows at all, all
that there are. -/
theorem pages_tile (pages : caps.pagination = true)
    (understood : Filter.conditionOf s.filters (Table.ofOperation (.select s)) = .ok condition)
    (rows : List α) (few : rows.length < 2 ^ 64) :
    (∀ p : Page, s.pageRows? caps p rows = some ((rows.zipIdx.filter fun e =>
      p.index * p.size ≤ e.2 ∧ e.2 < (p.index + 1) * p.size).map Prod.fst)) ∧
    (∀ size i j, i ≠ j → ∃ here there, s.pageRows? caps ⟨size, i⟩ rows.zipIdx = some here ∧
      s.pageRows? caps ⟨size, j⟩ rows.zipIdx = some there ∧ ∀ e ∈ here, e ∉ there) ∧
    ∀ size n, ∃ parts, (List.range n).mapM (fun i => s.pageRows? caps ⟨size, i⟩ rows) = some parts ∧
      parts.flatten = rows.take (n * size) ∧
      (0 < size → rows.length ≤ n → parts.flatten = rows) := by
  refine ⟨fun p => pageRows?_eq pages understood p few, fun size i j apart => ?_, fun size n => ?_⟩
  · -- Equal rows are told apart by the positions that they come with.
    have numbered : rows.zipIdx.length < 2 ^ 64 := by rwa [List.length_zipIdx]
    refine ⟨_, _, pageRows?_eq pages understood _ numbered,
      pageRows?_eq pages understood _ numbered, fun e here there => ?_⟩
    exact apart (Page.eq_of_holds (Page.holds_of_mem_among here) (Page.holds_of_mem_among there))
  · have shown : (fun i => s.pageRows? caps ⟨size, i⟩ rows) = fun i =>
        pure ((rows.drop (i * size)).take size) := by
      funext i
      rw [pageRows?_eq pages understood ⟨size, i⟩ few, Page.among_eq]
      rfl
    have first := Page.flatMap_pieces size rows n
    rw [List.flatMap_def] at first
    refine ⟨(List.range n).map fun i => (rows.drop (i * size)).take size, ?_, first,
      fun pos enough => ?_⟩
    · rw [shown]
      exact List.mapM_pure
    · have all : rows.length ≤ n * size := Nat.le_trans enough (Nat.le_mul_of_pos_right n pos)
      rw [first, List.take_of_length_le all]

/-! ### Pages past the largest number -/

/-- A select with a filter, sorted by a column whose name looks like a window. -/
def people : Select where
  resource := "people"
  filters := some ⟨.rule ⟨some "age", some .greater, [⟨.number (.integer 17), none⟩]⟩,
    Keyed.ofList [("age", ⟨.number, "Age"⟩)]⟩
  sort := some [⟨" LIMIT 9 OFFSET 9", .asc⟩]
  page := none

/-- Two pages with one window show no row, and pages of two rows show three rows once each. -/
theorem pages_tile_people :
    let caps : Capabilities := ⟨.sqlite, true, true⟩
    (people.pageRows? caps ⟨2 ^ 63, 2⟩ ['a', 'b', 'c'] = some [] ∧
      people.pageRows? caps ⟨2 ^ 63, 3⟩ ['a', 'b', 'c'] = some []) ∧
    people.pageRows? caps ⟨2, 1⟩ ['a', 'b', 'c'] = some ['c'] ∧
    (∃ here there, people.pageRows? caps ⟨2, 0⟩ ['a', 'b', 'c'].zipIdx = some here ∧
      people.pageRows? caps ⟨2, 1⟩ ['a', 'b', 'c'].zipIdx = some there ∧ ∀ e ∈ here, e ∉ there) ∧
    ∃ parts, (List.range 3).mapM (fun i => people.pageRows? caps ⟨2, i⟩ ['a', 'b', 'c']) =
      some parts ∧ parts.flatten = ['a', 'b', 'c'] := by
  intro caps
  have pages : caps.pagination = true := rfl
  have understood : Filter.conditionOf people.filters (Table.ofOperation (.select people)) =
      .ok (.compare "age" .gt (.int 17)) := rfl
  obtain ⟨each, apart, first⟩ := pages_tile pages understood ['a', 'b', 'c'] (by decide)
  obtain ⟨parts, shown, -, all⟩ := first 2 3
  exact ⟨⟨each ⟨2 ^ 63, 2⟩, each ⟨2 ^ 63, 3⟩⟩, each ⟨2, 1⟩, apart 2 0 1 (by decide), parts, shown,
    all (by decide) (by decide)⟩

end Select

end SqlBroker
