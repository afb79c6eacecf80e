import SqlBroker.Catalog
import SqlBroker.Proofs.Text.Encoded

/-!
# Rows that describe columns

The catalog query of each database answers with one row of four cells for a column: name, type,
whether it may be null, and default (`Tells`). The cells are texts, of which only the default may be
missing; the third is the word `YES` where null is allowed, and on SQLite a number that is zero. A
row of any other cells describes no column.

Concerns `list_columns` (SPEC_FULL.md, section 13).

Headlines:
* **`Cell.text?_eq_some_iff`**: a cell is read as the text whose bytes it has.
* **`ColumnInfo.ofCells?_eq_some_iff`**, **`ColumnInfo.ofCells?_eq_none_iff`**: a row is read as the
  column that it describes, and not read if it describes none.
-/

namespace SqlBroker

/-! ## Cells -/

/-- What the bytes of a cell say. -/
inductive Cell.Says : Cell → String → Prop
  | text (s : String) : Says (.text (Text.encode s)) s
  | blob (s : String) : Says (.blob (Text.encode s)) s

/-- **A cell is read as the text whose bytes it has.** -/
theorem Cell.text?_eq_some_iff {c : Cell} {s : String} : c.text? = some s ↔ c.Says s := by
  constructor
  · intro h
    obtain ⟨bytes, hc, h⟩ := Option.bind_eq_some_iff.mp h
    obtain rfl := Text.decode?_eq_some_iff.mp h
    cases c with
    | text => exact Option.some.inj hc ▸ .text s
    | blob => exact Option.some.inj hc ▸ .blob s
    | _ => cases hc
  · rintro (_ | _)
    · exact Text.decode?_encode s
    · exact Text.decode?_encode s

namespace ColumnInfo

/-- What a cell has of whether a column may be null. SQLite has a number there, which is zero if it
may; the others have a word. -/
inductive TellsNullable : Backend → Cell → Bool → Prop
  | zero : TellsNullable .sqlite (.int 0) true
  | number {n : Int} (ne : n ≠ 0) : TellsNullable .sqlite (.int n) false
  | yes {b : Backend} {c : Cell} (other : b ≠ .sqlite) (has : c.Says "YES") :
    TellsNullable b c true
  | word {b : Backend} {c : Cell} {s : String} (other : b ≠ .sqlite) (has : c.Says s)
    (ne : s ≠ "YES") : TellsNullable b c false

/-- What a cell has of the default of a column, which may have none. -/
inductive TellsDefault : Cell → Option String → Prop
  | none : TellsDefault .null none
  | text {c : Cell} {s : String} (has : c.Says s) : TellsDefault c (some s)

/-- The column that a row describes. -/
inductive Tells (b : Backend) : List Cell → ColumnInfo → Prop
  | cells {name type nullable default : Cell} {info : ColumnInfo} (hname : name.Says info.name)
    (htype : type.Says info.type) (hnullable : TellsNullable b nullable info.nullable)
    (hdefault : TellsDefault default info.default) : Tells b [name, type, nullable, default] info

theorem nullable?_eq_some_iff {b : Backend} {c : Cell} {may : Bool} :
    nullable? b c = some may ↔ TellsNullable b c may := by
  have word (other : b ≠ .sqlite) :
      c.text?.map (· == "YES") = some may ↔ TellsNullable b c may := by
    rw [Option.map_eq_some_iff]
    constructor
    · rintro ⟨s, hs, rfl⟩
      have has := Cell.text?_eq_some_iff.mp hs
      by_cases yes : s = "YES"
      · rw [beq_iff_eq.mpr yes]
        exact .yes other (yes ▸ has)
      · rw [beq_eq_false_iff_ne.mpr yes]
        exact .word other has yes
    · rintro (_ | _ | ⟨-, has⟩ | ⟨-, has, ne⟩)
      · exact absurd rfl other
      · exact absurd rfl other
      · exact ⟨_, Cell.text?_eq_some_iff.mpr has, rfl⟩
      · exact ⟨_, Cell.text?_eq_some_iff.mpr has, beq_eq_false_iff_ne.mpr ne⟩
  cases b with
  | postgres => exact word (by decide)
  | mysql => exact word (by decide)
  | sqlite =>
    constructor
    · intro h
      cases c with
      | int n =>
        obtain rfl := Option.some.inj h
        by_cases zero : n = 0
        · subst zero
          exact .zero
        · rw [beq_eq_false_iff_ne.mpr zero]
          exact .number zero
      | _ => cases h
    · rintro (_ | ne | ⟨other, -⟩ | ⟨other, -, -⟩)
      · rfl
      · exact congrArg some (beq_eq_false_iff_ne.mpr ne)
      · exact absurd rfl other
      · exact absurd rfl other

theorem textOrNull?_eq_some_iff {c : Cell} {default : Option String} :
    textOrNull? c = some default ↔ TellsDefault c default := by
  constructor
  · intro h
    unfold textOrNull? at h
    split at h
    · obtain rfl := Option.some.inj h
      exact .none
    · obtain ⟨s, hs, rfl⟩ := Option.map_eq_some_iff.mp h
      exact .text (Cell.text?_eq_some_iff.mp hs)
  · rintro (_ | ⟨_ | _⟩)
    · rfl
    · exact congrArg (Option.map some) (Text.decode?_encode _)
    · exact congrArg (Option.map some) (Text.decode?_encode _)

/-- **A row is read as the column that it describes.** -/
theorem ofCells?_eq_some_iff {b : Backend} {row : List Cell} {info : ColumnInfo} :
    ofCells? b row = some info ↔ Tells b row info := by
  constructor
  · intro h
    unfold ofCells? at h
    split at h
    · obtain ⟨name, hname, h⟩ := Option.bind_eq_some_iff.mp h
      obtain ⟨type, htype, h⟩ := Option.bind_eq_some_iff.mp h
      obtain ⟨nullable, hnullable, h⟩ := Option.bind_eq_some_iff.mp h
      obtain ⟨default, hdefault, h⟩ := Option.bind_eq_some_iff.mp h
      obtain rfl := Option.some.inj h
      exact .cells (Cell.text?_eq_some_iff.mp hname) (Cell.text?_eq_some_iff.mp htype)
        (nullable?_eq_some_iff.mp hnullable) (textOrNull?_eq_some_iff.mp hdefault)
    · cases h
  · rintro ⟨hname, htype, hnullable, hdefault⟩
    simp [ofCells?, Cell.text?_eq_some_iff.mpr hname, Cell.text?_eq_some_iff.mpr htype,
      nullable?_eq_some_iff.mpr hnullable, textOrNull?_eq_some_iff.mpr hdefault]

/-- **A row that describes no column is not read.** -/
theorem ofCells?_eq_none_iff {b : Backend} {row : List Cell} :
    ofCells? b row = none ↔ ∀ info, ¬ Tells b row info := by
  rw [Option.eq_none_iff_forall_ne_some]
  exact forall_congr' fun info => not_congr ofCells?_eq_some_iff

end ColumnInfo

end SqlBroker
