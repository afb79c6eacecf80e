import SqlBroker.Filter.Predicate

/-!
# The truth of conditions

What a condition says of a row, in the three-valued logic of SQL: a comparison with null is
unknown, and so is what depends on it. Of the database nothing is known but that it compares two
data one way or the other (`Domain`).

Headlines:
* **`Predicate.truth_simplified`**: a conjunction or disjunction of one condition is as true as that
  condition, at any depth.
* **`Truth.holds_not_iff`**, **`Domain.compared_of_data`**: negation is the opposite only where
  nothing is unknown, and of two data nothing is.
-/

namespace SqlBroker

/-! ## Three values -/

/-- How true a condition is of a row. -/
inductive Truth where
  | holds
  /-- As of a comparison with null. -/
  | unknown
  | fails
deriving DecidableEq, Repr

namespace Truth

/-- What is decided. -/
def ofBool (b : Bool) : Truth := if b then .holds else .fails

def not : Truth → Truth
  | .holds => .fails
  | .unknown => .unknown
  | .fails => .holds

/-- Fails if either does, and holds if both do. -/
def and : Truth → Truth → Truth
  | .fails, _ => .fails
  | _, .fails => .fails
  | .holds, .holds => .holds
  | _, _ => .unknown

/-- Holds if either does, and fails if both do. -/
def or : Truth → Truth → Truth
  | .holds, _ => .holds
  | _, .holds => .holds
  | .fails, .fails => .fails
  | _, _ => .unknown

/-- The conjunction of any number; of none it holds. -/
def all (ts : List Truth) : Truth := ts.foldr and .holds

/-- The disjunction of any number; of none it fails. -/
def any (ts : List Truth) : Truth := ts.foldr or .fails

@[simp] theorem all_singleton (t : Truth) : all [t] = t := by cases t <;> rfl

@[simp] theorem any_singleton (t : Truth) : any [t] = t := by cases t <;> rfl

theorem and_ofBool (a b : Bool) : (ofBool a).and (ofBool b) = ofBool (a && b) := by
  cases a <;> cases b <;> rfl

/-- **What is not unknown holds or its negation does**, not both. -/
theorem holds_not_iff {t : Truth} (h : t ≠ .unknown) : t.not = .holds ↔ ¬ t = .holds := by
  cases t with
  | holds => decide
  | unknown => exact absurd rfl h
  | fails => decide

end Truth

/-! ## Rows -/

/-- What a database can hold in a column, and how it compares such data. -/
structure Domain where
  Datum : Type
  /-- What a value is to the database; what it makes of null plays no role. -/
  datum : Value → Datum
  compare : Comparison → Datum → Datum → Bool
  /-- Whether a datum matches a pattern. -/
  like : Datum → Datum → Bool

namespace Domain

variable (D : Domain)

/-- A row: a datum or null in each column. -/
abbrev Row : Type := String → Option D.Datum

/-- A value as a column holds it. -/
def cell (v : Value) : Option D.Datum := if v.isNull then none else some (D.datum v)

@[simp] theorem cell_null : D.cell .null = none := rfl

@[simp] theorem cell_text (s : String) : D.cell (.text s) = some (D.datum (.text s)) := rfl

/-- The comparison of what two columns hold; with null it is unknown. -/
def compared (op : Comparison) (a b : Option D.Datum) : Truth :=
  match a, b with
  | some a, some b => .ofBool (D.compare op a b)
  | _, _ => .unknown

/-- The match of what a column holds with a pattern; with null it is unknown. -/
def matched (a pattern : Option D.Datum) : Truth :=
  match a, pattern with
  | some a, some pattern => .ofBool (D.like a pattern)
  | _, _ => .unknown

/-- From `low` to `high`, with both. -/
def within (a low high : Option D.Datum) : Truth :=
  (D.compared .le low a).and (D.compared .le a high)

@[simp] theorem matched_null (a : Option D.Datum) : D.matched a none = .unknown := by
  cases a <;> rfl

/-- **Two data are comparable.** -/
theorem compared_of_data (op : Comparison) {a b : Option D.Datum} (ha : a.isSome)
    (hb : b.isSome) : ∃ answer, D.compared op a b = .ofBool answer := by
  obtain ⟨x, rfl⟩ := Option.isSome_iff_exists.mp ha
  obtain ⟨y, rfl⟩ := Option.isSome_iff_exists.mp hb
  exact ⟨_, rfl⟩

theorem within_ne_unknown {a low high : Option D.Datum} (ha : a.isSome) (hl : low.isSome)
    (hh : high.isSome) : D.within a low high ≠ .unknown := by
  obtain ⟨above, h₁⟩ := D.compared_of_data .le hl ha
  obtain ⟨below, h₂⟩ := D.compared_of_data .le ha hh
  rw [within, h₁, h₂, Truth.and_ofBool, Truth.ofBool]
  split <;> simp

end Domain

/-! ## Conditions -/

namespace Predicate

mutual

/-- How true a condition is of a row. -/
def truth (D : Domain) (row : D.Row) : Predicate → Truth
  | .always => .holds
  | .compare column op v => D.compared op (row column) (D.cell v)
  | .like column pattern negated =>
    let matched := D.matched (row column) (D.cell pattern)
    if negated then matched.not else matched
  | .between column low high => D.within (row column) (D.cell low) (D.cell high)
  | .isNull column negated => .ofBool ((row column).isNone != negated)
  | .all children => .all (truths D row children)
  | .any children => .any (truths D row children)
  | .not inner => (inner.truth D row).not

/-- How true each of several conditions is. -/
def truths (D : Domain) (row : D.Row) : List Predicate → List Truth
  | [] => []
  | p :: rest => p.truth D row :: truths D row rest

end

theorem truths_append (D : Domain) (row : D.Row) : ∀ ps qs : List Predicate,
    truths D row (ps ++ qs) = truths D row ps ++ truths D row qs
  | [], _ => rfl
  | p :: ps, qs => congrArg (p.truth D row :: ·) (truths_append D row ps qs)

/-! ## Groups of one -/

/-- The conjunction of conditions; one alone is itself. -/
def allOf : List Predicate → Predicate
  | [p] => p
  | ps => .all ps

/-- The disjunction of conditions; one alone is itself. -/
def anyOf : List Predicate → Predicate
  | [p] => p
  | ps => .any ps

mutual

/-- The condition without groups of one. -/
def simplified : Predicate → Predicate
  | .all children => allOf (simplifiedAll children)
  | .any children => anyOf (simplifiedAll children)
  | .not inner => .not inner.simplified
  | p => p

/-- Several conditions without groups of one. -/
def simplifiedAll : List Predicate → List Predicate
  | [] => []
  | p :: rest => p.simplified :: simplifiedAll rest

end

theorem truth_allOf (D : Domain) (row : D.Row) :
    ∀ ps : List Predicate, (allOf ps).truth D row = .all (truths D row ps)
  | [] => rfl
  | [_] => (Truth.all_singleton _).symm
  | _ :: _ :: _ => rfl

theorem truth_anyOf (D : Domain) (row : D.Row) :
    ∀ ps : List Predicate, (anyOf ps).truth D row = .any (truths D row ps)
  | [] => rfl
  | [_] => (Truth.any_singleton _).symm
  | _ :: _ :: _ => rfl

mutual

/-- **A group of one is its only condition.** -/
theorem truth_simplified (D : Domain) (row : D.Row) :
    ∀ p : Predicate, p.simplified.truth D row = p.truth D row
  | .always => rfl
  | .compare _ _ _ => rfl
  | .like _ _ _ => rfl
  | .between _ _ _ => rfl
  | .isNull _ _ => rfl
  | .all children => by
    rw [simplified, truth_allOf, truths_simplifiedAll D row children]
    rfl
  | .any children => by
    rw [simplified, truth_anyOf, truths_simplifiedAll D row children]
    rfl
  | .not inner => congrArg Truth.not (truth_simplified D row inner)

theorem truths_simplifiedAll (D : Domain) (row : D.Row) :
    ∀ ps : List Predicate, truths D row (simplifiedAll ps) = truths D row ps
  | [] => rfl
  | p :: rest => by
    rw [simplifiedAll, truths, truth_simplified D row p, truths_simplifiedAll D row rest]
    rfl

end

end Predicate

end SqlBroker
