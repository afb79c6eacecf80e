import SqlBroker.Proofs.Filter.Like
import SqlBroker.Proofs.Filter.Null

/-!
# How a text starts and ends

The operators for how a text starts and ends put the operand before and after the sign for any run
of characters, and leave the comparison to LIKE. To LIKE the operand is a pattern like any other:
`%` and `_` in it stand for other characters, and the escape takes its meaning from the character
after it, which may be the sign that was put there.

Concerns `compile_rule` (SPEC_FULL.md, sections 4.3 and 12).

Headlines:
* **`Rule.truth_affix`**: a rule tests how the texts of a column start, or end, exactly if its
  operand is verbatim.
-/

namespace SqlBroker

/-! ## Rules -/

/-- A database that compares texts with patterns as a backend does. -/
def Domain.MatchesAs (D : Domain) (b : Backend) : Prop :=
  ∀ s pattern : String,
    D.like (D.datum (.text s)) (D.datum (.text pattern)) = Like.holds b pattern.toList s.toList

/-- A text fits an operand between wildcards if it is like the pattern that is written. -/
theorem Domain.MatchesAs.fits_iff {D : Domain} {b : Backend} (hD : D.MatchesAs b)
    (s before v after : String) :
    D.fits .patterns (some (D.datum (.text s))) before (.text v) after = .holds ↔
      Like.holds b (before ++ v ++ after).toList s.toList := by
  change Truth.ofBool
    (D.like (D.datum (.text s)) (D.datum (.text (before ++ v ++ after)))) = .holds ↔ _
  rw [hD s (before ++ v ++ after)]
  cases Like.holds b (before ++ v ++ after).toList s.toList <;> decide

namespace Filter

/-- **A rule tests how the texts of a column start, or end, exactly if its operand is verbatim.** -/
theorem Rule.truth_affix {D : Domain} {b : Backend} (hD : D.MatchesAs b) {t : Table}
    {fields : Keyed FieldInfo} {r : Rule} {field v : String} {p : Predicate}
    (hf : r.field = some field) (operand : r.valueAt fields field 0 = .text v)
    (h : r.condition t fields = .ok (some p)) :
    let tests (affix : List Char → List Char → Prop) :=
      ∀ (row : D.Row) (s : String), row field = some (D.datum (.text s)) →
        (p.truth D row = .holds ↔ affix v.toList s.toList)
    (r.operator = some .startsWith → (tests List.IsPrefix ↔ Like.isVerbatim b v.toList)) ∧
      (r.operator = some .endsWith → (tests List.IsSuffix ↔ Like.EndsVerbatim b v.toList)) := by
  intro tests
  obtain ⟨q, hq, hp⟩ := Node.condition_rule hf h
  obtain rfl := Option.some.inj hq
  have operandGiven : r.hasAffix fields := by simp [Rule.hasAffix, hf, operand, Value.isNull]
  -- The texts that the predicate holds of are those like the pattern.
  have tested (before after : String) (affix : List Char → List Char → Prop)
      (fits : ∀ row : D.Row,
        r.truth D .patterns row fields = D.fits .patterns (row field) before (.text v) after) :
      tests affix ↔
        ∀ s, Like.holds b (before ++ v ++ after).toList s ↔ affix v.toList s := by
    have holds (row : D.Row) (s : String) (held : row field = some (D.datum (.text s))) :
        p.truth D row = .holds ↔ Like.holds b (before ++ v ++ after).toList s.toList := by
      rw [Rule.truth_predicate D .patterns row hf hp operandGiven, fits, held, hD.fits_iff]
    constructor
    · intro h s
      have row := h (fun _ => some (D.datum (.text (String.ofList s)))) (String.ofList s) rfl
      rwa [holds _ _ rfl, String.toList_ofList] at row
    · intro h row s held
      rw [holds row s held]
      exact h s.toList
  constructor
  · intro ho
    have fits (row : D.Row) :
        r.truth D .patterns row fields = D.fits .patterns (row field) "" (.text v) "%" := by
      rw [Rule.truth, hf, ho, ← operand]
      rfl
    have pattern : ("" ++ v ++ "%").toList = v.toList ++ ['%'] := by simp
    rw [tested "" "%" _ fits, pattern, Like.holds_prefix_iff]
  · intro ho
    have fits (row : D.Row) :
        r.truth D .patterns row fields = D.fits .patterns (row field) "%" (.text v) "" := by
      rw [Rule.truth, hf, ho, ← operand]
      rfl
    have pattern : ("%" ++ v ++ "").toList = '%' :: v.toList := by simp
    rw [tested "%" "" _ fits, pattern, Like.holds_suffix_iff]

/-- Texts, compared as a backend does. -/
def textsIn (b : Backend) : Domain where
  Datum := String
  datum
    | .text s => s
    | _ => ""
  compare := texts.compare
  like held pattern := Like.holds b pattern.toList held.toList

theorem textsIn_matchesAs (b : Backend) : (textsIn b).MatchesAs b := fun _ _ => rfl

/-- A directory and a name: the backslash at the end is its own sign only on MySQL, and only there
where nothing is put behind it. -/
def inDirectory (op : Operator) : Rule := ⟨some "name", some op, [⟨.string "C:\\", some .text⟩]⟩

theorem Rule.truth_affix_backslash :
    (∀ (row : (textsIn .mysql).Row) (s : String), row "name" = some s →
      ((Predicate.like "name" (.text "%C:\\") false).truth (textsIn .mysql) row = .holds ↔
        "C:\\".toList <:+ s.toList)) ∧
    ¬ ∀ (row : (textsIn .mysql).Row) (s : String), row "name" = some s →
      ((Predicate.like "name" (.text "C:\\%") false).truth (textsIn .mysql) row = .holds ↔
        "C:\\".toList <+: s.toList) := by
  have ends := (@Rule.truth_affix (textsIn .mysql) .mysql (textsIn_matchesAs .mysql) people
    idle.fields (inDirectory .endsWith) "name" "C:\\" _ rfl rfl rfl).2 rfl
  have starts := (@Rule.truth_affix (textsIn .mysql) .mysql (textsIn_matchesAs .mysql) people
    idle.fields (inDirectory .startsWith) "name" "C:\\" _ rfl rfl rfl).1 rfl
  constructor
  · exact ends.mpr (.inr ⟨rfl, "C:".toList, by decide, by decide⟩)
  · intro tests
    exact absurd (starts.mp tests) (by decide)

/-- To start with `50%` is said of `500`. -/
theorem starts_as_any :
    let r : Rule := ⟨some "name", some .startsWith, [⟨.string "50%", some .text⟩]⟩
    let row : (textsIn .mysql).Row := fun _ => some "500"
    ∃ p, r.condition people idle.fields = .ok (some p) ∧
      p.truth (textsIn .mysql) row = .holds ∧ ¬ "50%".toList <+: "500".toList :=
  ⟨_, rfl, by decide, by decide⟩

end Filter

end SqlBroker
