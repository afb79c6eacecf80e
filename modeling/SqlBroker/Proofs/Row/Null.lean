import SqlBroker.Proofs.Keyed
import SqlBroker.Proofs.Row.Held
import SqlBroker.Proofs.Text.Encoded

/-!
# Nulls in rows

A row has null in a column if the database has null there, and else only for what is lost on the
way. Whole numbers, truth values, identifiers and bytes never are.

Concerns `pg_row_to_json`, `mysql_row_to_json` and `sqlite_row_to_json` (SPEC_FULL.md, section 14).

Headlines:
* **`Held.toJson_sent_eq_null_iff`**: what is null, of what a column can hold.
* **`ResultSet.get?_rowOf_eq_null_iff`**: where a row has null.
-/

namespace SqlBroker

open Calendar Decimal.Fixed

/-! ## Days and times -/

namespace Calendar

theorem Date.ofParts?_eq_none_iff {d : DayParts} :
    ofParts? d.year d.month d.day = none ↔ ¬ d.IsDay := by
  unfold ofParts? DayParts.IsDay
  split
  next months =>
    split
    next days => simp [months, days]
    next days => simp [days]
  next months => simp [months]

theorem Clock.nanosOf_lt {fraction : List Char} (digits : Text.AreDigits fraction) :
    nanosOf fraction < nanosPerSecond := by
  have kept : Text.AreDigits (fraction.take 9) := fun c mem => digits c (List.mem_of_mem_take mem)
  have few : (fraction.take 9).length ≤ 9 := List.length_take_le 9 fraction
  have power : 10 ^ (fraction.take 9).length * 10 ^ (9 - (fraction.take 9).length) =
      nanosPerSecond := by
    rw [← Nat.pow_add, Nat.add_sub_cancel' few]
    rfl
  rw [← power]
  exact Nat.mul_lt_mul_of_pos_right (Text.ofDigitChars_lt kept) (Nat.pow_pos (by decide))

/-- A time of less than a day is one, and in no leap second. -/
theorem Clock.ofParts?_timeParts {t : TimeParts} (h : t.hour < 24) :
    ∃ c, ofParts? t.hour t.minute t.second (nanosOf t.fraction) = some c ∧ ¬ c.isLeap := by
  have nanos := nanosOf_lt t.digits
  unfold ofParts?
  rw [dif_pos h, dif_pos t.minute_lt, dif_pos nanos, dif_pos t.second_lt]
  refine ⟨_, rfl, ?_⟩
  simp [isLeap, nanos]

theorem Clock.ofParts?_hours {hour minute second nano : Nat} (h : 24 ≤ hour) :
    ofParts? hour minute second nano = none :=
  dif_neg (Nat.not_lt.mpr h)

end Calendar

namespace Cell

@[simp] theorem text?_ofText (s : String) : (ofText s).text? = some s := Text.decode?_encode s

@[simp] theorem text?_text (bytes : List UInt8) :
    (Cell.text bytes).text? = Text.decode? bytes := rfl

/-- A time in no leap second is known to every backend. -/
theorem isSome_knownClock? (b : Backend) {c : Clock} (h : ¬ c.isLeap) :
    (knownClock? b c).isSome := by
  cases b <;> simp [knownClock?, h]

theorem isSome_knownStamp? (b : Backend) {s : Stamp} (h : ¬ s.clock.isLeap) :
    (knownStamp? b s).isSome := by
  cases b <;> simp [knownStamp?, h]

/-! ## Cells -/

/-- What becomes a text is null where there is none. -/
theorem getD_map_string {α : Type} (o : Option α) (f : α → String) :
    (o.map fun x => Json.string (f x)).getD .null = .null ↔ o = none := by
  cases o <;> simp

theorem getD_finite? (x : Decimal.Binary64) : (finite? x).getD .null = .null ↔ ¬ x.isFinite := by
  unfold finite?
  split
  next finite => simp [finite, Json.float]
  next infinite => simp [infinite]

/-! ## Numbers -/

theorem readFixed?_ofText (b : Backend) (s : String) :
    (ofText s).readFixed? b =
      (if b = .postgres then readGroups? s else Decimal.Fixed.read? s).map fun d =>
        .string d.text := by
  unfold readFixed?
  rw [text?_ofText, Option.bind_eq_bind, Option.bind_some]
  cases b <;> exact bind_pure_comp ..

/-- Only Postgres sends the groups of a decimal. -/
theorem toJson_decimal (b : Backend) {w : Written} (h : w.IsDecimal) :
    (ofText (String.ofList w.chars)).toJson b .fixed = .null ↔
      w.IsTooLarge ∨ b = .postgres ∧ w.IsTooFine := by
  change ((ofText _).readFixed? b).getD .null = .null ↔ _
  rw [readFixed?_ofText, getD_map_string]
  by_cases groups : b = .postgres
  · rw [if_pos groups, readGroups?_eq_none_iff h]
    simp [groups]
  · rw [if_neg groups, read?_eq_none_iff h]
    simp [groups]

theorem toJson_noNumber {s : String} (h : s ∈ noNumbers) :
    (ofText s).toJson .postgres .fixed = .null := by
  have none : ∀ s ∈ noNumbers, Written.ofText? s = none := by decide
  change ((ofText s).readFixed? .postgres).getD .null = .null
  rw [readFixed?_ofText, if_pos rfl, readGroups?, none s h]
  rfl

/-! ## Dates and times -/

theorem readDate?_ofText (s : String) :
    (ofText s).readDate? = (readDate s).toOption.map fun d => .string d.text := by
  unfold readDate?
  rw [text?_ofText, Option.bind_eq_bind, Option.bind_some]
  exact bind_pure_comp ..

theorem toJson_date (b : Backend) (d : DayParts) :
    (ofText (String.ofList d.chars)).toJson b .date = .null ↔ ¬ d.IsDay := by
  change (ofText _).readDate?.getD .null = .null ↔ _
  rw [readDate?_ofText, getD_map_string, DayParts.chars,
    readDate_dateChars d.year_lt d.month_lt d.day_lt, Date.ofParts?_eq_none_iff]

theorem readTime?_ofText (b : Backend) (s : String) :
    (ofText s).readTime? b = (clock? b s).map fun t => .string t.text := by
  unfold readTime?
  rw [text?_ofText, Option.bind_eq_bind, Option.bind_some]
  exact bind_pure_comp ..

theorem readClock_chars (t : TimeParts) :
    (readClock (String.ofList t.chars)).toOption =
      Clock.ofParts? t.hour t.minute t.second (Clock.nanosOf t.fraction) :=
  readClock_clockChars (Nat.lt_trans t.minute_lt (by decide)) (Nat.lt_trans t.second_lt (by decide))
    t.digits

/-- What is written of a time behind the sign that MySQL writes. -/
theorem unsigned_chars {b : Backend} {behind : Bool} {t : TimeParts} (h : t.IsOf behind b) :
    unsigned b (String.ofList (if behind then '-' :: t.chars else t.chars)) =
      String.ofList t.chars := by
  cases behind with
  | true =>
    cases b with
    | postgres => exact absurd h.1 (by decide)
    | mysql =>
      unfold unsigned
      rw [if_pos rfl, String.toList_ofList]
      rfl
    | sqlite => exact h.elim
  | false =>
    -- What is written starts with a digit, which is no sign.
    have digits := Text.areDigits_padded 2 t.hour
    obtain ⟨d, ds, same⟩ := List.exists_cons_of_ne_nil (Text.padded_ne_nil (by decide : 0 < 2))
    rw [if_neg (by decide)]
    unfold unsigned
    rw [String.toList_ofList]
    split
    next rest minus =>
      rw [TimeParts.chars, clockChars_eq, same] at minus
      rw [same, (List.cons.inj minus).1] at digits
      exact absurd (digits '-' List.mem_cons_self) (by decide)
    next => rfl

/-- A time of less than a day is read by every backend. -/
theorem isSome_clock? (b : Backend) {s : String} {t : TimeParts} (h : t.hour < 24)
    (written : unsigned b s = String.ofList t.chars) : (clock? b s).isSome := by
  obtain ⟨c, read, leap⟩ := Clock.ofParts?_timeParts h
  unfold clock?
  split
  · rfl
  · rw [written, readClock_chars, read]
    exact isSome_knownClock? b leap

theorem clock?_chars {b : Backend} {behind : Bool} {t : TimeParts} (h : t.IsOf behind b) :
    clock? b (String.ofList (if behind then '-' :: t.chars else t.chars)) = none ↔
      b = .mysql ∧ 24 ≤ t.hour := by
  have written := unsigned_chars h
  by_cases short : t.hour < 24
  · have read := isSome_clock? b short written
    rw [← Option.not_isSome_iff_eq_none]
    simp [read, Nat.not_le.mpr short]
  · have long : 24 ≤ t.hour := Nat.le_of_not_lt short
    cases b with
    | postgres =>
      obtain ⟨rfl, ends⟩ := h
      obtain ⟨hour, minute, second, fraction⟩ := ends.resolve_left short
      have text : t.chars = "24:00:00".toList := by
        rw [TimeParts.chars, hour, minute, second, fraction]
        rfl
      rw [text]
      unfold clock?
      simp
    | mysql =>
      unfold clock?
      rw [if_neg (by simp), written, readClock_chars, Clock.ofParts?_hours long]
      simp [long]
    | sqlite => exact h.elim

theorem toJson_time {b : Backend} {behind : Bool} {t : TimeParts} (h : t.IsOf behind b) :
    (ofText (String.ofList (if behind then '-' :: t.chars else t.chars))).toJson b .time = .null ↔
      b = .mysql ∧ 24 ≤ t.hour := by
  change ((ofText _).readTime? b).getD .null = .null ↔ _
  rw [readTime?_ofText, getD_map_string, clock?_chars h]

/-- A day with a time is read if there is such a day. -/
theorem stamp?_chars (b : Backend) (d : DayParts) {t : TimeParts} (h : t.hour < 24) :
    (ofText (String.ofList (d.chars ++ ' ' :: t.chars))).stamp? b = none ↔ ¬ d.IsDay := by
  obtain ⟨c, clock, leap⟩ := Clock.ofParts?_timeParts h
  unfold stamp? DayParts.chars TimeParts.chars
  rw [text?_ofText, Option.bind_eq_bind, Option.bind_some,
    readStamp_chars d.year_lt d.month_lt d.day_lt (by omega)
      (Nat.lt_trans t.minute_lt (by decide)) (Nat.lt_trans t.second_lt (by decide)) t.digits,
    clock, ← Date.ofParts?_eq_none_iff]
  cases Date.ofParts? d.year d.month d.day with
  | none => simp
  | some day =>
    have known : (knownStamp? b ⟨day, c⟩).isSome := isSome_knownStamp? b leap
    rw [← Option.not_isSome_iff_eq_none]
    simp [known]

theorem toJson_stamp (b : Backend) (d : DayParts) {t : TimeParts} (h : t.hour < 24) :
    (ofText (String.ofList (d.chars ++ ' ' :: t.chars))).toJson b .stamp = .null ↔ ¬ d.IsDay := by
  change (((ofText _).stamp? b).map _).getD Json.null = .null ↔ _
  rw [getD_map_string, stamp?_chars b d h]

/-- The same in universal time, where no offset is written. -/
theorem toJson_instant {b : Backend} (other : b ≠ .postgres) (d : DayParts) {t : TimeParts}
    (h : t.hour < 24) :
    (ofText (String.ofList (d.chars ++ ' ' :: t.chars))).toJson b .instant = .null ↔
      ¬ d.IsDay := by
  change (((ofText _).instant? b).map _).getD Json.null = .null ↔ _
  rw [getD_map_string, ← stamp?_chars b d h]
  cases b with
  | postgres => exact absurd rfl other
  | mysql => rfl
  | sqlite => rfl

/-- The same with an offset. -/
theorem toJson_zoned (d : DayParts) {t : TimeParts} (z : Zone) (h : t.hour < 24) :
    (ofText (String.ofList (d.chars ++ 'T' :: (t.chars ++ z.chars)))).toJson .postgres .instant =
      .null ↔ ¬ d.IsDay := by
  obtain ⟨c, clock, leap⟩ := Clock.ofParts?_timeParts h
  change (((ofText _).instant? .postgres).map _).getD Json.null = .null ↔ _
  rw [getD_map_string]
  unfold instant? DayParts.chars TimeParts.chars Zone.chars
  dsimp only
  rw [text?_ofText, Option.bind_eq_bind, Option.bind_some,
    readAnyInstant?_chars d.year_lt d.month_lt d.day_lt (by omega)
      (Nat.lt_trans t.minute_lt (by decide)) (Nat.lt_trans t.second_lt (by decide)) t.digits
      (readOffset?_zoneChars z.behind z.hours_lt z.minutes_lt),
    clock, ← Date.ofParts?_eq_none_iff]
  cases Date.ofParts? d.year d.month d.day with
  | none => simp
  | some day => simp [knownStamp?]

/-! ## Texts and bytes -/

theorem toJson_uuid (b : Backend) {s : String} (h : isUuid s) :
    (ofText s).toJson b .uuid ≠ .null := by
  change (ofText s).readUuid?.getD .null ≠ .null
  unfold readUuid?
  simp [h]

/-- A text is null only if its bytes are none. -/
theorem getD_decode? (bytes : List UInt8) :
    ((Text.decode? bytes).map Json.string).getD .null = .null ↔ ∀ s, bytes ≠ Text.encode s :=
  (getD_map_string (Text.decode? bytes) id).trans Text.decode?_eq_none_iff

end Cell

theorem Json.normalize_eq_null_iff {j : Json} : j.normalize = .null ↔ j = .null := by
  cases j <;> simp [normalize]

namespace Cell

/-- A JSON text is null if it is none that is read, or if it writes null. -/
theorem toJson_json (b : Backend) (bytes : List UInt8) :
    (Cell.text bytes).toJson b .json = .null ↔
      (∀ s, bytes = Text.encode s → Json.read? Json.nestingLimit s = none) ∨
        ∃ s, bytes = Text.encode s ∧ Json.read? Json.nestingLimit s = some .null := by
  change (Cell.text bytes).readJson?.getD .null = .null ↔ _
  unfold readJson?
  rw [text?_text]
  cases decoded : Text.decode? bytes with
  | none =>
    have noText := Text.decode?_eq_none_iff.mp decoded
    simp [noText]
  | some s =>
    obtain rfl := Text.decode?_eq_some_iff.mp decoded
    have unique (s' : String) : Text.encode s = Text.encode s' ↔ s = s' := by
      rw [← Text.decode?_eq_some_iff, decoded, Option.some.injEq]
    cases read : Json.read? Json.nestingLimit s with
    | none => simp [unique, read]
    | some j => simp [unique, read, Json.normalize_eq_null_iff]

end Cell

/-! ## Columns -/

namespace Held

open Cell

/-- What is not null, nor the null of JSON, is null in a row where it is lost. -/
theorem iff_of_isLost {b : Backend} {kind : ColumnKind} {d : Held b kind} {p : Prop}
    (given : d ≠ .null) (plain : ¬ d.IsJsonNull) (h : p ↔ d.IsLost) :
    p ↔ d = .null ∨ d.IsLost ∨ d.IsJsonNull := by
  rw [h]
  simp [given, plain]

/-- **What is null, of what a column can hold**: null itself, what is lost, and the null of JSON. -/
theorem toJson_sent_eq_null_iff {b : Backend} {kind : ColumnKind} (d : Held b kind) :
    d.sent.toJson b kind = .null ↔ d = .null ∨ d.IsLost ∨ d.IsJsonNull := by
  cases d with
  | null =>
    refine iff_of_true ?_ (.inl rfl)
    cases kind <;> cases b <;> rfl
  | integer n => exact iff_of_isLost nofun id (iff_of_false nofun id)
  | single x narrow =>
    refine iff_of_isLost nofun id ?_
    change (finite? x.narrowed).getD .null = .null ↔ _
    rw [narrow]
    exact getD_finite? x
  | double x => exact iff_of_isLost nofun id (getD_finite? x)
  | decimal w h => exact iff_of_isLost nofun id (toJson_decimal b h)
  | noNumber s h =>
    obtain ⟨rfl, special⟩ := h
    exact iff_of_true (toJson_noNumber special) (.inr (.inl trivial))
  | flag n => cases b <;> exact iff_of_isLost nofun id (iff_of_false nofun id)
  | date d => exact iff_of_isLost nofun id (toJson_date b d)
  | time behind t h => exact iff_of_isLost nofun id (toJson_time h)
  | stamp d t h => exact iff_of_isLost nofun id (toJson_stamp b d h)
  | instant d t z h =>
    cases b with
    | postgres => exact iff_of_isLost nofun id (toJson_zoned d z h)
    | mysql => exact iff_of_isLost nofun id (toJson_instant (by decide) d h)
    | sqlite => exact iff_of_isLost nofun id (toJson_instant (by decide) d h)
  | uuid s h => exact iff_of_isLost nofun id (iff_of_false (toJson_uuid b h) id)
  | json bytes => exact (toJson_json b bytes).trans (by simp [IsLost, IsJsonNull])
  | binary bytes => exact iff_of_isLost nofun id (iff_of_false nofun id)
  | text bytes => exact iff_of_isLost nofun id (getD_decode? bytes)
  | storedInteger n => exact iff_of_isLost nofun id (iff_of_false nofun id)
  | storedReal x => exact iff_of_isLost nofun id (getD_finite? x)
  | storedText bytes => exact iff_of_isLost nofun id (getD_decode? bytes)
  | storedBlob bytes => exact iff_of_isLost nofun id (iff_of_false nofun id)

end Held

/-! ## Rows -/

namespace ResultSet

/-- The value of a column in a row, of which no later one has the name. -/
theorem get?_rowOf (b : Backend) {columns : List Column} {cells : List Cell} {column : Column}
    {cell : Cell} {before after : List (Column × Cell)}
    (row : columns.zip cells = before ++ (column, cell) :: after)
    (last : ∀ c ∈ after, c.1.name ≠ column.name) :
    (rowOf b columns cells).get? column.name = some (cell.toJson b (.ofType b column.type)) := by
  unfold rowOf
  rw [row, List.map_append, List.map_cons]
  refine Keyed.get?_ofList_append _ ?_
  intro mem
  rw [List.map_map, List.mem_map] at mem
  obtain ⟨c, hc, same⟩ := mem
  exact last c hc same

/-- **A row has null only for null, for what is lost and for the null of JSON**, in every column
that is the last of its name. -/
theorem get?_rowOf_eq_null_iff {b : Backend} {columns : List Column} {cells : List Cell}
    {column : Column} (d : Held b (.ofType b column.type)) {before after : List (Column × Cell)}
    (row : columns.zip cells = before ++ (column, d.sent) :: after)
    (last : ∀ c ∈ after, c.1.name ≠ column.name) :
    (rowOf b columns cells).get? column.name = some .null ↔
      d = .null ∨ d.IsLost ∨ d.IsJsonNull := by
  rw [get?_rowOf b row last, Option.some.injEq, d.toJson_sent_eq_null_iff]

/-- Decimals that Postgres has in a column. -/
def numeric (w : Written) (h : w.IsDecimal) : Held .postgres (.ofType .postgres "NUMERIC") :=
  .decimal w h

/-- A decimal is kept up to the last half below two to the 96th power. -/
theorem get?_rowOf_last_half :
    let row (s : String) : Keyed Json := rowOf .postgres [⟨"n", "NUMERIC"⟩] [.ofText s]
    (row "79228162514264337593543950335.4").get? "n" ≠ some .null ∧
      (row "79228162514264337593543950335.5").get? "n" = some .null := by
  intro row
  let w (place : Char) : Written := ⟨false, "79228162514264337593543950335".toList, [place]⟩
  have below : (w '4').IsDecimal := by decide
  have half : (w '5').IsDecimal := by decide
  have kept := @get?_rowOf_eq_null_iff .postgres [⟨"n", "NUMERIC"⟩]
    [.ofText "79228162514264337593543950335.4"] ⟨"n", "NUMERIC"⟩ (numeric _ below) [] [] rfl nofun
  have lost := @get?_rowOf_eq_null_iff .postgres [⟨"n", "NUMERIC"⟩]
    [.ofText "79228162514264337593543950335.5"] ⟨"n", "NUMERIC"⟩ (numeric _ half) [] [] rfl nofun
  have small : ¬ (w '4').IsTooLarge ∧ ¬ (w '4').IsTooFine := by decide
  have large : (w '5').IsTooLarge := by decide
  constructor
  · refine mt kept.mp ?_
    rintro (null | (tooLarge | tooFine) | jsonNull)
    · exact nomatch null
    · exact small.1 tooLarge
    · exact small.2 tooFine.2
    · exact jsonNull
  · exact lost.mpr (.inr (.inl (.inl large)))

/-- Two to the 96th power is a number, and its row has null. -/
theorem get?_rowOf_power :
    ∃ d : Held .postgres (.ofType .postgres "NUMERIC"), d ≠ .null ∧ ¬ d.IsJsonNull ∧
      d.sent = .ofText "79228162514264337593543950336" ∧
        (rowOf .postgres [⟨"n", "NUMERIC"⟩] [d.sent]).get? "n" = some .null := by
  let w : Written := ⟨false, "79228162514264337593543950336".toList, []⟩
  have decimal : w.IsDecimal := by decide
  have large : w.IsTooLarge := by decide
  refine ⟨numeric w decimal, nofun, id, rfl, ?_⟩
  rw [@get?_rowOf .postgres _ _ ⟨"n", "NUMERIC"⟩ (numeric w decimal).sent [] [] rfl nofun]
  exact congrArg some ((Held.toJson_sent_eq_null_iff _).mpr (.inr (.inl (.inl large))))

end ResultSet

end SqlBroker
