import SqlBroker.Proofs.Calendar.Printed
import SqlBroker.Value.Reader

/-!
# Reading values back from their text in a pattern

A date or time that was read from a text is printed in one form only, whichever of the forms of its
type it was written in. `Value.read_patternText` says that this form reads as the same value, under
the same type. An instant is left out where universal time has taken it to a year that no text with
an offset can name.

Concerns `parse` and `pattern_text` (SPEC_FULL.md, section 4.1).
-/

namespace SqlBroker.Value

open Calendar

section Read

variable {s : String} {v : Value}

theorem ofText_string_eq_ok_iff {type : ValueType} {f : String → Except Calendar.Fault Value} :
    ofText type f (.string s) = .ok v ↔ f s = .ok v := by
  unfold ofText
  rw [← toOption_eq_some_iff, toOption_mapError, toOption_eq_some_iff]

theorem read_date_eq_ok_iff :
    read (some .date) (.string s) = .ok v ↔ ∃ d, readDate s = .ok d ∧ .date d = v := by
  change ofText .date (fun s => (readDate s).map .date) (.string s) = .ok v ↔ _
  rw [ofText_string_eq_ok_iff, map_eq_ok_iff]

theorem read_time_eq_ok_iff :
    read (some .time) (.string s) = .ok v ↔ ∃ c, readClock s = .ok c ∧ .time c = v := by
  change ofText .time (fun s => (readClock s).map .time) (.string s) = .ok v ↔ _
  rw [ofText_string_eq_ok_iff, map_eq_ok_iff]

theorem read_moment_eq_ok_iff {type : ValueType} (h : type = .datetime ∨ type = .datetimeCustom) :
    read (some type) (.string s) = .ok v ↔ readMoment s = .ok v := by
  have text : read (some type) (.string s) = ofText type readMoment (.string s) := by
    rcases h with rfl | rfl <;> rfl
  rw [text, ofText_string_eq_ok_iff]

end Read

/-- **A moment reads back from its text**: an instant as an instant, and a local stamp as one. -/
theorem readMoment_patternText {s : String} {v : Value} (h : readMoment s = .ok v)
    (years : ∀ x, v = .instant x → 0 ≤ x.date.year ∧ x.date.year ≤ 9999) :
    readMoment v.patternText = .ok v := by
  unfold readMoment at h
  split at h
  next x _ =>
    obtain rfl := Except.ok.inj h
    change readMoment x.universalText = _
    rw [readMoment, readInstant?_universalText (years x rfl)]
  next =>
    obtain ⟨x, hx, rfl⟩ := map_eq_ok_iff.mp h
    -- An instant is tried first, and must not be found.
    change readMoment x.text = _
    rw [readMoment, readInstant?_text, readStamp_text (inRange_of_readStamp hx)]
    rfl

/-- **What is read as a date or time reads back from its text in a pattern.** -/
theorem read_patternText {type : ValueType}
    (types : type ∈ [ValueType.date, .time, .datetime, .datetimeCustom]) {s : String} {v : Value}
    (h : read (some type) (.string s) = .ok v)
    (years : ∀ x, v = .instant x → 0 ≤ x.date.year ∧ x.date.year ≤ 9999) :
    read (some type) (.string v.patternText) = .ok v := by
  simp only [List.mem_cons, List.not_mem_nil, or_false] at types
  rcases types with rfl | rfl | moment
  · obtain ⟨d, hd, rfl⟩ := read_date_eq_ok_iff.mp h
    exact read_date_eq_ok_iff.mpr ⟨d, readDate_text (inRange_of_readDate hd), rfl⟩
  · obtain ⟨c, -, rfl⟩ := read_time_eq_ok_iff.mp h
    exact read_time_eq_ok_iff.mpr ⟨c, readClock_text c, rfl⟩
  · rw [read_moment_eq_ok_iff moment] at h ⊢
    exact readMoment_patternText h years

/-- A leap second that an offset takes an hour back, a year with a sign in the form without
seconds, a fraction of more digits than are kept, and a date before the year 1. -/
theorem read_patternText_forms :
    (read (some .datetime) (.string "2016-12-31T22:59:60.500+00:00") =
        read (some .datetime) (.string "2016-12-31T23:59:60.5+01:00") ∧
      read (some .datetimeCustom) (.string "+12345-01-02 03:04:00") =
        read (some .datetimeCustom) (.string "+12345-1-2T3:4")) ∧
    read (some .time) (.string "23:59:60.123456789") =
      read (some .time) (.string "23:59:60.1234567891") ∧
    read (some .date) (.string "-0044-03-15") = read (some .date) (.string " -44- 3- 15") := by
  refine ⟨⟨?_, ?_⟩, ?_, ?_⟩
  · have text : patternText (.instant ⟨⟨2016, 12, 31, by decide, by decide⟩,
        ⟨22, 59, 59, 1500000000, by decide, by decide, by decide, by decide⟩⟩) =
          "2016-12-31T22:59:60.500+00:00" := by decide
    rw [← text]
    refine read_patternText (s := "2016-12-31T23:59:60.5+01:00") (by decide) rfl ?_
    rintro x same
    obtain rfl := Value.instant.inj same
    decide
  · have text : patternText (.stamp ⟨⟨12345, 1, 2, by decide, by decide⟩,
        ⟨3, 4, 0, 0, by decide, by decide, by decide, by decide⟩⟩) =
          "+12345-01-02 03:04:00" := by decide
    rw [← text]
    exact read_patternText (s := "+12345-1-2T3:4") (by decide) rfl nofun
  · have text : patternText
        (.time ⟨23, 59, 59, 1123456789, by decide, by decide, by decide, by decide⟩) =
          "23:59:60.123456789" := by decide
    rw [← text]
    exact read_patternText (s := "23:59:60.1234567891") (by decide) rfl nofun
  · have text : patternText (.date ⟨-44, 3, 15, by decide, by decide⟩) = "-0044-03-15" := by decide
    rw [← text]
    exact read_patternText (s := " -44- 3- 15") (by decide) rfl nofun

end SqlBroker.Value
