import SqlBroker.Proofs.Calendar.Zoned
import SqlBroker.Proofs.Value.Printed

/-!
# Values of stamps with an offset

What is written with an offset is compared as the moment that it means. However a day, a month or a
year lies between local and universal time, the value is universal time, and it tells nothing of the
offset that was written.

Concerns `parse_datetime` (SPEC_FULL.md, section 4.1).

Headline:
* **`Value.read_zoned`**: the value of a text with an offset, and which texts have the same.
-/

namespace SqlBroker.Value

open Calendar

theorem read_zoned_text {type : ValueType} (h : type = .datetime ∨ type = .datetimeCustom)
    (z : Zoned) : read (some type) (.string z.text) = .ok (.instant z.universal) := by
  rw [read_moment_eq_ok_iff h, readMoment, z.readInstant?_text]

/-- **A text with an offset is read as universal time**, local time less the offset with its
seconds and its fraction. Two such texts have one value iff they mean one moment, and that is the
value of universal time itself, where it has a year that can be written. -/
theorem read_zoned {type type' : ValueType} (h : type = .datetime ∨ type = .datetimeCustom)
    (h' : type' = .datetime ∨ type' = .datetimeCustom) (z z' : Zoned) :
    (∃ u, read (some type) (.string z.text) = .ok (.instant u) ∧ u.moment 0 = z.moment) ∧
      (read (some type) (.string z.text) = read (some type') (.string z'.text) ↔
        z.moment = z'.moment) ∧
      ∀ u : Stamp, u.moment 0 = z.moment → 0 ≤ u.date.year ∧ u.date.year ≤ 9999 →
        read (some type') (.string u.zuluText) = read (some type) (.string z.text) := by
  have value := read_zoned_text h z
  refine ⟨⟨z.universal, value, z.moment_universal⟩, ?_, ?_⟩
  · rw [value, read_zoned_text h' z', Except.ok.injEq, Value.instant.injEq, Zoned.universal_eq_iff]
  · intro u same years
    obtain ⟨zulu, text, moment⟩ := Stamp.exists_zulu years
    rw [← text, value, read_zoned_text h' zulu, Zoned.universal_eq_iff.mpr (moment.trans same)]

/-- The last half second of a February, which is a leap second, as it is a day later and a day
earlier elsewhere. -/
theorem read_zoned_february :
    read (some .datetime) (.string "2024-03-01T00:59:60.5+01:00") =
        read (some .datetimeCustom) (.string "2024-02-29 00:00:60.500\u221223:59") ∧
      read (some .datetimeCustom) (.string "2024-02-29T23:59:60.500Z") =
        read (some .datetime) (.string "2024-03-01T00:59:60.5+01:00") := by
  let clock (hour minute : Nat) (hh : hour < 24) (hm : minute < 60) : Clock :=
    ⟨hour, minute, 59, 1500000000, hh, hm, by decide, by decide⟩
  let ahead : Zoned :=
    { stamp := ⟨⟨2024, 3, 1, by decide, by decide⟩, clock 0 59 (by decide) (by decide)⟩
      mark := 'T'
      fraction := ['5']
      zone := .ahead 1 0 (by decide)
      year_mem := by decide
      mark_mem := by decide
      digits := by decide
      nanos := by decide }
  let behind : Zoned :=
    { stamp := ⟨⟨2024, 2, 29, by decide, by decide⟩, clock 0 0 (by decide) (by decide)⟩
      mark := ' '
      fraction := ['5', '0', '0']
      zone := .behind '\u2212' (.inr rfl) 23 59 (by decide)
      year_mem := by decide
      mark_mem := by decide
      digits := by decide
      nanos := by decide }
  let zulu : Stamp :=
    ⟨⟨2024, 2, 29, by decide, by decide⟩, clock 23 59 (by decide) (by decide)⟩
  have read := @read_zoned .datetime .datetimeCustom (.inl rfl) (.inr rfl) ahead behind
  have text : ahead.text = "2024-03-01T00:59:60.5+01:00" := by decide
  have text' : behind.text = "2024-02-29 00:00:60.500\u221223:59" := by decide
  have universal : zulu.zuluText = "2024-02-29T23:59:60.500Z" := by decide
  rw [text, text'] at read
  have last := read.2.2 zulu (by decide) (by decide)
  rw [universal] at last
  exact ⟨read.2.1.mpr (by decide), last⟩

end SqlBroker.Value
