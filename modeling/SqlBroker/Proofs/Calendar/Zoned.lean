import SqlBroker.Proofs.Calendar.Timeline

/-!
# Stamps with an offset

A local stamp with its offset is written as a date, a mark, a time of day and the offset. There are
several ways to do so: three marks, any digits of a fraction that say the nanoseconds, a letter for
no offset, and two signs for one that is behind. Exactly these texts are read as instants.

Headlines:
* **`OffsetText.readOffset?_eq_some_iff`**: the ways to write an offset.
* **`readInstant?_eq_some_iff`**: the texts that are instants, and what they are read as.
-/

namespace SqlBroker.Calendar

open Text (AreDigits padded)

/-! ## Offsets -/

/-- An offset of less than a day, in one of the ways to write it. -/
inductive OffsetText where
  | universal (letter : Char) (h : letter = 'Z' ∨ letter = 'z')
  | ahead (hours minutes : Nat) (h : hours < 24 ∧ minutes < 60)
  | behind (minus : Char) (hc : minus = '-' ∨ minus = '\u2212') (hours minutes : Nat)
    (h : hours < 24 ∧ minutes < 60)

namespace OffsetText

/-- The offset as it is written. -/
def chars : OffsetText → List Char
  | universal letter _ => [letter]
  | ahead hours minutes _ => '+' :: padded 2 hours ++ ':' :: padded 2 minutes
  | behind minus _ hours minutes _ => minus :: padded 2 hours ++ ':' :: padded 2 minutes

/-- How many minutes local time is ahead of universal time. -/
def minutes : OffsetText → Int
  | universal .. => 0
  | ahead hours minutes _ => 60 * hours + minutes
  | behind _ _ hours minutes _ => -(60 * hours + minutes)

theorem minutes_mem (z : OffsetText) : -1440 < z.minutes ∧ z.minutes < 1440 := by
  cases z with
  | universal letter h =>
    simp only [OffsetText.minutes]
    omega
  | ahead hours minutes h =>
    simp only [OffsetText.minutes]
    omega
  | behind minus hc hours minutes h =>
    simp only [OffsetText.minutes]
    omega

/-- **An offset is read as its minutes.** -/
theorem readOffset?_chars (z : OffsetText) : readOffset? z.chars = some z.minutes := by
  cases z with
  | universal letter h => rcases h with rfl | rfl <;> rfl
  | ahead hours minutes h =>
    have sign : offsetSigns.lookup '+' = some 1 := by decide
    refine (readOffset?_signed sign h.1 h.2).trans (congrArg some ?_)
    simp only [OffsetText.minutes]
    omega
  | behind minus hc hours minutes h =>
    have sign : offsetSigns.lookup minus = some (-1) := by rcases hc with rfl | rfl <;> decide
    refine (readOffset?_signed sign h.1 h.2).trans (congrArg some ?_)
    simp only [OffsetText.minutes]
    omega

/-- An offset starts with its letter or its sign. -/
theorem exists_cons (z : OffsetText) : ∃ c cs, z.chars = c :: cs ∧ ¬ c.isDigit ∧ c ≠ '.' :=
  exists_cons_of_readOffset? z.readOffset?_chars

theorem noDigit_chars (z : OffsetText) : NoDigit z.chars := by
  obtain ⟨c, cs, zone, noDigit, -⟩ := z.exists_cons
  rw [zone]
  exact noDigit_cons noDigit cs

theorem head?_chars_ne (z : OffsetText) : z.chars.head? ≠ some '.' := by
  obtain ⟨c, cs, zone, -, point⟩ := z.exists_cons
  rw [zone]
  exact fun same => point (Option.some.inj same)

end OffsetText

/-! ## What was read -/

section Steps

variable {α : Type} {x : α} {cs : List Char}

theorem exists_digits_of_exactDigits : ∀ {count n m : Nat} {cs rest : List Char},
    exactDigits count n cs = some (m, rest) →
      ∃ ds, AreDigits ds ∧ ds.length = count ∧ cs = ds ++ rest ∧ Nat.ofDigitChars 10 ds n = m
  | 0, n, m, cs, rest, h => by
    obtain ⟨rfl, rfl⟩ := Prod.mk.inj (Option.some.inj h)
    exact ⟨[], List.forall_mem_nil _, rfl, rfl, rfl⟩
  | _ + 1, _, _, [], _, h => nomatch h
  | count + 1, n, m, c :: cs, rest, h => by
    obtain ⟨d, hd, h⟩ := Option.bind_eq_some_iff.mp h
    obtain ⟨digit, value⟩ := Option.ite_none_right_eq_some.mp hd
    obtain rfl := Option.some.inj value
    obtain ⟨ds, digits, rfl, rfl, rfl⟩ := exists_digits_of_exactDigits h
    exact ⟨c :: ds, List.forall_mem_cons.mpr ⟨digit, digits⟩, rfl, rfl, Nat.ofDigitChars_cons⟩

/-- A number that is read by its width stands there in that width. -/
theorem exists_padded {count : Nat} (pos : 0 < count) {f : Nat × List Char → Option α}
    (h : (exactDigits count 0 cs >>= f) = some x) :
    ∃ n rest, n < 10 ^ count ∧ cs = padded count n ++ rest ∧ f (n, rest) = some x := by
  obtain ⟨⟨n, rest⟩, read, h⟩ := Option.bind_eq_some_iff.mp h
  obtain ⟨ds, digits, rfl, rfl, rfl⟩ := exists_digits_of_exactDigits read
  exact ⟨_, rest, Text.ofDigitChars_lt digits, by rw [Text.padded_ofDigitChars digits pos], h⟩

theorem exists_cons_of_afterOne? {allowed : List Char} {f : List Char → Option α}
    (h : (afterOne? allowed cs >>= f) = some x) :
    ∃ c ∈ allowed, ∃ rest, cs = c :: rest ∧ f rest = some x := by
  obtain ⟨rest, read, h⟩ := Option.bind_eq_some_iff.mp h
  cases cs with
  | nil => exact nomatch read
  | cons c cs =>
    obtain ⟨mem, same⟩ := Option.ite_none_right_eq_some.mp read
    obtain rfl := Option.some.inj same
    exact ⟨c, mem, cs, rfl, h⟩

/-- A mark that is read stands there. -/
theorem exists_mark {c : Char} {f : List Char → Option α}
    (h : (afterOne? [c] cs >>= f) = some x) : ∃ rest, cs = c :: rest ∧ f rest = some x := by
  obtain ⟨d, only, rest, same, h⟩ := exists_cons_of_afterOne? h
  exact ⟨rest, List.mem_singleton.mp only ▸ same, h⟩

theorem exists_fraction {f : Nat × List Char → Option α}
    (h : (optionalFraction cs >>= f) = some x) : ∃ fraction rest, AreDigits fraction ∧
      cs = (if fraction = [] then [] else '.' :: fraction) ++ rest ∧
        f (Clock.nanosOf fraction, rest) = some x := by
  obtain ⟨⟨nano, rest⟩, read, h⟩ := Option.bind_eq_some_iff.mp h
  unfold optionalFraction at read
  split at read
  next cs =>
    obtain ⟨digits, read⟩ := Option.ite_none_left_eq_some.mp read
    obtain ⟨rfl, rfl⟩ := Prod.mk.inj (Option.some.inj read)
    refine ⟨cs.takeWhile Char.isDigit, _, List.all_eq_true.mp List.all_takeWhile, ?_, h⟩
    rw [if_neg digits, List.cons_append, List.takeWhile_append_dropWhile]
  next =>
    obtain ⟨rfl, rfl⟩ := Prod.mk.inj (Option.some.inj read)
    exact ⟨[], cs, List.forall_mem_nil _, rfl, h⟩

end Steps

/-- **The ways to write an offset** are all that are read as one. -/
theorem OffsetText.readOffset?_eq_some_iff {cs : List Char} {offset : Int} :
    readOffset? cs = some offset ↔ ∃ z : OffsetText, z.chars = cs ∧ z.minutes = offset := by
  constructor
  · intro h
    unfold readOffset? at h
    split at h
    next => exact ⟨.universal 'Z' (.inl rfl), rfl, Option.some.inj h⟩
    next => exact ⟨.universal 'z' (.inr rfl), rfl, Option.some.inj h⟩
    next c cs _ _ =>
      -- Behind the sign stand its two numbers and nothing more.
      obtain ⟨sign, signs, h⟩ := Option.bind_eq_some_iff.mp h
      obtain ⟨hours, _, -, ofHours, h⟩ := exists_padded (by decide) h
      obtain ⟨_, colon, h⟩ := exists_mark h
      obtain ⟨minutes, rest, -, ofMinutes, h⟩ := exists_padded (by decide) h
      obtain ⟨⟨day, hour, (ends : rest = [])⟩, h⟩ := Option.ite_none_right_eq_some.mp h
      obtain rfl := Option.some.inj h
      rw [ofHours, colon, ofMinutes, ends, List.append_nil]
      simp only [offsetSigns, List.lookup_cons] at signs
      split at signs
      next plus =>
        obtain rfl := eq_of_beq plus
        obtain rfl := Option.some.inj signs
        refine ⟨.ahead hours minutes ⟨day, hour⟩, rfl, ?_⟩
        simp only [OffsetText.minutes]
        omega
      next =>
        have minus : (c = '-' ∨ c = '\u2212') ∧ sign = -1 := by
          split at signs
          next hyphen => exact ⟨.inl (eq_of_beq hyphen), (Option.some.inj signs).symm⟩
          next =>
            split at signs
            next other => exact ⟨.inr (eq_of_beq other), (Option.some.inj signs).symm⟩
            next => exact nomatch signs
        obtain ⟨minus, rfl⟩ := minus
        refine ⟨.behind c minus hours minutes ⟨day, hour⟩, rfl, ?_⟩
        simp only [OffsetText.minutes]
        omega
    next => exact nomatch h
  · rintro ⟨z, rfl, rfl⟩
    exact z.readOffset?_chars

/-! ## Stamps -/

/-- A local stamp of a year of four digits and its offset, in one of the ways to write them. -/
structure Zoned where
  stamp : Stamp
  mark : Char
  fraction : List Char
  zone : OffsetText
  year_mem : 0 ≤ stamp.date.year ∧ stamp.date.year ≤ 9999
  mark_mem : mark ∈ ['T', 't', ' ']
  digits : AreDigits fraction
  /-- The digits say the nanoseconds past the second as it is written. -/
  nanos : Clock.nanosOf fraction = stamp.clock.shownNano

namespace Zoned

/-- The stamp as it is written, from its mark on without the offset. -/
def clockChars (z : Zoned) : List Char :=
  Calendar.clockChars z.stamp.clock.hour z.stamp.clock.minute z.stamp.clock.shownSecond z.fraction

/-- The stamp as it is written. -/
def text (z : Zoned) : String :=
  String.ofList (z.stamp.date.chars ++ z.mark :: (z.clockChars ++ z.zone.chars))

/-- The moment that is meant. -/
def moment (z : Zoned) : Moment := z.stamp.moment z.zone.minutes

/-- The universal time that is meant. -/
def universal (z : Zoned) : Stamp := z.stamp.toUniversal z.zone.minutes

theorem inRange_year (z : Zoned) : Date.inRange z.stamp.date.year := by
  have years := z.year_mem
  simp only [Date.inRange, Bool.and_eq_true, decide_eq_true_eq]
  omega

/-- **A stamp with an offset is read as the universal time that is meant.** -/
theorem readInstant?_text (z : Zoned) : readInstant? z.text = some z.universal := by
  obtain ⟨hour, minute, second⟩ := z.stamp.clock.shown_lt
  have read := readInstant?_chars z.stamp.date.year z.stamp.date.month_lt z.stamp.date.day_lt hour
    minute second z.mark_mem z.digits z.zone.noDigit_chars z.zone.head?_chars_ne
  rw [if_pos z.year_mem, z.zone.readOffset?_chars, z.nanos, Date.ofParts?_self z.inRange_year,
    Clock.ofParts?_shown] at read
  exact read

end Zoned

/-- What is read as an instant behind its year stands there. -/
theorem exists_afterYear {year : Int} {cs : List Char} {x : Stamp}
    (h : instantFrom? year cs = some x) :
    ∃ (month day : Nat) (mark : Char) (hour minute second : Nat) (fraction : List Char)
      (zone : OffsetText) (d : Date) (c : Clock),
      (mark ∈ ['T', 't', ' '] ∧ AreDigits fraction) ∧
        cs = afterYear month day mark hour minute second fraction zone.chars ∧
        Date.ofParts? year month day = some d ∧
        Clock.ofParts? hour minute second (Clock.nanosOf fraction) = some c ∧
        Stamp.toUniversal ⟨d, c⟩ zone.minutes = x := by
  obtain ⟨_, dash, h⟩ := exists_mark h
  obtain ⟨month, _, -, ofMonth, h⟩ := exists_padded (by decide) h
  obtain ⟨_, dash', h⟩ := exists_mark h
  obtain ⟨day, _, -, ofDay, h⟩ := exists_padded (by decide) h
  obtain ⟨mark, marks, _, letter, h⟩ := exists_cons_of_afterOne? h
  obtain ⟨hour, _, -, ofHour, h⟩ := exists_padded (by decide) h
  obtain ⟨_, colon, h⟩ := exists_mark h
  obtain ⟨minute, _, -, ofMinute, h⟩ := exists_padded (by decide) h
  obtain ⟨_, colon', h⟩ := exists_mark h
  obtain ⟨second, _, -, ofSecond, h⟩ := exists_padded (by decide) h
  obtain ⟨fraction, _, digits, ofFraction, h⟩ := exists_fraction h
  obtain ⟨offset, ho, h⟩ := Option.bind_eq_some_iff.mp h
  obtain ⟨zone, ofZone, rfl⟩ := OffsetText.readOffset?_eq_some_iff.mp ho
  obtain ⟨d, hd, h⟩ := Option.bind_eq_some_iff.mp h
  obtain ⟨c, hc, h⟩ := Option.bind_eq_some_iff.mp h
  refine ⟨month, day, mark, hour, minute, second, fraction, zone, d, c, ⟨marks, digits⟩, ?_, hd,
    hc, Option.some.inj h⟩
  rw [dash, ofMonth, dash', ofDay, letter, ofHour, colon, ofMinute, colon', ofSecond, ofFraction,
    ofZone]
  simp [afterYear, Calendar.clockChars]

/-- **The texts of stamps with an offset** are all that are read as instants. -/
theorem readInstant?_eq_some_iff {s : String} {x : Stamp} :
    readInstant? s = some x ↔ ∃ z : Zoned, z.text = s ∧ z.universal = x := by
  constructor
  · intro h
    obtain ⟨year, cs, short, start, h⟩ := exists_padded (by decide) h
    obtain ⟨month, day, mark, hour, minute, second, fraction, zone, d, c, ⟨marks, digits⟩, rfl, hd,
      hc, rfl⟩ := exists_afterYear h
    obtain ⟨⟨hy, rfl, rfl⟩, -⟩ := Date.ofParts?_eq_some_iff.mp hd
    obtain ⟨⟨rfl, rfl⟩, rfl, nanos⟩ := Clock.ofParts?_eq_some_iff.mp hc
    -- Four digits are a year that is written without a sign.
    have years : 0 ≤ d.year ∧ d.year ≤ 9999 := by omega
    refine ⟨⟨⟨d, c⟩, mark, fraction, zone, years, marks, digits, nanos.symm⟩, ?_, rfl⟩
    have plain : Date.yearChars d.year = padded 4 year := by
      rw [Date.yearChars, if_neg (by omega), if_neg (by omega), hy, Int.natAbs_natCast]
    rw [← String.toList_inj, start, ← plain, ← dateChars_append]
    exact String.toList_ofList
  · rintro ⟨z, rfl, rfl⟩
    exact z.readInstant?_text

/-! ## Moments -/

namespace Zoned

/-- The universal time that is meant is the moment that is. -/
theorem moment_universal (z : Zoned) : z.universal.moment 0 = z.moment :=
  z.stamp.moment_toUniversal z.zone.minutes_mem

/-- **Two texts mean one universal time iff they mean one moment.** -/
theorem universal_eq_iff {z z' : Zoned} : z.universal = z'.universal ↔ z.moment = z'.moment :=
  Stamp.toUniversal_eq_iff z.zone.minutes_mem z'.zone.minutes_mem

end Zoned

/-- Universal time with the letter that says so. -/
def Stamp.zuluText (x : Stamp) : String :=
  String.ofList (x.date.chars ++ 'T' :: (x.clock.chars ++ ['Z']))

/-- Universal time of a year of four digits can be written with its letter. -/
theorem Stamp.exists_zulu {x : Stamp} (h : 0 ≤ x.date.year ∧ x.date.year ≤ 9999) :
    ∃ z : Zoned, z.text = x.zuluText ∧ z.moment = x.moment 0 := by
  obtain ⟨fraction, digits, nanos, clock⟩ := x.clock.exists_chars_eq
  have marks : 'T' ∈ ['T', 't', ' '] := List.mem_cons_self
  refine ⟨⟨x, 'T', fraction, .universal 'Z' (.inl rfl), h, marks, digits, nanos⟩, ?_, rfl⟩
  rw [Stamp.zuluText, clock]
  rfl

end SqlBroker.Calendar
