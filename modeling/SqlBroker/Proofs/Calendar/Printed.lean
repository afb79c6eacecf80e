import SqlBroker.Proofs.Calendar.Instant

/-!
# Reading dates and times as they are printed

A day, a time of day, a local stamp and an instant are each printed in one form. It is made of the
numbers that they consist of, so it reads back as what was printed: a leap second is second 60 with
what is over of its nanoseconds, a fraction has the digits that lose nothing, and a year has its
sign. A stamp has no offset in its text, so that it is not taken for an instant.

Headlines:
* **`readDate_text`**: a date of a year that is read.
* **`readClock_text`**: a time of day, of leap seconds also.
* **`readStamp_text`**, **`readInstant?_text`**: a stamp reads back as such, and as no instant.
* **`readInstant?_universalText`**: an instant of a year of four digits.
-/

namespace SqlBroker.Calendar

open Text (AreDigits padded)

/-! ## Times of day -/

namespace Clock

theorem eq_of_parts {c d : Clock} (hour : c.hour = d.hour) (minute : c.minute = d.minute)
    (second : c.second = d.second) (nano : c.nano = d.nano) : c = d := by
  cases c
  cases d
  dsimp only at hour minute second nano
  subst hour minute second nano
  rfl

/-- A fraction of so many digits, of which none is dropped, is a number of units of its last. -/
theorem nanosOf_padded {width n : Nat} (pos : 0 < width) (short : width ≤ 9)
    (h : n < 10 ^ width) : nanosOf (padded width n) = n * 10 ^ (9 - width) := by
  have length : (padded width n).length = width := Text.length_padded pos h
  have kept : (padded width n).take 9 = padded width n :=
    List.take_of_length_le (by rw [length]; exact short)
  unfold nanosOf
  rw [kept]
  dsimp only
  rw [length, Text.ofDigitChars_padded]

/-- **The digits of a fraction lose nothing.** -/
theorem exists_digits_of_fraction {nano : Nat} (h : nano < nanosPerSecond) :
    ∃ ds, AreDigits ds ∧ nanosOf ds = nano ∧
      fractionChars nano = if ds = [] then [] else '.' :: ds := by
  have units (width n : Nat) (pos : 0 < width) (short : width ≤ 9) (small : n < 10 ^ width)
      (same : n * 10 ^ (9 - width) = nano) :
      ∃ ds, AreDigits ds ∧ nanosOf ds = nano ∧
        '.' :: padded width n = if ds = [] then [] else '.' :: ds :=
    ⟨padded width n, Text.areDigits_padded width n, (nanosOf_padded pos short small).trans same,
      (if_neg (Text.padded_ne_nil pos)).symm⟩
  unfold nanosPerSecond at h
  unfold fractionChars
  split
  next zero => exact ⟨[], List.forall_mem_nil _, zero.symm, rfl⟩
  next =>
    split
    next whole =>
      exact units 3 (nano / 1000000) (by decide) (by decide) (by omega)
        (Nat.div_mul_cancel (Nat.dvd_of_mod_eq_zero whole))
    next =>
      split
      next whole =>
        exact units 6 (nano / 1000) (by decide) (by decide) (by omega)
          (Nat.div_mul_cancel (Nat.dvd_of_mod_eq_zero whole))
      next => exact units 9 nano (by decide) (by decide) h (Nat.mul_one nano)

theorem shownNano_lt (c : Clock) : c.shownNano < nanosPerSecond := Nat.mod_lt _ (by decide)

theorem shown_lt (c : Clock) : c.hour < 100 ∧ c.minute < 100 ∧ c.shownSecond < 100 := by
  have hour := c.hour_lt
  have minute := c.minute_lt
  have second := c.second_lt
  have shown : c.shownSecond ≤ c.second + 1 := by
    unfold shownSecond
    split <;> omega
  exact ⟨by omega, by omega, by omega⟩

/-- **A time is the one that its shown numbers name.** -/
theorem ofParts?_shown (c : Clock) :
    ofParts? c.hour c.minute c.shownSecond c.shownNano = some c := by
  have small := c.shownNano_lt
  unfold ofParts?
  rw [dif_pos c.hour_lt, dif_pos c.minute_lt, dif_pos small]
  by_cases leap : c.isLeap
  · -- Only second 59 goes on past its end.
    have past : nanosPerSecond ≤ c.nano := of_decide_eq_true leap
    obtain ⟨last, bound⟩ : c.second = 59 ∧ c.nano < 2 * nanosPerSecond :=
      c.nano_lt.resolve_left (by omega)
    have shown : c.shownSecond = 60 := by rw [shownSecond, if_pos leap, last]
    have rest : c.shownNano + nanosPerSecond = c.nano := by
      unfold shownNano
      unfold nanosPerSecond at *
      omega
    rw [dif_neg (by omega), if_pos shown]
    exact congrArg some (eq_of_parts rfl rfl last.symm rest)
  · have within : c.nano < nanosPerSecond := Nat.lt_of_not_le fun past => leap (decide_eq_true past)
    have shown : c.shownSecond = c.second := by rw [shownSecond, if_neg leap]
    have rest : c.shownNano = c.nano := Nat.mod_eq_of_lt within
    rw [dif_pos (by rw [shown]; exact c.second_lt)]
    exact congrArg some (eq_of_parts rfl rfl shown rest)

/-- **Four numbers are a time** iff they are its shown numbers. -/
theorem ofParts?_eq_some_iff {hour minute second nano : Nat} {c : Clock} :
    ofParts? hour minute second nano = some c ↔
      (c.hour = hour ∧ c.minute = minute) ∧ c.shownSecond = second ∧ c.shownNano = nano := by
  constructor
  · intro h
    unfold ofParts? at h
    split at h
    next =>
      split at h
      next =>
        split at h
        next small =>
          split at h
          next =>
            obtain rfl := Option.some.inj h
            have plain : ¬ nanosPerSecond ≤ nano := Nat.not_le.mpr small
            simp [shownSecond, shownNano, isLeap, plain, Nat.mod_eq_of_lt small]
          next =>
            obtain ⟨leap, h⟩ := Option.dite_none_right_eq_some.mp h
            obtain rfl := Option.some.inj h
            simp [shownSecond, shownNano, isLeap, leap, Nat.mod_eq_of_lt small]
        next => cases h
      next => cases h
    next => cases h
  · rintro ⟨⟨rfl, rfl⟩, rfl, rfl⟩
    exact c.ofParts?_shown

theorem exists_chars_eq (c : Clock) :
    ∃ ds, AreDigits ds ∧ nanosOf ds = c.shownNano ∧
      c.chars = clockChars c.hour c.minute c.shownSecond ds := by
  obtain ⟨ds, digits, nano, fraction⟩ := exists_digits_of_fraction c.shownNano_lt
  exact ⟨ds, digits, nano, by rw [chars, clockChars, fraction]⟩

end Clock

/-- **A time of day reads back from its text.** -/
theorem readClock_text (c : Clock) : readClock c.text = .ok c := by
  obtain ⟨ds, digits, nano, text⟩ := c.exists_chars_eq
  obtain ⟨-, minute, second⟩ := c.shown_lt
  have read : (readClock (String.ofList (clockChars c.hour c.minute c.shownSecond ds))).toOption =
      Clock.ofParts? c.hour c.minute c.shownSecond (Clock.nanosOf ds) :=
    readClock_clockChars minute second digits
  rw [nano, Clock.ofParts?_shown, ← text] at read
  exact toOption_eq_some_iff.mp read

/-! ## Dates -/

namespace Date

/-- **Three numbers are a date** iff it has these numbers and its year is one that is read. -/
theorem ofParts?_eq_some_iff {year : Int} {month day : Nat} {d : Date} :
    ofParts? year month day = some d ↔
      (d.year = year ∧ d.month = month ∧ d.day = day) ∧ inRange d.year := by
  constructor
  · intro h
    unfold ofParts? at h
    split at h
    next =>
      split at h
      next =>
        obtain ⟨years, h⟩ := Option.ite_none_right_eq_some.mp h
        obtain rfl := Option.some.inj h
        exact ⟨⟨rfl, rfl, rfl⟩, years⟩
      next => exact nomatch h
    next => exact nomatch h
  · rintro ⟨⟨rfl, rfl, rfl⟩, years⟩
    unfold ofParts?
    rw [dif_pos d.month_mem, dif_pos d.day_mem, if_pos years]

theorem ofParts?_self {d : Date} (h : inRange d.year) :
    ofParts? d.year d.month d.day = some d :=
  ofParts?_eq_some_iff.mpr ⟨⟨rfl, rfl, rfl⟩, h⟩

theorem month_lt (d : Date) : d.month < 100 := Nat.lt_of_le_of_lt d.month_mem.2 (by decide)

theorem day_lt (d : Date) : d.day < 100 :=
  Nat.lt_of_le_of_lt (Nat.le_trans d.day_mem.2 (monthLength_le d.year d.month)) (by decide)

theorem natAbs_lt {year : Int} (h : inRange year) : year.natAbs < 2 ^ 31 := by
  simp only [inRange, Bool.and_eq_true, decide_eq_true_eq] at h
  omega

end Date

/-- A date that was read has a year that can be. -/
theorem Reading.inRange_of_date? {r : Reading} {d : Date} (h : r.date? = .ok d) :
    Date.inRange d.year := by
  have parts := toOption_date? r
  rw [h] at parts
  exact (Date.ofParts?_eq_some_iff.mp parts.symm).2

/-- **A date reads back from its text**, if its year is one that is read. -/
theorem readDate_text {d : Date} (h : Date.inRange d.year) : readDate d.text = .ok d := by
  have read := readDate_dateChars (Date.natAbs_lt h) d.month_lt d.day_lt
  rw [Date.ofParts?_self h] at read
  exact toOption_eq_some_iff.mp read

theorem inRange_of_readDate {s : String} {d : Date} (h : readDate s = .ok d) :
    Date.inRange d.year := by
  obtain ⟨r, -, hd⟩ := bind_eq_ok_iff.mp h
  exact Reading.inRange_of_date? hd

/-! ## Dates with a time -/

theorem exists_mem_of_firstOk {α : Type} {read : List Item → Except Fault α} {x : α} :
    ∀ {ps : List (List Item)}, firstOk read ps = some x → ∃ p ∈ ps, read p = .ok x
  | [], h => nomatch h
  | p :: ps, h => by
    rw [firstOk_cons, Option.or_eq_some_iff] at h
    rcases h with first | ⟨-, later⟩
    · exact ⟨p, List.mem_cons_self, toOption_eq_some_iff.mp first⟩
    · obtain ⟨q, mem, hq⟩ := exists_mem_of_firstOk later
      exact ⟨q, List.mem_cons_of_mem p mem, hq⟩

/-- In whatever form a stamp was written, its year is one that can be read. -/
theorem inRange_of_readStamp {s : String} {x : Stamp} (h : readStamp s = .ok x) :
    Date.inRange x.date.year := by
  unfold readStamp at h
  split at h
  next first =>
    obtain rfl := Except.ok.inj h
    obtain ⟨p, -, hp⟩ := exists_mem_of_firstOk first
    obtain ⟨r, -, hr⟩ := bind_eq_ok_iff.mp hp
    obtain ⟨d, hd, hr⟩ := bind_eq_ok_iff.mp hr
    obtain ⟨c, -, hr⟩ := bind_eq_ok_iff.mp hr
    obtain rfl := Except.ok.inj hr
    exact Reading.inRange_of_date? hd
  next =>
    obtain ⟨d, hd, rfl⟩ := map_eq_ok_iff.mp h
    exact inRange_of_readDate hd

/-- **A local stamp reads back from its text.** -/
theorem readStamp_text {x : Stamp} (h : Date.inRange x.date.year) : readStamp x.text = .ok x := by
  obtain ⟨ds, digits, nano, text⟩ := x.clock.exists_chars_eq
  obtain ⟨hour, minute, second⟩ := x.clock.shown_lt
  have read := readStamp_chars (Date.natAbs_lt h) x.date.month_lt x.date.day_lt hour minute second
    digits
  rw [nano, Date.ofParts?_self h, Clock.ofParts?_shown, ← text] at read
  exact toOption_eq_some_iff.mp read

/-! ## Instants -/

/-- **The text of a local stamp is that of no instant**: it has no offset. -/
theorem readInstant?_text (x : Stamp) : readInstant? x.text = none := by
  obtain ⟨ds, digits, nano, text⟩ := x.clock.exists_chars_eq
  obtain ⟨hour, minute, second⟩ := x.clock.shown_lt
  have read := readInstant?_chars x.date.year x.date.month_lt x.date.day_lt hour minute second
    (show ' ' ∈ ['T', 't', ' '] by decide) digits noDigit_nil nofun
  rw [List.append_nil, ← text] at read
  have unplaced : readOffset? [] = none := rfl
  rw [unplaced, Option.bind_none, ite_self] at read
  exact read

/-- Without an offset local time is universal time. -/
theorem Stamp.toUniversal_zero (x : Stamp) : x.toUniversal 0 = x := by
  have hour := x.clock.hour_lt
  have minute := x.clock.minute_lt
  unfold toUniversal minutesPerDay
  dsimp only
  rw [if_neg (by omega), if_pos (by omega)]
  refine congrArg (Stamp.mk x.date) (Clock.eq_of_parts ?_ ?_ rfl rfl)
  · simp only [withMinutes, minutesPerDay]
    omega
  · simp only [withMinutes]
    omega

/-- The text of an instant ends in the offset of universal time. -/
theorem Stamp.universalText_eq (x : Stamp) :
    x.universalText =
      String.ofList (x.date.chars ++ 'T' :: (x.clock.chars ++ zoneChars false 0 0)) := by
  have zone : zoneChars false 0 0 = ['+', '0', '0', ':', '0', '0'] := by decide
  rw [Stamp.universalText, zone, List.append_assoc, List.cons_append]

/-- **An instant reads back from its text**, if its year has four digits. -/
theorem readInstant?_universalText {x : Stamp} (h : 0 ≤ x.date.year ∧ x.date.year ≤ 9999) :
    readInstant? x.universalText = some x := by
  obtain ⟨ds, digits, nano, text⟩ := x.clock.exists_chars_eq
  obtain ⟨hour, minute, second⟩ := x.clock.shown_lt
  have years : Date.inRange x.date.year := by
    simp only [Date.inRange, Bool.and_eq_true, decide_eq_true_eq]
    omega
  have zone : readOffset? (zoneChars false 0 0) = some 0 :=
    readOffset?_zoneChars false (by decide) (by decide)
  have ends : NoDigit (zoneChars false 0 0) := noDigit_cons (by decide) _
  have read := readInstant?_chars x.date.year x.date.month_lt x.date.day_lt hour minute second
    (show 'T' ∈ ['T', 't', ' '] by decide) digits ends (by decide)
  rw [if_pos h, zone, nano, Date.ofParts?_self years, Clock.ofParts?_shown, ← text] at read
  rw [x.universalText_eq]
  exact read.trans (congrArg some x.toUniversal_zero)

end SqlBroker.Calendar
