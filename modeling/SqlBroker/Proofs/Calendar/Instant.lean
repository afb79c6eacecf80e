import SqlBroker.Calendar.Instant
import SqlBroker.Proofs.Calendar.Written

/-!
# Reading instants as they are written

An instant is written as a date, a time of day and an offset. It reads as the universal time that is
meant, if there is such a day and such a time.

Headlines:
* **`readOffset?_zoneChars`**: an offset of less than a day, of either sign.
* **`readInstant?_chars`**: an instant, of a year of four digits.
* **`readAnyInstant?_chars`**: an instant of any year.
-/

namespace SqlBroker.Calendar

open Text (AreDigits padded)

/-! ## Offsets -/

/-- An offset of hours and minutes. -/
def zoneChars (behind : Bool) (hours minutes : Nat) : List Char :=
  (if behind then '-' else '+') :: padded 2 hours ++ ':' :: padded 2 minutes

theorem exactDigits_append : ∀ {ds : List Char}, AreDigits ds → ∀ (n : Nat) (rest : List Char),
    exactDigits ds.length n (ds ++ rest) = some (Nat.ofDigitChars 10 ds n, rest)
  | [], _, _, _ => rfl
  | d :: ds, digits, n, rest => by
    obtain ⟨digit, later⟩ := List.forall_mem_cons.mp digits
    rw [List.length_cons, List.cons_append, exactDigits, Text.digitValue?_of_isDigit digit,
      Nat.ofDigitChars_cons]
    exact exactDigits_append later _ rest

/-- A number that takes its width is read by it. -/
theorem exactDigits_padded {width n : Nat} (pos : 0 < width) (h : n < 10 ^ width)
    (rest : List Char) : exactDigits width 0 (padded width n ++ rest) = some (n, rest) := by
  have read := exactDigits_append (Text.areDigits_padded width n) 0 rest
  rwa [Text.length_padded pos h, Text.ofDigitChars_padded] at read

theorem afterOne?_cons {allowed : List Char} {c : Char} (h : c ∈ allowed) (cs : List Char) :
    afterOne? allowed (c :: cs) = some cs := if_pos h

/-- The sign of an offset. -/
def zoneSign (behind : Bool) : Int := if behind then -1 else 1

/-- **Behind a sign, hours and minutes of less than a day are read as an offset.** -/
theorem readOffset?_signed {c : Char} {sign : Int} (signs : offsetSigns.lookup c = some sign)
    {hours minutes : Nat} (hh : hours < 24) (hm : minutes < 60) :
    readOffset? (c :: padded 2 hours ++ ':' :: padded 2 minutes) =
      some (sign * (hours * 60 + minutes : Nat)) := by
  have first : exactDigits 2 0 (padded 2 hours ++ ':' :: padded 2 minutes) =
      some (hours, ':' :: padded 2 minutes) := exactDigits_padded (by decide) (by omega) _
  have second : exactDigits 2 0 (padded 2 minutes ++ []) = some (minutes, []) :=
    exactDigits_padded (by decide) (by omega) []
  rw [List.append_nil] at second
  have mark : afterOne? [':'] (':' :: padded 2 minutes) = some (padded 2 minutes) :=
    afterOne?_cons List.mem_cons_self _
  have letter {d : Char} (h : offsetSigns.lookup d = none) : c ≠ d := by
    rintro rfl
    rw [signs] at h
    exact nomatch h
  change readOffset? (c :: (padded 2 hours ++ ':' :: padded 2 minutes)) = _
  unfold readOffset?
  split
  next same => exact absurd (List.cons.inj same).1 (letter (by decide))
  next same => exact absurd (List.cons.inj same).1 (letter (by decide))
  next same =>
    obtain ⟨rfl, rfl⟩ := List.cons.inj same
    rw [signs]
    simp only [Option.bind_eq_bind, Option.bind_some, first, mark, second]
    rw [if_pos ⟨hh, hm, trivial⟩]
  next same => exact nomatch same

/-- **An offset of less than a day is read as its minutes.** -/
theorem readOffset?_zoneChars {hours minutes : Nat} (behind : Bool) (hh : hours < 24)
    (hm : minutes < 60) :
    readOffset? (zoneChars behind hours minutes) =
      some (zoneSign behind * (hours * 60 + minutes : Nat)) :=
  readOffset?_signed (by cases behind <;> decide) hh hm

/-- An offset starts with its sign or its letter. -/
theorem exists_cons_of_readOffset? {zone : List Char} {offset : Int}
    (h : readOffset? zone = some offset) : ∃ c cs, zone = c :: cs ∧ ¬ c.isDigit ∧ c ≠ '.' := by
  unfold readOffset? at h
  split at h
  next => exact ⟨'Z', [], rfl, by decide, by decide⟩
  next => exact ⟨'z', [], rfl, by decide, by decide⟩
  next c cs _ _ =>
    obtain ⟨sign, found, -⟩ := Option.bind_eq_some_iff.mp h
    have signs : ∀ e ∈ offsetSigns, ¬ e.1.isDigit ∧ e.1 ≠ '.' := by decide
    have mem : (c, sign) ∈ offsetSigns := by
      obtain ⟨before, after, same, -⟩ := List.lookup_eq_some_iff.mp found
      rw [same]
      exact List.mem_append_right before List.mem_cons_self
    exact ⟨c, cs, rfl, signs (c, sign) mem⟩
  next => exact nomatch h

/-! ## Instants -/

/-- A year is read as it is written. -/
theorem readYear?_yearChars {year : Int} (h : year.natAbs < 2 ^ 31) {rest : List Char}
    (ends : NoDigit rest) : readYear? (Date.yearChars year ++ rest) = some (year, rest) := by
  have signed := yearNumber_yearChars h ends
  unfold Date.yearChars at signed ⊢
  dsimp only at signed ⊢
  by_cases negative : year < 0
  · rw [if_pos negative] at signed ⊢
    exact congrArg Except.toOption signed
  · rw [if_neg negative] at signed ⊢
    by_cases long : 9999 < year
    · rw [if_pos long] at signed ⊢
      exact congrArg Except.toOption signed
    · have size : (year.natAbs : Int) = year := by omega
      have plain : exactDigits 4 0 (padded 4 year.natAbs ++ rest) = some (year.natAbs, rest) :=
        exactDigits_padded (by decide) (by omega) rest
      have digits : AreDigits (padded 4 year.natAbs) := Text.areDigits_padded 4 _
      obtain ⟨d, ds, same⟩ : ∃ d ds, padded 4 year.natAbs = d :: ds :=
        List.exists_cons_of_ne_nil (Text.padded_ne_nil (by decide))
      have digit : d.isDigit := digits d (same ▸ List.mem_cons_self)
      rw [same] at plain
      rw [if_neg long, same]
      unfold readYear?
      split
      next plus =>
        obtain rfl := (List.cons.inj plus).1
        exact absurd digit (by decide)
      next minus =>
        obtain rfl := (List.cons.inj minus).1
        exact absurd digit (by decide)
      next =>
        rw [plain, Option.map_some]
        dsimp only
        rw [size]

/-- Four digits are a year; one that is written with a sign is none. -/
theorem exactDigits_yearChars (year : Int) (rest : List Char) :
    exactDigits 4 0 (Date.yearChars year ++ rest) =
      if 0 ≤ year ∧ year ≤ 9999 then some (year.natAbs, rest) else none := by
  unfold Date.yearChars
  dsimp only
  by_cases negative : year < 0
  · rw [if_pos negative, if_neg fun h => absurd h.1 (by omega)]
    rfl
  · rw [if_neg negative]
    by_cases long : 9999 < year
    · rw [if_pos long, if_neg fun h => absurd h.2 (by omega)]
      rfl
    · rw [if_neg long, if_pos ⟨by omega, by omega⟩, exactDigits_padded (by decide) (by omega)]

theorem optionalFraction_append {fraction zone : List Char} (digits : AreDigits fraction)
    (ends : NoDigit zone) (point : zone.head? ≠ some '.') :
    optionalFraction ((if fraction = [] then [] else '.' :: fraction) ++ zone) =
      some (Clock.nanosOf fraction, zone) := by
  cases fraction with
  | nil =>
    change optionalFraction zone = some (0, zone)
    unfold optionalFraction
    split
    next => exact absurd rfl point
    next => rfl
  | cons d ds =>
    obtain ⟨taken, dropped⟩ := takeWhile_digits digits ends
    change optionalFraction ('.' :: (d :: ds ++ zone)) = _
    unfold optionalFraction
    split
    next same =>
      obtain rfl := (List.cons.inj same).2
      rw [taken, dropped, if_neg (List.cons_ne_nil d ds)]
    next unmarked => exact absurd rfl (unmarked _)

/-- What follows the year of an instant: the rest of a date, a mark, a time and what should be an
offset. -/
def afterYear (month day : Nat) (mark : Char) (hour minute second : Nat)
    (fraction zone : List Char) : List Char :=
  '-' :: (padded 2 month ++ '-' :: (padded 2 day ++
    mark :: (clockChars hour minute second fraction ++ zone)))

theorem dateChars_append (year : Int) (month day : Nat) (mark : Char) (hour minute second : Nat)
    (fraction zone : List Char) :
    dateChars year month day ++ mark :: (clockChars hour minute second fraction ++ zone) =
      Date.yearChars year ++ afterYear month day mark hour minute second fraction zone := by
  simp [dateChars, afterYear]

section Numbers

variable {month day hour minute second : Nat} {fraction zone : List Char} {mark : Char}

/-- **Behind a year, a date, a time and an offset read as the universal time that they mean**, and
do not read if there is no such day, no such time or no such offset. -/
theorem instantFrom?_afterYear (year : Int) (hm : month < 100) (hd : day < 100) (hh : hour < 100)
    (hmin : minute < 100) (hs : second < 100) (marks : mark ∈ ['T', 't', ' '])
    (digits : AreDigits fraction) (ends : NoDigit zone) (point : zone.head? ≠ some '.') :
    instantFrom? year (afterYear month day mark hour minute second fraction zone) =
      (readOffset? zone).bind fun offset => (Date.ofParts? year month day).bind fun d =>
        (Clock.ofParts? hour minute second (Clock.nanosOf fraction)).map fun c =>
          Stamp.toUniversal ⟨d, c⟩ offset := by
  have text : afterYear month day mark hour minute second fraction zone =
      '-' :: (padded 2 month ++ '-' :: (padded 2 day ++ mark ::
        (padded 2 hour ++ ':' :: (padded 2 minute ++ ':' :: (padded 2 second ++
          ((if fraction = [] then [] else '.' :: fraction) ++ zone)))))) := by
    simp [afterYear, clockChars]
  have two {n : Nat} (h : n < 100) (rest : List Char) :
      exactDigits 2 0 (padded 2 n ++ rest) = some (n, rest) :=
    exactDigits_padded (by decide) h rest
  have dash (cs : List Char) : afterOne? ['-'] ('-' :: cs) = some cs :=
    afterOne?_cons List.mem_cons_self cs
  have colon (cs : List Char) : afterOne? [':'] (':' :: cs) = some cs :=
    afterOne?_cons List.mem_cons_self cs
  have letter (cs : List Char) : afterOne? ['T', 't', ' '] (mark :: cs) = some cs :=
    afterOne?_cons marks cs
  have next {α β : Type} (a : α) (f : α → Option β) : (some a >>= f) = f a := rfl
  unfold instantFrom?
  rw [text]
  simp only [next, two hm, two hd, two hh, two hmin, two hs, dash, colon, letter,
    optionalFraction_append digits ends point]
  cases readOffset? zone with
  | none => rfl
  | some offset =>
    cases Date.ofParts? year month day with
    | none => rfl
    | some d => cases Clock.ofParts? hour minute second (Clock.nanosOf fraction) <;> rfl

/-- **An instant of four digits for its year reads as the universal time that it means**; with any
other year it does not read. -/
theorem readInstant?_chars (year : Int) (hm : month < 100) (hd : day < 100) (hh : hour < 100)
    (hmin : minute < 100) (hs : second < 100) (marks : mark ∈ ['T', 't', ' '])
    (digits : AreDigits fraction) (ends : NoDigit zone) (point : zone.head? ≠ some '.') :
    readInstant? (String.ofList (dateChars year month day ++
        mark :: (clockChars hour minute second fraction ++ zone))) =
      if 0 ≤ year ∧ year ≤ 9999 then
        (readOffset? zone).bind fun offset => (Date.ofParts? year month day).bind fun d =>
          (Clock.ofParts? hour minute second (Clock.nanosOf fraction)).map fun c =>
            Stamp.toUniversal ⟨d, c⟩ offset
      else none := by
  unfold readInstant?
  rw [String.toList_ofList, dateChars_append, exactDigits_yearChars]
  split
  next short =>
    have size : (year.natAbs : Int) = year := by omega
    have read := instantFrom?_afterYear year hm hd hh hmin hs marks digits ends point
    rw [Option.bind_eq_bind, Option.bind_some]
    dsimp only
    rw [size, read]
  next => rfl

/-- **An instant reads as the universal time that it means**, and does not read if there is no such
day or no such time. -/
theorem readAnyInstant?_chars {year : Int} {offset : Int} (hy : year.natAbs < 2 ^ 31)
    (hm : month < 100) (hd : day < 100) (hh : hour < 100) (hmin : minute < 100) (hs : second < 100)
    (digits : AreDigits fraction) (hz : readOffset? zone = some offset) :
    readAnyInstant? (String.ofList (dateChars year month day ++
        'T' :: (clockChars hour minute second fraction ++ zone))) =
      (Date.ofParts? year month day).bind fun d =>
        (Clock.ofParts? hour minute second (Clock.nanosOf fraction)).map fun c =>
          Stamp.toUniversal ⟨d, c⟩ offset := by
  obtain ⟨c, cs, rfl, other, point⟩ := exists_cons_of_readOffset? hz
  have marks : 'T' ∈ ['T', 't', ' '] := List.mem_cons_self
  have read := instantFrom?_afterYear year hm hd hh hmin hs marks digits (noDigit_cons other cs)
    (fun same => point (Option.some.inj same))
  have ends : NoDigit (afterYear month day 'T' hour minute second fraction (c :: cs)) :=
    noDigit_cons (by decide) _
  unfold readAnyInstant?
  rw [String.toList_ofList, dateChars_append, readYear?_yearChars hy ends]
  rw [Option.bind_eq_bind, Option.bind_some]
  dsimp only
  rw [read, hz]
  rfl

end Numbers

end SqlBroker.Calendar
