import SqlBroker.Calendar.Pattern
import SqlBroker.Proofs.Except
import SqlBroker.Proofs.Text.Digits

/-!
# Reading dates and times as they are written

Dates and times are written with two digits for each number, four or more for a year, and any digits
of a fraction. Whatever the numbers are, such a text reads as the date or time that they name, and
does not read if there is none.

Headlines:
* **`readDate_dateChars`**: a date.
* **`readClock_clockChars`**: a time of day; one of more than a day is none, with any number of
  hours.
* **`readStamp_chars`**: both, with a blank between them.
-/

namespace SqlBroker.Calendar

open Text (AreDigits padded)

/-! ## Texts -/

/-- A date of three numbers, which may name no day. -/
def dateChars (year : Int) (month day : Nat) : List Char :=
  Date.yearChars year ++ '-' :: padded 2 month ++ '-' :: padded 2 day

/-- A time of three numbers and the digits of a fraction, if there are any. -/
def clockChars (hour minute second : Nat) (fraction : List Char) : List Char :=
  padded 2 hour ++ ':' :: padded 2 minute ++ ':' :: padded 2 second ++
    if fraction = [] then [] else '.' :: fraction

/-- What does not start with a digit. -/
def NoDigit (cs : List Char) : Prop := ∀ c rest, cs = c :: rest → ¬ c.isDigit

theorem noDigit_nil : NoDigit [] := fun _ _ same => nomatch same

theorem noDigit_cons {c : Char} (h : ¬ c.isDigit) (rest : List Char) : NoDigit (c :: rest) := by
  intro d later same
  rwa [← (List.cons.inj same).1]

/-! ## Numbers -/

/-- Digits are read up to the width, or to where they end. -/
theorem moreDigits_append : ∀ {ds rest : List Char} {width n : Nat}, AreDigits ds →
    ds.length ≤ width → (ds.length = width ∨ NoDigit rest) →
      Nat.ofDigitChars 10 ds n ≤ numberMax →
        moreDigits width n (ds ++ rest) = .ok (Nat.ofDigitChars 10 ds n, rest)
  | [], [], 0, _, _, _, _, _ => rfl
  | [], [], _ + 1, _, _, _, _, _ => rfl
  | [], _ :: _, 0, _, _, _, _, _ => rfl
  | [], c :: rest, width + 1, n, _, _, ends, _ => by
    have other : ¬ c.isDigit := (ends.resolve_left (by simp)) c rest rfl
    rw [List.nil_append, moreDigits, Text.digitValue?_of_not_isDigit other]
    rfl
  | d :: ds, rest, width + 1, n, digits, short, ends, small => by
    obtain ⟨digit, later⟩ := List.forall_mem_cons.mp digits
    rw [Nat.ofDigitChars_cons] at small ⊢
    have first : 10 * n + (d.toNat - '0'.toNat) ≤ numberMax :=
      Nat.le_trans (Text.le_ofDigitChars ds _) small
    have short : ds.length ≤ width := Nat.le_of_succ_le_succ short
    have ends : ds.length = width ∨ NoDigit rest := ends.imp Nat.succ.inj id
    rw [List.cons_append, moreDigits, Text.digitValue?_of_isDigit digit]
    dsimp only
    rw [if_pos first, moreDigits_append later short ends small]

/-- A number is read back from its digits. -/
theorem digitsUpTo_padded {width k n : Nat} {rest : List Char} (pos : 0 < k)
    (short : (padded k n).length ≤ width) (ends : (padded k n).length = width ∨ NoDigit rest)
    (small : n ≤ numberMax) : digitsUpTo width (padded k n ++ rest) = .ok (n, rest) := by
  have digits : AreDigits (padded k n) := Text.areDigits_padded k n
  have number : Nat.ofDigitChars 10 (padded k n) 0 = n := Text.ofDigitChars_padded k n
  have read : moreDigits width 0 (padded k n ++ rest) =
      .ok (Nat.ofDigitChars 10 (padded k n) 0, rest) :=
    moreDigits_append digits short ends (by rwa [number])
  rw [number] at read
  obtain ⟨d, ds, same⟩ := List.exists_cons_of_ne_nil (Text.padded_ne_nil pos)
  rw [same] at digits read ⊢
  have digit : d.isDigit := digits d List.mem_cons_self
  rw [List.cons_append, digitsUpTo, if_pos digit]
  exact read

theorem skipBlanks_digits {ds : List Char} (digits : AreDigits ds) (nonempty : ds ≠ [])
    (rest : List Char) : Text.skipBlanks (ds ++ rest) = ds ++ rest := by
  obtain ⟨d, tail, rfl⟩ := List.exists_cons_of_ne_nil nonempty
  exact Text.skipBlanks_of_isDigit (digits d List.mem_cons_self) _

/-- A number of two digits is read if it is in its range, whatever follows. -/
theorem smallNumber_digits (low high : Nat) {ds : List Char} (digits : AreDigits ds)
    (length : ds.length = 2) (rest : List Char) :
    (smallNumber low high (ds ++ rest)).toOption =
      if low ≤ Nat.ofDigitChars 10 ds 0 ∧ Nat.ofDigitChars 10 ds 0 ≤ high then
        some (Nat.ofDigitChars 10 ds 0, rest)
      else none := by
  have small : Nat.ofDigitChars 10 ds 0 ≤ numberMax := by
    have bound := Text.ofDigitChars_lt digits
    rw [length] at bound
    unfold numberMax
    omega
  have read : moreDigits 2 0 (ds ++ rest) = .ok (Nat.ofDigitChars 10 ds 0, rest) :=
    moreDigits_append digits (Nat.le_of_eq length) (.inl length) small
  obtain ⟨d, tail, rfl⟩ := List.exists_cons_of_length_pos (l := ds) (by omega)
  have digit : d.isDigit := digits d List.mem_cons_self
  rw [smallNumber, List.cons_append, Text.skipBlanks_of_isDigit digit, digitsUpTo, if_pos digit,
    ← List.cons_append, read]
  generalize Nat.ofDigitChars 10 (d :: tail) 0 = n
  change (if low ≤ n ∧ n ≤ high then Except.ok (n, rest) else .error Fault.outOfRange).toOption = _
  split <;> rfl

theorem smallNumber_padded {low high n : Nat} (h : n < 100) (rest : List Char) :
    (smallNumber low high (padded 2 n ++ rest)).toOption =
      if low ≤ n ∧ n ≤ high then some (n, rest) else none := by
  have read := smallNumber_digits low high (Text.areDigits_padded 2 n)
    (Text.length_padded (by decide) h) rest
  rwa [Text.ofDigitChars_padded] at read

theorem yearNumber_minus {cs rest : List Char} {n : Nat} (small : n < 2 ^ 31)
    (h : digitsUpTo cs.length cs = .ok (n, rest)) :
    yearNumber ('-' :: cs) = .ok (-(n : Int), rest) := by
  have dash : Text.skipBlanks ('-' :: cs) = '-' :: cs := rfl
  have bounded : -(2 ^ 31) ≤ -(n : Int) ∧ -(n : Int) < 2 ^ 31 := by omega
  unfold yearNumber
  rw [dash]
  split
  next same =>
    obtain rfl := (List.cons.inj same).2
    exact bind_eq_ok_iff.mpr ⟨_, h, bind_eq_ok_iff.mpr ⟨_, rfl, if_pos bounded⟩⟩
  next same => exact absurd (List.cons.inj same).1 (by decide)
  next other _ => exact absurd rfl (other cs)

theorem yearNumber_plus {cs rest : List Char} {n : Nat} (small : n < 2 ^ 31)
    (h : digitsUpTo cs.length cs = .ok (n, rest)) :
    yearNumber ('+' :: cs) = .ok ((n : Int), rest) := by
  have plus : Text.skipBlanks ('+' :: cs) = '+' :: cs := rfl
  have bounded : -(2 ^ 31) ≤ (n : Int) ∧ (n : Int) < 2 ^ 31 := by omega
  unfold yearNumber
  rw [plus]
  split
  next same => exact absurd (List.cons.inj same).1 (by decide)
  next same =>
    obtain rfl := (List.cons.inj same).2
    exact bind_eq_ok_iff.mpr ⟨_, h, bind_eq_ok_iff.mpr ⟨_, rfl, if_pos bounded⟩⟩
  next _ other => exact absurd rfl (other cs)

theorem yearNumber_digit {c : Char} {cs rest : List Char} {n : Nat} (small : n < 2 ^ 31)
    (digit : c.isDigit) (h : digitsUpTo 4 (c :: cs) = .ok (n, rest)) :
    yearNumber (c :: cs) = .ok ((n : Int), rest) := by
  have bounded : -(2 ^ 31) ≤ (n : Int) ∧ (n : Int) < 2 ^ 31 := by omega
  unfold yearNumber
  rw [Text.skipBlanks_of_isDigit digit]
  split
  next same =>
    obtain rfl := (List.cons.inj same).1
    exact absurd digit (by decide)
  next same =>
    obtain rfl := (List.cons.inj same).1
    exact absurd digit (by decide)
  next =>
    exact bind_eq_ok_iff.mpr ⟨_, h, bind_eq_ok_iff.mpr ⟨_, rfl, if_pos bounded⟩⟩

/-- A year is read with its sign, however many digits it has. -/
theorem yearNumber_yearChars {year : Int} (h : year.natAbs < 2 ^ 31) {rest : List Char}
    (ends : NoDigit rest) :
    yearNumber (Date.yearChars year ++ rest) = .ok (year, rest) := by
  have small : year.natAbs ≤ numberMax := by
    unfold numberMax
    omega
  -- Behind a sign a year may have any number of digits.
  have signed : digitsUpTo (padded 4 year.natAbs ++ rest).length (padded 4 year.natAbs ++ rest) =
      .ok (year.natAbs, rest) :=
    digitsUpTo_padded (by decide) (by rw [List.length_append]; omega) (.inr ends) small
  unfold Date.yearChars
  dsimp only
  by_cases negative : year < 0
  · have size : -(year.natAbs : Int) = year := by omega
    rw [if_pos negative, List.cons_append, yearNumber_minus h signed, size]
  · have size : (year.natAbs : Int) = year := by omega
    rw [if_neg negative]
    by_cases long : 9999 < year
    · rw [if_pos long, List.cons_append, yearNumber_plus h signed, size]
    · have length : (padded 4 year.natAbs).length = 4 := Text.length_padded (by decide) (by omega)
      have plain : digitsUpTo 4 (padded 4 year.natAbs ++ rest) = .ok (year.natAbs, rest) :=
        digitsUpTo_padded (by decide) (Nat.le_of_eq length) (.inl length) small
      have digits : AreDigits (padded 4 year.natAbs) := Text.areDigits_padded 4 _
      obtain ⟨d, ds, same⟩ : ∃ d ds, padded 4 year.natAbs = d :: ds :=
        List.exists_cons_of_ne_nil (Text.padded_ne_nil (by decide))
      rw [same] at digits plain
      rw [if_neg long, same, List.cons_append]
      rw [List.cons_append] at plain
      rw [yearNumber_digit h (digits d List.mem_cons_self) plain, size]

/-! ## Items -/

theorem toOption_readItems_cons (i : Item) (is : List Item) (r : Reading) (cs : List Char) :
    (readItems (i :: is) r cs).toOption =
      (i.read r cs).toOption.bind fun x => (readItems is x.1 x.2).toOption :=
  toOption_bind _ _

theorem toOption_readItems_mark (m c : Char) (is : List Item) (r : Reading) (cs : List Char) :
    (readItems (.mark m :: is) r (c :: cs)).toOption =
      if c = m then (readItems is r cs).toOption else none := by
  rw [toOption_readItems_cons]
  by_cases same : c = m
  · have read : (Item.mark m).read r (c :: cs) = .ok (r, cs) := by
      rw [Item.read, readMark, if_pos same]
      rfl
    rw [read, if_pos same]
    rfl
  · have read : (Item.mark m).read r (c :: cs) = .error .invalid := by
      rw [Item.read, readMark, if_neg same]
      rfl
    rw [read, if_neg same]
    rfl

theorem toOption_readItems_gap (is : List Item) (r : Reading) (cs : List Char) :
    (readItems (.gap :: is) r cs).toOption = (readItems is r (Text.skipBlanks cs)).toOption :=
  toOption_readItems_cons ..

/-- An item that is a number of two digits is read if it is in its range. -/
theorem toOption_readItems_number {i : Item} {low high n : Nat} {r : Reading} {f : Nat → Reading}
    (hi : ∀ cs, i.read r cs = smallNumber low high cs >>= fun x => pure (f x.1, x.2))
    (h : n < 100) (is : List Item) (rest : List Char) :
    (readItems (i :: is) r (padded 2 n ++ rest)).toOption =
      if low ≤ n ∧ n ≤ high then (readItems is (f n) rest).toOption else none := by
  rw [toOption_readItems_cons, hi, toOption_bind, smallNumber_padded h]
  split <;> rfl

/-! ## Dates -/

/-- A date before other items is read if its month and day are in range. -/
theorem toOption_readItems_date {year : Int} {month day : Nat} (hy : year.natAbs < 2 ^ 31)
    (hm : month < 100) (hd : day < 100) (is : List Item) (r : Reading) (rest : List Char) :
    (readItems (datePattern ++ is) r (dateChars year month day ++ rest)).toOption =
      if (1 ≤ month ∧ month ≤ 12) ∧ 1 ≤ day ∧ day ≤ 31 then
        (readItems is { r with year := year, month := month, day := day } rest).toOption
      else none := by
  have ends : NoDigit ('-' :: (padded 2 month ++ '-' :: (padded 2 day ++ rest))) :=
    noDigit_cons (by decide) _
  have first : Item.year.read r
      (Date.yearChars year ++ '-' :: (padded 2 month ++ '-' :: (padded 2 day ++ rest))) =
        .ok ({ r with year },
          '-' :: (padded 2 month ++ '-' :: (padded 2 day ++ rest))) := by
    rw [Item.read, yearNumber_yearChars hy ends]
    rfl
  have text : dateChars year month day ++ rest =
      Date.yearChars year ++ '-' :: (padded 2 month ++ '-' :: (padded 2 day ++ rest)) := by
    simp [dateChars]
  change (readItems (.year :: .mark '-' :: .month :: .mark '-' :: .day :: is) r _).toOption = _
  rw [text, toOption_readItems_cons, first]
  change (readItems (.mark '-' :: .month :: .mark '-' :: .day :: is) { r with year := year }
    ('-' :: (padded 2 month ++ '-' :: (padded 2 day ++ rest)))).toOption = _
  rw [toOption_readItems_mark, if_pos rfl,
    toOption_readItems_number (f := fun n => { r with year := year, month := n })
      (fun _ => rfl) hm,
    toOption_readItems_mark, if_pos rfl,
    toOption_readItems_number (f := fun n => { r with year := year, month := month, day := n })
      (fun _ => rfl) hd]
  by_cases months : 1 ≤ month ∧ month ≤ 12
  · by_cases days : 1 ≤ day ∧ day ≤ 31
    · rw [if_pos months, if_pos days, if_pos ⟨months, days⟩]
    · rw [if_pos months, if_neg days, if_neg fun h => days h.2]
  · rw [if_neg months, if_neg fun h => months h.1]

theorem monthLength_le (year : Int) (month : Nat) : monthLength year month ≤ 31 := by
  unfold monthLength
  repeat' split
  all_goals omega

theorem Date.ofParts?_eq_none {year : Int} {month day : Nat}
    (h : ¬ ((1 ≤ month ∧ month ≤ 12) ∧ 1 ≤ day ∧ day ≤ 31)) : ofParts? year month day = none := by
  have length := monthLength_le year month
  unfold ofParts?
  by_cases months : 1 ≤ month ∧ month ≤ 12
  · have none : ¬ (1 ≤ day ∧ day ≤ monthLength year month) := fun days =>
      h ⟨months, days.1, Nat.le_trans days.2 length⟩
    rw [dif_pos months, dif_neg none]
  · rw [dif_neg months]

theorem toOption_date? (r : Reading) : r.date?.toOption = Date.ofParts? r.year r.month r.day := by
  unfold Reading.date?
  split
  next d same => rw [same]; rfl
  next same => rw [same]; rfl

/-- **A date reads as the day that it names**, and does not read if there is none. -/
theorem readDate_dateChars {year : Int} {month day : Nat} (hy : year.natAbs < 2 ^ 31)
    (hm : month < 100) (hd : day < 100) :
    (readDate (String.ofList (dateChars year month day))).toOption =
      Date.ofParts? year month day := by
  have read := toOption_readItems_date hy hm hd [] .start []
  rw [List.append_nil, List.append_nil] at read
  rw [readDate, String.toList_ofList, toOption_bind, read]
  by_cases h : (1 ≤ month ∧ month ≤ 12) ∧ 1 ≤ day ∧ day ≤ 31
  · rw [if_pos h]
    exact toOption_date? _
  · rw [if_neg h, Date.ofParts?_eq_none h]
    rfl

/-! ## Times of day -/

theorem nanosOf_nil : Clock.nanosOf [] = 0 := rfl

/-- The seconds of a time, behind its minutes. -/
def secondChars (second : Nat) (fraction : List Char) : List Char :=
  ':' :: padded 2 second ++ if fraction = [] then [] else '.' :: fraction

theorem clockChars_eq (hour minute second : Nat) (fraction : List Char) :
    clockChars hour minute second fraction =
      padded 2 hour ++ ':' :: (padded 2 minute ++ secondChars second fraction) := by
  simp [clockChars, secondChars]

/-- A time starts with a digit, so that a gap before it ends there. -/
theorem skipBlanks_clockChars (hour minute second : Nat) (fraction rest : List Char) :
    Text.skipBlanks (clockChars hour minute second fraction ++ rest) =
      clockChars hour minute second fraction ++ rest := by
  rw [clockChars_eq, List.append_assoc]
  exact skipBlanks_digits (Text.areDigits_padded 2 hour) (Text.padded_ne_nil (by decide)) _

/-- Digits are taken to where they end. -/
theorem takeWhile_digits {ds rest : List Char} (digits : AreDigits ds) (ends : NoDigit rest) :
    (ds ++ rest).takeWhile Char.isDigit = ds ∧ (ds ++ rest).dropWhile Char.isDigit = rest := by
  rw [List.takeWhile_append_of_pos digits, List.dropWhile_append_of_pos digits]
  cases rest with
  | nil => simp
  | cons c rest =>
    have other : ¬ c.isDigit := ends c rest rfl
    rw [List.takeWhile_cons_of_neg other, List.dropWhile_cons_of_neg other, List.append_nil]
    exact ⟨rfl, rfl⟩

/-- A fraction is read as nanoseconds to where its digits end; without one there are none. -/
theorem toOption_readItems_fraction {fraction rest : List Char} (digits : AreDigits fraction)
    (ends : NoDigit rest) (point : rest.head? ≠ some '.') {r : Reading} (start : r.nano = 0)
    (is : List Item) :
    (readItems (.fraction :: is) r
        ((if fraction = [] then [] else '.' :: fraction) ++ rest)).toOption =
      (readItems is { r with nano := Clock.nanosOf fraction } rest).toOption := by
  rw [toOption_readItems_cons]
  cases fraction with
  | nil =>
    have item : Item.fraction.read r rest = .ok (r, rest) := by
      simp only [Item.read]
      split
      next => exact absurd rfl point
      next => rfl
    rw [if_pos rfl, List.nil_append, item, nanosOf_nil, ← start]
    rfl
  | cons d ds =>
    obtain ⟨taken, dropped⟩ := takeWhile_digits digits ends
    have digit : d.isDigit := digits d List.mem_cons_self
    have read : fractionDigits (d :: (ds ++ rest)) = .ok (Clock.nanosOf (d :: ds), rest) := by
      rw [fractionDigits, if_pos digit, ← List.cons_append, taken, dropped]
    have item : Item.fraction.read r ('.' :: d :: ds ++ rest) =
        .ok ({ r with nano := Clock.nanosOf (d :: ds) }, rest) := by
      change (fractionDigits (d :: (ds ++ rest)) >>= _) = _
      rw [read]
      rfl
    rw [if_neg (List.cons_ne_nil d ds), item]
    rfl

/-- Whether the parts of a time are numbers that are read. -/
def AreRead (hour minute second : Nat) : Prop := hour ≤ 23 ∧ minute ≤ 59 ∧ second ≤ 60

instance (hour minute second : Nat) : Decidable (AreRead hour minute second) :=
  inferInstanceAs (Decidable (_ ∧ _ ∧ _))

/-- A time before what is neither a digit nor a point is read if its numbers are in range. -/
theorem toOption_readItems_clock_append {hour minute second : Nat} {fraction rest : List Char}
    (hh : hour < 100) (hm : minute < 100) (hs : second < 100) (digits : AreDigits fraction)
    (ends : NoDigit rest) (point : rest.head? ≠ some '.') {r : Reading} (start : r.nano = 0) :
    (readItems secondPattern r (clockChars hour minute second fraction ++ rest)).toOption =
      if AreRead hour minute second then
        (readItems [] { r with
          hour := hour, minute := minute, second := second, nano := Clock.nanosOf fraction }
          rest).toOption
      else none := by
  have text : clockChars hour minute second fraction ++ rest =
      padded 2 hour ++ ':' :: (padded 2 minute ++ ':' :: (padded 2 second ++
        ((if fraction = [] then [] else '.' :: fraction) ++ rest))) := by
    simp [clockChars]
  change (readItems [.hour, .mark ':', .minute, .mark ':', .second, .fraction] r _).toOption = _
  rw [text, toOption_readItems_number (f := fun n => { r with hour := n }) (fun _ => rfl) hh,
    toOption_readItems_mark, if_pos rfl,
    toOption_readItems_number (f := fun n => { r with hour := hour, minute := n })
      (fun _ => rfl) hm,
    toOption_readItems_mark, if_pos rfl,
    toOption_readItems_number
      (f := fun n => { r with hour := hour, minute := minute, second := n }) (fun _ => rfl) hs,
    toOption_readItems_fraction digits ends point (r := { r with hour, minute, second }) start]
  by_cases h : AreRead hour minute second
  · obtain ⟨hours, minutes, seconds⟩ := h
    rw [if_pos ⟨Nat.zero_le _, hours⟩, if_pos ⟨Nat.zero_le _, minutes⟩,
      if_pos ⟨Nat.zero_le _, seconds⟩, if_pos ⟨hours, minutes, seconds⟩]
  · rw [if_neg h]
    by_cases hours : hour ≤ 23
    · by_cases minutes : minute ≤ 59
      · have seconds : ¬ second ≤ 60 := fun seconds => h ⟨hours, minutes, seconds⟩
        rw [if_pos ⟨Nat.zero_le _, hours⟩, if_pos ⟨Nat.zero_le _, minutes⟩,
          if_neg fun h => seconds h.2]
      · rw [if_pos ⟨Nat.zero_le _, hours⟩, if_neg fun h => minutes h.2]
    · rw [if_neg fun h => hours h.2]

theorem toOption_readItems_clock {hour minute second : Nat} {fraction : List Char}
    (hh : hour < 100) (hm : minute < 100) (hs : second < 100) (digits : AreDigits fraction)
    {r : Reading} (start : r.nano = 0) :
    (readItems secondPattern r (clockChars hour minute second fraction)).toOption =
      if AreRead hour minute second then
        some { r with
          hour := hour, minute := minute, second := second, nano := Clock.nanosOf fraction }
      else none := by
  have read := toOption_readItems_clock_append hh hm hs digits noDigit_nil nofun start
  rw [List.append_nil] at read
  exact read

/-- Seconds are too much for the pattern without them. -/
theorem toOption_readItems_minutes {hour minute : Nat} (hh : hour < 100) (hm : minute < 100)
    (second : Nat) (fraction rest : List Char) (r : Reading) :
    (readItems minutePattern r (clockChars hour minute second fraction ++ rest)).toOption =
      none := by
  have text : clockChars hour minute second fraction ++ rest =
      padded 2 hour ++ ':' :: (padded 2 minute ++ (secondChars second fraction ++ rest)) := by
    simp [clockChars_eq]
  change (readItems [.hour, .mark ':', .minute] r _).toOption = none
  rw [text, toOption_readItems_number (f := fun n => { r with hour := n }) (fun _ => rfl) hh,
    toOption_readItems_mark, if_pos rfl,
    toOption_readItems_number (f := fun n => { r with hour := hour, minute := n })
      (fun _ => rfl) hm]
  have trailing (r : Reading) :
      (readItems [] r (secondChars second fraction ++ rest)).toOption = none := rfl
  rw [trailing]
  split <;> simp

/-- Hours of three digits and more are none of a day. -/
theorem toOption_readItems_hours {hour : Nat} (h : 100 ≤ hour) (is : List Item) (r : Reading)
    (rest : List Char) :
    (readItems (.hour :: .mark ':' :: is) r (padded 2 hour ++ rest)).toOption = none := by
  have digits : AreDigits (padded 2 hour) := Text.areDigits_padded 2 hour
  have long : 2 < (padded 2 hour).length := by
    have bound := Text.ofDigitChars_lt digits
    rw [Text.ofDigitChars_padded] at bound
    refine Nat.lt_of_not_le fun length => ?_
    have power : 10 ^ (padded 2 hour).length ≤ 10 ^ 2 := Nat.pow_le_pow_right (by decide) length
    omega
  obtain ⟨a, b, c, tail, same⟩ : ∃ a b c tail, padded 2 hour = a :: b :: c :: tail := by
    match padded 2 hour, long with
    | a :: b :: c :: tail, _ => exact ⟨a, b, c, tail, rfl⟩
  rw [same] at digits ⊢
  obtain ⟨hundreds, tens, third, -⟩ : a.isDigit ∧ b.isDigit ∧ c.isDigit ∧ _ := by
    simpa [AreDigits] using digits
  have first : AreDigits [a, b] := by simp [AreDigits, hundreds, tens]
  have other : c ≠ ':' := by
    rintro rfl
    exact absurd third (by decide)
  have read := smallNumber_digits 0 23 first rfl (c :: (tail ++ rest))
  have item : Item.hour.read r (a :: b :: c :: tail ++ rest) =
      smallNumber 0 23 ([a, b] ++ c :: (tail ++ rest)) >>= fun x =>
        pure ({ r with hour := x.1 }, x.2) := rfl
  rw [toOption_readItems_cons, item, toOption_bind, read]
  split
  · change (readItems (.mark ':' :: is) _ (c :: (tail ++ rest))).toOption = none
    rw [toOption_readItems_mark, if_neg other]
  · rfl

theorem Clock.ofParts?_eq_none {hour minute second nano : Nat} (h : ¬ AreRead hour minute second) :
    ofParts? hour minute second nano = none := by
  unfold ofParts?
  repeat' split
  all_goals first | rfl | exact absurd ⟨by omega, by omega, by omega⟩ h

theorem toOption_clock? (r : Reading) :
    r.clock?.toOption = Clock.ofParts? r.hour r.minute r.second r.nano := by
  unfold Reading.clock?
  split
  next c same => rw [same]; rfl
  next same => rw [same]; rfl

/-- A time is read in either form. -/
theorem toOption_readClock (s : String) : (readClock s).toOption =
    (readClockBy secondPattern s).toOption.or (readClockBy minutePattern s).toOption := by
  unfold readClock
  cases readClockBy secondPattern s <;> rfl

/-- **A time reads as the time of day that it names**, and does not read if there is none, however
many hours it has. -/
theorem readClock_clockChars {hour minute second : Nat} {fraction : List Char} (hm : minute < 100)
    (hs : second < 100) (digits : AreDigits fraction) :
    (readClock (String.ofList (clockChars hour minute second fraction))).toOption =
      Clock.ofParts? hour minute second (Clock.nanosOf fraction) := by
  rw [toOption_readClock, readClockBy, readClockBy, String.toList_ofList, toOption_bind,
    toOption_bind]
  by_cases hh : hour < 100
  · have minutes := toOption_readItems_minutes hh hm second fraction [] .start
    rw [List.append_nil] at minutes
    rw [toOption_readItems_clock hh hm hs digits rfl, minutes]
    by_cases h : AreRead hour minute second
    · rw [if_pos h]
      change (Reading.clock? _).toOption.or none = _
      rw [Option.or_none, toOption_clock?]
    · rw [if_neg h, Clock.ofParts?_eq_none h]
      rfl
  · have many : 100 ≤ hour := Nat.le_of_not_lt hh
    have none : ¬ AreRead hour minute second := fun h => absurd h.1 (by omega)
    rw [clockChars_eq, Clock.ofParts?_eq_none none]
    change ((readItems (.hour :: .mark ':' :: _) _ _).toOption.bind _).or
      ((readItems (.hour :: .mark ':' :: _) _ _).toOption.bind _) = _
    rw [toOption_readItems_hours many, toOption_readItems_hours many]
    rfl

/-! ## Dates with a time -/

theorem firstOk_cons {α : Type} (read : List Item → Except Fault α) (p : List Item)
    (ps : List (List Item)) : firstOk read (p :: ps) = (read p).toOption.or (firstOk read ps) := by
  rw [firstOk]
  cases read p <;> rfl

theorem toOption_stamp? (r : Reading) :
    r.stamp?.toOption = (Date.ofParts? r.year r.month r.day).bind fun d =>
      (Clock.ofParts? r.hour r.minute r.second r.nano).map fun c => ⟨d, c⟩ := by
  rw [Reading.stamp?, toOption_bind, toOption_date?]
  cases Date.ofParts? r.year r.month r.day with
  | none => rfl
  | some d =>
    change (r.clock? >>= fun c => Except.ok (⟨d, c⟩ : Stamp)).toOption = _
    rw [toOption_bind, toOption_clock?]
    cases Clock.ofParts? r.hour r.minute r.second r.nano <;> rfl

/-- A date is read with a time in some form, or else alone. -/
theorem toOption_readStamp (s : String) : (readStamp s).toOption =
    (firstOk (readStampBy · s) stampPatterns).or
      ((readDate s).toOption.map fun d => ⟨d, .midnight⟩) := by
  unfold readStamp
  cases firstOk (readStampBy · s) stampPatterns with
  | none => exact toOption_map _ _
  | some x => rfl

/-- **A date and a time read as those that they name**, and do not read if there is no such day or
no such time. -/
theorem readStamp_chars {year : Int} {month day hour minute second : Nat} {fraction : List Char}
    (hy : year.natAbs < 2 ^ 31) (hm : month < 100) (hd : day < 100) (hh : hour < 100)
    (hmin : minute < 100) (hs : second < 100) (digits : AreDigits fraction) :
    (readStamp (String.ofList
        (dateChars year month day ++ ' ' :: clockChars hour minute second fraction))).toOption =
      (Date.ofParts? year month day).bind fun d =>
        (Clock.ofParts? hour minute second (Clock.nanosOf fraction)).map fun c => ⟨d, c⟩ := by
  have seconds (r : Reading) (start : r.nano = 0) :=
    toOption_readItems_clock hh hmin hs digits start
  have minutes (r : Reading) := toOption_readItems_minutes hh hmin second fraction [] r
  have starts := skipBlanks_clockChars hour minute second fraction []
  rw [List.append_nil] at minutes starts
  generalize clockChars hour minute second fraction = clock at seconds minutes starts ⊢
  have dated (is : List Item) := toOption_readItems_date hy hm hd is .start (' ' :: clock)
  -- The blank is no mark, and it is a gap; a date alone leaves it over.
  have marked (is : List Item) (r : Reading) :
      (readItems (.mark 'T' :: is) r (' ' :: clock)).toOption = none := by
    rw [toOption_readItems_mark]
    rfl
  have gap (is : List Item) (r : Reading) :
      (readItems (.gap :: is) r (' ' :: clock)).toOption = (readItems is r clock).toOption := by
    have blank : Text.skipBlanks (' ' :: clock) = Text.skipBlanks clock := rfl
    rw [toOption_readItems_gap, blank, starts]
  have alone (r : Reading) : (readItems [] r (' ' :: clock)).toOption = none := rfl
  have date : (readItems datePattern .start (dateChars year month day ++ ' ' :: clock)).toOption =
      none := by
    have read := dated []
    rwa [List.append_nil, alone, ite_self] at read
  rw [toOption_readStamp, stampPatterns, firstOk_cons, firstOk_cons, firstOk_cons, firstOk_cons]
  simp only [readStampBy, readDate, toOption_bind, String.toList_ofList, dated, marked, gap,
    minutes, date, firstOk, ite_self, Option.bind_none, Option.map_none, Option.none_or,
    Option.or_none]
  by_cases days : (1 ≤ month ∧ month ≤ 12) ∧ 1 ≤ day ∧ day ≤ 31
  · rw [if_pos days, seconds _ rfl]
    by_cases times : AreRead hour minute second
    · rw [if_pos times]
      exact toOption_stamp? _
    · rw [if_neg times, Clock.ofParts?_eq_none times]
      cases Date.ofParts? year month day <;> rfl
  · rw [if_neg days, Date.ofParts?_eq_none days]
    rfl

end SqlBroker.Calendar
