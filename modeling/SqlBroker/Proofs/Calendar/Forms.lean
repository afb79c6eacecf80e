import SqlBroker.Proofs.Calendar.Zoned

/-!
# Texts in one form

Patterns share their beginnings, and what follows a common beginning is read off one and the same
rest of the text. There they part: one has come to its end where the other needs more, or one needs
a letter where the other needs a number. So no text is in the forms of two patterns. An instant has
its offset at the end, which every pattern leaves over.

Headlines:
* **`pairwise_apart_stampPatterns`**, **`pairwise_apart_clockPatterns`**: no text is read by two
  patterns.
* **`Zoned.toOption_readItems_text`**: an instant is read by none of them.
-/

namespace SqlBroker.Calendar

/-! ## Patterns that part -/

/-- No text is read by both lists of items. -/
def Apart (is js : List Item) : Prop :=
  ∀ (r : Reading) (cs : List Char) (x y : Reading),
    readItems is r cs = .ok x → readItems js r cs ≠ .ok y

namespace Apart

variable {is js : List Item}

theorem symm (h : Apart is js) : Apart js is := fun r cs x y hx hy => h r cs y x hy hx

/-- Behind an item that both begin with, they read the same rest. -/
theorem cons (i : Item) (h : Apart is js) : Apart (i :: is) (i :: js) := by
  intro r cs x y hx hy
  obtain ⟨⟨r', rest⟩, read, hx⟩ := bind_eq_ok_iff.mp hx
  obtain ⟨⟨r'', rest'⟩, read', hy⟩ := bind_eq_ok_iff.mp hy
  obtain ⟨rfl, rfl⟩ := Prod.mk.inj (Except.ok.inj (read.symm.trans read'))
  exact h r' rest x y hx hy

theorem append (start : List Item) (h : Apart is js) : Apart (start ++ is) (start ++ js) := by
  induction start with
  | nil => exact h
  | cons i start ih => exact ih.cons i

end Apart

section Starts

variable {is : List Item} {r x : Reading} {cs : List Char}

theorem eq_nil_of_readItems (h : readItems [] r cs = .ok x) : cs = [] := by
  cases cs with
  | nil => rfl
  | cons c cs => exact nomatch h

theorem exists_mark_of_readItems {m : Char} (h : readItems (.mark m :: is) r cs = .ok x) :
    ∃ rest, cs = m :: rest := by
  obtain ⟨_, read, -⟩ := bind_eq_ok_iff.mp h
  obtain ⟨_, mark, -⟩ := bind_eq_ok_iff.mp read
  cases cs with
  | nil => exact nomatch mark
  | cons c cs =>
    rw [readMark] at mark
    split at mark
    next same => exact ⟨cs, congrArg (· :: cs) same⟩
    next => cases mark

/-- Behind a gap an hour starts with a digit. -/
theorem exists_digit_of_readItems (h : readItems (.gap :: .hour :: is) r cs = .ok x) :
    ∃ c rest, Text.skipBlanks cs = c :: rest ∧ c.isDigit := by
  obtain ⟨_, gap, h⟩ := bind_eq_ok_iff.mp h
  obtain rfl := Except.ok.inj gap
  obtain ⟨_, hour, -⟩ := bind_eq_ok_iff.mp h
  obtain ⟨_, number, -⟩ := bind_eq_ok_iff.mp hour
  obtain ⟨_, digits, -⟩ := bind_eq_ok_iff.mp number
  -- The gap leaves no white space for the hour to skip.
  rw [Text.skipBlanks_skipBlanks] at digits
  cases same : Text.skipBlanks cs with
  | nil =>
    rw [same] at digits
    exact nomatch digits
  | cons c rest =>
    rw [same, digitsUpTo] at digits
    split at digits
    next digit => exact ⟨c, rest, rfl, digit⟩
    next => cases digits

end Starts

section Parting

variable (is js : List Item)

theorem apart_end_mark (m : Char) : Apart [] (.mark m :: is) := by
  intro r cs x y hx hy
  obtain rfl := eq_nil_of_readItems hx
  obtain ⟨rest, same⟩ := exists_mark_of_readItems hy
  exact nomatch same

theorem apart_end_gap : Apart [] (.gap :: .hour :: is) := by
  intro r cs x y hx hy
  obtain rfl := eq_nil_of_readItems hx
  obtain ⟨c, rest, same, -⟩ := exists_digit_of_readItems hy
  exact nomatch same

/-- A letter is no gap, and no hour starts with it. -/
theorem apart_letter_gap : Apart (.mark 'T' :: is) (.gap :: .hour :: js) := by
  intro r cs x y hx hy
  obtain ⟨rest, rfl⟩ := exists_mark_of_readItems hx
  obtain ⟨c, rest', same, digit⟩ := exists_digit_of_readItems hy
  have letter : Text.skipBlanks ('T' :: rest) = 'T' :: rest := rfl
  obtain ⟨rfl, -⟩ := List.cons.inj (letter.symm.trans same)
  exact absurd digit (by decide)

end Parting

/-- The pattern with seconds goes on where the one without them ends. -/
theorem apart_second_minute : Apart secondPattern minutePattern :=
  ((apart_end_mark [.second, .fraction] ':').append minutePattern).symm

/-- The ways to write a time of day, in the order in which they are tried. -/
def clockPatterns : List (List Item) := [secondPattern, minutePattern]

/-- **No text is a time in two forms.** -/
theorem pairwise_apart_clockPatterns : clockPatterns.Pairwise Apart :=
  List.pairwise_pair.mpr apart_second_minute

/-- What may stand behind a date, in the order in which it is tried. -/
def behindDate : List (List Item) :=
  [.mark 'T' :: secondPattern, .gap :: secondPattern, .mark 'T' :: minutePattern,
   .gap :: minutePattern, []]

theorem pairwise_apart_behindDate : behindDate.Pairwise Apart := by
  have letters := apart_second_minute.cons (.mark 'T')
  have gaps := apart_second_minute.cons .gap
  have letter (is js : List Item) := apart_letter_gap is js
  have gap (is js : List Item) := (apart_letter_gap is js).symm
  have endMark (is : List Item) := (apart_end_mark is 'T').symm
  have endGap (is : List Item) := (apart_end_gap is).symm
  simp only [behindDate, List.pairwise_cons, List.forall_mem_cons, List.not_mem_nil, false_implies,
    implies_true, and_true, List.Pairwise.nil]
  exact ⟨⟨letter _ _, letters, letter _ _, endMark _⟩, ⟨gap _ _, gaps, endGap _⟩,
    ⟨letter _ _, endMark _⟩, endGap _⟩

/-- The ways to write a date with a time or alone are those of what stands behind the date. -/
theorem stampPatterns_append : stampPatterns ++ [datePattern] = behindDate.map (datePattern ++ ·) :=
  rfl

/-- **No text is a date with a time, or a date alone, in two forms.** -/
theorem pairwise_apart_stampPatterns : (stampPatterns ++ [datePattern]).Pairwise Apart := by
  rw [stampPatterns_append, List.pairwise_map]
  exact pairwise_apart_behindDate.imp fun h => h.append datePattern

/-! ## Instants -/

/-- What no pattern of a time reads, no pattern reads behind a date and a mark. -/
theorem toOption_readItems_behindDate {mark : Char} (marks : mark ∈ ['T', 't', ' '])
    {cs : List Char} (starts : Text.skipBlanks cs = cs) {r : Reading}
    (clock : ∀ p ∈ clockPatterns, (readItems p r cs).toOption = none) :
    ∀ is ∈ behindDate, (readItems is r (mark :: cs)).toOption = none := by
  have letter (p : List Item) (hp : p ∈ clockPatterns) :
      (readItems (.mark 'T' :: p) r (mark :: cs)).toOption = none := by
    rw [toOption_readItems_mark, clock p hp]
    exact ite_self none
  have gap (p : List Item) (hp : p ∈ clockPatterns) :
      (readItems (.gap :: p) r (mark :: cs)).toOption = none := by
    rw [toOption_readItems_gap]
    simp only [clockPatterns, List.mem_cons, List.not_mem_nil, or_false] at marks hp
    -- A letter is left for the hour to start with; a blank is gone.
    rcases marks with rfl | rfl | rfl
    · rcases hp with rfl | rfl <;> rfl
    · rcases hp with rfl | rfl <;> rfl
    · have blank : Text.skipBlanks (' ' :: cs) = Text.skipBlanks cs := rfl
      rw [blank, starts]
      exact clock p (by rcases hp with rfl | rfl <;> decide)
  simp only [behindDate, List.forall_mem_cons]
  exact ⟨letter _ (by decide), gap _ (by decide), letter _ (by decide), gap _ (by decide), rfl,
    List.forall_mem_nil _⟩

/-- **The text of an instant is in the form of no pattern**: whatever is read of it, its offset is
left over. -/
theorem Zoned.toOption_readItems_text (z : Zoned) :
    ∀ p ∈ stampPatterns ++ [datePattern], (readItems p .start z.text.toList).toOption = none := by
  obtain ⟨hour, minute, second⟩ := z.stamp.clock.shown_lt
  have starts : Text.skipBlanks (z.clockChars ++ z.zone.chars) = z.clockChars ++ z.zone.chars :=
    skipBlanks_clockChars ..
  have clock {r : Reading} (start : r.nano = 0) :
      ∀ p ∈ clockPatterns, (readItems p r (z.clockChars ++ z.zone.chars)).toOption = none := by
    refine List.forall_mem_cons.mpr
      ⟨?_, List.forall_mem_singleton.mpr (toOption_readItems_minutes hour minute _ _ _ r)⟩
    obtain ⟨c, cs, zone, -⟩ := z.zone.exists_cons
    rw [Zoned.clockChars, toOption_readItems_clock_append hour minute second z.digits
      z.zone.noDigit_chars z.zone.head?_chars_ne start, zone]
    exact ite_self none
  have years := z.year_mem
  have small : z.stamp.date.year.natAbs < 2 ^ 31 := by omega
  have text : z.text.toList = dateChars z.stamp.date.year z.stamp.date.month z.stamp.date.day ++
      z.mark :: (z.clockChars ++ z.zone.chars) := String.toList_ofList
  rw [stampPatterns_append, List.forall_mem_map, text]
  intro is mem
  rw [toOption_readItems_date small z.stamp.date.month_lt z.stamp.date.day_lt,
    toOption_readItems_behindDate z.mark_mem starts (clock rfl) is mem]
  exact ite_self none

end SqlBroker.Calendar
