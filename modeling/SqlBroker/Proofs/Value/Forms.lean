import Mathlib.Data.List.Pairwise
import SqlBroker.Proofs.Calendar.Forms
import SqlBroker.Proofs.Value.Printed

/-!
# Forms of dates and times

A time and a date with a time may be written in several forms, which are tried one after the other.
The order does not matter: a text is in one form at most, so that any order finds the same value,
and finds none only where no form fits.

Concerns `parse_time` and `parse_datetime` (SPEC_FULL.md, section 4.1).

Headline:
* **`Value.read_unambiguous`**: the forms of times and those of dates with a time.
-/

namespace SqlBroker.Value

open Calendar

/-! ## Forms of which one fits -/

/-- No text is in both forms. -/
def Exclusive (f g : String → Option Value) : Prop := ∀ s x y, f s = some x → g s ≠ some y

instance : Std.Symm Exclusive where
  symm _ _ h := fun s x y hx hy => h s y x hy hx

/-- A reader whose forms may be tried in any order. -/
structure Unambiguous (forms : List (String → Option Value)) (read : String → Option Value) :
    Prop where
  /-- Each form is the form of some text. -/
  exists_text : ∀ form ∈ forms, ∃ s : String, (form s).isSome
  /-- A text is in one form at most. -/
  countP_le_one (s : String) : forms.countP (fun form => (form s).isSome) ≤ 1
  /-- In any order, the first form that fits gives what is read. -/
  findSome?_eq (s : String) {order : List (String → Option Value)} (h : order.Perm forms) :
    order.findSome? (· s) = read s
  /-- What is read is what some form gives. -/
  read_eq_some_iff (s : String) (v : Value) : read s = some v ↔ ∃ form ∈ forms, form s = some v

section Unambiguous

variable {forms : List (String → Option Value)} {read : String → Option Value}

theorem countP_le_one_of_pairwise : ∀ {forms : List (String → Option Value)},
    forms.Pairwise Exclusive → ∀ s : String, forms.countP (fun form => (form s).isSome) ≤ 1
  | [], _, _ => Nat.zero_le 1
  | form :: forms, h, s => by
    obtain ⟨alone, later⟩ := List.pairwise_cons.mp h
    rw [List.countP_cons]
    split
    next fits =>
      obtain ⟨x, hx⟩ := Option.isSome_iff_exists.mp fits
      have none : forms.countP (fun form => (form s).isSome) = 0 := by
        refine List.countP_eq_zero.mpr fun other mem found => ?_
        obtain ⟨y, hy⟩ := Option.isSome_iff_exists.mp found
        exact alone other mem s x y hx hy
      exact Nat.le_of_eq (congrArg (· + 1) none)
    next => exact countP_le_one_of_pairwise later s

/-- Where no text is in two forms, the first that fits is the only one. -/
theorem findSome?_eq_some_iff_of_pairwise (h : forms.Pairwise Exclusive) {s : String} {v : Value} :
    forms.findSome? (· s) = some v ↔ ∃ form ∈ forms, form s = some v := by
  constructor
  · exact List.exists_of_findSome?_eq_some
  · rintro ⟨form, mem, hv⟩
    have found : (forms.findSome? (· s)).isSome :=
      List.findSome?_isSome_iff.mpr ⟨form, mem, Option.isSome_of_eq_some hv⟩
    obtain ⟨w, hw⟩ := Option.isSome_iff_exists.mp found
    obtain ⟨first, mem', hf⟩ := List.exists_of_findSome?_eq_some hw
    -- The form that is found first is the one that fits, or a text would be in both.
    by_cases same : first = form
    · rw [hw, ← hf, same, hv]
    · exact absurd hv (h.forall mem' mem same s w v hf)

theorem Unambiguous.of_pairwise (texts : ∀ form ∈ forms, ∃ s : String, (form s).isSome)
    (h : forms.Pairwise Exclusive) (first : ∀ s, read s = forms.findSome? (· s)) :
    Unambiguous forms read where
  exists_text := texts
  countP_le_one := countP_le_one_of_pairwise h
  findSome?_eq s order perm := by
    have either : order.Pairwise Exclusive := (perm.pairwise_iff fun h => Std.Symm.symm _ _ h).mpr h
    refine Option.ext fun v => ?_
    rw [first, findSome?_eq_some_iff_of_pairwise either, findSome?_eq_some_iff_of_pairwise h]
    exact exists_congr fun form => and_congr_left fun _ => perm.mem_iff
  read_eq_some_iff s v := by rw [first, findSome?_eq_some_iff_of_pairwise h]

end Unambiguous

/-! ## The forms -/

/-- A time of day in the form of a pattern. -/
def clockForm (pattern : List Item) (s : String) : Option Value :=
  (readClockBy pattern s).toOption.map .time

/-- A date with a time in the form of a pattern. -/
def stampForm (pattern : List Item) (s : String) : Option Value :=
  (readStampBy pattern s).toOption.map .stamp

/-- A date alone, which is its midnight. -/
def midnightForm (s : String) : Option Value :=
  (readDate s).toOption.map fun d => .stamp ⟨d, .midnight⟩

/-- A date and a time with an offset. -/
def instantForm (s : String) : Option Value := (readInstant? s).map .instant

/-- The forms of times: with seconds and without them. -/
def clockForms : List (String → Option Value) := clockPatterns.map clockForm

/-- The forms of dates with a time: with an offset, with seconds, without them, and without any
time, where there is a letter before the time or white space. -/
def momentForms : List (String → Option Value) :=
  instantForm :: (stampPatterns.map stampForm ++ [midnightForm])

theorem exists_text_clockForms : ∀ form ∈ clockForms, ∃ s : String, (form s).isSome :=
  List.forall_mem_cons.mpr ⟨⟨"03:04:05.678", by decide⟩,
    List.forall_mem_singleton.mpr ⟨"03:04", by decide⟩⟩

theorem exists_text_momentForms : ∀ form ∈ momentForms, ∃ s : String, (form s).isSome := by
  simp only [momentForms, stampPatterns, List.map_cons, List.map_nil, List.cons_append,
    List.nil_append, List.forall_mem_cons]
  exact ⟨⟨"2024-02-29t23:59:60.5-00:00", by decide⟩, ⟨"2024-02-29T23:59:60.5", by decide⟩,
    ⟨"2024-02-29 23:59:60.5", by decide⟩, ⟨"+12024-2-29T3:4", by decide⟩,
    ⟨"2024-02-2903:04", by decide⟩, ⟨"2024-02-29", by decide⟩, List.forall_mem_nil _⟩

/-- What is in a form is read by the pattern. -/
def Follows (f : String → Option Value) (pattern : List Item) : Prop :=
  ∀ s v, f s = some v → ∃ r, readItems pattern .start s.toList = .ok r

/-- A form that finishes what its pattern has read follows it. -/
theorem follows_map {α : Type} (pattern : List Item) (finish : Reading → Except Calendar.Fault α)
    (f : α → Value) :
    Follows (fun s => (readItems pattern .start s.toList >>= finish).toOption.map f) pattern := by
  intro s v h
  obtain ⟨a, ha, -⟩ := Option.map_eq_some_iff.mp h
  obtain ⟨r, hr, -⟩ := bind_eq_ok_iff.mp (toOption_eq_some_iff.mp ha)
  exact ⟨r, hr⟩

theorem follows_clockForm (p : List Item) : Follows (clockForm p) p := follows_map p _ _

theorem follows_stampForm (p : List Item) : Follows (stampForm p) p := follows_map p _ _

theorem follows_midnightForm : Follows midnightForm datePattern := follows_map datePattern _ _

section Follows

variable {f g : String → Option Value} {p q : List Item}

/-- Forms of patterns that part are exclusive. -/
theorem Follows.exclusive (hf : Follows f p) (hg : Follows g q) (h : Apart p q) :
    Exclusive f g := by
  intro s x y hx hy
  obtain ⟨r, hr⟩ := hf s x hx
  obtain ⟨r', hr'⟩ := hg s y hy
  exact h .start s.toList r r' hr hr'

/-- An instant is in the form of no pattern. -/
theorem Follows.exclusive_instantForm (hf : Follows f p) (h : p ∈ stampPatterns ++ [datePattern]) :
    Exclusive instantForm f := by
  intro s x y hx hy
  obtain ⟨u, hu, -⟩ := Option.map_eq_some_iff.mp hx
  obtain ⟨z, rfl, -⟩ := readInstant?_eq_some_iff.mp hu
  obtain ⟨r, hr⟩ := hf z.text y hy
  have unread := z.toOption_readItems_text p h
  rw [hr] at unread
  exact nomatch unread

end Follows

theorem pairwise_exclusive_clockForms : clockForms.Pairwise Exclusive :=
  List.pairwise_map.mpr (pairwise_apart_clockPatterns.imp fun h =>
    (follows_clockForm _).exclusive (follows_clockForm _) h)

theorem pairwise_exclusive_momentForms : momentForms.Pairwise Exclusive := by
  obtain ⟨stamps, -, date⟩ := List.pairwise_append.mp pairwise_apart_stampPatterns
  have instants : ∀ form ∈ stampPatterns.map stampForm ++ [midnightForm],
      Exclusive instantForm form :=
    List.forall_mem_append.mpr
      ⟨List.forall_mem_map.mpr fun p hp =>
        (follows_stampForm p).exclusive_instantForm (List.mem_append_left _ hp),
      List.forall_mem_singleton.mpr
        (follows_midnightForm.exclusive_instantForm (List.mem_append_right _ List.mem_cons_self))⟩
  have timed : (stampPatterns.map stampForm).Pairwise Exclusive :=
    List.pairwise_map.mpr (stamps.imp fun h =>
      (follows_stampForm _).exclusive (follows_stampForm _) h)
  have dated : ∀ form ∈ stampPatterns.map stampForm, ∀ other ∈ [midnightForm],
      Exclusive form other :=
    List.forall_mem_map.mpr fun p hp => List.forall_mem_singleton.mpr
      ((follows_stampForm p).exclusive follows_midnightForm (date p hp _ List.mem_cons_self))
  exact List.pairwise_cons.mpr ⟨instants,
    List.pairwise_append.mpr ⟨timed, List.pairwise_singleton _ _, dated⟩⟩

/-! ## What is read -/

theorem firstOk_eq_findSome? {α : Type} (read : List Item → Except Calendar.Fault α) :
    ∀ ps : List (List Item), firstOk read ps = ps.findSome? fun p => (read p).toOption
  | [] => rfl
  | p :: ps => by
    rw [firstOk_cons, List.findSome?_cons, firstOk_eq_findSome? read ps]
    cases (read p).toOption <;> rfl

theorem findSome?_clockForms (s : String) :
    clockForms.findSome? (· s) = (readClock s).toOption.map .time := by
  rw [toOption_readClock, clockForms, clockPatterns]
  simp only [List.map_cons, List.map_nil, List.findSome?_cons, List.findSome?_nil, clockForm]
  cases (readClockBy secondPattern s).toOption with
  | some c => rfl
  | none => cases (readClockBy minutePattern s).toOption <;> rfl

theorem findSome?_stampForms (s : String) :
    (stampPatterns.map stampForm ++ [midnightForm]).findSome? (· s) =
      (readStamp s).toOption.map .stamp := by
  have timed : (stampPatterns.map stampForm).findSome? (· s) =
      (firstOk (readStampBy · s) stampPatterns).map .stamp := by
    rw [firstOk_eq_findSome?, List.map_findSome?, List.findSome?_map]
    rfl
  rw [List.findSome?_append, timed, toOption_readStamp]
  simp only [List.findSome?_cons, List.findSome?_nil, midnightForm]
  cases firstOk (readStampBy · s) stampPatterns with
  | some x => rfl
  | none => cases (readDate s).toOption <;> rfl

theorem findSome?_momentForms (s : String) :
    momentForms.findSome? (· s) = (readMoment s).toOption := by
  rw [momentForms, List.findSome?_cons, findSome?_stampForms, instantForm]
  unfold readMoment
  cases readInstant? s with
  | some x => rfl
  | none => exact (toOption_map _ _).symm

/-- **Times and dates with a time are read unambiguously**: a text is in one form at most, any
order of the forms finds what is read, and a text is read iff some form fits. -/
theorem read_unambiguous :
    Unambiguous clockForms (fun s => (read (some .time) (.string s)).toOption) ∧
      Unambiguous momentForms (fun s => (read (some .datetime) (.string s)).toOption) ∧
      Unambiguous momentForms fun s => (read (some .datetimeCustom) (.string s)).toOption := by
  have moment (type : ValueType) (s : String) :
      (ofText type readMoment (.string s)).toOption = momentForms.findSome? (· s) :=
    (toOption_mapError _ _).trans (findSome?_momentForms s).symm
  have clock (s : String) :
      (ofText .time (fun s => (readClock s).map .time) (.string s)).toOption =
        clockForms.findSome? (· s) :=
    ((toOption_mapError _ _).trans (toOption_map _ _)).trans (findSome?_clockForms s).symm
  have moments (type : ValueType) := Unambiguous.of_pairwise exists_text_momentForms
    pairwise_exclusive_momentForms (moment type)
  exact ⟨.of_pairwise exists_text_clockForms pairwise_exclusive_clockForms clock,
    moments .datetime, moments .datetimeCustom⟩

end SqlBroker.Value
