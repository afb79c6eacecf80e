import SqlBroker.Proofs.Calendar.Micros
import SqlBroker.Proofs.Except
import SqlBroker.Proofs.Value.Worded
import SqlBroker.Session.Param

/-!
# What parameters carry

A parameter has a type of the database and a cell that holds the value. Truth values, numbers and
texts are held as they are, or a truth value as one or zero. Of dates and times SQLite takes the
texts; Postgres takes those of what it keeps, in whole microseconds; MySQL takes plain numbers, a
year from zero to 65535 among them, so that dates of other years cannot be sent.

Concerns `bind_params` (SPEC_FULL.md, section 11).

Headlines:
* **`ofValue_eq_ok_iff`**, **`exists_carries_iff`**: a value is sent as the parameter that carries
  it, and there is one unless MySQL is to take another year.
* **`ofValues_eq_ok_iff`**, **`exists_ofValues_iff`**: values are sent one for one and in their
  order, all of them or none.
-/

namespace SqlBroker

open Calendar
open Text (IsPadded isPadded_iff isPadded_two_iff padded)

/-- A value as Postgres keeps it: times and stamps are cut to whole microseconds. -/
inductive Value.CutTo : Value → Value → Prop
  | date (d : Date) : CutTo (.date d) (.date d)
  | time {c c' : Clock} (cut : c.CutTo c') : CutTo (.time c) (.time c')
  | stamp {s s' : Stamp} (cut : s.CutTo s') : CutTo (.stamp s) (.stamp s')
  | instant {s s' : Stamp} (cut : s.CutTo s') : CutTo (.instant s) (.instant s')

/-- Whether a value is a date or time. -/
def Value.isTemporal : Value → Bool
  | .date _ => true
  | .time _ => true
  | .stamp _ => true
  | .instant _ => true
  | _ => false

/-- The date in a value. -/
def Value.date? : Value → Option Date
  | .date d => some d
  | .stamp s => some s.date
  | .instant s => some s.date
  | _ => none

namespace Session

/-! ## Plain numbers -/

/-- A date in plain numbers: a year has four digits or five, and no sign. -/
inductive PlainDate (d : Date) : List Char → Prop
  | intro {year : Nat} {ys ms ds : List Char} (same : d.year = year) (le : year ≤ 65535)
    (years : IsPadded 4 year ys) (months : IsPadded 2 d.month ms) (days : IsPadded 2 d.day ds) :
    PlainDate d (ys ++ '-' :: ms ++ '-' :: ds)

/-- A time in plain numbers: a fraction has the digits of the microseconds, of which a leap second
has more than a million. -/
inductive PlainClock (c : Clock) : List Char → Prop
  | whole {cs : List Char} (parts : AreParts c.hour c.minute c.second cs)
    (none : c.nano / 1000 = 0) : PlainClock c cs
  | fraction {cs ds : List Char} (parts : AreParts c.hour c.minute c.second cs)
    (some : c.nano / 1000 ≠ 0) (digits : IsPadded 6 (c.nano / 1000) ds) :
    PlainClock c (cs ++ '.' :: ds)

/-- A date and time in plain numbers. -/
inductive PlainStamp (s : Stamp) : List Char → Prop
  | intro {ds cs : List Char} (date : PlainDate s.date ds) (clock : PlainClock s.clock cs) :
    PlainStamp s (ds ++ ' ' :: cs)

/-! ## Parameters -/

namespace Param

/-- The name that a backend has for the type of a value. -/
def typeName (b : Backend) (v : Value) : String :=
  let named (postgres mysql sqlite : String) : String :=
    match b with
    | .postgres => postgres
    | .mysql => mysql
    | .sqlite => sqlite
  match v with
  | .null => named "TEXT" "VARCHAR" "NULL"
  | .bool _ => named "BOOL" "TINYINT" "INTEGER"
  | .int _ => named "INT8" "BIGINT" "INTEGER"
  | .float _ => named "FLOAT8" "DOUBLE" "REAL"
  | .text _ => named "TEXT" "VARCHAR" "TEXT"
  | .date _ => named "DATE" "DATE" "TEXT"
  | .time _ => named "TIME" "TIME" "TEXT"
  | .stamp _ => named "TIMESTAMP" "DATETIME" "TEXT"
  | .instant _ => named "TIMESTAMPTZ" "TIMESTAMP" "TEXT"
  | .json _ => named "JSONB" "CHAR" "TEXT"

/-- The text that a backend takes for a date or time. -/
inductive Spelled : Backend → Value → String → Prop
  | whole {v : Value} {s : String} (temporal : v.isTemporal) (worded : v.Worded s) :
    Spelled .sqlite v s
  | cut {v kept : Value} {s : String} (cut : v.CutTo kept) (worded : kept.Worded s) :
    Spelled .postgres v s
  | date {d : Date} {cs : List Char} (plain : PlainDate d cs) :
    Spelled .mysql (.date d) (String.ofList cs)
  | time {c : Clock} {cs : List Char} (plain : PlainClock c cs) :
    Spelled .mysql (.time c) (String.ofList cs)
  | stamp {s : Stamp} {cs : List Char} (plain : PlainStamp s cs) :
    Spelled .mysql (.stamp s) (String.ofList cs)
  | instant {s : Stamp} {cs : List Char} (plain : PlainStamp s cs) :
    Spelled .mysql (.instant s) (String.ofList cs)

/-- The cell that holds a value on a backend. -/
inductive Holds : Backend → Value → Cell → Prop
  | null {b : Backend} : Holds b .null .null
  | bool (x : Bool) : Holds .postgres (.bool x) (.bool x)
  | bit {b : Backend} (other : b ≠ .postgres) (x : Bool) : Holds b (.bool x) (.int x.toInt)
  | int {b : Backend} (n : Int) : Holds b (.int n) (.int n)
  | float {b : Backend} (x : Decimal.Binary64) : Holds b (.float x) (.float x)
  | text {b : Backend} (s : String) : Holds b (.text s) (.text s.toUTF8.data.toList)
  | json {b : Backend} {j : Json} {s : String} (worded : (Value.json j).Worded s) :
    Holds b (.json j) (.text s.toUTF8.data.toList)
  | temporal {b : Backend} {v : Value} {s : String} (spelled : Spelled b v s) :
    Holds b v (.text s.toUTF8.data.toList)

/-- A parameter that carries a value. -/
structure Carries (b : Backend) (v : Value) (p : Param) : Prop where
  type : p.type = typeName b v
  value : Holds b v p.value

/-- Whether a value has a form in which it can be sent. -/
def Sendable (b : Backend) (v : Value) : Prop :=
  b = .mysql → ∀ d ∈ v.date?, 0 ≤ d.year ∧ d.year ≤ 65535

/-! ### Plain numbers -/

theorem plainDate_iff {d : Date} {cs : List Char} :
    PlainDate d cs ↔ (0 ≤ d.year ∧ d.year ≤ yearMax) ∧ cs = plainDate d := by
  have digits {n : Nat} {ds : List Char} : IsPadded 4 n ds ↔ ds = padded 4 n :=
    isPadded_iff (by decide)
  unfold yearMax plainDate
  constructor
  · rintro ⟨same, le, years, months, days⟩
    rw [digits.mp years, isPadded_two_iff.mp months, isPadded_two_iff.mp days, same]
    exact ⟨by omega, rfl⟩
  · rintro ⟨⟨low, high⟩, rfl⟩
    exact .intro (Int.toNat_of_nonneg low).symm (by omega) (digits.mpr rfl)
      (isPadded_two_iff.mpr rfl) (isPadded_two_iff.mpr rfl)

theorem plainClock_iff {c : Clock} {cs : List Char} : PlainClock c cs ↔ cs = plainClock c := by
  have digits {n : Nat} {ds : List Char} : IsPadded 6 n ds ↔ ds = padded 6 n :=
    isPadded_iff (by decide)
  unfold plainClock Clock.micro
  constructor
  · rintro (⟨parts, none⟩ | ⟨parts, some, fraction⟩)
    · rw [if_pos none, List.append_nil]
      exact areParts_iff.mp parts
    · rw [if_neg some, areParts_iff.mp parts, digits.mp fraction]
  · rintro rfl
    split
    next none =>
      rw [List.append_nil]
      exact .whole (areParts_iff.mpr rfl) none
    next some => exact .fraction (areParts_iff.mpr rfl) some (digits.mpr rfl)

theorem plainStamp_iff {s : Stamp} {cs : List Char} :
    PlainStamp s cs ↔ (0 ≤ s.date.year ∧ s.date.year ≤ yearMax) ∧ cs = plainStamp s := by
  constructor
  · rintro ⟨date, clock⟩
    obtain ⟨range, rfl⟩ := plainDate_iff.mp date
    obtain rfl := plainClock_iff.mp clock
    exact ⟨range, rfl⟩
  · rintro ⟨range, rfl⟩
    exact .intro (plainDate_iff.mpr ⟨range, rfl⟩) (plainClock_iff.mpr rfl)

/-! ### One value -/

theorem ofText_eq (s : String) : Cell.ofText s = .text s.toUTF8.data.toList := rfl

theorem Holds.ofText {b : Backend} (s : String) : Holds b (.text s) (.ofText s) :=
  ofText_eq s ▸ .text s

theorem Holds.ofJson {b : Backend} (j : Json) :
    Holds b (.json j) (.ofText (Value.json j).patternText) :=
  ofText_eq _ ▸ .json (Value.worded_patternText rfl)

theorem Holds.ofSpelled {b : Backend} {v : Value} {s : String} (spelled : Spelled b v s) :
    Holds b v (.ofText s) :=
  ofText_eq s ▸ .temporal spelled

theorem dated_eq_ok_iff {argument : Nat} {d : Date} {type : String} {cs : List Char} {p : Param} :
    dated argument d type cs = .ok p ↔
      (0 ≤ d.year ∧ d.year ≤ yearMax) ∧ p = ⟨type, .ofText (String.ofList cs)⟩ := by
  unfold dated
  split
  next range => exact ⟨fun h => ⟨range, (Except.ok.inj h).symm⟩, fun h => h.2 ▸ rfl⟩
  next other => exact ⟨(nomatch ·), fun h => absurd h.1 other⟩

theorem carries_forPostgres (v : Value) : Carries .postgres v (forPostgres v) := by
  cases v with
  | null => exact ⟨rfl, .null⟩
  | bool x => exact ⟨rfl, .bool x⟩
  | int n => exact ⟨rfl, .int n⟩
  | float x => exact ⟨rfl, .float x⟩
  | text s => exact ⟨rfl, .ofText s⟩
  | json j => exact ⟨rfl, .ofJson j⟩
  | date d => exact ⟨rfl, .ofSpelled (.cut (.date d) (Value.worded_patternText rfl))⟩
  | time c =>
    exact ⟨rfl, .ofSpelled (.cut (.time (Clock.cutTo_iff.mpr rfl)) (Value.worded_patternText rfl))⟩
  | stamp s =>
    exact ⟨rfl, .ofSpelled (.cut (.stamp (Stamp.cutTo_iff.mpr rfl)) (Value.worded_patternText rfl))⟩
  | instant s =>
    exact ⟨rfl,
      .ofSpelled (.cut (.instant (Stamp.cutTo_iff.mpr rfl)) (Value.worded_patternText rfl))⟩

theorem carries_of_forMysql {argument : Nat} {v : Value} {p : Param}
    (h : forMysql argument v = .ok p) : Carries .mysql v p := by
  cases v with
  | date d =>
    obtain ⟨range, rfl⟩ := dated_eq_ok_iff.mp h
    exact ⟨rfl, .ofSpelled (.date (plainDate_iff.mpr ⟨range, rfl⟩))⟩
  | stamp s =>
    obtain ⟨range, rfl⟩ := dated_eq_ok_iff.mp h
    exact ⟨rfl, .ofSpelled (.stamp (plainStamp_iff.mpr ⟨range, rfl⟩))⟩
  | instant s =>
    obtain ⟨range, rfl⟩ := dated_eq_ok_iff.mp h
    exact ⟨rfl, .ofSpelled (.instant (plainStamp_iff.mpr ⟨range, rfl⟩))⟩
  | time c =>
    obtain rfl := Except.ok.inj h
    exact ⟨rfl, .ofSpelled (.time (plainClock_iff.mpr rfl))⟩
  | null => exact Except.ok.inj h ▸ ⟨rfl, .null⟩
  | bool x =>
    obtain rfl := Except.ok.inj h
    cases x with
    | true => exact ⟨rfl, .bit (by decide) true⟩
    | false => exact ⟨rfl, .bit (by decide) false⟩
  | int n => exact Except.ok.inj h ▸ ⟨rfl, .int n⟩
  | float x => exact Except.ok.inj h ▸ ⟨rfl, .float x⟩
  | text s => exact Except.ok.inj h ▸ ⟨rfl, .ofText s⟩
  | json j => exact Except.ok.inj h ▸ ⟨rfl, .ofJson j⟩

theorem carries_forSqlite (v : Value) : Carries .sqlite v (forSqlite v) := by
  have whole {v : Value} (temporal : v.isTemporal) (some : v.isNull = false) :
      Holds .sqlite v (.ofText v.patternText) :=
    .ofSpelled (.whole temporal (Value.worded_patternText some))
  cases v with
  | null => exact ⟨rfl, .null⟩
  | bool x =>
    cases x with
    | true => exact ⟨rfl, .bit (by decide) true⟩
    | false => exact ⟨rfl, .bit (by decide) false⟩
  | int n => exact ⟨rfl, .int n⟩
  | float x => exact ⟨rfl, .float x⟩
  | text s => exact ⟨rfl, .ofText s⟩
  | json j => exact ⟨rfl, .ofJson j⟩
  | date d => exact ⟨rfl, whole (v := .date d) rfl rfl⟩
  | time c => exact ⟨rfl, whole (v := .time c) rfl rfl⟩
  | stamp s => exact ⟨rfl, whole (v := .stamp s) rfl rfl⟩
  | instant s => exact ⟨rfl, whole (v := .instant s) rfl rfl⟩

/-- **A value is sent as the parameter that carries it.** -/
theorem ofValue_eq_ok_iff {b : Backend} (argument : Nat) {v : Value} {p : Param} :
    ofValue b argument v = .ok p ↔ Carries b v p := by
  constructor
  · intro h
    cases b with
    | postgres => exact Except.ok.inj h ▸ carries_forPostgres v
    | mysql => exact carries_of_forMysql h
    | sqlite => exact Except.ok.inj h ▸ carries_forSqlite v
  · obtain ⟨type, cell⟩ := p
    rintro ⟨rfl, holds⟩
    cases holds with
    | null => cases b <;> rfl
    | bool x => rfl
    | bit other x =>
      cases b with
      | postgres => exact absurd rfl other
      | mysql => cases x <;> rfl
      | sqlite => cases x <;> rfl
    | int n => cases b <;> rfl
    | float x => cases b <;> rfl
    | text s =>
      rw [← ofText_eq]
      cases b <;> rfl
    | json worded =>
      rw [← ofText_eq, worded.eq_patternText]
      cases b <;> rfl
    | temporal spelled =>
      rw [← ofText_eq]
      cases spelled with
      | whole temporal worded =>
        rw [worded.eq_patternText]
        cases v with
        | date d => rfl
        | time c => rfl
        | stamp s => rfl
        | instant s => rfl
        | _ => cases temporal
      | cut cut worded =>
        rw [worded.eq_patternText]
        cases cut with
        | date d => rfl
        | time cut => exact Clock.cutTo_iff.mp cut ▸ rfl
        | stamp cut => exact Stamp.cutTo_iff.mp cut ▸ rfl
        | instant cut => exact Stamp.cutTo_iff.mp cut ▸ rfl
      | date plain =>
        obtain ⟨range, rfl⟩ := plainDate_iff.mp plain
        exact dated_eq_ok_iff.mpr ⟨range, rfl⟩
      | time plain =>
        obtain rfl := plainClock_iff.mp plain
        rfl
      | stamp plain =>
        obtain ⟨range, rfl⟩ := plainStamp_iff.mp plain
        exact dated_eq_ok_iff.mpr ⟨range, rfl⟩
      | instant plain =>
        obtain ⟨range, rfl⟩ := plainStamp_iff.mp plain
        exact dated_eq_ok_iff.mpr ⟨range, rfl⟩

theorem exists_dated_iff {argument : Nat} {d : Date} {type : String} {cs : List Char} :
    (∃ p, dated argument d type cs = .ok p) ↔ 0 ≤ d.year ∧ d.year ≤ yearMax := by
  simp [dated_eq_ok_iff]

/-- **There is a parameter for each value**, unless MySQL is to take a date of another year. -/
theorem exists_carries_iff {b : Backend} {v : Value} :
    (∃ p, Carries b v p) ↔ Sendable b v := by
  simp only [← ofValue_eq_ok_iff 1]
  cases b with
  | postgres => exact ⟨fun _ => nofun, fun _ => ⟨_, rfl⟩⟩
  | sqlite => exact ⟨fun _ => nofun, fun _ => ⟨_, rfl⟩⟩
  | mysql =>
    have dated {v : Value} {d : Date} (has : v.date? = some d) :
        (0 ≤ d.year ∧ d.year ≤ yearMax) ↔ Sendable .mysql v := by
      simp [Sendable, has, yearMax]
    have undated {v : Value} (none : v.date? = none) : Sendable .mysql v := by
      simp [Sendable, none]
    cases v with
    | date d => exact exists_dated_iff.trans (dated rfl)
    | stamp s => exact exists_dated_iff.trans (dated rfl)
    | instant s => exact exists_dated_iff.trans (dated rfl)
    | _ => exact ⟨fun _ => undated rfl, fun _ => ⟨_, rfl⟩⟩

/-! ### Several values -/

/-- **Values are sent one for one**, in their order. -/
theorem ofValues_eq_ok_iff {b : Backend} : ∀ (argument : Nat) {vs : List Value} {ps : List Param},
    ofValues b argument vs = .ok ps ↔ List.Forall₂ (Carries b) vs ps
  | argument, [], ps => by
    rw [List.forall₂_nil_left_iff]
    exact ⟨fun h => (Except.ok.inj h).symm, fun h => h ▸ rfl⟩
  | argument, v :: vs, ps => by
    rw [List.forall₂_cons_left_iff]
    constructor
    · intro h
      obtain ⟨p, hp, h⟩ := bind_eq_ok_iff.mp h
      obtain ⟨qs, hqs, h⟩ := bind_eq_ok_iff.mp h
      have carries := (ofValue_eq_ok_iff _).mp hp
      exact ⟨p, qs, carries, (ofValues_eq_ok_iff _).mp hqs, (Except.ok.inj h).symm⟩
    · rintro ⟨p, qs, carries, rest, rfl⟩
      have hp := (ofValue_eq_ok_iff argument).mpr carries
      have hqs := (ofValues_eq_ok_iff (argument + 1)).mpr rest
      exact bind_eq_ok_iff.mpr ⟨p, hp, bind_eq_ok_iff.mpr ⟨qs, hqs, rfl⟩⟩

/-- **All values are sent or none are**: each needs a form. -/
theorem exists_ofValues_iff {b : Backend} (argument : Nat) {vs : List Value} :
    (∃ ps, ofValues b argument vs = .ok ps) ↔ ∀ v ∈ vs, Sendable b v := by
  simp only [ofValues_eq_ok_iff, ← exists_carries_iff]
  induction vs with
  | nil => simp
  | cons v vs ih =>
    rw [List.forall_mem_cons, ← ih]
    constructor
    · rintro ⟨_, sent⟩
      obtain ⟨p, ps, carries, rest, -⟩ := List.forall₂_cons_left_iff.mp sent
      exact ⟨⟨p, carries⟩, ps, rest⟩
    · rintro ⟨⟨p, carries⟩, ps, rest⟩
      exact ⟨p :: ps, .cons carries rest⟩

end Param

end Session

end SqlBroker
