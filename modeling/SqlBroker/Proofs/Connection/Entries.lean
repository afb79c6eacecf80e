import SqlBroker.Proofs.Connection.Options
import SqlBroker.Proofs.Duration
import SqlBroker.Proofs.Keyed
import SqlBroker.Proofs.Text.Encoded

/-!
# Settings are judged one by one

Whether an entry is a setting of a backend depends on the entry alone: its name is one that the
backend knows, and its value is of the kind of that name. A map gives settings iff each of its
entries does, each setting is then that of its own entry, and else the error is that of the first
entry at fault in the order of the names. So an entry that is no fault never hides another's, and
never changes another's setting.

Concerns `ConnectionOptions::parse` (SPEC_FULL.md, section 11).

Headlines:
* **`set_eq_ok_iff`**: what setting a value does, and that nothing else changes.
* **`takeEntries_eq_error_iff`**: entries fail as the first that fails by itself.
* **`alone_eq_error_iff`**, **`exists_alone_iff`**: how an entry fails by itself, and when it does
  not.
* **`judged_one_by_one`**: the same for a whole map, and for one more entry.
-/

namespace SqlBroker

/-! ## Kinds of values -/

/-- Whether a value is of a kind. A number of seconds is not less than zero, and a length of time
has to have room for it. -/
def OptionKind.Admits : OptionKind → Json → Prop
  | .seconds, j => ∃ n : Number, j = .number n ∧
      n.toFloat.isFinite = true ∧ 0 ≤ n.toFloat.toRat ∧ n.toFloat.toRat < 2 ^ 64
  | .count, j => ∃ n : ℕ, j = .int n
  | .text, j => ∃ s, j = .string s
  | .flag, j => ∃ b, j = .bool b

namespace ConnectionOptions

/-- The names that a backend knows, each with the kind of its values. -/
def registered : Backend → List (String × OptionKind)
  | .postgres =>
    [("statement_timeout_secs", .seconds), ("statement_cache_capacity", .count),
     ("application_name", .text), ("ssl_mode", .text)]
  | .mysql =>
    [("statement_timeout_secs", .seconds), ("statement_cache_capacity", .count),
     ("ssl_mode", .text), ("charset", .text)]
  | .sqlite =>
    [("statement_timeout_secs", .seconds), ("statement_cache_capacity", .count),
     ("read_only", .flag), ("create_if_missing", .flag), ("busy_timeout_secs", .seconds)]

/-- An entry that a backend takes: a name that it knows, with a value of its kind. -/
def Admissible (b : Backend) (name : String) (j : Json) : Prop :=
  ∃ kind, (name, kind) ∈ registered b ∧ kind.Admits j

/-- How an entry is at fault: its name is not known, or its value is of another kind. -/
inductive Offends (b : Backend) (name : String) (j : Json) : Error → Prop
  | foreign : (∀ kind, (name, kind) ∉ registered b) →
      Offends b name j (.requestShape (.foreignOption name b))
  | mistyped {kind} : (name, kind) ∈ registered b → ¬ kind.Admits j →
      Offends b name j (.requestShape (.mistypedOption name kind))

/-! ## Settings of all kinds -/

/-- The value of a setting. -/
inductive Setting where
  | duration (d : Duration)
  | count (n : ℕ)
  | text (s : String)
  | flag (b : Bool)
deriving DecidableEq, Repr

/-- The setting of a key, if it is set. -/
def setting (key : Key) (o : ConnectionOptions) : Option Setting :=
  match key with
  | .statementTimeout => o.statementTimeout.map .duration
  | .applicationName => o.applicationName.map .text
  | .sslMode => o.sslMode.map .text
  | .charset => o.charset.map .text
  | .statementCacheCapacity => o.statementCacheCapacity.map .count
  | .readOnly => o.readOnly.map .flag
  | .createIfMissing => o.createIfMissing.map .flag
  | .busyTimeout => o.busyTimeout.map .duration

/-- The kind of the values of a key. -/
def Key.kind : Key → OptionKind
  | .statementTimeout => .seconds
  | .applicationName => .text
  | .sslMode => .text
  | .charset => .text
  | .statementCacheCapacity => .count
  | .readOnly => .flag
  | .createIfMissing => .flag
  | .busyTimeout => .seconds

/-- Reads the value of a key. -/
def valueOf (key : Key) (j : Json) : Except Error Setting :=
  match key.kind with
  | .seconds => (secondsOf key j).map .duration
  | .count => (countOf key j).map .count
  | .text => (textOf key j).map .text
  | .flag => (flagOf key j).map .flag

/-- Settings that agree in all keys are the same. -/
theorem eq_of_setting {o o' : ConnectionOptions} (h : ∀ key, setting key o = setting key o') :
    o = o' := by
  have duration := Option.map_injective fun _ _ => Setting.duration.inj
  have count := Option.map_injective fun _ _ => Setting.count.inj
  have text := Option.map_injective fun _ _ => Setting.text.inj
  have flag := Option.map_injective fun _ _ => Setting.flag.inj
  cases o
  cases o'
  rw [mk.injEq]
  exact ⟨duration (h .statementTimeout), text (h .applicationName), text (h .sslMode),
    text (h .charset), count (h .statementCacheCapacity), flag (h .readOnly),
    flag (h .createIfMissing), duration (h .busyTimeout)⟩

/-- **What setting a value does**: the value is read and is the setting of its key, and no other
setting changes. -/
theorem setting_set {o o' : ConnectionOptions} {key : Key} {j : Json} (h : o.set key j = .ok o') :
    (∃ v, valueOf key j = .ok v ∧ setting key o' = some v) ∧
      ∀ k ≠ key, setting k o' = setting k o := by
  cases key <;>
  · obtain ⟨v, hv, h⟩ := bind_eq_ok_iff.mp h
    obtain rfl := Except.ok.inj h
    refine ⟨⟨_, map_eq_ok_iff.mpr ⟨v, hv, rfl⟩, rfl⟩, fun k other => ?_⟩
    cases k <;> first | rfl | exact absurd rfl other

/-! ## Values of a kind -/

/-- A step that succeeds for the values of a kind, and says of any other that it is none. -/
def Judges {α : Type} (key : Key) (kind : OptionKind) (j : Json) (x : Except Error α) : Prop :=
  (∃ a, x = .ok a) ∧ kind.Admits j ∨ x = mistyped key kind ∧ ¬ kind.Admits j

section

variable (key : Key) (j : Json)

theorem Judges.map {α β : Type} {key : Key} {kind : OptionKind} {j : Json} {x : Except Error α}
    (f : α → β) (h : Judges key kind j x) : Judges key kind j (x.map f) := by
  rcases h with ⟨⟨a, rfl⟩, admitted⟩ | ⟨rfl, refused⟩
  · exact .inl ⟨⟨f a, rfl⟩, admitted⟩
  · exact .inr ⟨rfl, refused⟩

theorem judges_secondsOf : Judges key .seconds j (secondsOf key j) := by
  unfold secondsOf
  split
  · rename_i n
    have room := Duration.isSome_ofSeconds?_iff n.toFloat
    cases read : Duration.ofSeconds? n.toFloat with
    | some d => exact .inl ⟨⟨d, rfl⟩, n, rfl, room.mp (read ▸ rfl)⟩
    | none =>
      refine .inr ⟨rfl, ?_⟩
      rintro ⟨_, ⟨⟩, fits⟩
      exact absurd (room.mpr fits) (by simp [read])
  · rename_i other
    exact .inr ⟨rfl, fun ⟨n, same, _⟩ => other n same⟩

theorem judges_countOf : Judges key .count j (countOf key j) := by
  unfold countOf
  split
  · rename_i n
    split
    · rename_i positive
      exact .inl ⟨⟨_, rfl⟩, n.toNat, by rw [Json.int, Int.toNat_of_nonneg positive]⟩
    · rename_i negative
      refine .inr ⟨rfl, ?_⟩
      rintro ⟨m, ⟨⟩⟩
      exact negative (Int.natCast_nonneg m)
  · rename_i other
    exact .inr ⟨rfl, fun ⟨n, same⟩ => other n same⟩

theorem judges_textOf : Judges key .text j (textOf key j) := by
  unfold textOf
  split
  · exact .inl ⟨⟨_, rfl⟩, _, rfl⟩
  · rename_i other
    exact .inr ⟨rfl, fun ⟨s, same⟩ => other s same⟩

theorem judges_flagOf : Judges key .flag j (flagOf key j) := by
  unfold flagOf
  split
  · exact .inl ⟨⟨_, rfl⟩, _, rfl⟩
  · rename_i other
    exact .inr ⟨rfl, fun ⟨b, same⟩ => other b same⟩

/-- **A value is set iff it is of the kind of its key**, whatever has been set before. -/
theorem judges_set (o : ConnectionOptions) : Judges key key.kind j (o.set key j) := by
  cases key with
  | statementTimeout => exact (judges_secondsOf _ j).map _
  | busyTimeout => exact (judges_secondsOf _ j).map _
  | statementCacheCapacity => exact (judges_countOf _ j).map _
  | applicationName => exact (judges_textOf _ j).map _
  | sslMode => exact (judges_textOf _ j).map _
  | charset => exact (judges_textOf _ j).map _
  | readOnly => exact (judges_flagOf _ j).map _
  | createIfMissing => exact (judges_flagOf _ j).map _

end

/-! ## Entries -/

variable {b : Backend} {name : String} {j : Json} {e : Error}

theorem Key.ofName?_eq_some_iff {key : Key} :
    Key.ofName? b name = some key ↔ key ∈ Key.known b ∧ key.name = name := by
  constructor
  · intro found
    exact ⟨List.mem_of_find?_eq_some found, Key.name_of_ofName? found⟩
  · rintro ⟨known, rfl⟩
    obtain ⟨key', found⟩ : ∃ key', Key.ofName? b key.name = some key' := by
      refine Option.isSome_iff_exists.mp (List.find?_isSome.mpr ⟨key, known, ?_⟩)
      exact decide_eq_true rfl
    rw [found, Key.eq_of_name (Key.name_of_ofName? found)]

/-- What is registered are the keys that the backend knows, by name and kind. -/
theorem mem_registered_iff {kind : OptionKind} :
    (name, kind) ∈ registered b ↔ ∃ key, Key.ofName? b name = some key ∧ key.kind = kind := by
  have table : registered b = (Key.known b).map fun key => (key.name, key.kind) := by
    cases b <;> rfl
  simp only [table, List.mem_map, Prod.mk.injEq, Key.ofName?_eq_some_iff, and_assoc]

/-- A name has one kind. -/
theorem eq_of_mem_registered {kind kind' : OptionKind} (h : (name, kind) ∈ registered b)
    (h' : (name, kind') ∈ registered b) : kind = kind' := by
  obtain ⟨key, found, rfl⟩ := mem_registered_iff.mp h
  obtain ⟨key', found', rfl⟩ := mem_registered_iff.mp h'
  rw [Option.some.inj (found.symm.trans found')]

theorem Admissible.not_offends (h : Admissible b name j) : ¬ Offends b name j e := by
  obtain ⟨kind, known, admitted⟩ := h
  rintro (foreign | ⟨known', refused⟩)
  · exact foreign kind known
  · exact refused (eq_of_mem_registered known known' ▸ admitted)

theorem Offends.unique {e' : Error} (h : Offends b name j e) (h' : Offends b name j e') :
    e = e' := by
  cases h with
  | foreign foreign =>
    cases h' with
    | foreign _ => rfl
    | mistyped known _ => exact absurd known (foreign _)
  | mistyped known _ =>
    cases h' with
    | foreign foreign => exact absurd known (foreign _)
    | mistyped known' _ => rw [eq_of_mem_registered known known']

/-- **An entry is taken iff it is admissible**, whatever has been taken before, and else fails for
its fault. -/
theorem takeEntry_cases (b : Backend) (name : String) (j : Json) (o : ConnectionOptions) :
    (∃ o', takeEntry b o name j = .ok o') ∧ Admissible b name j ∨
      ∃ e, takeEntry b o name j = .error e ∧ Offends b name j e := by
  unfold takeEntry
  cases found : Key.ofName? b name with
  | none => exact .inr ⟨_, rfl, .foreign fun kind => by simp [mem_registered_iff, found]⟩
  | some key =>
    have known : (name, key.kind) ∈ registered b := mem_registered_iff.mpr ⟨key, found, rfl⟩
    obtain rfl := Key.name_of_ofName? found
    rcases judges_set key j o with ⟨taken, admitted⟩ | ⟨failed, refused⟩
    · exact .inl ⟨taken, key.kind, known, admitted⟩
    · exact .inr ⟨_, failed, .mistyped known refused⟩

theorem exists_takeEntry_iff (o : ConnectionOptions) :
    (∃ o', takeEntry b o name j = .ok o') ↔ Admissible b name j := by
  rcases takeEntry_cases b name j o with ⟨taken, fits⟩ | ⟨e, failed, fault⟩
  · exact iff_of_true taken fits
  · exact iff_of_false (by simp [failed]) fun fits => fits.not_offends fault

theorem takeEntry_eq_error_iff (o : ConnectionOptions) :
    takeEntry b o name j = .error e ↔ Offends b name j e := by
  rcases takeEntry_cases b name j o with ⟨⟨o', taken⟩, fits⟩ | ⟨e', failed, fault⟩
  · exact iff_of_false (by simp [taken]) fits.not_offends
  · rw [failed, Except.error.injEq]
    exact ⟨fun same => same ▸ fault, fault.unique⟩

/-- Entries are taken iff each of them is admissible. -/
theorem exists_takeEntries_iff : ∀ {es : List (String × Json)} {o : ConnectionOptions},
    (∃ o', takeEntries b o es = .ok o') ↔ ∀ x ∈ es, Admissible b x.1 x.2
  | [], o => iff_of_true ⟨o, rfl⟩ (by simp)
  | (name, j) :: rest, o => by
    rw [List.forall_mem_cons, ← exists_takeEntry_iff o]
    constructor
    · rintro ⟨o', h⟩
      obtain ⟨o₁, taken, later⟩ := bind_eq_ok_iff.mp h
      exact ⟨⟨o₁, taken⟩, exists_takeEntries_iff.mp ⟨o', later⟩⟩
    · rintro ⟨⟨o₁, taken⟩, fit⟩
      obtain ⟨o', later⟩ := exists_takeEntries_iff.mpr fit
      exact ⟨o', bind_eq_ok_iff.mpr ⟨o₁, taken, later⟩⟩

/-- **Entries fail as the first at fault.** -/
theorem takeEntries_eq_error_iff : ∀ {es : List (String × Json)} {o : ConnectionOptions},
    takeEntries b o es = .error e ↔ ∃ before name j after, es = before ++ (name, j) :: after ∧
      (∀ x ∈ before, Admissible b x.1 x.2) ∧ Offends b name j e
  | [], o => iff_of_false (fun h => nomatch h) (by simp)
  | (name, j) :: rest, o => by
    rw [takeEntries, bind_eq_error_iff, takeEntry_eq_error_iff]
    constructor
    · rintro (fault | ⟨o', taken, later⟩)
      · exact ⟨[], name, j, rest, rfl, by simp, fault⟩
      · obtain ⟨before, name', j', after, rfl, fit, fault⟩ := takeEntries_eq_error_iff.mp later
        have first := (exists_takeEntry_iff o).mp ⟨o', taken⟩
        exact ⟨(name, j) :: before, name', j', after, rfl, List.forall_mem_cons.mpr ⟨first, fit⟩,
          fault⟩
    · rintro ⟨before, name', j', after, same, fit, fault⟩
      cases before with
      | nil =>
        obtain ⟨⟨⟩, -⟩ := List.cons_eq_cons.mp same
        exact .inl fault
      | cons x before =>
        obtain ⟨rfl, rfl⟩ := List.cons_eq_cons.mp same
        obtain ⟨first, fit⟩ := List.forall_mem_cons.mp fit
        obtain ⟨o', taken⟩ := (exists_takeEntry_iff o).mpr first
        exact .inr ⟨o', taken,
          takeEntries_eq_error_iff.mpr ⟨before, name', j', after, rfl, fit, fault⟩⟩

/-! ## Maps -/

variable {m : Keyed Json} {o : ConnectionOptions}

/-- What an entry gives by itself. -/
def alone (b : Backend) (name : String) (j : Json) : Except Error ConnectionOptions :=
  ofMap b (Keyed.empty.put name j)

theorem alone_eq (b : Backend) (name : String) (j : Json) :
    alone b name j = takeEntry b none name j := by
  change (do let o ← takeEntry b none name j; takeEntries b o []) = takeEntry b none name j
  cases takeEntry b none name j <;> rfl

theorem exists_alone_iff : (∃ o, alone b name j = .ok o) ↔ Admissible b name j := by
  rw [alone_eq, exists_takeEntry_iff]

theorem alone_eq_error_iff : alone b name j = .error e ↔ Offends b name j e := by
  rw [alone_eq, takeEntry_eq_error_iff]

theorem mem_entries_iff : (name, j) ∈ m.entries ↔ m.get? name = some j :=
  (Keyed.lookup_eq_some_iff_mem m.nodup_keys).symm

/-- **The least name at fault is the error.** -/
theorem ofMap_eq_error_iff : ofMap b m = .error e ↔ ∃ name j, m.get? name = some j ∧
    Offends b name j e ∧ ∀ name' j', m.get? name' = some j' → name' < name →
      Admissible b name' j' := by
  rw [ofMap, takeEntries_eq_error_iff]
  constructor
  · rintro ⟨before, name, j, after, same, fit, fault⟩
    refine ⟨name, j, mem_entries_iff.mp (by simp [same]), fault, fun name' j' given less => ?_⟩
    have ascending := m.ascending
    have mem := mem_entries_iff.mpr given
    rw [same] at ascending mem
    have past := (List.pairwise_cons.mp (List.pairwise_append.mp ascending).2.1).1
    rcases List.mem_append.mp mem with mem | mem
    · exact fit _ mem
    · rcases List.mem_cons.mp mem with own | mem
      · exact absurd ((Prod.mk.inj own).1 ▸ less) (String.lt_irrefl _)
      · exact absurd less (String.lt_asymm (past _ mem))
  · rintro ⟨name, j, given, fault, least⟩
    obtain ⟨before, after, same⟩ := List.append_of_mem (mem_entries_iff.mpr given)
    refine ⟨before, name, j, after, same, fun x mem => ?_, fault⟩
    have ascending := m.ascending
    rw [same] at ascending
    have less := (List.pairwise_append.mp ascending).2.2 x mem _ List.mem_cons_self
    exact least x.1 x.2 (mem_entries_iff.mp (by simp [same, mem])) less

/-- **Entries give settings together iff each of them does.** -/
theorem exists_ofMap_iff :
    (∃ o, ofMap b m = .ok o) ↔ ∀ name j, m.get? name = some j → Admissible b name j := by
  rw [ofMap, exists_takeEntries_iff]
  exact ⟨fun h name j given => h (name, j) (mem_entries_iff.mpr given),
    fun h x mem => h x.1 x.2 (mem_entries_iff.mp mem)⟩

theorem setting_ofMap (h : ofMap b m = .ok o) (key : Key) :
    (m.get? key.name = .none → setting key o = .none) ∧
      ∀ j, m.get? key.name = some j → ∃ v, valueOf key j = .ok v ∧ setting key o = some v := by
  have unset : setting key none = .none := by cases key <;> rfl
  rw [← unset]
  exact field_takeEntries (setting key) key (valueOf key) (fun h => (setting_set h).1)
    (fun other h => (setting_set h).2 key (Ne.symm other)) h m.ascending

/-- The same entry gives the same setting, whatever stands beside it. -/
theorem setting_eq_of_get? {m' : Keyed Json} {o' : ConnectionOptions} (h : ofMap b m = .ok o)
    (h' : ofMap b m' = .ok o') {key : Key} (same : m.get? key.name = m'.get? key.name) :
    setting key o = setting key o' := by
  obtain ⟨unset, set⟩ := setting_ofMap h key
  obtain ⟨unset', set'⟩ := setting_ofMap h' key
  cases given : m.get? key.name with
  | none => rw [unset given, unset' (same ▸ given)]
  | some j =>
    obtain ⟨v, hv, own⟩ := set j given
    obtain ⟨v', hv', own'⟩ := set' j (same ▸ given)
    rw [own, own', Except.ok.inj (hv.symm.trans hv')]

/-- The setting of a key is what its own entry gives by itself, and is not set without one. -/
def IsOwn (b : Backend) (m : Keyed Json) (o : ConnectionOptions) (key : Key) : Prop :=
  (m.get? key.name = .none → setting key o = .none) ∧
    ∀ j, m.get? key.name = some j → ∃ single v, alone b key.name j = .ok single ∧
      setting key single = some v ∧ setting key o = some v

theorem isOwn_ofMap (h : ofMap b m = .ok o) (key : Key) : IsOwn b m o key := by
  obtain ⟨unset, set⟩ := setting_ofMap h key
  refine ⟨unset, fun j given => ?_⟩
  obtain ⟨v, hv, own⟩ := set j given
  obtain ⟨single, taken⟩ := exists_alone_iff.mpr (exists_ofMap_iff.mp ⟨o, h⟩ key.name j given)
  have same : m.get? key.name = (Keyed.empty.put key.name j).get? key.name := by
    rw [given, Keyed.get?_put_self]
  exact ⟨single, v, taken, by rw [← own, setting_eq_of_get? h taken same], own⟩

/-- **The settings of a map** are those that are its own in all keys. -/
theorem ofMap_eq_ok_iff : ofMap b m = .ok o ↔
    (∀ name j, m.get? name = some j → Admissible b name j) ∧ ∀ key, IsOwn b m o key := by
  constructor
  · intro h
    exact ⟨exists_ofMap_iff.mp ⟨o, h⟩, isOwn_ofMap h⟩
  · rintro ⟨fit, own⟩
    obtain ⟨o', h⟩ := exists_ofMap_iff.mpr fit
    rw [h]
    refine congrArg _ (eq_of_setting fun key => ?_)
    obtain ⟨unset, set⟩ := own key
    obtain ⟨unset', set'⟩ := isOwn_ofMap h key
    cases given : m.get? key.name with
    | none => rw [unset given, unset' given]
    | some j =>
      obtain ⟨single, v, taken, read, own⟩ := set j given
      obtain ⟨single', v', taken', read', own'⟩ := set' j given
      obtain rfl := Except.ok.inj (taken.symm.trans taken')
      rw [own, own', ← read, ← read']

/-! ## One more entry -/

/-- An admissible entry changes no other setting. -/
theorem setting_put (fits : Admissible b name j) (h : ofMap b m = .ok o) :
    ∃ o', ofMap b (m.put name j) = .ok o' ∧
      ∀ key : Key, key.name ≠ name → setting key o' = setting key o := by
  have fit := exists_ofMap_iff.mp ⟨o, h⟩
  obtain ⟨o', h'⟩ : ∃ o', ofMap b (m.put name j) = .ok o' := by
    refine exists_ofMap_iff.mpr fun name' j' given => ?_
    by_cases same : name' = name
    · subst same
      rw [Keyed.get?_put_self] at given
      exact Option.some.inj given ▸ fits
    · exact fit name' j' (by rwa [Keyed.get?_put_of_ne same] at given)
  exact ⟨o', h', fun key other => setting_eq_of_get? h' h (Keyed.get?_put_of_ne other j m)⟩

/-- An admissible entry of a name that is not there yet removes no error. -/
theorem error_put (fits : Admissible b name j) (absent : m.get? name = .none)
    (h : ofMap b m = .error e) : ofMap b (m.put name j) = .error e := by
  obtain ⟨name', j', given, fault, least⟩ := ofMap_eq_error_iff.mp h
  have other : name' ≠ name := by
    rintro rfl
    exact absurd given (by simp [absent])
  refine ofMap_eq_error_iff.mpr ⟨name', j', by rwa [Keyed.get?_put_of_ne other], fault, ?_⟩
  intro name'' j'' given less
  by_cases same : name'' = name
  · subst same
    rw [Keyed.get?_put_self] at given
    exact Option.some.inj given ▸ fits
  · exact least name'' j'' (by rwa [Keyed.get?_put_of_ne same] at given) less

/-- **Settings are judged one by one.** An entry by itself is taken iff its name is one of the
backend's and its value is of that name's kind, and else it has its own fault. A map gives settings
iff each of its entries does, and then they are those settings whose values are all their own; else
the error is what the entry at fault with the least name, by its bytes, gives by itself. So an
admissible entry changes no other setting, and a new one removes no error, and a name that the
backend does not know is refused whatever else is there. -/
theorem judged_one_by_one (b : Backend) (m : Keyed Json) :
    (∀ name j, ((∃ o, alone b name j = .ok o) ↔ Admissible b name j) ∧
      ∀ e, alone b name j = .error e ↔ Offends b name j e) ∧
    ((∃ o, ofMap b m = .ok o) ↔ ∀ name j, m.get? name = some j → Admissible b name j) ∧
    (∀ o, ofMap b m = .ok o ↔
      (∀ name j, m.get? name = some j → Admissible b name j) ∧ ∀ key, IsOwn b m o key) ∧
    (∀ e, ofMap b m = .error e ↔ ∃ name j, m.get? name = some j ∧ alone b name j = .error e ∧
      ∀ name' j', m.get? name' = some j' → Text.encode name' < Text.encode name →
        Admissible b name' j') ∧
    (∀ name j, Admissible b name j →
      (∀ o, ofMap b m = .ok o → ∃ o', ofMap b (m.put name j) = .ok o' ∧
        ∀ key : Key, key.name ≠ name → setting key o' = setting key o) ∧
      ∀ e, m.get? name = .none → ofMap b m = .error e → ofMap b (m.put name j) = .error e) ∧
    ∀ name j, m.get? name = some j → (∀ kind, (name, kind) ∉ registered b) →
      ∃ e, ofMap b m = .error e := by
  refine ⟨fun name j => ⟨exists_alone_iff, fun e => alone_eq_error_iff⟩, exists_ofMap_iff,
    fun o => ofMap_eq_ok_iff, fun e => ?_,
    fun name j fits => ⟨fun o h => setting_put fits h, fun e absent h => error_put fits absent h⟩,
    fun name j given foreign => ?_⟩
  · simp only [alone_eq_error_iff, Text.encode_lt_encode_iff]
    exact ofMap_eq_error_iff
  · cases h : ofMap b m with
    | error e => exact ⟨e, rfl⟩
    | ok o =>
      obtain ⟨kind, known, -⟩ := exists_ofMap_iff.mp ⟨o, h⟩ name j given
      exact absurd known (foreign kind)

/-- Half a minute is a length of time that SQLite waits for. -/
theorem admissible_wait : Admissible .sqlite "busy_timeout_secs" (.int 30) := by
  have value : (Decimal.Binary64.ofInt 30).toRat = (30 : ℤ) :=
    (Decimal.Binary64.toRat_ofInt_eq_iff (by decide)).mpr (by decide)
  refine ⟨.seconds, by decide, .integer 30, rfl, by decide, ?_⟩
  rw [Number.toFloat, value]
  norm_num

/-- Of two entries at fault the one with the lesser name is the error, also with an entry before
both that is none; beside one that is none either, this is a setting more. -/
theorem judged_one_by_one_wait :
    let faulty : Keyed Json :=
      .ofList [("statement_cache_capacity", .int (-1)), ("charset", .string "utf8mb4")]
    let sound : Keyed Json := .ofList [("read_only", .bool true)]
    (ofMap .sqlite faulty = .error (.requestShape (.foreignOption "charset" .sqlite)) ∧
      ofMap .sqlite (faulty.put "busy_timeout_secs" (.int 30)) =
        .error (.requestShape (.foreignOption "charset" .sqlite))) ∧
    ∃ o, ofMap .sqlite (sound.put "busy_timeout_secs" (.int 30)) = .ok o ∧
      setting .readOnly o = some (.flag true) := by
  intro faulty sound
  obtain ⟨-, -, -, -, more, -⟩ := judged_one_by_one .sqlite faulty
  obtain ⟨-, -, -, -, more', -⟩ := judged_one_by_one .sqlite sound
  obtain ⟨o, taken, others⟩ := (more' _ _ admissible_wait).1 _ rfl
  have wrong : ofMap .sqlite faulty = .error (.requestShape (.foreignOption "charset" .sqlite)) :=
    rfl
  exact ⟨⟨wrong, (more _ _ admissible_wait).2 _ rfl wrong⟩, o, taken, others .readOnly (by decide)⟩

end ConnectionOptions

end SqlBroker
