import SqlBroker.Connection.Options
import SqlBroker.Proofs.Error

/-!
# Where a setting comes from

Each setting is given by the entry of its own key and by no other: if there is none, the setting
stays as it was, and otherwise it is the value of the entry.

Headlines:
* **`field_takeEntries`**: one setting after many entries, for any field that `set` treats so.
* **`statementTimeout_ofMap`**: the limit of a statement.
* **`failsAs_ofMap`**: what is wrong with settings is wrong with the request.
-/

namespace SqlBroker.ConnectionOptions

/-! ## Keys -/

theorem Key.eq_of_name {k k' : Key} (h : k.name = k'.name) : k = k' := by
  revert h
  cases k <;> cases k' <;> decide

theorem Key.name_of_ofName? {b : Backend} {name : String} {k : Key} (h : ofName? b name = some k) :
    k.name = name := by
  simpa using List.find?_some h

/-! ## Entries -/

theorem takeEntries_cons {b : Backend} {o o' : ConnectionOptions} {name : String} {j : Json}
    {rest : List (String × Json)} (h : takeEntries b o ((name, j) :: rest) = .ok o') :
    ∃ k o₁, k.name = name ∧ o.set k j = .ok o₁ ∧ takeEntries b o₁ rest = .ok o' := by
  obtain ⟨o₁, taken, later⟩ := bind_eq_ok_iff.mp h
  unfold takeEntry at taken
  split at taken
  · exact ⟨_, o₁, Key.name_of_ofName? ‹_›, taken, later⟩
  · exact nomatch taken

theorem lookup_of_ascending {name : String} {j : Json} {rest : List (String × Json)}
    (h : ((name, j) :: rest).Pairwise fun a b => a.1 < b.1) : rest.lookup name = .none := by
  refine List.lookup_eq_none_iff.mpr fun e he => ?_
  have lt : name < e.1 := (List.pairwise_cons.mp h).1 e he
  simpa using fun same : name = e.1 => String.lt_irrefl _ (same ▸ lt)

/-- **One setting after many entries.** It is the value of the entry of its key, if there is one. -/
theorem field_takeEntries {α : Type} {b : Backend} (field : ConnectionOptions → Option α)
    (key : Key) (read : Json → Except Error α)
    (own : ∀ {o o' j}, set o key j = .ok o' → ∃ v, read j = .ok v ∧ field o' = some v)
    (other : ∀ {o o' j k}, k ≠ key → set o k j = .ok o' → field o' = field o) :
    ∀ {es : List (String × Json)} {o o' : ConnectionOptions},
      takeEntries b o es = .ok o' → (es.Pairwise fun a b => a.1 < b.1) →
        (es.lookup key.name = .none → field o' = field o) ∧
        ∀ j, es.lookup key.name = some j → ∃ v, read j = .ok v ∧ field o' = some v
  | [], o, o', h, _ => by
    obtain rfl := Except.ok.inj h
    exact ⟨fun _ => rfl, fun _ given => nomatch given⟩
  | (name, j) :: rest, o, o', h, ascending => by
    obtain ⟨k, o₁, rfl, taken, later⟩ := takeEntries_cons h
    obtain ⟨kept, given⟩ :=
      field_takeEntries field key read own other later (List.pairwise_cons.mp ascending).2
    by_cases same : k = key
    · subst same
      obtain ⟨v, hv, set⟩ := own taken
      rw [List.lookup_cons_self, kept (lookup_of_ascending ascending)]
      refine ⟨fun h => (nomatch h), fun j' hj => ⟨v, ?_, set⟩⟩
      rw [← Option.some.inj hj, hv]
    · have ne : (key.name == k.name) = false :=
        beq_false_of_ne fun names => same (Key.eq_of_name names).symm
      rw [List.lookup_cons, ne, ← other same taken]
      exact ⟨kept, given⟩

/-- **The limit of a statement** is that of its entry, and is not set without one. -/
theorem statementTimeout_ofMap {b : Backend} {m : Keyed Json} {o : ConnectionOptions}
    (h : ofMap b m = .ok o) :
    o.statementTimeout = (m.get? Key.statementTimeout.name).bind fun j =>
      (secondsOf .statementTimeout j).toOption := by
  obtain ⟨unset, set⟩ := field_takeEntries statementTimeout .statementTimeout
    (secondsOf .statementTimeout)
    (fun h => by
      obtain ⟨v, hv, h⟩ := bind_eq_ok_iff.mp h
      exact ⟨v, hv, Except.ok.inj h ▸ rfl⟩)
    (fun {o o' j k} ne h => by
      cases k with
      | statementTimeout => exact absurd rfl ne
      | _ =>
        obtain ⟨v, -, h⟩ := bind_eq_ok_iff.mp h
        exact Except.ok.inj h ▸ rfl)
    h m.ascending
  rw [Keyed.get?]
  cases given : m.entries.lookup Key.statementTimeout.name with
  | none => exact unset given
  | some j =>
    obtain ⟨v, hv, field⟩ := set j given
    rw [field, Option.bind_some, hv]
    rfl

/-! ## Errors -/

theorem failsAs_secondsOf (key : Key) (j : Json) :
    FailsAs (·.isShape) (secondsOf key j) := by
  unfold secondsOf
  split
  · split
    · exact .ok _
    · exact .error rfl
  · exact .error rfl

theorem failsAs_countOf (key : Key) (j : Json) :
    FailsAs (·.isShape) (countOf key j) := by
  unfold countOf
  split
  · split
    · exact .ok _
    · exact .error rfl
  · exact .error rfl

theorem failsAs_textOf (key : Key) (j : Json) :
    FailsAs (·.isShape) (textOf key j) := by
  unfold textOf
  split
  · exact .ok _
  · exact .error rfl

theorem failsAs_flagOf (key : Key) (j : Json) :
    FailsAs (·.isShape) (flagOf key j) := by
  unfold flagOf
  split
  · exact .ok _
  · exact .error rfl

theorem failsAs_set (o : ConnectionOptions) (key : Key) (j : Json) :
    FailsAs (·.isShape) (o.set key j) := by
  cases key with
  | statementTimeout => exact (failsAs_secondsOf _ j).bind fun _ => .ok _
  | busyTimeout => exact (failsAs_secondsOf _ j).bind fun _ => .ok _
  | statementCacheCapacity => exact (failsAs_countOf _ j).bind fun _ => .ok _
  | readOnly => exact (failsAs_flagOf _ j).bind fun _ => .ok _
  | createIfMissing => exact (failsAs_flagOf _ j).bind fun _ => .ok _
  | applicationName => exact (failsAs_textOf _ j).bind fun _ => .ok _
  | sslMode => exact (failsAs_textOf _ j).bind fun _ => .ok _
  | charset => exact (failsAs_textOf _ j).bind fun _ => .ok _

/-- **Settings that cannot be used make a request malformed.** -/
theorem failsAs_ofMap (b : Backend) (m : Keyed Json) :
    FailsAs (·.isShape) (ofMap b m) := by
  have entries : ∀ (es : List (String × Json)) (o : ConnectionOptions),
      FailsAs (·.isShape) (takeEntries b o es) := by
    intro es
    induction es with
    | nil => exact fun _ => .ok _
    | cons e rest ih =>
      intro o
      refine FailsAs.bind ?_ ih
      unfold takeEntry
      split
      · exact failsAs_set o _ _
      · exact .error rfl
  exact entries m.entries none

end SqlBroker.ConnectionOptions
