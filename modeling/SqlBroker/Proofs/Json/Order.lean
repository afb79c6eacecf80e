import SqlBroker.Json.Basic
import SqlBroker.Proofs.Keyed

/-!
# JSON values in another order

Two values are the same but for the order of the keys in their objects (`Reordered`). Where no
object repeats a key they denote the same value, and each of them is in this way related to what it
denotes. A value whose keys ascend is what it denotes.

Headlines:
* **`Reordered.normalize_eq`**, **`reordered_normalize`**: the order of keys denotes nothing.
* **`Reordered.lookup`**: what stands under a key, in two orders.
* **`normalize_of_isSorted`**: values whose keys ascend.
-/

namespace SqlBroker.Json

/-! ## Keys -/

mutual

/-- Whether no object in a value repeats a key. -/
def hasDistinctKeys : Json → Bool
  | .array items => haveDistinctKeys items
  | .object entries => decide (entries.map Prod.fst).Nodup && entriesHaveDistinctKeys entries
  | _ => true

/-- Whether no object in several values repeats a key. -/
def haveDistinctKeys : List Json → Bool
  | [] => true
  | j :: rest => j.hasDistinctKeys && haveDistinctKeys rest

/-- Whether no object in the values of entries repeats a key. -/
def entriesHaveDistinctKeys : List (String × Json) → Bool
  | [] => true
  | (_, j) :: rest => j.hasDistinctKeys && entriesHaveDistinctKeys rest

end

mutual

/-- Whether the keys of every object in a value ascend. -/
def isSorted : Json → Bool
  | .array items => areSorted items
  | .object entries => decide (entries.Pairwise fun a b => a.1 < b.1) && entriesAreSorted entries
  | _ => true

/-- Whether the keys of every object in several values ascend. -/
def areSorted : List Json → Bool
  | [] => true
  | j :: rest => j.isSorted && areSorted rest

/-- Whether the keys of every object in the values of entries ascend. -/
def entriesAreSorted : List (String × Json) → Bool
  | [] => true
  | (_, j) :: rest => j.isSorted && entriesAreSorted rest

end

theorem haveDistinctKeys_iff {js : List Json} :
    haveDistinctKeys js = true ↔ ∀ j ∈ js, j.hasDistinctKeys = true := by
  induction js with
  | nil => simp [haveDistinctKeys]
  | cons j rest ih => rw [haveDistinctKeys, Bool.and_eq_true, ih, List.forall_mem_cons]

theorem entriesHaveDistinctKeys_iff {es : List (String × Json)} :
    entriesHaveDistinctKeys es = true ↔ ∀ e ∈ es, e.2.hasDistinctKeys = true := by
  induction es with
  | nil => simp [entriesHaveDistinctKeys]
  | cons e rest ih => rw [entriesHaveDistinctKeys, Bool.and_eq_true, ih, List.forall_mem_cons]

theorem hasDistinctKeys_array {js : List Json} :
    (Json.array js).hasDistinctKeys = true ↔ ∀ j ∈ js, j.hasDistinctKeys = true :=
  haveDistinctKeys_iff

theorem hasDistinctKeys_object {es : List (String × Json)} :
    (Json.object es).hasDistinctKeys = true ↔
      (es.map Prod.fst).Nodup ∧ ∀ e ∈ es, e.2.hasDistinctKeys = true := by
  rw [hasDistinctKeys, Bool.and_eq_true, decide_eq_true_iff, entriesHaveDistinctKeys_iff]

/-! ## Other orders -/

mutual

/-- Two values that differ in nothing but the order of the keys in their objects. -/
inductive Reordered : Json → Json → Prop
  | same (j : Json) : Reordered j j
  | array {js js' : List Json} (items : AllReordered js js') : Reordered (.array js) (.array js')
  | object {es es' mid : List (String × Json)} (values : EntriesReordered es mid)
    (order : mid.Perm es') : Reordered (.object es) (.object es')

/-- Values one by one in another order. -/
inductive AllReordered : List Json → List Json → Prop
  | nil : AllReordered [] []
  | cons {j j' : Json} {js js' : List Json} (first : Reordered j j') (rest : AllReordered js js') :
    AllReordered (j :: js) (j' :: js')

/-- Entries one by one with their values in another order. -/
inductive EntriesReordered : List (String × Json) → List (String × Json) → Prop
  | nil : EntriesReordered [] []
  | cons {k : String} {j j' : Json} {es es' : List (String × Json)} (first : Reordered j j')
    (rest : EntriesReordered es es') : EntriesReordered ((k, j) :: es) ((k, j') :: es')

end

theorem AllReordered.refl (js : List Json) : AllReordered js js := by
  induction js with
  | nil => exact .nil
  | cons j rest ih => exact .cons (.same j) ih

theorem EntriesReordered.refl (es : List (String × Json)) : EntriesReordered es es := by
  induction es with
  | nil => exact .nil
  | cons e rest ih => exact .cons (.same e.2) ih

theorem Reordered.of_array {js : List Json} {j' : Json} (h : Reordered (.array js) j') :
    ∃ js', j' = .array js' ∧ AllReordered js js' := by
  cases h with
  | same => exact ⟨js, rfl, .refl js⟩
  | array items => exact ⟨_, rfl, items⟩

theorem Reordered.of_object {es : List (String × Json)} {j' : Json}
    (h : Reordered (.object es) j') :
    ∃ mid es', j' = .object es' ∧ EntriesReordered es mid ∧ mid.Perm es' := by
  cases h with
  | same => exact ⟨es, es, rfl, .refl es, .refl es⟩
  | object values order => exact ⟨_, _, rfl, values, order⟩

theorem EntriesReordered.filter (p : String → Bool) : ∀ {es es' : List (String × Json)},
    EntriesReordered es es' →
      EntriesReordered (es.filter fun e => p e.1) (es'.filter fun e => p e.1)
  | _, _, .nil => .nil
  | _, _, .cons first rest => by
    rw [List.filter_cons, List.filter_cons]
    dsimp only
    split
    · exact .cons first (rest.filter p)
    · exact rest.filter p

theorem EntriesReordered.keys : ∀ {es es' : List (String × Json)}, EntriesReordered es es' →
    es.map Prod.fst = es'.map Prod.fst
  | _, _, .nil => rfl
  | _, _, .cons _ rest => by rw [List.map_cons, List.map_cons, rest.keys]

mutual

theorem Reordered.hasDistinctKeys : ∀ {j j' : Json}, Reordered j j' →
    j.hasDistinctKeys = true → j'.hasDistinctKeys = true
  | _, _, .same _, h => h
  | _, _, .array items, h => items.haveDistinctKeys h
  | _, _, .object values order, h => by
    obtain ⟨distinct, deep⟩ := hasDistinctKeys_object.mp h
    have deep' := values.haveDistinctKeys (entriesHaveDistinctKeys_iff.mpr deep)
    rw [hasDistinctKeys_object]
    constructor
    · exact (order.map Prod.fst).nodup_iff.mp (values.keys ▸ distinct)
    · intro e mem
      exact entriesHaveDistinctKeys_iff.mp deep' e (order.mem_iff.mpr mem)

theorem AllReordered.haveDistinctKeys : ∀ {js js' : List Json}, AllReordered js js' →
    haveDistinctKeys js = true → haveDistinctKeys js' = true
  | _, _, .nil, _ => rfl
  | _, _, .cons first rest, h => by
    obtain ⟨h₁, h₂⟩ := Bool.and_eq_true_iff.mp h
    exact Bool.and_eq_true_iff.mpr ⟨first.hasDistinctKeys h₁, rest.haveDistinctKeys h₂⟩

theorem EntriesReordered.haveDistinctKeys : ∀ {es es' : List (String × Json)},
    EntriesReordered es es' → entriesHaveDistinctKeys es = true → entriesHaveDistinctKeys es' = true
  | _, _, .nil, _ => rfl
  | _, _, .cons first rest, h => by
    obtain ⟨h₁, h₂⟩ := Bool.and_eq_true_iff.mp h
    exact Bool.and_eq_true_iff.mpr ⟨first.hasDistinctKeys h₁, rest.haveDistinctKeys h₂⟩

end

theorem EntriesReordered.lookup (k : String) : ∀ {es es' : List (String × Json)},
    EntriesReordered es es' → Option.Rel Reordered (es.lookup k) (es'.lookup k)
  | _, _, .nil => .none
  | _, _, .cons first rest => by
    rw [List.lookup_cons, List.lookup_cons]
    split
    · exact .some first
    · exact rest.lookup k

/-- **What stands under a key** of an object in another order. -/
theorem Reordered.lookup {es es' : List (String × Json)} (h : Reordered (.object es) (.object es'))
    (distinct : (es.map Prod.fst).Nodup) (k : String) :
    Option.Rel Reordered (es.lookup k) (es'.lookup k) := by
  cases h with
  | same =>
    cases es.lookup k with
    | none => exact .none
    | some j => exact .some (.same j)
  | object values order =>
    have distinct' := values.keys ▸ distinct
    rw [← Keyed.lookup_of_perm order distinct']
    exact values.lookup k

/-! ## What a value denotes -/

theorem normalizeEntries_eq_map (es : List (String × Json)) :
    normalizeEntries es = es.map fun e => (e.1, e.2.normalize) := by
  induction es with
  | nil => rfl
  | cons e rest ih => rw [normalizeEntries, ih, List.map_cons]

theorem keys_normalizeEntries (es : List (String × Json)) :
    (normalizeEntries es).map Prod.fst = es.map Prod.fst := by
  rw [normalizeEntries_eq_map, List.map_map]
  rfl

theorem perm_normalizeEntries {es es' : List (String × Json)} (h : es.Perm es') :
    (normalizeEntries es).Perm (normalizeEntries es') := by
  rw [normalizeEntries_eq_map, normalizeEntries_eq_map]
  exact h.map _

mutual

/-- **The order of keys denotes nothing.** -/
theorem Reordered.normalize_eq : ∀ {j j' : Json}, Reordered j j' → j.hasDistinctKeys = true →
    j.normalize = j'.normalize
  | _, _, .same _, _ => rfl
  | _, _, .array items, h => congrArg Json.array (items.normalizeAll_eq h)
  | _, _, .object values order, h => by
    obtain ⟨distinct, deep⟩ := hasDistinctKeys_object.mp h
    rw [normalize, normalize, values.normalizeEntries_eq (entriesHaveDistinctKeys_iff.mpr deep)]
    have permuted := perm_normalizeEntries order
    refine congrArg _ (congrArg _ (Keyed.ofList_eq_of_perm permuted ?_))
    rwa [keys_normalizeEntries, ← values.keys]

theorem AllReordered.normalizeAll_eq : ∀ {js js' : List Json}, AllReordered js js' →
    haveDistinctKeys js = true → normalizeAll js = normalizeAll js'
  | _, _, .nil, _ => rfl
  | _, _, .cons first rest, h => by
    obtain ⟨h₁, h₂⟩ := Bool.and_eq_true_iff.mp h
    rw [normalizeAll, normalizeAll, first.normalize_eq h₁, rest.normalizeAll_eq h₂]

theorem EntriesReordered.normalizeEntries_eq : ∀ {es es' : List (String × Json)},
    EntriesReordered es es' → entriesHaveDistinctKeys es = true →
      normalizeEntries es = normalizeEntries es'
  | _, _, .nil, _ => rfl
  | _, _, .cons first rest, h => by
    obtain ⟨h₁, h₂⟩ := Bool.and_eq_true_iff.mp h
    rw [normalizeEntries, normalizeEntries, first.normalize_eq h₁, rest.normalizeEntries_eq h₂]

end

mutual

/-- **A value denotes itself in another order.** -/
theorem reordered_normalize : ∀ {j : Json}, j.hasDistinctKeys = true → Reordered j j.normalize
  | .null, _ => .same _
  | .bool _, _ => .same _
  | .number _, _ => .same _
  | .string _, _ => .same _
  | .array items, h => .array (allReordered_normalizeAll h)
  | .object entries, h => by
    obtain ⟨distinct, deep⟩ := hasDistinctKeys_object.mp h
    have values := entriesReordered_normalizeEntries (entriesHaveDistinctKeys_iff.mpr deep)
    exact .object values (Keyed.perm_entries_ofList (values.keys ▸ distinct)).symm

theorem allReordered_normalizeAll : ∀ {js : List Json}, haveDistinctKeys js = true →
    AllReordered js (normalizeAll js)
  | [], _ => .nil
  | _ :: _, h => by
    obtain ⟨h₁, h₂⟩ := Bool.and_eq_true_iff.mp h
    exact .cons (reordered_normalize h₁) (allReordered_normalizeAll h₂)

theorem entriesReordered_normalizeEntries : ∀ {es : List (String × Json)},
    entriesHaveDistinctKeys es = true → EntriesReordered es (normalizeEntries es)
  | [], _ => .nil
  | _ :: _, h => by
    obtain ⟨h₁, h₂⟩ := Bool.and_eq_true_iff.mp h
    exact .cons (reordered_normalize h₁) (entriesReordered_normalizeEntries h₂)

end

mutual

/-- **A value whose keys ascend is what it denotes.** -/
theorem normalize_of_isSorted : ∀ {j : Json}, j.isSorted = true → j.normalize = j
  | .null, _ => rfl
  | .bool _, _ => rfl
  | .number _, _ => rfl
  | .string _, _ => rfl
  | .array items, h => congrArg Json.array (normalizeAll_of_areSorted h)
  | .object entries, h => by
    obtain ⟨ascending, deep⟩ := Bool.and_eq_true_iff.mp h
    rw [normalize, normalizeEntries_of_areSorted deep]
    exact congrArg Json.object
      (congrArg Keyed.entries (Keyed.ofList_entries ⟨entries, of_decide_eq_true ascending⟩))

theorem normalizeAll_of_areSorted : ∀ {js : List Json}, areSorted js = true →
    normalizeAll js = js
  | [], _ => rfl
  | _ :: _, h => by
    obtain ⟨h₁, h₂⟩ := Bool.and_eq_true_iff.mp h
    rw [normalizeAll, normalize_of_isSorted h₁, normalizeAll_of_areSorted h₂]

theorem normalizeEntries_of_areSorted : ∀ {es : List (String × Json)},
    entriesAreSorted es = true → normalizeEntries es = es
  | [], _ => rfl
  | _ :: _, h => by
    obtain ⟨h₁, h₂⟩ := Bool.and_eq_true_iff.mp h
    rw [normalizeEntries, normalize_of_isSorted h₁, normalizeEntries_of_areSorted h₂]

end

mutual

theorem hasDistinctKeys_of_isSorted : ∀ {j : Json}, j.isSorted = true → j.hasDistinctKeys = true
  | .null, _ => rfl
  | .bool _, _ => rfl
  | .number _, _ => rfl
  | .string _, _ => rfl
  | .array _, h => haveDistinctKeys_of_areSorted h
  | .object entries, h => by
    obtain ⟨ascending, deep⟩ := Bool.and_eq_true_iff.mp h
    have distinct := Keyed.nodup_keys ⟨entries, of_decide_eq_true ascending⟩
    exact Bool.and_eq_true_iff.mpr
      ⟨decide_eq_true distinct, entriesHaveDistinctKeys_of_areSorted deep⟩

theorem haveDistinctKeys_of_areSorted : ∀ {js : List Json}, areSorted js = true →
    haveDistinctKeys js = true
  | [], _ => rfl
  | _ :: _, h => by
    obtain ⟨h₁, h₂⟩ := Bool.and_eq_true_iff.mp h
    exact Bool.and_eq_true_iff.mpr
      ⟨hasDistinctKeys_of_isSorted h₁, haveDistinctKeys_of_areSorted h₂⟩

theorem entriesHaveDistinctKeys_of_areSorted : ∀ {es : List (String × Json)},
    entriesAreSorted es = true → entriesHaveDistinctKeys es = true
  | [], _ => rfl
  | _ :: _, h => by
    obtain ⟨h₁, h₂⟩ := Bool.and_eq_true_iff.mp h
    exact Bool.and_eq_true_iff.mpr
      ⟨hasDistinctKeys_of_isSorted h₁, entriesHaveDistinctKeys_of_areSorted h₂⟩

end

end SqlBroker.Json
