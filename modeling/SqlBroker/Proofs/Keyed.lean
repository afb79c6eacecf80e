import SqlBroker.Keyed

/-!
# Reading what was put

A map answers for each key by the last value that was put there, and has no other keys than those
that something was put at.

Headlines:
* **`Keyed.get?_put_self`**, **`Keyed.get?_put_of_ne`**: putting changes the value of its own key
  and of no other.
* **`Keyed.mem_keys_put`**, **`Keyed.mem_keys_ofList`**: the keys of a map that was put together.
* **`Keyed.get?_ofList_append`**: of several entries with one key the last counts.
* **`Keyed.ofList_eq_of_perm`**: entries with keys of their own may come in any order.
-/

namespace SqlBroker.Keyed

variable {α : Type}

/-! ## Entries -/

theorem lookup_putEntry_self (k : String) (v : α) : ∀ es : List (String × α),
    (putEntry k v es).lookup k = some v
  | [] => by simp [putEntry]
  | e :: rest => by
    unfold putEntry
    split
    · simp
    · split
      · simp
      · rename_i other
        rw [List.lookup_cons, beq_false_of_ne other]
        exact lookup_putEntry_self k v rest

theorem lookup_putEntry_of_ne {k k' : String} (h : k' ≠ k) (v : α) : ∀ es : List (String × α),
    (putEntry k v es).lookup k' = es.lookup k'
  | [] => by simp [putEntry, h]
  | e :: rest => by
    unfold putEntry
    split
    · rw [List.lookup_cons, beq_false_of_ne h]
    · split
      · rename_i same
        rw [List.lookup_cons, List.lookup_cons, ← same, beq_false_of_ne h]
      · rw [List.lookup_cons, List.lookup_cons, lookup_putEntry_of_ne h v rest]

theorem mem_keys_putEntry (k k' : String) (v : α) : ∀ es : List (String × α),
    k' ∈ (putEntry k v es).map Prod.fst ↔ k' = k ∨ k' ∈ es.map Prod.fst
  | [] => by simp [putEntry]
  | e :: rest => by
    unfold putEntry
    split
    · simp
    · split
      · rename_i same
        simp [same]
      · rw [List.map_cons, List.mem_cons, mem_keys_putEntry k k' v rest, List.map_cons,
          List.mem_cons, or_left_comm]

/-- Where each key has one entry, that entry is found. -/
theorem lookup_eq_some_iff_mem {es : List (String × α)} (distinct : (es.map Prod.fst).Nodup)
    {k : String} {v : α} : es.lookup k = some v ↔ (k, v) ∈ es := by
  induction es with
  | nil => simp
  | cons e rest ih =>
    obtain ⟨own, distinct⟩ := List.nodup_cons.mp distinct
    rw [List.lookup_cons, List.mem_cons]
    by_cases same : k = e.1
    · subst same
      have once : (e.1, v) ∉ rest := fun mem => own (List.mem_map.mpr ⟨_, mem, rfl⟩)
      rw [beq_self_eq_true, or_iff_left once]
      constructor
      · intro found
        rw [← Option.some.inj found]
      · intro first
        rw [← first]
    · rw [beq_false_of_ne same]
      refine (ih distinct).trans (or_iff_right fun first => same ?_).symm
      rw [← first]

/-- It is found wherever it stands. -/
theorem lookup_of_perm {es es' : List (String × α)} (h : es.Perm es')
    (distinct : (es.map Prod.fst).Nodup) (k : String) : es.lookup k = es'.lookup k := by
  have distinct' : (es'.map Prod.fst).Nodup := (h.map Prod.fst).nodup_iff.mp distinct
  refine Option.ext fun v => ?_
  rw [lookup_eq_some_iff_mem distinct, lookup_eq_some_iff_mem distinct', h.mem_iff]

theorem lookup_of_absent {k : String} {es : List (String × α)} (h : k ∉ es.map Prod.fst) :
    es.lookup k = none := by
  refine List.lookup_eq_none_iff.mpr fun e mem => ?_
  have other : k ≠ e.1 := fun same => h (same ▸ List.mem_map_of_mem mem)
  simpa using other

theorem lookup_map {β : Type} (f : α → β) (k : String) : ∀ es : List (String × α),
    (es.map fun e => (e.1, f e.2)).lookup k = (es.lookup k).map f
  | [] => rfl
  | e :: rest => by
    rw [List.map_cons, List.lookup_cons, List.lookup_cons, lookup_map f k rest]
    cases k == e.1 <;> rfl

/-! ## Maps -/

/-- **What was put is there.** -/
@[simp] theorem get?_put_self (k : String) (v : α) (m : Keyed α) : (m.put k v).get? k = some v :=
  lookup_putEntry_self k v m.entries

/-- **Nothing else has changed.** -/
theorem get?_put_of_ne {k k' : String} (h : k' ≠ k) (v : α) (m : Keyed α) :
    (m.put k v).get? k' = m.get? k' :=
  lookup_putEntry_of_ne h v m.entries

@[simp] theorem not_mem_keys_empty (k : String) : k ∉ (empty : Keyed α).keys := List.not_mem_nil

/-- **The keys after one was put.** -/
@[simp] theorem mem_keys_put (k k' : String) (v : α) (m : Keyed α) :
    k' ∈ (m.put k v).keys ↔ k' = k ∨ k' ∈ m.keys :=
  mem_keys_putEntry k k' v m.entries

/-- **The keys of a map of entries** are those of the entries. -/
theorem mem_keys_ofList (k : String) (es : List (String × α)) :
    k ∈ (ofList es).keys ↔ k ∈ es.map Prod.fst := by
  have more (m : Keyed α) : k ∈ (es.foldl (fun m e => m.put e.1 e.2) m).keys ↔
      k ∈ es.map Prod.fst ∨ k ∈ m.keys := by
    induction es generalizing m with
    | nil => simp
    | cons e rest ih =>
      rw [List.foldl_cons, ih, mem_keys_put, List.map_cons, List.mem_cons, or_left_comm, or_assoc]
  rw [ofList, more]
  simp

/-- **Of several entries with one key the last counts.** -/
theorem get?_ofList_append {k : String} {before after : List (String × α)} (v : α)
    (last : k ∉ after.map Prod.fst) : (ofList (before ++ (k, v) :: after)).get? k = some v := by
  have kept : ∀ (es : List (String × α)) (m : Keyed α), k ∉ es.map Prod.fst →
      (es.foldl (fun m e => m.put e.1 e.2) m).get? k = m.get? k := by
    intro es
    induction es with
    | nil => exact fun m _ => rfl
    | cons e rest ih =>
      intro m absent
      rw [List.map_cons, List.mem_cons, not_or] at absent
      rw [List.foldl_cons, ih _ absent.2, get?_put_of_ne absent.1]
  rw [ofList, List.foldl_append, List.foldl_cons, kept after _ last, get?_put_self]

/-- **Values that are changed are found changed.** -/
theorem get?_map {β : Type} (f : α → β) (m : Keyed α) (k : String) :
    (m.map f).get? k = (m.get? k).map f :=
  lookup_map f k m.entries

theorem keys_map {β : Type} (f : α → β) (m : Keyed α) : (m.map f).keys = m.keys :=
  List.map_map

/-! ## Entries in any order -/

/-- What is put at a key of its own is one more entry. -/
theorem perm_putEntry {k : String} (v : α) : ∀ {es : List (String × α)}, k ∉ es.map Prod.fst →
    (putEntry k v es).Perm ((k, v) :: es)
  | [], _ => .refl _
  | e :: rest, h => by
    rw [List.map_cons, List.mem_cons, not_or] at h
    obtain ⟨other, later⟩ := h
    unfold putEntry
    split
    · exact .refl _
    · exact ((perm_putEntry v later).cons e).trans (.swap (k, v) e rest)

/-- Entries with keys of their own are kept as they are, but for their order. -/
theorem perm_entries_ofList {es : List (String × α)} (h : (es.map Prod.fst).Nodup) :
    (ofList es).entries.Perm es := by
  have more : ∀ (es : List (String × α)) (m : Keyed α), (es.map Prod.fst).Nodup →
      (∀ k ∈ es.map Prod.fst, k ∉ m.keys) →
        (es.foldl (fun m e => m.put e.1 e.2) m).entries.Perm (es ++ m.entries) := by
    intro es
    induction es with
    | nil => exact fun m _ _ => .refl _
    | cons e rest ih =>
      intro m distinct free
      obtain ⟨own, distinct⟩ := List.nodup_cons.mp distinct
      obtain ⟨first, later⟩ := List.forall_mem_cons.mp free
      have put : (m.put e.1 e.2).entries.Perm (e :: m.entries) := perm_putEntry e.2 first
      have rest_free : ∀ k ∈ rest.map Prod.fst, k ∉ (m.put e.1 e.2).keys := by
        intro k mem inside
        rcases (mem_keys_put _ _ _ _).mp inside with rfl | inside
        · exact own mem
        · exact later k mem inside
      exact (ih _ distinct rest_free).trans ((put.append_left rest).trans List.perm_middle)
  have all := more es empty h fun _ _ => not_mem_keys_empty _
  rwa [show (empty : Keyed α).entries = [] from rfl, List.append_nil] at all

theorem eq_of_perm_entries {m m' : Keyed α} (h : m.entries.Perm m'.entries) : m = m' := by
  have same : m.entries = m'.entries := by
    refine h.eq_of_pairwise (fun a b _ _ less greater => ?_) m.ascending m'.ascending
    exact absurd (String.lt_trans less greater) (String.lt_irrefl _)
  cases m
  cases m'
  cases same
  rfl

/-- **Entries with keys of their own may come in any order.** -/
theorem ofList_eq_of_perm {es es' : List (String × α)} (h : es.Perm es')
    (distinct : (es.map Prod.fst).Nodup) : ofList es = ofList es' := by
  have distinct' : (es'.map Prod.fst).Nodup := (h.map Prod.fst).nodup_iff.mp distinct
  exact eq_of_perm_entries
    ((perm_entries_ofList distinct).trans (h.trans (perm_entries_ofList distinct').symm))

theorem nodup_keys (m : Keyed α) : (m.entries.map Prod.fst).Nodup := by
  refine List.pairwise_map.mpr (m.ascending.imp fun less same => ?_)
  rw [same] at less
  exact String.lt_irrefl _ less

/-- A map is made of its own entries. -/
@[simp] theorem ofList_entries (m : Keyed α) : ofList m.entries = m :=
  eq_of_perm_entries (perm_entries_ofList m.nodup_keys)

end SqlBroker.Keyed
