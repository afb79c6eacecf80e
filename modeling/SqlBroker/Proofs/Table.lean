import SqlBroker.Table
import SqlBroker.Proofs.Keyed

/-!
# Columns of a table

A column is looked up by halves, which finds what is there as long as the names are in order. The
columns of a request are, as they are the keys of a map of the names that it mentions.

Headlines:
* **`mem_of_nearest?`**: a search ends at one of the names, in whatever order they are.
* **`nearest?_of_mem`**: among ascending names it ends at the one that it is for.
* **`column_eq`**: look-up in ascending columns is membership.
* **`sortedNames_eq`**: names are put in an order that does not depend on where they were mentioned.
* **`column_ofOperation`**: what a request mentions is found, and nothing else is.
-/

namespace SqlBroker.Table

variable {t : Table} {name : String}

/-! ## Searching -/

/-- **A search ends at one of the names.** -/
theorem mem_of_nearest? {names : List String} {c : String} (h : nearest? name names = some c) :
    c ∈ names := by
  fun_induction nearest? name names with
  | case1 names _ half _ ih => exact List.mem_of_mem_take (ih h)
  | case2 names _ half _ ih => exact List.mem_of_mem_drop (ih h)
  | case3 names _ => exact List.mem_of_mem_head? h

/-- **A search among ascending names finds what is there**: what is set aside is past the middle,
which is past the name, or before the middle, which is not. -/
theorem nearest?_of_mem {names : List String} (ascending : names.Pairwise (· < ·))
    (h : name ∈ names) : nearest? name names = some name := by
  fun_induction nearest? name names with
  | case1 names several half past ih =>
    have order := List.pairwise_iff_getElem.mp ascending
    obtain ⟨i, hi, rfl⟩ := List.mem_iff_getElem.mp h
    have low : i < half := by
      refine Nat.lt_of_not_le fun high => ?_
      rcases Nat.lt_or_eq_of_le high with later | rfl
      · exact String.lt_asymm past (order half i _ hi later)
      · exact String.lt_irrefl _ past
    have fits : half ≤ names.length - half := by omega
    refine ih (ascending.sublist (List.take_sublist _ _)) ?_
    exact List.mem_take_iff_getElem.mpr ⟨i, by omega, rfl⟩
  | case2 names several half notPast ih =>
    have order := List.pairwise_iff_getElem.mp ascending
    obtain ⟨i, hi, rfl⟩ := List.mem_iff_getElem.mp h
    have high : half ≤ i := Nat.le_of_not_lt fun low => notPast (order i half hi _ low)
    refine ih (ascending.sublist (List.drop_sublist _ _)) ?_
    exact List.mem_drop_iff_getElem.mpr ⟨i - half, by omega, by congr; omega⟩
  | case3 names single =>
    cases names with
    | nil => exact nomatch h
    | cons c rest =>
      obtain rfl : rest = [] := List.eq_nil_of_length_eq_zero (by
        rw [List.length_cons] at single
        omega)
      rw [List.head?_cons, List.mem_singleton.mp h]

/-- **Look-up in ascending columns is membership**: a column is known by its own name, and what is
no column is an unknown field. -/
theorem column_eq (ascending : t.columns.Pairwise (· < ·)) (name : String) :
    t.column name = if name ∈ t.columns then .ok name else .error (.unknownField name) := by
  unfold column
  by_cases mem : name ∈ t.columns
  · rw [if_pos mem, if_pos (nearest?_of_mem ascending mem)]
  · rw [if_neg mem, if_neg fun found => mem (mem_of_nearest? found)]

/-- A column that is found, in whatever order they are, is one of them and has the name. -/
theorem column_eq_ok {column : String} (h : t.column name = .ok column) :
    column = name ∧ name ∈ t.columns := by
  unfold Table.column at h
  split at h
  · rename_i found
    exact ⟨(Except.ok.inj h).symm, mem_of_nearest? found⟩
  · exact nomatch h

/-! ## Names in order -/

theorem mem_sortedNames {names : List String} : name ∈ sortedNames names ↔ name ∈ names := by
  rw [sortedNames, Keyed.mem_keys_ofList, List.map_map]
  simp [Function.comp_def]

theorem ascending_sortedNames (names : List String) : (sortedNames names).Pairwise (· < ·) :=
  List.pairwise_map.mpr (Keyed.ofList _).ascending

theorem nodup_sortedNames (names : List String) : (sortedNames names).Nodup :=
  Keyed.nodup_keys _

/-- **The same names stand in the same order**, wherever and however often they were mentioned. -/
theorem sortedNames_eq {names names' : List String} (same : ∀ name, name ∈ names ↔ name ∈ names') :
    sortedNames names = sortedNames names' := by
  have perm : (sortedNames names).Perm (sortedNames names') := by
    refine (List.perm_ext_iff_of_nodup (nodup_sortedNames _) (nodup_sortedNames _)).mpr ?_
    intro name
    rw [mem_sortedNames, mem_sortedNames, same]
  refine perm.eq_of_pairwise (fun a b _ _ less greater => ?_) (ascending_sortedNames names)
    (ascending_sortedNames names')
  exact absurd (String.lt_trans less greater) (String.lt_irrefl _)

/-- **What a request mentions is found by its name**, and nothing else is. -/
theorem column_ofOperation (op : Operation) (name : String) : (ofOperation op).column name =
    if name ∈ mentioned op then .ok name else .error (.unknownField name) := by
  rw [column_eq (ascending_sortedNames _)]
  simp only [ofOperation, mem_sortedNames]

end SqlBroker.Table
