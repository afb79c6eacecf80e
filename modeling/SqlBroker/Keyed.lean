/-!
# Values by key

`Keyed α` holds at most one value for each key, in the order of the keys by code point. It is built
by `put`, which replaces the value of a key that is already there.
-/

namespace SqlBroker

/-- Values by key, the keys ascending. -/
structure Keyed (α : Type) where
  entries : List (String × α)
  ascending : entries.Pairwise fun a b => a.1 < b.1
deriving Repr

namespace Keyed

variable {α β : Type}

/-! ## Building -/

/-- Nothing by no key. -/
def empty : Keyed α := ⟨[], .nil⟩

instance : Inhabited (Keyed α) := ⟨empty⟩

/-- Ascending entries with the value of a key set. -/
def putEntry (k : String) (v : α) : List (String × α) → List (String × α)
  | [] => [(k, v)]
  | e :: rest =>
    if k < e.1 then (k, v) :: e :: rest
    else if k = e.1 then (k, v) :: rest
    else e :: putEntry k v rest

theorem mem_putEntry {k : String} {v : α} {es : List (String × α)} {x : String × α}
    (h : x ∈ putEntry k v es) : x = (k, v) ∨ x ∈ es := by
  induction es with
  | nil => simp_all [putEntry]
  | cons e rest ih =>
    unfold putEntry at h
    split at h
    · simpa using h
    · split at h
      · rcases List.mem_cons.mp h with h | h
        · exact .inl h
        · exact .inr (List.mem_cons_of_mem _ h)
      · rcases List.mem_cons.mp h with h | h
        · exact .inr (h ▸ List.mem_cons_self)
        · exact (ih h).imp_right (List.mem_cons_of_mem _)

theorem ascending_putEntry {k : String} {v : α} {es : List (String × α)}
    (h : es.Pairwise fun a b => a.1 < b.1) :
    (putEntry k v es).Pairwise fun a b => a.1 < b.1 := by
  induction es with
  | nil => simp [putEntry]
  | cons e rest ih =>
    obtain ⟨first, later⟩ := List.pairwise_cons.mp h
    unfold putEntry
    split
    · rename_i lt
      refine List.pairwise_cons.mpr ⟨fun x hx => ?_, h⟩
      rcases List.mem_cons.mp hx with rfl | hx
      · exact lt
      · exact String.lt_trans lt (first x hx)
    · split
      · rename_i eq
        exact List.pairwise_cons.mpr ⟨fun x hx => eq ▸ first x hx, later⟩
      · rename_i notLt notEq
        refine List.pairwise_cons.mpr ⟨fun x hx => ?_, ih later⟩
        rcases mem_putEntry hx with rfl | hx
        · exact Std.lt_of_le_of_ne (Std.not_lt.mp notLt) (Ne.symm notEq)
        · exact first x hx

/-- The same with the value of one key set. -/
def put (k : String) (v : α) (m : Keyed α) : Keyed α :=
  ⟨putEntry k v m.entries, ascending_putEntry m.ascending⟩

/-- The entries of a list; of several with one key the last stays. -/
def ofList (es : List (String × α)) : Keyed α :=
  es.foldl (fun m e => m.put e.1 e.2) empty

/-! ## Reading -/

/-- The value of a key. -/
def get? (k : String) (m : Keyed α) : Option α := m.entries.lookup k

/-- The keys, ascending. -/
def keys (m : Keyed α) : List String := m.entries.map Prod.fst

/-- The values in the order of their keys. -/
def values (m : Keyed α) : List α := m.entries.map Prod.snd

/-- Whether there is no key. -/
def isEmpty (m : Keyed α) : Bool := m.entries.isEmpty

/-- Each value under its own key, changed. -/
def map (f : α → β) (m : Keyed α) : Keyed β :=
  ⟨m.entries.map fun e => (e.1, f e.2), List.pairwise_map.mpr m.ascending⟩

end Keyed

end SqlBroker
