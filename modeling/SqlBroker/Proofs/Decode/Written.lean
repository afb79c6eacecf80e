import Mathlib.Data.List.Forall2
import SqlBroker.Proofs.Decode.Steady

/-!
# Writing what is decoded

A record is written as an object of its fields or as an array of their values; what it lacks is left
out or written as null. A tagged record has its tag in front. Which form is taken is chosen for each
record by itself (`Style`), so that both may be mixed in one value.

`Spells` says of a value that a decoder makes something certain of it, wherever the value comes
from. What is written of a record spells it if the parts spell its fields.

Headlines:
* **`Spells.list`**, **`Spells.keyed`**: arrays and maps of what is spelled.
* **`spells_record`**, **`spells_tagged`**: records, in either form.
* **`Spells.fromJson_eq`**, **`Spells.fromText_eq`**: what is spelled is decoded.
-/

namespace SqlBroker.Decode

variable {α β : Type}

/-! ## Forms -/

/-- How one record is written. -/
structure Form where
  /-- As the array of its values, in the order of the fields. -/
  positional : Bool
  /-- Which absent fields are left out of an object; the others are null there. -/
  omits : String → Bool

/-- How the records in a value are written, by the steps that lead to each. -/
abbrev Style := List Step → Form

/-- The style of a part. -/
def Style.under (σ : Style) (step : Step) : Style := fun path => σ (step :: path)

namespace Form

variable (form : Form)

/-- The parts of a record as the entries of an object. -/
def entries : List (String × Option Json) → List (String × Json)
  | [] => []
  | (name, some j) :: rest => (name, j) :: entries rest
  | (name, none) :: rest =>
    if form.omits name then entries rest else (name, .null) :: entries rest

/-- The parts of a record as the values of an array. -/
def items (parts : List (String × Option Json)) : List Json := parts.map (·.2.getD .null)

/-- A record. -/
def record (parts : List (String × Option Json)) : Json :=
  if form.positional then .array (items parts) else .object (form.entries parts)

/-- A record of a kind that is named by a tag. -/
def tagged (tag name : String) (parts : List (String × Option Json)) : Json :=
  if form.positional then .array (.string name :: items parts)
  else .object ((tag, .string name) :: form.entries parts)

theorem record_ne_null (parts : List (String × Option Json)) : form.record parts ≠ .null := by
  unfold record
  split <;> simp

theorem keys_entries (parts : List (String × Option Json)) :
    ((form.entries parts).map Prod.fst).Sublist (parts.map Prod.fst) := by
  induction parts with
  | nil => exact .slnil
  | cons part rest ih =>
    obtain ⟨name, value⟩ := part
    cases value with
    | some j => exact ih.cons_cons name
    | none =>
      unfold entries
      split
      · exact ih.cons name
      · exact ih.cons_cons name

end Form

/-- The values of a list, each in the style of its place from `i` on. -/
def writtenFrom (write : Style → α → Json) (σ : Style) : Nat → List α → List Json
  | _, [] => []
  | i, a :: rest => write (σ.under (.index i)) a :: writtenFrom write σ (i + 1) rest

/-! ## What spells what -/

/-- Whether a decoder makes this of a value, wherever the value comes from. -/
structure Spells (decode : Decoder α) (j : Json) (a : α) : Prop where
  distinct : j.hasDistinctKeys = true
  outcome_eq : ∀ src, outcome decode src j = some a

/-! ### Scalars -/

theorem spells_string (s : String) : Spells string (.string s) s :=
  ⟨rfl, fun src => outcome_string src s⟩

theorem spells_flag (b : Bool) : Spells flag (.bool b) b :=
  ⟨rfl, fun src => outcome_flag src b⟩

theorem spells_word (n : Nat) : Spells word (.number (.integer n)) n :=
  ⟨rfl, fun src => outcome_word src n⟩

theorem spells_json {j : Json} (sorted : j.isSorted = true) : Spells json j j where
  distinct := Json.hasDistinctKeys_of_isSorted sorted
  outcome_eq src := by rw [outcome_json, Json.normalize_of_isSorted sorted]

theorem spells_choice {variants : List (String × α)} {name : String} {a : α}
    (named : variants.lookup name = some a) : Spells (choice variants) (.string name) a :=
  ⟨rfl, fun src => (outcome_choice_string variants src name).trans named⟩

/-! ### Combined decoders -/

theorem Spells.checked {decode : Decoder α} {j : Json} {a : α} (h : Spells decode j a)
    {check : α → Except Error β} {b : β} (passes : check a = .ok b) :
    Spells (checked decode check) j b where
  distinct := h.distinct
  outcome_eq src := by
    rw [outcome_checked, h.outcome_eq, Option.bind_some, passes]
    rfl

theorem Spells.optional {decode : Decoder α} {j : Json} {a : α} (h : Spells decode j a)
    (present : j ≠ .null) : Spells (optional decode) j (some a) where
  distinct := h.distinct
  outcome_eq src := by
    rw [outcome_optional decode src present, h.outcome_eq]
    rfl

theorem spells_null (decode : Decoder α) : Spells (optional decode) .null none :=
  ⟨rfl, outcome_optional_null decode⟩

/-- **An array of what is spelled.** -/
theorem Spells.list {decode : Decoder α} {js : List Json} {as : List α}
    (h : List.Forall₂ (Spells decode) js as) : Spells (list decode) (.array js) as where
  distinct := by
    induction h with
    | nil => rfl
    | cons first _ ih => exact Bool.and_eq_true_iff.mpr ⟨first.distinct, ih⟩
  outcome_eq src := by
    rw [outcome_list_array]
    induction h with
    | nil => rfl
    | cons first _ ih =>
      rw [List.mapM_cons, first.outcome_eq, ih]
      rfl

theorem forall₂_map {decode : Decoder α} {write : α → Json} {as : List α}
    (h : ∀ a ∈ as, Spells decode (write a) a) :
    List.Forall₂ (Spells decode) (as.map write) as := by
  rw [List.forall₂_map_left_iff]
  exact List.forall₂_same.mpr h

theorem forall₂_writtenFrom {decode : Decoder α} {write : Style → α → Json}
    (h : ∀ σ a, Spells decode (write σ a) a) (σ : Style) (i : Nat) (as : List α) :
    List.Forall₂ (Spells decode) (writtenFrom write σ i as) as := by
  induction as generalizing i with
  | nil => exact .nil
  | cons a rest ih => exact .cons (h _ a) (ih (i + 1))

/-- **A map of what is spelled.** -/
theorem Spells.keyed {decode : Decoder α} {write : String × α → Json} {m : Keyed α}
    (h : ∀ e ∈ m.entries, Spells decode (write e) e.2) :
    Spells (keyed decode) (.object (m.entries.map fun e => (e.1, write e))) m where
  distinct := by
    rw [Json.hasDistinctKeys_object]
    constructor
    · rw [List.map_map]
      exact m.nodup_keys
    · intro written mem
      obtain ⟨e, here, rfl⟩ := List.mem_map.mp mem
      exact (h e here).distinct
  outcome_eq src := by
    have all : ∀ es : List (String × α), (∀ e ∈ es, Spells decode (write e) e.2) →
        (es.map fun e => (e.1, write e)).mapM
          (fun e => (outcome decode src e.2).map (e.1, ·)) = some es := by
      intro es h
      induction es with
      | nil => rfl
      | cons e rest ih =>
        obtain ⟨first, later⟩ := List.forall_mem_cons.mp h
        rw [List.map_cons, List.mapM_cons, ih later, first.outcome_eq]
        rfl
    rw [outcome_keyed_object, all m.entries h, Option.map_some, Keyed.ofList_entries]

theorem spells_ofKeyed {m : Keyed Json} (sorted : ∀ e ∈ m.entries, e.2.isSorted = true) :
    Spells (keyed json) (.ofKeyed m) m := by
  have values : Spells (keyed json) (.object (m.entries.map fun e => (e.1, e.2))) m :=
    .keyed fun e mem => spells_json (sorted e mem)
  rwa [List.map_id'] at values

/-! ### Records -/

/-- Whether a part spells the value of a field. An absent part does if nothing and null both stand
for the value. -/
def Field.Spelled (field : Field α) : Option Json → α → Prop
  | some j, a => Spells field.decode j a
  | none, a => field.absent = some a ∧ Spells field.decode .null a

theorem spelled_needed {field : Field α} {j : Json} {a : α} (h : Spells field.decode j a) :
    field.Spelled (some j) a := h

/-- What may be missing is written where there is something. -/
theorem spelled_possible {name : String} {decode : Decoder α} {write : α → Json} {o : Option α}
    (h : ∀ a, o = some a → Spells decode (write a) a) (present : ∀ a, write a ≠ .null) :
    (possible name decode).Spelled (o.map write) o := by
  cases o with
  | none => exact ⟨rfl, spells_null decode⟩
  | some a => exact (h a rfl).optional (present a)

namespace Fields

/-- Whether parts spell the values of the fields, one by one. -/
inductive Spelled : {αs : List Type} → Fields αs → List (String × Option Json) → Values αs → Prop
  | nil : Spelled .nil [] ()
  | cons {α : Type} {αs : List Type} {field : Field α} {rest : Fields αs} {part : Option Json}
    {parts : List (String × Option Json)} {a : α} {values : Values αs}
    (first : field.Spelled part a) (later : Spelled rest parts values) :
    Spelled (.cons field rest) ((field.name, part) :: parts) (Values.cons a values)

variable {αs : List Type} {fields : Fields αs} {parts : List (String × Option Json)}
  {values : Values αs}

theorem Spelled.names (h : fields.Spelled parts values) : parts.map Prod.fst = fields.names := by
  induction h with
  | nil => rfl
  | cons _ _ ih => rw [List.map_cons, ih, Fields.names]

theorem Spelled.distinct (h : fields.Spelled parts values) :
    ∀ part ∈ parts, ∀ j, part.2 = some j → j.hasDistinctKeys = true := by
  induction h with
  | nil => simp
  | @cons _ _ _ _ part _ _ _ first _ ih =>
    refine List.forall_mem_cons.mpr ⟨fun j present => ?_, ih⟩
    obtain rfl : part = some j := present
    exact Spells.distinct first

theorem found?_foreign (src : Source) {k : String} (j : Json) (es : List (String × Json))
    (foreign : k ∉ fields.names) : fields.found? src ((k, j) :: es) = fields.found? src es := by
  rw [← resumed?_unmet, ← resumed?_unmet]
  exact resumed?_foreign src j es foreign fields.unmet

/-- **The fields are found in an object of their parts.** -/
theorem Spelled.found?_eq (h : fields.Spelled parts values) (names : fields.names.Nodup)
    (form : Form) (src : Source) : fields.found? src (form.entries parts) = some values := by
  induction h with
  | nil => rfl
  | @cons _ _ field rest part parts a values first later ih =>
    obtain ⟨own, names⟩ := List.nodup_cons.mp names
    have there {j : Json} (spells : Spells field.decode j a) :
        (Fields.cons field rest).found? src ((field.name, j) :: form.entries parts) =
          some (Values.cons a values) := by
      rw [Fields.found?, List.lookup_cons_self, found?_foreign src j _ own, ih names,
        Field.outcome, spells.outcome_eq]
      rfl
    cases part with
    | some j => exact there first
    | none =>
      -- Left out, the field falls back on what stands for its absence; written, it is null.
      obtain ⟨absent, null⟩ := first
      by_cases omitted : form.omits field.name = true
      · have absent_key : field.name ∉ (form.entries parts).map Prod.fst :=
          fun mem => own (later.names ▸ (form.keys_entries parts).subset mem)
        have missing := Keyed.lookup_of_absent absent_key
        rw [Form.entries, if_pos omitted, Fields.found?, missing, ih names, Field.outcome, absent]
        rfl
      · rw [Form.entries, if_neg omitted]
        exact there null

/-- **The fields are found in an array of their parts.** -/
theorem Spelled.placed?_eq (h : fields.Spelled parts values) (src : Source) :
    fields.placed? src (Form.items parts) = some values := by
  induction h with
  | nil => rfl
  | @cons _ _ field rest part parts a values first later ih =>
    have there {j : Json} (spells : Spells field.decode j a) :
        (Fields.cons field rest).placed? src (j :: Form.items parts) =
          some (Values.cons a values) := by
      rw [Fields.placed?, List.head?_cons, List.tail_cons, ih, Field.outcome, spells.outcome_eq]
      rfl
    cases part with
    | some j => exact there first
    | none => exact there first.2

end Fields

section

variable {αs : List Type} {fields : Fields αs} {parts : List (String × Option Json)}
  {values : Values αs}

theorem Form.distinct_entries (form : Form)
    (h : ∀ part ∈ parts, ∀ j, part.2 = some j → j.hasDistinctKeys = true) :
    ∀ e ∈ form.entries parts, e.2.hasDistinctKeys = true := by
  induction parts with
  | nil => simp [entries]
  | cons part rest ih =>
    obtain ⟨name, value⟩ := part
    obtain ⟨first, later⟩ := List.forall_mem_cons.mp h
    cases value with
    | some j => exact List.forall_mem_cons.mpr ⟨first j rfl, ih later⟩
    | none =>
      unfold entries
      split
      · exact ih later
      · exact List.forall_mem_cons.mpr ⟨rfl, ih later⟩

theorem Form.distinct_items (h : ∀ part ∈ parts, ∀ j, part.2 = some j → j.hasDistinctKeys = true) :
    ∀ j ∈ items parts, j.hasDistinctKeys = true := by
  intro j mem
  obtain ⟨⟨name, value⟩, here, rfl⟩ := List.mem_map.mp mem
  cases value with
  | some j => exact h _ here j rfl
  | none => rfl

/-- **A record, in either form.** -/
theorem spells_record {title : String} {make : Values αs → β} (names : fields.names.Nodup)
    (h : fields.Spelled parts values) (form : Form) :
    Spells (record title fields make) (form.record parts) (make values) := by
  have keys : ((form.entries parts).map Prod.fst).Nodup :=
    (form.keys_entries parts).nodup (h.names ▸ names)
  unfold Form.record
  split
  · refine ⟨Json.hasDistinctKeys_array.mpr (Form.distinct_items h.distinct), fun src => ?_⟩
    rw [outcome_record_array, h.placed?_eq src]
    rfl
  · refine ⟨Json.hasDistinctKeys_object.mpr ⟨keys, form.distinct_entries h.distinct⟩, fun src => ?_⟩
    rw [outcome_record_object title make src names keys, h.found?_eq names form src]
    rfl

theorem untagged_cons {tag : String} {es : List (String × Json)} (j : Json)
    (free : tag ∉ es.map Prod.fst) : untagged tag ((tag, j) :: es) = es := by
  unfold untagged
  rw [List.filter_cons_of_neg (by simp)]
  refine List.filter_eq_self.mpr fun e mem => ?_
  have other : e.1 ≠ tag := fun same => free (same ▸ List.mem_map_of_mem mem)
  exact decide_eq_true other

/-- **A record with its tag in front.** -/
theorem spells_tagged {title tag name : String} {variants : List (String × Decoder α)}
    {decode : Decoder α} {form : Form} {a : α} (named : variants.lookup name = some decode)
    (foreign : tag ∉ parts.map Prod.fst) (h : Spells decode (form.record parts) a) :
    Spells (tagged title tag variants) (form.tagged tag name parts) a := by
  obtain ⟨distinct, made⟩ := h
  unfold Form.record at distinct made
  unfold Form.tagged
  split
  · rename_i positional
    rw [if_pos positional] at distinct made
    refine ⟨distinct, fun src => ?_⟩
    rw [outcome_tagged_array, outcome_variantTag_string, named, Option.bind_some, made]
  · rename_i keyed
    rw [if_neg keyed] at distinct made
    obtain ⟨keys, deep⟩ := Json.hasDistinctKeys_object.mp distinct
    have free : tag ∉ (form.entries parts).map Prod.fst :=
      fun mem => foreign ((form.keys_entries parts).subset mem)
    have keys' : (((tag, Json.string name) :: form.entries parts).map Prod.fst).Nodup :=
      List.nodup_cons.mpr ⟨free, keys⟩
    constructor
    · exact Json.hasDistinctKeys_object.mpr ⟨keys', List.forall_mem_cons.mpr ⟨rfl, deep⟩⟩
    · intro src
      rw [outcome_tagged_object _ _ _ src keys', List.lookup_cons_self, Option.bind_some,
        outcome_variantTag_string, named, Option.bind_some, untagged_cons _ free, made]

end

/-! ## Decoding -/

/-- **What is spelled is decoded** from a value. -/
theorem Spells.fromJson_eq {decode : Decoder α} {j : Json} {a : α} (h : Spells decode j a)
    (steady : Steady decode) : fromJson decode j = .ok a := by
  rw [← toOption_eq_some_iff, steady.fromJson_eq h.distinct, h.outcome_eq]

/-- **And from every text** in which the value stands. -/
theorem Spells.fromText_eq {decode : Decoder α} {j : Json} {a : α} (h : Spells decode j a)
    {s : String} (read : Json.read? Json.nestingLimit s = some j) :
    fromText decode s = .ok a := by
  rw [← toOption_eq_some_iff, toOption_fromText decode read, h.outcome_eq]

end SqlBroker.Decode
