import SqlBroker.Proofs.Decode.Steady

/-!
# Keys that are no field

A record passes over the keys that are none of its fields. `Added` says of two values that the
second is the first with such a key added, to the record itself or to one that is decoded for a part
of it. `Respelled` goes further: any number of these keys come or go, and the keys of any object
change their order.

Headlines:
* **`Added.outcome_eq`**: no key that is added changes what is made of a value.
* **`Respelled.fromText_eq`**, **`Respelled.fromJson_eq`**: nor does any change of spelling.
-/

namespace SqlBroker.Decode

open Json (Reordered)

variable {α β : Type}

/-! ## Parts of records -/

namespace Fields

/-- Whether the first field of a name is decoded so. -/
inductive Names (k : String) (decode : Decoder β) : {αs : List Type} → Fields αs → Prop
  | here {αs : List Type} {field : Field β} {rest : Fields αs} (name : field.name = k)
    (own : field.decode = decode) : Names k decode (.cons field rest)
  | there {α : Type} {αs : List Type} {field : Field α} {rest : Fields αs}
    (other : field.name ≠ k) (later : Names k decode rest) : Names k decode (.cons field rest)

/-- Whether the field in a place is decoded so. -/
inductive Places (decode : Decoder β) : {αs : List Type} → Fields αs → Nat → Prop
  | here {αs : List Type} {field : Field β} {rest : Fields αs} (own : field.decode = decode) :
    Places decode (.cons field rest) 0
  | there {α : Type} {αs : List Type} {field : Field α} {rest : Fields αs} {i : Nat}
    (later : Places decode rest i) : Places decode (.cons field rest) (i + 1)

theorem fill_append (src : Source) {αs : List Type} (fields : Fields αs)
    (after : List (String × Json)) : ∀ (before : List (String × Json)) (slots : Slots αs),
      fields.fill src (Draft.ofEntries (before ++ after)) slots =
        fields.fill src (Draft.ofEntries before) slots >>= fields.fill src (Draft.ofEntries after)
  | [], _ => rfl
  | (k, j) :: rest, slots => by
    rw [List.cons_append, fill_entry, fill_entry]
    cases fields.take src k (.ofJson j) slots with
    | error fault => rfl
    | ok slots' => exact fill_append src fields after rest slots'

/-- Two values of which a field makes the same. -/
theorem take_alike (src : Source) {k : String} {decode : Decoder β} {j j' : Json}
    (same : outcome decode src j = outcome decode src j') {αs : List Type} {fields : Fields αs}
    (h : Names k decode fields) : ∀ slots : Slots αs,
      (fields.take src k (.ofJson j) slots).toOption =
        (fields.take src k (.ofJson j') slots).toOption := by
  induction h with
  | here name own =>
    subst name own
    rintro ⟨slot, slots⟩
    cases slot with
    | some a => rw [take_met, take_met]
    | none =>
      rw [take_own, take_own, toOption_map, toOption_map, toOption_within, toOption_within]
      exact congrArg _ same
  | there other _ ih =>
    rintro ⟨slot, slots⟩
    rw [take_other src slots other, take_other src slots other, toOption_map, toOption_map,
      ih slots]

theorem placed?_alike (src : Source) {decode : Decoder β} {j j' : Json}
    (same : outcome decode src j = outcome decode src j') (after : List Json) {αs : List Type}
    {fields : Fields αs} {i : Nat} (h : Places decode fields i) : ∀ {before : List Json},
      before.length = i →
        fields.placed? src (before ++ j :: after) = fields.placed? src (before ++ j' :: after) := by
  induction h with
  | here own =>
    subst own
    intro before first
    obtain rfl := List.eq_nil_of_length_eq_zero first
    exact congrArg (Option.bind · _) same
  | there _ ih =>
    intro before later
    cases before with
    | nil => exact nomatch later
    | cons j₀ before =>
      have rest := ih (Nat.succ.inj later)
      rw [List.cons_append, List.cons_append, placed?, placed?, List.tail_cons, List.tail_cons,
        rest]
      rfl

end Fields

/-! ## One key more -/

/-- Whether the second value is the first with one key more, added where a decoder meets a record
of which it is no field. -/
inductive Added : {α : Type} → Decoder α → Json → Json → Prop
  /-- To the record itself. -/
  | foreign {αs : List Type} {β : Type} {title : String} {fields : Fields αs}
    {make : Values αs → β} (before after : List (String × Json)) {k : String} {j : Json}
    (foreign : k ∉ fields.names) :
    Added (record title fields make) (.object (before ++ after))
      (.object (before ++ (k, j) :: after))
  /-- Under the name of a field. -/
  | field {αs : List Type} {β γ : Type} {title : String} {fields : Fields αs}
    {make : Values αs → β} (before after : List (String × Json)) {k : String}
    {decode : Decoder γ} {j j' : Json} (name : fields.Names k decode) (part : Added decode j j') :
    Added (record title fields make) (.object (before ++ (k, j) :: after))
      (.object (before ++ (k, j') :: after))
  /-- In the place of a field. -/
  | place {αs : List Type} {β γ : Type} {title : String} {fields : Fields αs}
    {make : Values αs → β} (before after : List Json) {decode : Decoder γ} {j j' : Json}
    (place : fields.Places decode before.length) (part : Added decode j j') :
    Added (record title fields make) (.array (before ++ j :: after))
      (.array (before ++ j' :: after))
  | item {β : Type} {decode : Decoder β} (before after : List Json) {j j' : Json}
    (part : Added decode j j') :
    Added (list decode) (.array (before ++ j :: after)) (.array (before ++ j' :: after))
  | entry {β : Type} {decode : Decoder β} (before after : List (String × Json)) {k : String}
    {j j' : Json} (part : Added decode j j') :
    Added (keyed decode) (.object (before ++ (k, j) :: after))
      (.object (before ++ (k, j') :: after))
  | optional {β : Type} {decode : Decoder β} {j j' : Json} (part : Added decode j j') :
    Added (optional decode) j j'
  | checked {β γ : Type} {decode : Decoder β} {check : β → Except Error γ} {j j' : Json}
    (part : Added decode j j') : Added (checked decode check) j j'
  /-- To what is left beside a tag. -/
  | variant {β : Type} {title tag : String} {variants : List (String × Decoder β)}
    {es es' : List (String × Json)} {t : Json} {decode : Decoder β}
    (found : es.lookup tag = some t) (found' : es'.lookup tag = some t)
    (named : outcome (variantTag variants) .held t = some decode)
    (part : Added decode (.object (untagged tag es)) (.object (untagged tag es'))) :
    Added (tagged title tag variants) (.object es) (.object es')
  /-- To what comes after a tag. -/
  | following {β : Type} {title tag : String} {variants : List (String × Decoder β)}
    {js js' : List Json} {t : Json} {decode : Decoder β}
    (named : outcome (variantTag variants) .held t = some decode)
    (part : Added decode (.array js) (.array js')) :
    Added (tagged title tag variants) (.array (t :: js)) (.array (t :: js'))

/-- Keys are added to objects, and inside arrays and objects. -/
theorem Added.ne_null {decode : Decoder α} {j j' : Json} (h : Added decode j j') :
    j ≠ .null ∧ j' ≠ .null := by
  induction h with
  | optional _ ih => exact ih
  | checked _ ih => exact ih
  | _ => exact ⟨nofun, nofun⟩

theorem mapM_alike {γ δ : Type} {f : γ → Option δ} {x x' : γ} (same : f x = f x')
    (before after : List γ) :
    (before ++ x :: after).mapM f = (before ++ x' :: after).mapM f := by
  rw [List.mapM_append, List.mapM_append, List.mapM_cons, List.mapM_cons, same]

/-- A tag that names a variant inside of a tagged value names no other one elsewhere. -/
theorem eq_of_variantTag {variants : List (String × α)} {src : Source} {t : Json} {a b : α}
    (held : outcome (variantTag variants) .held t = some a)
    (here : outcome (variantTag variants) src t = some b) : a = b := by
  cases t with
  | string name =>
    rw [outcome_variantTag_string] at held here
    exact Option.some.inj (held.symm.trans here)
  | _ =>
    cases src with
    | held => exact Option.some.inj (held.symm.trans here)
    | _ => simp [outcome, variantTag, Draft.ofJson] at here

theorem hasDistinctKeys_part {before after : List (String × Json)} {k : String} {j : Json}
    (h : (Json.object (before ++ (k, j) :: after)).hasDistinctKeys = true) :
    j.hasDistinctKeys = true :=
  (Json.hasDistinctKeys_object.mp h).2 (k, j) (by simp)

theorem hasDistinctKeys_rest {t : Json} {js : List Json}
    (h : (Json.array (t :: js)).hasDistinctKeys = true) : (Json.array js).hasDistinctKeys = true :=
  (Bool.and_eq_true_iff.mp h).2

theorem hasDistinctKeys_item {before after : List Json} {j : Json}
    (h : (Json.array (before ++ j :: after)).hasDistinctKeys = true) : j.hasDistinctKeys = true :=
  Json.hasDistinctKeys_array.mp h j (by simp)

/-- **No key that is added changes what is made of a value.** -/
theorem Added.outcome_eq {decode : Decoder α} {j j' : Json} (h : Added decode j j') :
    j.hasDistinctKeys = true → j'.hasDistinctKeys = true →
      ∀ src, outcome decode src j = outcome decode src j' := by
  induction h with
  | @foreign _ _ _ fields _ before after k j foreign =>
    intro _ _ src
    have passed : fields.fill src (Draft.ofEntries ((k, j) :: after)) =
        fields.fill src (Draft.ofEntries after) := by
      funext slots
      rw [Fields.fill_entry, Fields.take_foreign src j foreign slots]
      rfl
    rw [outcome_record_fill, outcome_record_fill, Fields.fill_append, Fields.fill_append, passed]
  | @field _ _ _ _ fields _ before after k _ j j' name _ ih =>
    intro distinct distinct' src
    have same := ih (hasDistinctKeys_part distinct) (hasDistinctKeys_part distinct') src
    rw [outcome_record_fill, outcome_record_fill, Fields.fill_append, Fields.fill_append]
    simp only [toOption_bind, Fields.fill_entry, Fields.take_alike src same name]
  | @place _ _ _ _ fields _ before after _ j j' place _ ih =>
    intro distinct distinct' src
    have same := ih (hasDistinctKeys_item distinct) (hasDistinctKeys_item distinct') src
    rw [outcome_record_array, outcome_record_array, Fields.placed?_alike src same after place rfl]
  | item _ _ _ ih =>
    intro distinct distinct' src
    have same := ih (hasDistinctKeys_item distinct) (hasDistinctKeys_item distinct') src
    rw [outcome_list_array, outcome_list_array, mapM_alike same]
  | entry _ _ _ ih =>
    intro distinct distinct' src
    have same := ih (hasDistinctKeys_part distinct) (hasDistinctKeys_part distinct') src
    rw [outcome_keyed_object, outcome_keyed_object, mapM_alike]
    exact congrArg _ same
  | optional part ih =>
    intro distinct distinct' src
    obtain ⟨some_left, some_right⟩ := part.ne_null
    rw [outcome_optional _ src some_left, outcome_optional _ src some_right,
      ih distinct distinct' src]
  | checked _ ih =>
    intro distinct distinct' src
    rw [outcome_checked, outcome_checked, ih distinct distinct' src]
  | variant found found' named _ ih =>
    intro distinct distinct' src
    have same := ih (hasDistinctKeys_untagged distinct) (hasDistinctKeys_untagged distinct') .held
    obtain ⟨keys, -⟩ := Json.hasDistinctKeys_object.mp distinct
    obtain ⟨keys', -⟩ := Json.hasDistinctKeys_object.mp distinct'
    rw [outcome_tagged_object _ _ _ src keys, outcome_tagged_object _ _ _ src keys', found, found',
      Option.bind_some, Option.bind_some]
    -- A tag that is a position names nothing outside, and then neither value is accepted.
    refine Option.bind_congr fun decode here => ?_
    rwa [← eq_of_variantTag named here]
  | following named _ ih =>
    intro distinct distinct' src
    have same := ih (hasDistinctKeys_rest distinct) (hasDistinctKeys_rest distinct') .held
    rw [outcome_tagged_array, outcome_tagged_array]
    refine Option.bind_congr fun decode here => ?_
    rwa [← eq_of_variantTag named here]

/-! ## Other spellings -/

/-- Whether two values differ only in the order of keys, and in keys that are no field where a
decoder meets them. -/
inductive Respelled (decode : Decoder α) (j : Json) : Json → Prop
  | same : Respelled decode j j
  | reordered {mid j' : Json} (before : Respelled decode j mid) (order : Reordered mid j') :
    Respelled decode j j'
  | added {mid j' : Json} (before : Respelled decode j mid) (more : Added decode mid j')
    (distinct : j'.hasDistinctKeys = true) : Respelled decode j j'
  | dropped {mid j' : Json} (before : Respelled decode j mid) (less : Added decode j' mid)
    (distinct : j'.hasDistinctKeys = true) : Respelled decode j j'

section

variable {decode : Decoder α} {j j' : Json}

theorem Respelled.hasDistinctKeys (h : Respelled decode j j')
    (distinct : j.hasDistinctKeys = true) : j'.hasDistinctKeys = true := by
  induction h with
  | same => exact distinct
  | reordered _ order ih => exact order.hasDistinctKeys ih
  | added _ _ distinct' _ => exact distinct'
  | dropped _ _ distinct' _ => exact distinct'

/-- **No spelling changes what is made of a value.** -/
theorem Respelled.outcome_eq (h : Respelled decode j j') (steady : Steady decode)
    (distinct : j.hasDistinctKeys = true) (src : Source) :
    outcome decode src j = outcome decode src j' := by
  induction h with
  | same => rfl
  | reordered before order ih =>
    exact ih.trans (steady _ _ _ _ Iff.rfl (before.hasDistinctKeys distinct) order)
  | added before more distinct' ih =>
    exact ih.trans (more.outcome_eq (before.hasDistinctKeys distinct) distinct' src)
  | dropped before less distinct' ih =>
    exact ih.trans (less.outcome_eq distinct' (before.hasDistinctKeys distinct) src).symm

theorem Respelled.fromJson_eq (h : Respelled decode j j') (steady : Steady decode)
    (distinct : j.hasDistinctKeys = true) :
    (fromJson decode j').toOption = (fromJson decode j).toOption := by
  rw [steady.fromJson_eq distinct, steady.fromJson_eq (h.hasDistinctKeys distinct),
    h.outcome_eq steady distinct]

theorem Respelled.fromText_eq (h : Respelled decode j j') (steady : Steady decode)
    (distinct : j.hasDistinctKeys = true) {s s' : String}
    (read : Json.read? Json.nestingLimit s = some j)
    (read' : Json.read? Json.nestingLimit s' = some j') :
    (fromText decode s').toOption = (fromText decode s).toOption := by
  rw [toOption_fromText decode read, toOption_fromText decode read',
    h.outcome_eq steady distinct]

end

end SqlBroker.Decode
