import SqlBroker.Proofs.Decode.Outcome
import SqlBroker.Proofs.Json.Order

/-!
# Decoders that do not mind the order of keys

A decoder is steady if it makes the same of two values that differ in the order of the keys in their
objects, and the same of a value read from a text and of one read before. Only what comes from
inside a tagged value is apart, where a little more is accepted. Every way of combining steady
decoders gives a steady one, if the fields of a record have names of their own.

Headlines:
* **`Steady.list`**, **`Steady.keyed`**, **`steady_record`**, **`steady_tagged`**: combined
  decoders.
* **`Steady.fromText_eq`**: what is made of a text is what is made of the value in it.
-/

namespace SqlBroker.Decode

open Json (Reordered AllReordered EntriesReordered)

variable {α β : Type}

/-- Whether a decoder does not mind the order of keys, nor where a value comes from, but for the
inside of tagged values. -/
def Steady (decode : Decoder α) : Prop :=
  ∀ (src src' : Source) (j j' : Json), (src = .held ↔ src' = .held) → j.hasDistinctKeys = true →
    Reordered j j' → outcome decode src j = outcome decode src' j'

/-! ## Scalars -/

/-- What is no array and no object has one order. -/
theorem Steady.of_scalar {decode : Decoder α}
    (same : ∀ (src src' : Source) (j : Json), (src = .held ↔ src' = .held) →
      outcome decode src j = outcome decode src' j)
    (array : ∀ src js, outcome decode src (.array js) = none)
    (object : ∀ src es, outcome decode src (.object es) = none) : Steady decode := by
  intro src src' j j' held distinct reordered
  cases reordered with
  | same => exact same src src' j held
  | array items => rw [array, array]
  | object values order => rw [object, object]

theorem steady_string : Steady string := by
  refine Steady.of_scalar (fun src src' j _ => ?_) (fun src js => ?_) fun src es => ?_
  · cases j <;> rfl
  · simp [outcome, string, Draft.ofJson]
  · simp [outcome, string, Draft.ofJson]

theorem steady_flag : Steady flag := by
  refine Steady.of_scalar (fun src src' j _ => ?_) (fun src js => ?_) fun src es => ?_
  · cases j <;> rfl
  · simp [outcome, flag, Draft.ofJson]
  · simp [outcome, flag, Draft.ofJson]

theorem steady_word : Steady word := by
  refine Steady.of_scalar (fun src src' j _ => ?_) (fun src js => ?_) fun src es => ?_
  · cases j with
    | number n => cases n <;> rfl
    | _ => rfl
  · simp [outcome, word, Draft.ofJson]
  · simp [outcome, word, Draft.ofJson]

theorem steady_json : Steady json := by
  intro src src' j j' _ distinct reordered
  rw [outcome_json, outcome_json, reordered.normalize_eq distinct]

/-! ## Combined decoders -/

theorem Steady.checked {decode : Decoder α} (h : Steady decode) (check : α → Except Error β) :
    Steady (checked decode check) := by
  intro src src' j j' held distinct reordered
  rw [outcome_checked, outcome_checked, h _ _ _ _ held distinct reordered]

theorem Steady.optional {decode : Decoder α} (h : Steady decode) : Steady (optional decode) := by
  intro src src' j j' held distinct reordered
  by_cases null : j = .null
  · subst null
    cases reordered
    rfl
  · have null' : j' ≠ .null := by
      rintro rfl
      cases reordered
      exact null rfl
    rw [outcome_optional decode src null, outcome_optional decode src' null',
      h _ _ _ _ held distinct reordered]

theorem mapM_reordered {decode : Decoder α} (h : Steady decode) {src src' : Source}
    (held : src = .held ↔ src' = .held) {js js' : List Json} (items : AllReordered js js')
    (distinct : Json.haveDistinctKeys js = true) :
    js.mapM (outcome decode src) = js'.mapM (outcome decode src') := by
  induction js generalizing js' with
  | nil =>
    cases items
    rfl
  | cons j js ih =>
    cases items with
    | cons first rest =>
      obtain ⟨here, later⟩ := Bool.and_eq_true_iff.mp distinct
      rw [List.mapM_cons, List.mapM_cons, h _ _ _ _ held here first, ih rest later]

theorem Steady.list {decode : Decoder α} (h : Steady decode) : Steady (list decode) := by
  intro src src' j j' held distinct reordered
  cases j with
  | array js =>
    obtain ⟨js', rfl, items⟩ := reordered.of_array
    rw [outcome_list_array, outcome_list_array, mapM_reordered h held items distinct]
  | object es =>
    obtain ⟨_, _, rfl, -, -⟩ := reordered.of_object
    simp [outcome, Decode.list, Draft.ofJson]
  | _ =>
    cases reordered
    simp [outcome, Decode.list, Draft.ofJson]

theorem entries_reordered {decode : Decoder α} (h : Steady decode) {src src' : Source}
    (held : src = .held ↔ src' = .held) {es es' : List (String × Json)}
    (values : EntriesReordered es es') (distinct : Json.entriesHaveDistinctKeys es = true) :
    (es.mapM fun e => (outcome decode src e.2).map (e.1, ·)) =
      es'.mapM fun e => (outcome decode src' e.2).map (e.1, ·) := by
  induction es generalizing es' with
  | nil =>
    cases values
    rfl
  | cons e es ih =>
    cases values with
    | cons first rest =>
      obtain ⟨here, later⟩ := Bool.and_eq_true_iff.mp distinct
      rw [List.mapM_cons, List.mapM_cons, h _ _ _ _ held here first, ih rest later]

/-- Results of values in another order are those results in another order. -/
theorem mapM_perm {γ δ : Type} {f : γ → Option δ} {xs ys : List γ} (h : xs.Perm ys) :
    Option.Rel List.Perm (xs.mapM f) (ys.mapM f) := by
  induction h with
  | nil => exact .some .nil
  | @cons x xs ys _ ih =>
    rw [List.mapM_cons, List.mapM_cons]
    generalize xs.mapM f = rest at ih
    generalize ys.mapM f = rest' at ih
    cases f x with
    | none => exact .none
    | some z =>
      cases ih with
      | none => exact .none
      | some h => exact .some (h.cons z)
  | swap x y rest =>
    simp only [List.mapM_cons]
    cases f x with
    | none => cases f y <;> exact .none
    | some a =>
      cases f y with
      | none => exact .none
      | some b =>
        cases rest.mapM f with
        | none => exact .none
        | some as => exact .some (.swap a b as)
  | @trans xs ys zs _ _ ih₁ ih₂ =>
    generalize xs.mapM f = first at ih₁
    generalize ys.mapM f = middle at ih₁ ih₂
    generalize zs.mapM f = last at ih₂
    cases ih₁ with
    | none => exact ih₂
    | some h₁ =>
      cases ih₂ with
      | some h₂ => exact .some (h₁.trans h₂)

theorem keys_of_mapM {γ δ : Type} {f : γ → Option δ} : ∀ {es : List (String × γ)}
    {as : List (String × δ)}, (es.mapM fun e => (f e.2).map (e.1, ·)) = some as →
      as.map Prod.fst = es.map Prod.fst
  | [], as, h => by
    obtain rfl := Option.some.inj h
    rfl
  | (k, v) :: rest, as, h => by
    rw [List.mapM_cons] at h
    obtain ⟨a, first, h⟩ := Option.bind_eq_some_iff.mp h
    obtain ⟨as', later, h⟩ := Option.bind_eq_some_iff.mp h
    obtain ⟨_, -, rfl⟩ := Option.map_eq_some_iff.mp first
    obtain rfl := Option.some.inj h
    rw [List.map_cons, List.map_cons, keys_of_mapM later]

theorem Steady.keyed {decode : Decoder α} (h : Steady decode) : Steady (keyed decode) := by
  intro src src' j j' held distinct reordered
  cases j with
  | object es =>
    obtain ⟨mid, es', rfl, values, order⟩ := reordered.of_object
    obtain ⟨keys, deep⟩ := Json.hasDistinctKeys_object.mp distinct
    rw [outcome_keyed_object, outcome_keyed_object,
      entries_reordered h held values (Json.entriesHaveDistinctKeys_iff.mpr deep)]
    have permuted := mapM_perm (f := fun e => (outcome decode src' e.2).map (e.1, ·)) order
    generalize found : (mid.mapM fun e => (outcome decode src' e.2).map (e.1, ·)) = as at permuted
    generalize (es'.mapM fun e => (outcome decode src' e.2).map (e.1, ·)) = as' at permuted
    cases permuted with
    | none => rfl
    | some perm =>
      have distinct := (keys_of_mapM found).trans values.keys.symm ▸ keys
      exact congrArg some (Keyed.ofList_eq_of_perm perm distinct)
  | array js =>
    obtain ⟨_, rfl, -⟩ := reordered.of_array
    simp [outcome, Decode.keyed, Draft.ofJson]
  | _ =>
    cases reordered
    simp [outcome, Decode.keyed, Draft.ofJson]

/-! ## Records -/

/-- Whether the decoders of all fields are steady. -/
def Fields.AllSteady : {αs : List Type} → Fields αs → Prop
  | _, .nil => True
  | _, .cons field rest => Steady field.decode ∧ rest.AllSteady

section

variable {src src' : Source} (held : src = .held ↔ src' = .held)

include held

theorem outcome_field {field : Field α} (h : Steady field.decode) {o o' : Option Json}
    (distinct : ∀ j, o = some j → j.hasDistinctKeys = true) (related : Option.Rel Reordered o o') :
    field.outcome src o = field.outcome src' o' := by
  cases related with
  | none => rfl
  | some reordered => exact h _ _ _ _ held (distinct _ rfl) reordered

theorem found?_reordered {es es' : List (String × Json)}
    (distinct : ∀ k j, es.lookup k = some j → j.hasDistinctKeys = true)
    (related : ∀ k, Option.Rel Reordered (es.lookup k) (es'.lookup k)) : ∀ {αs : List Type}
      {fields : Fields αs}, fields.AllSteady → fields.found? src es = fields.found? src' es'
  | _, .nil, _ => rfl
  | _, .cons field rest, h => by
    obtain ⟨first, later⟩ := h
    rw [Fields.found?, Fields.found?, found?_reordered distinct related later,
      outcome_field held first (distinct field.name) (related field.name)]

theorem placed?_reordered : ∀ {αs : List Type} {fields : Fields αs}, fields.AllSteady →
    ∀ {js js' : List Json}, AllReordered js js' → Json.haveDistinctKeys js = true →
      fields.placed? src js = fields.placed? src' js'
  | _, .nil, _, _, _, .nil, _ => rfl
  | _, .nil, _, _, _, .cons _ _, _ => rfl
  | _, .cons field rest, h, _, _, .nil, _ => by
    rw [Fields.placed?, Fields.placed?, List.tail_nil, placed?_reordered h.2 .nil rfl]
    rfl
  | _, .cons field rest, h, _, _, @AllReordered.cons j j' _ _ here items, distinct => by
    obtain ⟨distinct, later⟩ := Bool.and_eq_true_iff.mp distinct
    have first : field.outcome src (some j) = field.outcome src' (some j') :=
      h.1 _ _ _ _ held distinct here
    rw [Fields.placed?, Fields.placed?, List.head?_cons, List.head?_cons, List.tail_cons,
      List.tail_cons, first, placed?_reordered h.2 items later]

end

theorem steady_record {αs : List Type} {fields : Fields αs} (title : String)
    (make : Values αs → β) (names : fields.names.Nodup) (h : fields.AllSteady) :
    Steady (record title fields make) := by
  intro src src' j j' held distinct reordered
  cases j with
  | object es =>
    have distinct' := reordered.hasDistinctKeys distinct
    obtain ⟨mid, es', rfl, values, order⟩ := reordered.of_object
    obtain ⟨keys, deep⟩ := Json.hasDistinctKeys_object.mp distinct
    obtain ⟨keys', -⟩ := Json.hasDistinctKeys_object.mp distinct'
    rw [outcome_record_object title make src names keys,
      outcome_record_object title make src' names keys']
    refine congrArg (Option.map make) (found?_reordered held (fun k j found => ?_) ?_ h)
    · exact deep (k, j) ((Keyed.lookup_eq_some_iff_mem keys).mp found)
    · exact reordered.lookup keys
  | array js =>
    obtain ⟨js', rfl, items⟩ := reordered.of_array
    rw [outcome_record_array, outcome_record_array, placed?_reordered held h items distinct]
  | _ =>
    cases reordered
    simp [outcome, record, Draft.ofJson]

/-! ## Variants -/

theorem steady_variantTag (variants : List (String × α)) : Steady (variantTag variants) := by
  refine Steady.of_scalar (fun src src' j held => ?_) (fun src js => ?_) fun src es => ?_
  · cases j with
    | string name => rw [outcome_variantTag_string, outcome_variantTag_string]
    | number n =>
      cases n with
      | float x => cases src <;> cases src' <;> rfl
      | integer n => simp only [outcome_variantTag_integer, held]
    | _ => cases src <;> cases src' <;> rfl
  · cases src <;> simp [outcome, variantTag, Draft.ofJson]
  · cases src <;> simp [outcome, variantTag, Draft.ofJson]

theorem EntriesReordered.length_eq {es mid es' : List (String × Json)}
    (values : EntriesReordered es mid) (order : mid.Perm es') : es.length = es'.length := by
  rw [← order.length_eq, ← List.length_map Prod.fst, values.keys, List.length_map]

theorem steady_bare : Steady bare := by
  intro src src' j j' held distinct reordered
  cases j with
  | object es =>
    obtain ⟨mid, es', rfl, values, order⟩ := reordered.of_object
    have length := EntriesReordered.length_eq values order
    have empty : es.isEmpty = es'.isEmpty := by
      cases es <;> cases es' <;> simp at length ⊢
    rw [outcome_bare_object, outcome_bare_object, empty]
    simp only [held]
  | array js =>
    obtain ⟨js', rfl, items⟩ := reordered.of_array
    cases src <;> cases src' <;> simp [outcome, bare, Draft.ofJson]
  | _ =>
    cases reordered
    cases src <;> cases src' <;> rfl

theorem steady_choice (variants : List (String × α)) : Steady (choice variants) := by
  intro src src' j j' held distinct reordered
  cases j with
  | object es =>
    obtain ⟨mid, es', rfl, values, order⟩ := reordered.of_object
    have length := EntriesReordered.length_eq values order
    by_cases single : es.length = 1
    · obtain ⟨⟨k, j⟩, rfl⟩ := List.length_eq_one_iff.mp single
      cases values with
      | @cons _ _ j' _ mid first rest =>
        cases rest
        obtain rfl := List.singleton_perm.mp order
        obtain ⟨-, deep⟩ := Json.hasDistinctKeys_object.mp distinct
        have inner := steady_bare src src' j j' held (deep _ List.mem_cons_self) first
        rw [outcome_choice_single, outcome_choice_single, inner]
    · rw [outcome_choice_object variants src single,
        outcome_choice_object variants src' (length ▸ single)]
  | array js =>
    obtain ⟨js', rfl, items⟩ := reordered.of_array
    cases src <;> cases src' <;> simp [outcome, choice, Draft.ofJson]
  | string name =>
    cases reordered
    rw [outcome_choice_string, outcome_choice_string]
  | _ =>
    cases reordered
    cases src <;> cases src' <;> simp [outcome, choice, Draft.ofJson]

theorem mem_of_variantTag {variants : List (String × α)} {src : Source} {j : Json} {a : α}
    (h : outcome (variantTag variants) src j = some a) : ∃ name, (name, a) ∈ variants := by
  cases j with
  | string name =>
    rw [outcome_variantTag_string] at h
    obtain ⟨before, after, rfl, -⟩ := List.lookup_eq_some_iff.mp h
    exact ⟨name, by simp⟩
  | number n =>
    cases n with
    | float x => cases src <;> simp [outcome, variantTag, Draft.ofJson] at h
    | integer n =>
      rw [outcome_variantTag_integer] at h
      split at h
      · obtain ⟨⟨name, a⟩, found, rfl⟩ := Option.map_eq_some_iff.mp h
        exact ⟨name, List.mem_of_getElem? found⟩
      · cases h
  | _ => cases src <;> simp [outcome, variantTag, Draft.ofJson] at h

theorem hasDistinctKeys_untagged {tag : String} {es : List (String × Json)}
    (h : (Json.object es).hasDistinctKeys = true) :
    (Json.object (untagged tag es)).hasDistinctKeys = true := by
  obtain ⟨keys, deep⟩ := Json.hasDistinctKeys_object.mp h
  rw [Json.hasDistinctKeys_object]
  refine ⟨keys.sublist (List.filter_sublist.map _), fun e mem => ?_⟩
  exact deep e (List.mem_filter.mp mem).1

theorem bind_eq_of_rel {γ δ : Type} {R : γ → δ → Prop} {o : Option γ} {o' : Option δ}
    {f : γ → Option α} {g : δ → Option α} (related : Option.Rel R o o')
    (same : ∀ x y, o = some x → R x y → f x = g y) : o.bind f = o'.bind g := by
  cases related with
  | none => rfl
  | some h => exact same _ _ rfl h

/-- What the decoder that a tag names makes of the rest. -/
theorem variantTag_reordered {variants : List (String × Decoder α)}
    (h : ∀ name decode, (name, decode) ∈ variants → Steady decode) {src src' : Source}
    (held : src = .held ↔ src' = .held) {j j' : Json} (tag_distinct : j.hasDistinctKeys = true)
    (tags : Reordered j j') {rest rest' : Json} (rest_distinct : rest.hasDistinctKeys = true)
    (rests : Reordered rest rest') :
    ((outcome (variantTag variants) src j).bind fun decode => outcome decode .held rest) =
      (outcome (variantTag variants) src' j').bind fun decode => outcome decode .held rest' := by
  rw [steady_variantTag variants src src' j j' held tag_distinct tags]
  refine Option.bind_congr fun decode named => ?_
  obtain ⟨name, mem⟩ := mem_of_variantTag named
  exact h name decode mem _ _ _ _ Iff.rfl rest_distinct rests

theorem steady_tagged (title tag : String) {variants : List (String × Decoder α)}
    (h : ∀ name decode, (name, decode) ∈ variants → Steady decode) :
    Steady (tagged title tag variants) := by
  intro src src' j j' held distinct reordered
  cases j with
  | object es =>
    have distinct' := reordered.hasDistinctKeys distinct
    obtain ⟨mid, es', rfl, values, order⟩ := reordered.of_object
    obtain ⟨keys, deep⟩ := Json.hasDistinctKeys_object.mp distinct
    obtain ⟨keys', -⟩ := Json.hasDistinctKeys_object.mp distinct'
    have others : Reordered (.object (untagged tag es)) (.object (untagged tag es')) :=
      .object (values.filter (· ≠ tag)) (order.filter _)
    rw [outcome_tagged_object title tag variants src keys,
      outcome_tagged_object title tag variants src' keys']
    refine bind_eq_of_rel (reordered.lookup keys tag) fun j j' found tags => ?_
    have tag_distinct := deep _ ((Keyed.lookup_eq_some_iff_mem keys).mp found)
    exact variantTag_reordered h held tag_distinct tags (hasDistinctKeys_untagged distinct) others
  | array js =>
    obtain ⟨js', rfl, items⟩ := reordered.of_array
    cases items with
    | nil => rfl
    | @cons j j' js js' first rest =>
      obtain ⟨here, later⟩ := Bool.and_eq_true_iff.mp distinct
      rw [outcome_tagged_array, outcome_tagged_array]
      exact variantTag_reordered h held here first later (.array rest)
  | _ =>
    cases reordered
    simp [outcome, tagged, Draft.ofJson]

/-! ## Texts and values -/

/-- **What is made of a text is what is made of the value in it**, where no object repeats a key. -/
theorem Steady.fromText_eq {decode : Decoder α} (h : Steady decode) {s : String} {j : Json}
    (read : Json.read? Json.nestingLimit s = some j) (distinct : j.hasDistinctKeys = true) :
    (fromText decode s).toOption = (fromJson decode j).toOption := by
  rw [toOption_fromText decode read, toOption_fromJson]
  exact h _ _ _ _ (iff_of_false nofun nofun) distinct (Json.reordered_normalize distinct)

/-- What is made of a value does not depend on the order of its keys. -/
theorem Steady.fromJson_eq {decode : Decoder α} (h : Steady decode) {j : Json}
    (distinct : j.hasDistinctKeys = true) :
    (fromJson decode j).toOption = outcome decode .tree j :=
  (h _ _ _ _ Iff.rfl distinct (Json.reordered_normalize distinct)).symm

end SqlBroker.Decode
