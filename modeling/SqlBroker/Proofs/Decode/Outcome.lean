import SqlBroker.Decode.Record
import SqlBroker.Decode.Variant
import SqlBroker.Proofs.Except

/-!
# What decoders make of values

A decoder meets the parts of a value in the order in which they are written, since the first fault
has the word. What it makes of a value (`outcome`) is told without that order: what a record takes
from an object is what stands under the names of its fields, and what a tagged value is, is told by
what stands under the tag. Each way of combining decoders has an equation of this kind.

Headlines:
* **`outcome_record_object`**, **`outcome_record_array`**: a record by its fields.
* **`outcome_tagged_object`**, **`outcome_tagged_array`**: a tagged value by its tag.
* **`toOption_fromText`**, **`toOption_fromJson`**: what is made of texts and of values.
-/

namespace SqlBroker.Decode

variable {α β : Type}

/-- What a decoder makes of a value, if it accepts it. -/
def outcome (decode : Decoder α) (src : Source) (j : Json) : Option α :=
  (decode src (.ofJson j)).toOption

/-! ## Faults -/

@[simp] theorem toOption_fail (reason : Reason) : (fail reason : Except Fault α).toOption = none :=
  rfl

@[simp] theorem toOption_wrongType (d : Draft) (expected : String) :
    (wrongType d expected : Except Fault α).toOption = none := by
  unfold wrongType
  split <;> rfl

@[simp] theorem toOption_within (step : Step) (r : Except Fault α) :
    (within step r).toOption = r.toOption :=
  toOption_mapError r _

/-! ## Drafts of values -/

@[simp] theorem key_string (k : String) : key (.string k) = .ok k := rfl

mutual

/-- A whole value can be passed over. -/
theorem isPassable_ofJson : ∀ j : Json, (Draft.ofJson j).isPassable = true
  | .null => rfl
  | .bool _ => rfl
  | .number _ => rfl
  | .string _ => rfl
  | .array items => arePassable_ofItems items
  | .object entries => entriesPassable_ofEntries entries

theorem arePassable_ofItems : ∀ js : List Json, Draft.arePassable (Draft.ofItems js) = true
  | [] => rfl
  | j :: rest => Bool.and_eq_true_iff.mpr ⟨isPassable_ofJson j, arePassable_ofItems rest⟩

theorem entriesPassable_ofEntries : ∀ es : List (String × Json),
    Draft.entriesPassable (Draft.ofEntries es) = true
  | [] => rfl
  | (_, j) :: rest => Bool.and_eq_true_iff.mpr ⟨isPassable_ofJson j, entriesPassable_ofEntries rest⟩

end

@[simp] theorem kept_ofJson (j : Json) : kept (.ofJson j) = .ok (.ofJson j) := by
  rw [kept, Draft.json?_ofJson]

theorem mapM_kept_ofItems : ∀ js : List Json, (Draft.ofItems js).mapM kept = .ok (Draft.ofItems js)
  | [] => rfl
  | j :: rest => by
    rw [Draft.ofItems, List.mapM_cons, kept_ofJson, mapM_kept_ofItems rest]
    rfl

/-! ## Scalars and lists -/

@[simp] theorem outcome_string (src : Source) (s : String) :
    outcome string src (.string s) = some s := rfl

@[simp] theorem outcome_flag (src : Source) (b : Bool) : outcome flag src (.bool b) = some b := rfl

@[simp] theorem outcome_word (src : Source) (n : Nat) :
    outcome word src (.number (.integer n)) = some n := by
  simp [outcome, word, Draft.ofJson]

@[simp] theorem outcome_json (src : Source) (j : Json) :
    outcome json src j = some j.normalize := by
  rw [outcome, json, Draft.json?_ofJson]
  rfl

@[simp] theorem outcome_optional_null (decode : Decoder α) (src : Source) :
    outcome (optional decode) src .null = some none := rfl

theorem outcome_optional (decode : Decoder α) (src : Source) {j : Json} (h : j ≠ .null) :
    outcome (optional decode) src j = (outcome decode src j).map some := by
  unfold outcome
  cases j with
  | null => exact absurd rfl h
  | _ => exact toOption_map _ _

theorem outcome_checked (decode : Decoder α) (check : α → Except Error β) (src : Source)
    (j : Json) : outcome (checked decode check) src j =
      (outcome decode src j).bind fun a => (check a).toOption := by
  simp [outcome, checked]

theorem toOption_items (decode : Decoder α) (src : Source) : ∀ (i : Nat) (js : List Json),
    (items decode src i (Draft.ofItems js)).toOption = js.mapM (outcome decode src)
  | _, [] => rfl
  | i, j :: rest => by
    have later := toOption_items decode src (i + 1) rest
    rw [Draft.ofItems, items, toOption_bind, toOption_within, List.mapM_cons, ← later]
    refine congrArg (Option.bind (outcome decode src j)) (funext fun a => ?_)
    exact toOption_bind _ _

@[simp] theorem outcome_list_array (decode : Decoder α) (src : Source) (js : List Json) :
    outcome (list decode) src (.array js) = js.mapM (outcome decode src) :=
  toOption_items decode src 0 js

theorem toOption_entries (decode : Decoder α) (src : Source) : ∀ es : List (String × Json),
    (entries decode src (Draft.ofEntries es)).toOption =
      es.mapM fun e => (outcome decode src e.2).map (e.1, ·)
  | [] => rfl
  | (k, j) :: rest => by
    have later := toOption_entries decode src rest
    have value : (decode src (.ofJson j)).toOption = outcome decode src j := rfl
    rw [Draft.ofEntries, entries, key_string, List.mapM_cons, ← later, toOption_bind]
    simp only [toOption_ok, Option.bind_some, toOption_bind, toOption_within, value]
    cases outcome decode src j <;> rfl

@[simp] theorem outcome_keyed_object (decode : Decoder α) (src : Source)
    (es : List (String × Json)) : outcome (keyed decode) src (.object es) =
      (es.mapM fun e => (outcome decode src e.2).map (e.1, ·)).map Keyed.ofList := by
  rw [← toOption_entries]
  exact toOption_map _ _

/-! ## Records -/

/-- What a field takes from what stands under its name, if anything does. -/
def Field.outcome (field : Field α) (src : Source) : Option Json → Option α
  | some j => Decode.outcome field.decode src j
  | none => field.absent

/-- One value more. -/
def Values.cons {αs : List Type} (a : α) (values : Values αs) : Values (α :: αs) := (a, values)

/-- One value more, and what is left of an array. -/
def Values.first {αs : List Type} (a : α) (r : Values αs × List Draft) :
    Values (α :: αs) × List Draft := (Values.cons a r.1, r.2)

/-- One field more. -/
def Slots.cons {αs : List Type} (slot : Option α) (slots : Slots αs) : Slots (α :: αs) :=
  (slot, slots)

namespace Fields

/-- The names of fields. -/
def names : {αs : List Type} → Fields αs → List String
  | _, .nil => []
  | _, .cons field rest => field.name :: rest.names

/-- What the fields take from the entries of an object. -/
def found? (src : Source) (es : List (String × Json)) :
    {αs : List Type} → Fields αs → Option (Values αs)
  | _, .nil => some ()
  | _, .cons field rest =>
    (field.outcome src (es.lookup field.name)).bind fun a =>
      (rest.found? src es).map (Values.cons a)

/-- What the fields take from the values of an array; there may be none left over. -/
def placed? (src : Source) : {αs : List Type} → Fields αs → List Json → Option (Values αs)
  | _, .nil, [] => some ()
  | _, .nil, _ :: _ => none
  | _, .cons field rest, js =>
    (field.outcome src js.head?).bind fun a =>
      (rest.placed? src js.tail).map (Values.cons a)

/-- What the fields take from entries where some have been met before. -/
def resumed? (src : Source) (es : List (String × Json)) :
    {αs : List Type} → Fields αs → Slots αs → Option (Values αs)
  | _, .nil, _ => some ()
  | _, .cons field rest, (slot, slots) =>
    (slot <|> field.outcome src (es.lookup field.name)).bind fun a =>
      (rest.resumed? src es slots).map (Values.cons a)

/-- Whether no field that was met before is among the entries. -/
def Unmet (es : List (String × Json)) : {αs : List Type} → Fields αs → Slots αs → Prop
  | _, .nil, _ => True
  | _, .cons field rest, (slot, slots) =>
    (slot.isSome = true → field.name ∉ es.map Prod.fst) ∧ rest.Unmet es slots

theorem resumed?_unmet (src : Source) (es : List (String × Json)) : ∀ {αs : List Type}
    (fields : Fields αs), fields.resumed? src es fields.unmet = fields.found? src es
  | _, .nil => rfl
  | _, .cons field rest => by
    rw [unmet, resumed?, found?, resumed?_unmet src es rest]
    rfl

theorem unmet_unmet (es : List (String × Json)) : ∀ {αs : List Type} (fields : Fields αs),
    fields.Unmet es fields.unmet
  | _, .nil => trivial
  | _, .cons _ rest => ⟨nofun, unmet_unmet es rest⟩

section

variable {αs : List Type} {field : Field α} {rest : Fields αs} (src : Source) (slots : Slots αs)

theorem finish_met (a : α) : (cons field rest).finish (some a, slots) =
    (rest.finish slots).map (Values.cons a) := by
  cases h : rest.finish slots <;> simp only [finish, h] <;> rfl

theorem finish_absent {a : α} (h : field.absent = some a) :
    (cons field rest).finish (none, slots) = (rest.finish slots).map (Values.cons a) := by
  cases h' : rest.finish slots <;> simp only [finish, h, h'] <;> rfl

theorem finish_missing (h : field.absent = none) :
    (cons field rest).finish (none, slots) = fail (.missingField field.name) := by
  simp only [finish, h]
  rfl

theorem take_own (d : Draft) : (cons field rest).take src field.name d (none, slots) =
    (within (.key field.name) (field.decode src d)).map fun a => Slots.cons (some a) slots := by
  refine (if_pos rfl).trans ?_
  cases within (.key field.name) (field.decode src d) <;> rfl

theorem take_met (a : α) (d : Draft) : (cons field rest).take src field.name d (some a, slots) =
    fail (.duplicateField field.name) := if_pos rfl

theorem take_other {k : String} (h : field.name ≠ k) (d : Draft) (slot : Option α) :
    (cons field rest).take src k d (slot, slots) =
      (rest.take src k d slots).map (Slots.cons slot) := by
  refine (if_neg h).trans ?_
  cases rest.take src k d slots <;> rfl

end

/-- Once all entries are through, the rest is missing. -/
theorem toOption_finish (src : Source) : ∀ {αs : List Type} (fields : Fields αs)
    (slots : Slots αs), (fields.finish slots).toOption = fields.resumed? src [] slots
  | _, .nil, _ => rfl
  | _, .cons field rest, (some a, slots) => by
    rw [finish_met, toOption_map, resumed?, toOption_finish src rest slots]
    rfl
  | _, .cons field rest, (none, slots) => by
    rw [resumed?, List.lookup_nil, Field.outcome, ← toOption_finish src rest slots]
    cases missing : field.absent with
    | some a =>
      rw [finish_absent slots missing, toOption_map]
      rfl
    | none =>
      rw [finish_missing slots missing]
      rfl

/-- An entry that is no field is passed over. -/
theorem take_foreign (src : Source) {k : String} (j : Json) : ∀ {αs : List Type}
    {fields : Fields αs}, k ∉ fields.names → ∀ slots : Slots αs,
      fields.take src k (.ofJson j) slots = .ok slots
  | _, .nil, _, slots => by rw [take, isPassable_ofJson, if_pos rfl]
  | _, .cons field rest, h, (slot, slots) => by
    obtain ⟨other, later⟩ := not_or.mp (mt List.mem_cons.mpr h)
    rw [take_other src slots (Ne.symm other), take_foreign src j later slots]
    rfl

theorem resumed?_foreign (src : Source) {k : String} (j : Json) (es : List (String × Json)) :
    ∀ {αs : List Type} {fields : Fields αs}, k ∉ fields.names → ∀ slots : Slots αs,
      fields.resumed? src ((k, j) :: es) slots = fields.resumed? src es slots
  | _, .nil, _, _ => rfl
  | _, .cons field rest, h, (slot, slots) => by
    obtain ⟨other, later⟩ := not_or.mp (mt List.mem_cons.mpr h)
    rw [resumed?, resumed?, resumed?_foreign src j es later slots, List.lookup_cons,
      beq_false_of_ne (Ne.symm other)]

theorem Unmet.tail {e : String × Json} {es : List (String × Json)} : ∀ {αs : List Type}
    {fields : Fields αs} {slots : Slots αs}, fields.Unmet (e :: es) slots → fields.Unmet es slots
  | _, .nil, _, _ => trivial
  | _, .cons _ _, (_, _), h =>
    And.intro (fun met mem => h.1 met (List.mem_cons_of_mem _ mem)) (Unmet.tail h.2)

/-- **One entry goes to the field of its name**, and leaves the others to the other entries. -/
theorem toOption_take (src : Source) {k : String} (j : Json) {es : List (String × Json)}
    (once : k ∉ es.map Prod.fst) : ∀ {αs : List Type} {fields : Fields αs} {slots : Slots αs},
      fields.names.Nodup → fields.Unmet ((k, j) :: es) slots →
        ((fields.take src k (.ofJson j) slots).toOption.bind fun slots =>
            fields.resumed? src es slots) = fields.resumed? src ((k, j) :: es) slots ∧
          ∀ slots', fields.take src k (.ofJson j) slots = .ok slots' → fields.Unmet es slots'
  | _, .nil, slots, _, _ => by
    rw [take, isPassable_ofJson, if_pos rfl]
    exact ⟨rfl, fun _ _ => trivial⟩
  | _, .cons field rest, (slot, slots), names, unmet => by
    obtain ⟨first, later⟩ := unmet
    obtain ⟨own, names⟩ := List.nodup_cons.mp names
    -- The names are distinct, so an entry that this field takes is foreign to the later ones.
    by_cases here : field.name = k
    · subst here
      cases slot with
      | some a => exact absurd List.mem_cons_self (first rfl)
      | none =>
        rw [take_own src slots, resumed?, List.lookup_cons_self, resumed?_foreign src j es own]
        constructor
        · rw [toOption_map, toOption_within, Field.outcome, Decode.outcome]
          cases (field.decode src (.ofJson j)).toOption <;> rfl
        · intro slots' taken
          obtain ⟨a, -, rfl⟩ := map_eq_ok_iff.mp taken
          exact And.intro (fun _ => once) later.tail
    · obtain ⟨taken, free⟩ := toOption_take src j once names later
      rw [take_other src slots here, resumed?, List.lookup_cons, beq_false_of_ne here, ← taken]
      constructor
      · rw [toOption_map]
        cases (rest.take src k (.ofJson j) slots).toOption with
        | none => cases slot <;> cases field.outcome src (es.lookup field.name) <;> rfl
        | some slots' => rfl
      · intro slots' taken
        obtain ⟨later', step, rfl⟩ := map_eq_ok_iff.mp taken
        refine And.intro (fun met mem => ?_) (free later' step)
        exact first met (List.mem_cons_of_mem _ mem)

theorem fill_entry (src : Source) {αs : List Type} (fields : Fields αs) (k : String) (j : Json)
    (es : List (String × Json)) (slots : Slots αs) :
    fields.fill src (Draft.ofEntries ((k, j) :: es)) slots =
      fields.take src k (.ofJson j) slots >>= fields.fill src (Draft.ofEntries es) := rfl

/-- **What the fields take from entries** with keys of their own is what stands under their names,
whatever the order. -/
theorem toOption_fill (src : Source) {αs : List Type} {fields : Fields αs}
    (names : fields.names.Nodup) : ∀ {es : List (String × Json)} {slots : Slots αs},
      (es.map Prod.fst).Nodup → fields.Unmet es slots →
        ((fields.fill src (Draft.ofEntries es) slots).toOption.bind fun slots =>
          (fields.finish slots).toOption) = fields.resumed? src es slots
  | [], slots, _, _ => toOption_finish src fields slots
  | (k, j) :: rest, slots, distinct, unmet => by
    obtain ⟨once, distinct⟩ := List.nodup_cons.mp distinct
    obtain ⟨taken, free⟩ := toOption_take src j once names unmet
    rw [fill_entry, toOption_bind, ← taken]
    cases next : fields.take src k (.ofJson j) slots with
    | error fault => rfl
    | ok slots' => exact toOption_fill src names distinct (free slots' next)

section

variable {αs : List Type} {field : Field α} {rest : Fields αs} (src : Source)
  (expected : String) (i : Nat)

theorem positional_cons (d : Draft) (ds : List Draft) :
    (cons field rest).positional src expected i (d :: ds) =
      within (.index i) (field.decode src d) >>= fun a =>
        (rest.positional src expected (i + 1) ds).map (Values.first a) := by
  refine congrArg _ (funext fun a => ?_)
  cases rest.positional src expected (i + 1) ds <;> rfl

theorem positional_absent {a : α} (h : field.absent = some a) :
    (cons field rest).positional src expected i [] =
      (rest.positional src expected i []).map (Values.first a) := by
  cases h' : rest.positional src expected i [] <;> simp only [positional, h, h'] <;> rfl

theorem positional_missing (h : field.absent = none) :
    (cons field rest).positional src expected i [] = fail (.wrongLength i expected) := by
  simp only [positional, h]
  rfl

end

/-- The values of an array of which nothing is left over. -/
def whole {αs : List Type} (r : Values αs × List Draft) : Option (Values αs) :=
  if r.2.isEmpty then some r.1 else none

theorem whole_first {αs : List Type} (a : α) (r : Values αs × List Draft) :
    whole (Values.first a r) = (whole r).map (Values.cons a) := by
  unfold whole Values.first
  dsimp only
  split <;> rfl

/-- **What the fields take from an array** is what stands in their places. -/
theorem toOption_positional (src : Source) (expected : String) : ∀ {αs : List Type}
    (fields : Fields αs) (i : Nat) (js : List Json),
      (fields.positional src expected i (Draft.ofItems js)).toOption.bind whole =
        fields.placed? src js
  | _, .nil, _, [] => rfl
  | _, .nil, _, _ :: _ => rfl
  | _, .cons field rest, i, [] => by
    have later := toOption_positional src expected rest i []
    rw [Draft.ofItems] at later ⊢
    rw [placed?, List.head?_nil, List.tail_nil, Field.outcome, ← later]
    cases missing : field.absent with
    | none =>
      rw [positional_missing src expected i missing]
      rfl
    | some a =>
      rw [positional_absent src expected i missing, toOption_map, Option.bind_map]
      cases (rest.positional src expected i []).toOption with
      | none => rfl
      | some r => exact whole_first a r
  | _, .cons field rest, i, j :: js => by
    have later := toOption_positional src expected rest (i + 1) js
    rw [placed?, List.head?_cons, List.tail_cons, Field.outcome, ← later, Draft.ofItems,
      positional_cons, toOption_bind, toOption_within, Decode.outcome]
    cases (field.decode src (.ofJson j)).toOption with
    | none => rfl
    | some a =>
      simp only [Option.bind_some, toOption_map, Option.bind_map]
      cases (rest.positional src expected (i + 1) (Draft.ofItems js)).toOption with
      | none => rfl
      | some r => exact whole_first a r

end Fields

section

variable {αs : List Type} {fields : Fields αs} (title : String) (make : Values αs → β)
  (src : Source)

theorem outcome_record_fill (es : List (String × Json)) :
    outcome (record title fields make) src (.object es) =
      (fields.fill src (Draft.ofEntries es) fields.unmet >>= fun slots =>
        make <$> fields.finish slots).toOption := rfl

/-- **A record that is written as an object.** -/
theorem outcome_record_object (names : fields.names.Nodup) {es : List (String × Json)}
    (distinct : (es.map Prod.fst).Nodup) :
    outcome (record title fields make) src (.object es) = (fields.found? src es).map make := by
  have filled := Fields.toOption_fill src names distinct (fields.unmet_unmet es)
  rw [Fields.resumed?_unmet] at filled
  rw [← filled, outcome_record_fill, toOption_bind]
  cases (fields.fill src (Draft.ofEntries es) fields.unmet).toOption with
  | none => rfl
  | some slots => exact toOption_map _ make

/-- **A record that is written as an array.** -/
theorem outcome_record_array (js : List Json) :
    outcome (record title fields make) src (.array js) = (fields.placed? src js).map make := by
  have placed := fields.toOption_positional src
    s!"{title} with {elementCount fields.count}" 0 js
  rw [← placed]
  unfold outcome
  rw [Draft.ofJson]
  unfold record
  dsimp only
  rw [toOption_bind]
  cases (fields.positional src s!"{title} with {elementCount fields.count}" 0
    (Draft.ofItems js)).toOption with
  | none => rfl
  | some r =>
    obtain ⟨values, rest⟩ := r
    cases rest with
    | nil => rfl
    | cons d rest =>
      cases src <;> rfl

end

/-! ## Variants -/

@[simp] theorem toOption_variantOf (variants : List (String × α)) (name : String) :
    (variantOf variants name).toOption = variants.lookup name := by
  unfold variantOf
  cases variants.lookup name <;> rfl

@[simp] theorem outcome_variantTag_string (variants : List (String × α)) (src : Source)
    (name : String) :
    outcome (variantTag variants) src (.string name) = variants.lookup name := by
  cases src <;> exact toOption_variantOf variants name

/-- Inside a tagged value a variant may be meant by its position. -/
theorem outcome_variantTag_integer (variants : List (String × α)) (src : Source) (n : Int) :
    outcome (variantTag variants) src (.number (.integer n)) =
      if src = .held ∧ 0 ≤ n then variants[n.toNat]?.map Prod.snd else none := by
  cases src with
  | held =>
    by_cases sign : n < 0
    · have position : ¬(Source.held = .held ∧ 0 ≤ n) := by omega
      rw [if_neg position]
      simp [outcome, variantTag, Draft.ofJson, sign]
    · have position : Source.held = .held ∧ 0 ≤ n := ⟨rfl, by omega⟩
      rw [if_pos position]
      simp only [outcome, variantTag, Draft.ofJson, if_neg sign]
      cases variants[n.toNat]? <;> rfl
  | _ => rfl

theorem outcome_bare_object (src : Source) (es : List (String × Json)) :
    outcome bare src (.object es) = if src = .held ∧ es.isEmpty = true then some () else none := by
  cases src <;> cases es <;> rfl

@[simp] theorem outcome_choice_string (variants : List (String × α)) (src : Source)
    (name : String) : outcome (choice variants) src (.string name) = variants.lookup name := by
  cases src <;> exact toOption_variantOf variants name

/-- A variant that is written as an object with one key. -/
theorem outcome_choice_single (variants : List (String × α)) (src : Source) (k : String)
    (j : Json) : outcome (choice variants) src (.object [(k, j)]) =
      (variants.lookup k).bind fun a => (outcome bare src j).map fun _ => a := by
  have text : (variantTag variants .text (.string k)).toOption = variants.lookup k :=
    toOption_variantOf variants k
  have tree : (variantTag variants .tree (.string k)).toOption = variants.lookup k :=
    toOption_variantOf variants k
  unfold outcome
  rw [Draft.ofJson, Draft.ofEntries, Draft.ofEntries]
  cases src with
  | text =>
    simp only [choice, toOption_bind, text, if_true, toOption_pure]
    cases (bare .text (.ofJson j)).toOption <;> rfl
  | tree =>
    simp only [choice, toOption_bind, tree, toOption_pure]
    cases (bare .tree (.ofJson j)).toOption <;> rfl
  | held =>
    simp only [choice, toOption_bind, tree, toOption_pure]
    cases (bare .held (.ofJson j)).toOption <;> rfl

/-- Other objects are no variants. -/
theorem outcome_choice_object (variants : List (String × α)) (src : Source)
    {es : List (String × Json)} (h : es.length ≠ 1) :
    outcome (choice variants) src (.object es) = none := by
  cases es with
  | nil => cases src <;> rfl
  | cons e rest =>
    cases rest with
    | nil => exact absurd rfl h
    | cons e' rest =>
      cases src with
      | text => simp [outcome, choice, Draft.ofJson, Draft.ofEntries]
      | _ => rfl

/-- The entries without that of the tag. -/
def untagged (tag : String) (es : List (String × Json)) : List (String × Json) :=
  es.filter fun e => e.1 ≠ tag

section

variable (src : Source) (tag : String) (variants : List (String × α))

theorem splitTag_tag (d : Draft) (rest : List (Draft × Draft)) :
    splitTag src tag variants ((.string tag, d) :: rest) none =
      within (.key tag) (variantTag variants src d) >>= fun a =>
        splitTag src tag variants rest (some a) := by
  rw [splitTag, key_string]
  exact if_pos rfl

theorem splitTag_other {k : String} (h : k ≠ tag) (j : Json) (rest : List (Draft × Draft))
    (found : Option α) :
    splitTag src tag variants ((.string k, .ofJson j) :: rest) found =
      (splitTag src tag variants rest found).map fun r =>
        (r.1, (.string k, .ofJson j) :: r.2) := by
  rw [splitTag, key_string]
  refine (if_neg h).trans ?_
  rw [kept_ofJson]
  cases splitTag src tag variants rest found <;> rfl

/-- Once the tag is found, the others are kept. -/
theorem splitTag_found : ∀ {es : List (String × Json)} (found : Option α),
    tag ∉ es.map Prod.fst → splitTag src tag variants (Draft.ofEntries es) found =
      .ok (found, Draft.ofEntries (untagged tag es))
  | [], _, _ => rfl
  | (k, j) :: rest, found, absent => by
    obtain ⟨other, absent⟩ := not_or.mp (mt List.mem_cons.mpr absent)
    have kept : untagged tag ((k, j) :: rest) = (k, j) :: untagged tag rest :=
      List.filter_cons_of_pos (by simpa using Ne.symm other)
    rw [Draft.ofEntries, splitTag_other src tag variants (Ne.symm other),
      splitTag_found found absent, kept]
    rfl

/-- **The tag is found wherever it stands.** -/
theorem toOption_splitTag : ∀ {es : List (String × Json)}, (es.map Prod.fst).Nodup →
    (splitTag src tag variants (Draft.ofEntries es) none).toOption =
      (match es.lookup tag with
        | none => some none
        | some j => (outcome (variantTag variants) src j).map some).map
          fun found => (found, Draft.ofEntries (untagged tag es))
  | [], _ => rfl
  | (k, j) :: rest, distinct => by
    obtain ⟨once, distinct⟩ := List.nodup_cons.mp distinct
    by_cases here : k = tag
    · subst here
      have others : untagged k ((k, j) :: rest) = untagged k rest :=
        List.filter_cons_of_neg (by simp)
      have value : (variantTag variants src (.ofJson j)).toOption =
          outcome (variantTag variants) src j := rfl
      rw [Draft.ofEntries, splitTag_tag, toOption_bind, toOption_within, List.lookup_cons_self,
        others, value]
      dsimp only
      cases outcome (variantTag variants) src j with
      | none => rfl
      | some a =>
        simp only [Option.bind_some, splitTag_found src k variants (some a) once]
        rfl
    · have kept : untagged tag ((k, j) :: rest) = (k, j) :: untagged tag rest :=
        List.filter_cons_of_pos (by simpa using here)
      have later : ((k, j) :: rest).lookup tag = rest.lookup tag := by
        rw [List.lookup_cons, beq_false_of_ne (Ne.symm here)]
      rw [Draft.ofEntries, splitTag_other src tag variants here, toOption_map,
        toOption_splitTag distinct, later, kept, Option.map_map]
      rfl

end

section

variable (title tag : String) (variants : List (String × Decoder α)) (src : Source)

/-- **A tagged value that is written as an object.** -/
theorem outcome_tagged_object {es : List (String × Json)} (distinct : (es.map Prod.fst).Nodup) :
    outcome (tagged title tag variants) src (.object es) =
      (es.lookup tag).bind fun j => (outcome (variantTag variants) src j).bind fun decode =>
        outcome decode .held (.object (untagged tag es)) := by
  have split := toOption_splitTag src tag variants distinct
  unfold outcome at split ⊢
  rw [Draft.ofJson]
  unfold tagged
  dsimp only
  rw [toOption_bind, split]
  cases es.lookup tag with
  | none => rfl
  | some j =>
    cases h : (variantTag variants src (.ofJson j)).toOption with
    | none => simp [h]
    | some decode => simp [h, Draft.ofJson]

/-- **A tagged value that is written as an array.** -/
theorem outcome_tagged_array (j : Json) (js : List Json) :
    outcome (tagged title tag variants) src (.array (j :: js)) =
      (outcome (variantTag variants) src j).bind fun decode =>
        outcome decode .held (.array js) := by
  unfold outcome
  rw [Draft.ofJson, Draft.ofItems]
  unfold tagged
  dsimp only
  rw [toOption_bind, toOption_within, mapM_kept_ofItems]
  simp [Draft.ofJson]

end

/-! ## Where values come from -/

/-- **What is made of a text** is what is made of the value in it. -/
theorem toOption_fromText (decode : Decoder α) {s : String} {j : Json}
    (h : Json.read? Json.nestingLimit s = some j) :
    (fromText decode s).toOption = outcome decode .text j := by
  unfold Json.read? Document.json? at h
  unfold fromText
  dsimp only
  split at h
  · rename_i ends
    rw [Draft.eq_ofJson_of_json? h, toOption_bind]
    simp [ends, outcome]
  · exact nomatch h

theorem toOption_fromJson (decode : Decoder α) (j : Json) :
    (fromJson decode j).toOption = outcome decode .tree j.normalize := rfl

end SqlBroker.Decode
