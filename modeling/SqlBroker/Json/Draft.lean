import SqlBroker.Json.Basic

/-!
# JSON as far as it is written

A draft is what can be seen of a JSON text from its start on. It is a JSON value but for two marks.
A *flawed* part is written like a value and has none: a number past the largest, half a pair of
escapes, an array nested too deep. A *broken* part is where the text ceases to be JSON, and nothing
comes after it. Who only passes over a part takes a flawed one and stops at a broken one; who wants
its value stops at both.

Main statements: `json?_ofJson` and `eq_ofJson_of_json?`, by which the drafts that have a value are
just those of JSON values.
-/

namespace SqlBroker

/-- A JSON text as far as it can be seen. A key is a string wherever the text goes on after it. -/
inductive Draft where
  | null
  | bool (b : Bool)
  | number (n : Number)
  | string (s : String)
  | array (items : List Draft)
  | object (entries : List (Draft × Draft))
  | flawed
  | broken
deriving Repr, Inhabited

namespace Draft

/-! ## Drafts of values -/

mutual

/-- The draft of a whole value. -/
def ofJson : Json → Draft
  | .null => .null
  | .bool b => .bool b
  | .number n => .number n
  | .string s => .string s
  | .array items => .array (ofItems items)
  | .object entries => .object (ofEntries entries)

/-- The drafts of several values. -/
def ofItems : List Json → List Draft
  | [] => []
  | j :: rest => ofJson j :: ofItems rest

/-- The drafts of entries. -/
def ofEntries : List (String × Json) → List (Draft × Draft)
  | [] => []
  | (k, j) :: rest => (.string k, ofJson j) :: ofEntries rest

end

/-- The text of a draft that is a string. -/
def text? : Draft → Option String
  | .string s => some s
  | _ => none

mutual

/-- The value of a draft, if it has one. -/
def json? : Draft → Option Json
  | .null => some .null
  | .bool b => some (.bool b)
  | .number n => some (.number n)
  | .string s => some (.string s)
  | .array items => (itemsJson? items).map .array
  | .object entries => (entriesJson? entries).map .object
  | .flawed => none
  | .broken => none

/-- The values of several drafts, if all have one. -/
def itemsJson? : List Draft → Option (List Json)
  | [] => some []
  | d :: rest => do
    let j ← d.json?
    let js ← itemsJson? rest
    return j :: js

/-- The entries of drafts, if all have a text for a key and a value. -/
def entriesJson? : List (Draft × Draft) → Option (List (String × Json))
  | [] => some []
  | (k, d) :: rest => do
    let k ← k.text?
    let j ← d.json?
    let es ← entriesJson? rest
    return (k, j) :: es

end

mutual

theorem json?_ofJson : ∀ j : Json, (ofJson j).json? = some j
  | .null => rfl
  | .bool _ => rfl
  | .number _ => rfl
  | .string _ => rfl
  | .array items => by simp [ofJson, json?, itemsJson?_ofItems items]
  | .object entries => by simp [ofJson, json?, entriesJson?_ofEntries entries]

theorem itemsJson?_ofItems : ∀ js : List Json, itemsJson? (ofItems js) = some js
  | [] => rfl
  | j :: rest => by simp [ofItems, itemsJson?, json?_ofJson j, itemsJson?_ofItems rest]

theorem entriesJson?_ofEntries : ∀ es : List (String × Json), entriesJson? (ofEntries es) = some es
  | [] => rfl
  | (k, j) :: rest => by
    simp [ofEntries, entriesJson?, text?, json?_ofJson j, entriesJson?_ofEntries rest]

end

mutual

/-- **A draft with a value is the draft of that value.** -/
theorem eq_ofJson_of_json? : ∀ {d : Draft} {j : Json}, d.json? = some j → d = ofJson j
  | .null, _, h => by cases h; rfl
  | .bool _, _, h => by cases h; rfl
  | .number _, _, h => by cases h; rfl
  | .string _, _, h => by cases h; rfl
  | .array _, _, h => by
    obtain ⟨js, hjs, rfl⟩ := Option.map_eq_some_iff.mp h
    rw [ofJson, eq_ofItems_of_itemsJson? hjs]
  | .object _, _, h => by
    obtain ⟨es, hes, rfl⟩ := Option.map_eq_some_iff.mp h
    rw [ofJson, eq_ofEntries_of_entriesJson? hes]
  | .flawed, _, h => by cases h
  | .broken, _, h => by cases h

theorem eq_ofItems_of_itemsJson? :
    ∀ {ds : List Draft} {js : List Json}, itemsJson? ds = some js → ds = ofItems js
  | [], _, h => by cases h; rfl
  | _ :: _, _, h => by
    obtain ⟨j, hj, h⟩ := Option.bind_eq_some_iff.mp h
    obtain ⟨js, hjs, h⟩ := Option.bind_eq_some_iff.mp h
    cases h
    rw [ofItems, ← eq_ofJson_of_json? hj, ← eq_ofItems_of_itemsJson? hjs]

theorem eq_ofEntries_of_entriesJson? :
    ∀ {ds : List (Draft × Draft)} {es : List (String × Json)},
      entriesJson? ds = some es → ds = ofEntries es
  | [], _, h => by cases h; rfl
  | (k, _) :: _, _, h => by
    obtain ⟨s, hs, h⟩ := Option.bind_eq_some_iff.mp h
    obtain ⟨j, hj, h⟩ := Option.bind_eq_some_iff.mp h
    obtain ⟨es, hes, h⟩ := Option.bind_eq_some_iff.mp h
    cases h
    have hk : k = .string s := by
      cases k <;> simp_all [text?]
    rw [ofEntries, hk, ← eq_ofJson_of_json? hj, ← eq_ofEntries_of_entriesJson? hes]

end

/-! ## Parts and depth -/

mutual

/-- Whether the text goes on after this part, so that it can be passed over. -/
def isPassable : Draft → Bool
  | .array items => arePassable items
  | .object entries => entriesPassable entries
  | .broken => false
  | _ => true

/-- Whether all of several drafts can be passed over. -/
def arePassable : List Draft → Bool
  | [] => true
  | d :: rest => d.isPassable && arePassable rest

/-- Whether the values of all entries can be passed over. -/
def entriesPassable : List (Draft × Draft) → Bool
  | [] => true
  | (_, d) :: rest => d.isPassable && entriesPassable rest

end

mutual

/-- How many arrays and objects are around the innermost part. -/
def depth : Draft → Nat
  | .array items => depthAll items + 1
  | .object entries => depthEntries entries + 1
  | _ => 0

/-- The greatest depth in a list. -/
def depthAll : List Draft → Nat
  | [] => 0
  | d :: rest => max d.depth (depthAll rest)

/-- The greatest depth among the values of entries. -/
def depthEntries : List (Draft × Draft) → Nat
  | [] => 0
  | (_, d) :: rest => max d.depth (depthEntries rest)

end

/-- What is seen of a part whose value is not wanted. -/
def hidden (d : Draft) : Draft := if d.isPassable then .flawed else .broken

mutual

/-- The draft with at most `levels` arrays and objects around any part; those nested deeper are
flawed. -/
def capped (levels : Nat) : Draft → Draft
  | .array items =>
    match levels with
    | 0 => hidden (.array items)
    | levels + 1 => .array (cappedAll levels items)
  | .object entries =>
    match levels with
    | 0 => hidden (.object entries)
    | levels + 1 => .object (cappedEntries levels entries)
  | d => d

/-- Each of the drafts capped. -/
def cappedAll (levels : Nat) : List Draft → List Draft
  | [] => []
  | d :: rest => d.capped levels :: cappedAll levels rest

/-- The entries with their values capped. -/
def cappedEntries (levels : Nat) : List (Draft × Draft) → List (Draft × Draft)
  | [] => []
  | (k, d) :: rest => (k, d.capped levels) :: cappedEntries levels rest

end

end Draft

end SqlBroker
