import SqlBroker.Proofs.Filter.Written
import SqlBroker.Proofs.Request.Spelling

/-!
# Writing requests

The JSON of a request, in any style. Decoding undoes it: whatever is asked for, and whichever
records in it are written as objects and which as arrays, the request comes back as it was.

Concerns the request body (SPEC_FULL.md, section 6).

Headlines:
* **`Operation.spells_toJson`**: what is written of an operation is decoded as it.
* **`Envelope.decode_toJson`**: requests come back as they were, from values and from texts.
-/

namespace SqlBroker

open Decode Request

/-! ## Parts of operations -/

/-- A field to sort by, as JSON. -/
def SortItem.toJson (σ : Style) (item : SortItem) : Json :=
  (σ []).record [("field", some (.string item.field)), ("order", some (.string item.order.tag))]

theorem SortItem.spells_toJson (σ : Style) (item : SortItem) :
    Spells decodeSortItem (item.toJson σ) item := by
  have order : Spells decodeOrder (.string item.order.tag) item.order := by
    refine spells_choice ?_
    cases item.order <;> rfl
  exact spells_record (by decide)
    (.cons (spelled_needed (spells_string item.field)) <|
     .cons (spelled_needed order) .nil) (σ [])

/-- A page of a result, as JSON. -/
def Page.toJson (σ : Style) (page : Page) : Json :=
  (σ []).record [("pageSize", some (.int page.size)), ("pageIndex", some (.int page.index))]

theorem Page.spells_toJson (σ : Style) (page : Page) :
    Spells decodePage (page.toJson σ) page :=
  spells_record (by decide)
    (.cons (spelled_needed (spells_word page.size)) <|
     .cons (spelled_needed (spells_word page.index)) .nil) (σ [])

/-! ## Operations -/

namespace Operation

/-- An operation as JSON. -/
def toJson (σ : Style) : Operation → Json
  | .select s =>
    (σ []).tagged "op" "select"
      [("resource", some (.string s.resource)),
       ("filters", s.filters.map (Filter.Clause.toJson (σ.under (.key "filters")))),
       ("sort", s.sort.map fun items =>
         .array (writtenFrom SortItem.toJson (σ.under (.key "sort")) 0 items)),
       ("pagination", s.page.map (Page.toJson (σ.under (.key "pagination"))))]
  | .insert i =>
    (σ []).tagged "op" "insert"
      [("resource", some (.string i.resource)), ("writes", some (.ofKeyed i.writes))]
  | .update u =>
    (σ []).tagged "op" "update"
      [("resource", some (.string u.resource)),
       ("filters", u.filters.map (Filter.Clause.toJson (σ.under (.key "filters")))),
       ("writes", some (.ofKeyed u.writes))]
  | .delete d =>
    (σ []).tagged "op" "delete"
      [("resource", some (.string d.resource)),
       ("filters", d.filters.map (Filter.Clause.toJson (σ.under (.key "filters"))))]
  | .inspect i =>
    (σ []).tagged "op" "inspect"
      [("inspectTables", i.tables.map fun tables => .array (tables.map .string))]

/-- Whether an operation can be written. -/
structure IsWritable (op : Operation) : Prop where
  filters : ∀ c, op.filters? = some c → c.IsWritable
  writes : ∀ w, op.writes? = some w → ∀ e ∈ w.entries, e.2.isSorted = true

/-- **An operation is decoded from what is written of it.** -/
theorem spells_toJson {op : Operation} (h : op.IsWritable) (σ : Style) :
    Spells decodeOperation (op.toJson σ) op := by
  have resource (r : String) : (needed "resource" string).Spelled (some (.string r)) r :=
    spells_string r
  have clause (o : Option Filter.Clause) (found : op.filters? = o) :
      (possible "filters" Filter.decodeClause).Spelled
        (o.map (Filter.Clause.toJson (σ.under (.key "filters")))) o := by
    refine spelled_possible (fun c here => ?_) (Filter.Clause.toJson_ne_null _)
    exact Filter.Clause.spells_toJson (h.filters c (found.trans here)) _
  have writes (w : Keyed Json) (found : op.writes? = some w) :
      (needed "writes" (keyed json)).Spelled (some (.ofKeyed w)) w :=
    spells_ofKeyed (h.writes w found)
  cases op with
  | select s =>
    have items (items : List SortItem) : Spells (list decodeSortItem)
        (.array (writtenFrom SortItem.toJson (σ.under (.key "sort")) 0 items)) items :=
      .list (forall₂_writtenFrom SortItem.spells_toJson _ 0 items)
    have sort : (possible "sort" (list decodeSortItem)).Spelled _ s.sort :=
      spelled_possible (fun is _ => items is) (by simp)
    have page : (possible "pagination" decodePage).Spelled _ s.page :=
      spelled_possible (fun page _ => page.spells_toJson (σ.under (.key "pagination")))
        (fun page => Form.record_ne_null _ _)
    refine spells_tagged rfl (by simp) ?_
    exact spells_record (by decide)
      (.cons (resource s.resource) <| .cons (clause s.filters rfl) <| .cons sort <|
       .cons page .nil) (σ [])
  | insert i =>
    refine spells_tagged rfl (by simp) ?_
    exact spells_record (by decide)
      (.cons (resource i.resource) (.cons (writes i.writes rfl) .nil)) (σ [])
  | update u =>
    refine spells_tagged rfl (by simp) ?_
    exact spells_record (by decide)
      (.cons (resource u.resource) <| .cons (clause u.filters rfl) <|
       .cons (writes u.writes rfl) .nil) (σ [])
  | delete d =>
    refine spells_tagged rfl (by simp) ?_
    exact spells_record (by decide)
      (.cons (resource d.resource) (.cons (clause d.filters rfl) .nil)) (σ [])
  | inspect i =>
    have tables : (possible "inspectTables" (list string)).Spelled _ i.tables :=
      spelled_possible (fun tables _ => .list (forall₂_map fun t _ => spells_string t)) (by simp)
    refine spells_tagged rfl (by simp) ?_
    exact spells_record (by decide) (.cons tables .nil) (σ [])

end Operation

/-! ## Requests -/

/-- How to reach a database, as JSON. -/
def Connection.toJson (σ : Style) (c : Connection) : Json :=
  (σ []).record [("uri", some (.string c.uri)), ("options", some (.ofKeyed c.options))]

theorem Connection.spells_toJson {c : Connection}
    (sorted : ∀ e ∈ c.options.entries, e.2.isSorted = true) (σ : Style) :
    Spells decodeConnection (c.toJson σ) c :=
  spells_record (by decide)
    (.cons (spelled_needed (spells_string c.uri)) <|
     .cons (spelled_needed (spells_ofKeyed sorted)) .nil) (σ [])

namespace Envelope

/-- A request as JSON. -/
def toJson (σ : Style) (e : Envelope) : Json :=
  (σ []).record
    [("connectionDescriptor",
      some (e.connection.toJson (σ.under (.key "connectionDescriptor")))),
     ("operation", some (e.operation.toJson (σ.under (.key "operation"))))]

/-- Whether a request can be written: the JSON values in it are sorted, as all values in memory are,
and each rule has a type for all of its operands or for none. -/
structure IsWritable (e : Envelope) : Prop where
  options : ∀ o ∈ e.connection.options.entries, o.2.isSorted = true
  operation : e.operation.IsWritable

/-- **Decoding undoes writing**, whichever style a request is written in. -/
theorem decode_toJson (σ : Style) {e : Envelope} (h : e.IsWritable) :
    fromJson decodeEnvelope (e.toJson σ) = .ok e ∧
      ∀ text, Json.read? Json.nestingLimit text = some (e.toJson σ) →
        fromText decodeEnvelope text = .ok e := by
  have connection : Spells decodeConnection _ e.connection :=
    Connection.spells_toJson h.options (σ.under (.key "connectionDescriptor"))
  have operation : Spells decodeOperation _ e.operation :=
    Operation.spells_toJson h.operation (σ.under (.key "operation"))
  have envelope : Spells decodeEnvelope (e.toJson σ) e :=
    spells_record (by decide)
      (.cons (spelled_needed connection) (.cons (spelled_needed operation) .nil)) (σ [])
  exact ⟨envelope.fromJson_eq steady_envelope, fun text read => envelope.fromText_eq read⟩

/-! ### A request in both forms -/

/-- Arrays and objects by turns, and nothing absent in an object. -/
def alternating : Style := fun path => ⟨path.length % 2 == 0, fun _ => true⟩

/-- Gives a name to rows that are not of some age. -/
def naming : Envelope where
  connection := ⟨"sqlite::memory:", .empty⟩
  operation := .update
    { resource := "t"
      filters := some
        { tree := .group ⟨.and, some true⟩
            [.rule ⟨some "age", some .between,
               [⟨.int 1, some .number⟩, ⟨.int 2, some .number⟩]⟩,
             .group ⟨.or, none⟩ [.rule ⟨none, none, []⟩]]
          fields := .ofList [("age", ⟨.number, "Age"⟩)] }
      writes := .ofList [("name", .string "x")] }

/-- The request with arrays and objects by turns. -/
def namingJson : Json :=
  .array
    [.object [("uri", .string "sqlite::memory:"), ("options", .object [])],
     .object
      [("op", .string "update"), ("resource", .string "t"), ("filters", .array
        [.object
          [("type", .string "group"), ("properties", .array [.string "AND", .bool true]),
           ("children1", .array
             [.object [("type", .string "rule"), ("properties", .array
                [.string "age", .string "between", .array [.int 1, .int 2],
                 .array [.string "number", .string "number"]])],
              .object [("type", .string "group"), ("properties", .array [.string "OR", .null]),
                ("children1", .array [.object [("type", .string "rule"),
                  ("properties", .array [.null, .null, .array [], .null])]])]])],
         .object [("age", .array [.string "number", .string "Age"])]]),
       ("writes", .object [("name", .string "x")])]]

/-- A request comes back from a mixture of both forms. -/
theorem decode_toJson_alternating :
    naming.IsWritable ∧ naming.toJson alternating = namingJson ∧
      fromJson decodeEnvelope namingJson = .ok naming := by
  have writable : naming.IsWritable := by
    refine ⟨fun o mem => absurd mem List.not_mem_nil, ?_, ?_⟩
    · intro c found r mem
      obtain rfl := Option.some.inj found
      rcases List.mem_cons.mp mem with rfl | mem
      · exact ⟨by decide, .inr (by decide)⟩
      · obtain rfl := List.mem_singleton.mp mem
        exact ⟨by decide, .inl (by decide)⟩
    · intro w found e mem
      obtain rfl := Option.some.inj found
      obtain rfl := List.mem_singleton.mp mem
      rfl
  have spelling : naming.toJson alternating = namingJson := rfl
  refine ⟨writable, spelling, ?_⟩
  rw [← spelling]
  exact (decode_toJson alternating writable).1

end Envelope

end SqlBroker
