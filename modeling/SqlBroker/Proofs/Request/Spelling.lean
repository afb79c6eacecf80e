import Mathlib.Data.List.Permutation
import SqlBroker.Http.Service
import SqlBroker.Proofs.Decode.Added
import SqlBroker.Proofs.Decode.Depth

/-!
# The spelling of requests

A request means the same however its keys are ordered, whatever other keys stand among them, and
whether it is decoded from a text or from the value that was read from one. This holds of every part
of a request that is decoded by itself, for each of their decoders is steady.

Concerns the request body (SPEC_FULL.md, section 6).

Headlines:
* **`IsModel.steady`**: no decoder minds the order of keys.
* **`Request.spelling_is_free`**: what is decoded and what is planned do not depend on the spelling.
-/

namespace SqlBroker

open Decode

/-! ## Filters -/

namespace Filter

theorem steady_operator : Steady decodeOperator := steady_string.checked _

theorem steady_conjunction : Steady decodeConjunction := steady_string.checked _

theorem steady_type : Steady decodeType := steady_string.checked _

theorem steady_rule : Steady decodeRule := by
  have fields : ruleFields.AllSteady :=
    ⟨steady_string.optional, steady_operator.optional, steady_json.list,
      steady_type.list.optional, trivial⟩
  exact (steady_record _ _ (by decide) fields).checked _

theorem steady_junction : Steady decodeJunction :=
  steady_record _ _ (by decide) ⟨steady_conjunction, steady_flag.optional, trivial⟩

theorem steady_ruleNode : Steady decodeRuleNode :=
  steady_record _ _ (by decide) ⟨steady_rule, trivial⟩

theorem steady_groupNode {child : Decoder Node} (h : Steady child) :
    Steady (decodeGroupNode child) := by
  have names : ["properties", "children1"].Nodup := by decide
  exact steady_record _ _ names ⟨steady_junction, h.list, trivial⟩

theorem steady_nodeUpTo : ∀ levels : Nat, Steady (decodeNodeUpTo levels)
  | 0 => fun _ _ _ _ _ _ _ => rfl
  | levels + 1 => by
    have child := steady_nodeUpTo levels
    refine steady_tagged _ _ fun name decode variant => ?_
    rcases List.mem_cons.mp variant with rule | variant
    · obtain ⟨rfl, rfl⟩ := Prod.mk.inj rule
      exact steady_ruleNode
    · obtain ⟨rfl, rfl⟩ := Prod.mk.inj (List.mem_singleton.mp variant)
      exact steady_groupNode child

/-- Two values may have their levels in another order, but one number of levels is enough for
both. -/
theorem steady_node : Steady decodeNode := by
  intro src src' j j' held distinct reordered
  have upTo (src : Source) (x : Json) {n : Nat} (levels : (Draft.ofJson x).depth < n) :
      outcome decodeNode src x = outcome (decodeNodeUpTo n) src x :=
    congrArg Except.toOption (decodeNodeUpTo_eq src levels).symm
  have enough : (Draft.ofJson j).depth < max (Draft.ofJson j).depth (Draft.ofJson j').depth + 1 ∧
      (Draft.ofJson j').depth < max (Draft.ofJson j).depth (Draft.ofJson j').depth + 1 := by
    omega
  rw [upTo src j enough.1, upTo src' j' enough.2]
  exact steady_nodeUpTo _ _ _ _ _ held distinct reordered

theorem steady_fieldInfo : Steady decodeFieldInfo :=
  steady_record _ _ (by decide) ⟨steady_type, steady_string, trivial⟩

theorem steady_clause : Steady decodeClause :=
  steady_record _ _ (by decide) ⟨steady_node, steady_fieldInfo.keyed, trivial⟩

end Filter

/-! ## Requests -/

namespace Request

theorem steady_order : Steady decodeOrder := steady_choice _

theorem steady_sortItem : Steady decodeSortItem :=
  steady_record _ _ (by decide) ⟨steady_string, steady_order, trivial⟩

theorem steady_page : Steady decodePage :=
  steady_record _ _ (by decide) ⟨steady_word, steady_word, trivial⟩

theorem steady_select : Steady decodeSelect := by
  refine steady_record _ _ (by decide) ⟨steady_string, ?_, ?_, ?_, trivial⟩
  · exact Filter.steady_clause.optional
  · exact steady_sortItem.list.optional
  · exact steady_page.optional

theorem steady_insert : Steady decodeInsert :=
  steady_record _ _ (by decide) ⟨steady_string, steady_json.keyed, trivial⟩

theorem steady_update : Steady decodeUpdate := by
  refine steady_record _ _ (by decide) ⟨steady_string, ?_, steady_json.keyed, trivial⟩
  exact Filter.steady_clause.optional

theorem steady_delete : Steady decodeDelete := by
  refine steady_record _ _ (by decide) ⟨steady_string, ?_, trivial⟩
  exact Filter.steady_clause.optional

theorem steady_inspect : Steady decodeInspect :=
  steady_record _ _ (by decide) ⟨steady_string.list.optional, trivial⟩

theorem steady_operation : Steady decodeOperation := by
  refine steady_tagged _ _ fun name decode variant => ?_
  simp only [List.mem_cons, List.not_mem_nil, or_false, Prod.mk.injEq] at variant
  rcases variant with ⟨-, rfl⟩ | ⟨-, rfl⟩ | ⟨-, rfl⟩ | ⟨-, rfl⟩ | ⟨-, rfl⟩
  · exact steady_select
  · exact steady_insert
  · exact steady_update
  · exact steady_delete
  · exact steady_inspect

theorem steady_connection : Steady decodeConnection :=
  steady_record _ _ (by decide) ⟨steady_string, steady_json.keyed, trivial⟩

theorem steady_envelope : Steady decodeEnvelope :=
  steady_record _ _ (by decide) ⟨steady_connection, steady_operation, trivial⟩

end Request

/-! ## Models -/

/-- The decoders of what is decoded by itself. -/
inductive IsModel : {α : Type} → Decoder α → Prop
  | operator : IsModel Filter.decodeOperator
  | conjunction : IsModel Filter.decodeConjunction
  | type : IsModel Filter.decodeType
  | rule : IsModel Filter.decodeRule
  | junction : IsModel Filter.decodeJunction
  | node : IsModel Filter.decodeNode
  | fieldInfo : IsModel Filter.decodeFieldInfo
  | clause : IsModel Filter.decodeClause
  | order : IsModel Request.decodeOrder
  | sortItem : IsModel Request.decodeSortItem
  | page : IsModel Request.decodePage
  | select : IsModel Request.decodeSelect
  | insert : IsModel Request.decodeInsert
  | update : IsModel Request.decodeUpdate
  | delete : IsModel Request.decodeDelete
  | inspect : IsModel Request.decodeInspect
  | operation : IsModel Request.decodeOperation
  | connection : IsModel Request.decodeConnection
  | envelope : IsModel Request.decodeEnvelope

/-- **No decoder minds the order of keys.** -/
theorem IsModel.steady {α : Type} {decode : Decoder α} (h : IsModel decode) : Steady decode := by
  cases h with
  | operator => exact Filter.steady_operator
  | conjunction => exact Filter.steady_conjunction
  | type => exact Filter.steady_type
  | rule => exact Filter.steady_rule
  | junction => exact Filter.steady_junction
  | node => exact Filter.steady_node
  | fieldInfo => exact Filter.steady_fieldInfo
  | clause => exact Filter.steady_clause
  | order => exact Request.steady_order
  | sortItem => exact Request.steady_sortItem
  | page => exact Request.steady_page
  | select => exact Request.steady_select
  | insert => exact Request.steady_insert
  | update => exact Request.steady_update
  | delete => exact Request.steady_delete
  | inspect => exact Request.steady_inspect
  | operation => exact Request.steady_operation
  | connection => exact Request.steady_connection
  | envelope => exact Request.steady_envelope

/-! ## Spelling -/

namespace Request

/-- What does not depend on how a text is spelled, in which the value `j` stands. -/
structure SpelledFreely (text : String) (j : Json) : Prop where
  /-- A decoder makes the same of the text and of the value. -/
  text_iff : ∀ {α : Type} {decode : Decoder α}, IsModel decode → ∀ a,
    fromText decode text = .ok a ↔ fromJson decode j = .ok a
  /-- It makes the same of another spelling. -/
  respelled_iff : ∀ {α : Type} {decode : Decoder α}, IsModel decode →
    ∀ {text' : String} {j' : Json}, Json.read? Json.nestingLimit text' = some j' →
      Respelled decode j j' → ∀ a,
      (fromText decode text' = .ok a ↔ fromText decode text = .ok a) ∧
      (fromJson decode j' = .ok a ↔ fromJson decode j = .ok a)
  /-- And so the same is planned for the request. -/
  planned_eq : ∀ (settings : Settings) {text' : String} {j' : Json},
    Json.read? Json.nestingLimit text' = some j' → Respelled decodeEnvelope j j' →
      (Http.readEnvelope text').toOption.map (Envelope.plan settings) =
        (Http.readEnvelope text).toOption.map (Envelope.plan settings)

theorem toOption_readEnvelope (text : String) :
    (Http.readEnvelope text).toOption = (fromText decodeEnvelope text).toOption := by
  unfold Http.readEnvelope
  cases fromText decodeEnvelope text with
  | ok e => rfl
  | error fault =>
    dsimp only
    split <;> rfl

theorem ok_iff_of_toOption_eq {ε ε' α : Type} {x : Except ε α} {y : Except ε' α}
    (h : x.toOption = y.toOption) (a : α) : x = .ok a ↔ y = .ok a := by
  rw [← toOption_eq_some_iff, ← toOption_eq_some_iff, h]

/-- **The spelling of a text is free** as long as no object in it repeats a key. -/
theorem spelling_is_free {text : String} {j : Json}
    (read : Json.read? Json.nestingLimit text = some j) (distinct : j.hasDistinctKeys = true) :
    SpelledFreely text j where
  text_iff model := ok_iff_of_toOption_eq (model.steady.fromText_eq read distinct)
  respelled_iff model text' j' read' respelled a := by
    have texts := respelled.fromText_eq model.steady distinct read read'
    have values := respelled.fromJson_eq model.steady distinct
    exact ⟨ok_iff_of_toOption_eq texts a, ok_iff_of_toOption_eq values a⟩
  planned_eq settings text' j' read' respelled := by
    have texts := respelled.fromText_eq steady_envelope distinct read read'
    rw [toOption_readEnvelope, toOption_readEnvelope, texts]

/-! ### A request and its reverse -/

/-- A rule by its entries, as a node. -/
def ruleNode (properties : List (String × Json)) : Json :=
  .object [("type", .string "rule"), ("properties", .object properties)]

/-- A filter by the entries of its one rule. -/
def ruleClause (properties : List (String × Json)) : Json :=
  .object [("tree", ruleNode properties)]

/-- What removes the rows that a rule selects. -/
def removal (properties : List (String × Json)) : Json :=
  .object
    [("op", .string "delete"), ("resource", .string "t"), ("filters", ruleClause properties)]

/-- A request to remove them. -/
def removalRequest (properties : List (String × Json)) : Json :=
  .object
    [("connectionDescriptor", .object [("uri", .string "sqlite::memory:")]),
     ("operation", removal properties)]

/-- The rule for rows without a name. -/
def nameless : List (String × Json) := [("field", .string "name"), ("operator", .string "is_null")]

/-- The same with a key that no rule has. -/
def sourced : List (String × Json) := nameless ++ [("valueSrc", .array [])]

/-- The request in a text. -/
def namelessText : String :=
  "\x7b\"connectionDescriptor\":\x7b\"uri\":\"sqlite::memory:\"\x7d,\"operation\":\x7b\"op\":" ++
    "\"delete\",\"resource\":\"t\",\"filters\":\x7b\"tree\":\x7b\"type\":\"rule\"," ++
      "\"properties\":\x7b\"field\":\"name\",\"operator\":\"is_null\"\x7d\x7d\x7d\x7d\x7d"

/-- The request with that key, and with all keys the other way round. -/
def reversed : Json :=
  .object
    [("operation", .object
       [("filters", .object
          [("tree", .object
             [("properties", .object
                [("valueSrc", .array []), ("operator", .string "is_null"),
                 ("field", .string "name")]),
              ("type", .string "rule")])]),
        ("resource", .string "t"), ("op", .string "delete")]),
     ("connectionDescriptor", .object [("uri", .string "sqlite::memory:")])]

/-- It in a text. -/
def reversedText : String :=
  "\x7b\"operation\":\x7b\"filters\":\x7b\"tree\":\x7b\"properties\":\x7b\"valueSrc\":[]," ++
    "\"operator\":\"is_null\",\"field\":\"name\"\x7d,\"type\":\"rule\"\x7d\x7d," ++
      "\"resource\":\"t\",\"op\":\"delete\"\x7d," ++
        "\"connectionDescriptor\":\x7b\"uri\":\"sqlite::memory:\"\x7d\x7d"

theorem added_valueSrc :
    Added decodeEnvelope (removalRequest nameless) (removalRequest sourced) := by
  have rule : Added Filter.decodeRule (.object nameless) (.object sourced) :=
    .checked (.foreign nameless [] (by decide))
  have node : Added Filter.decodeNode (ruleNode nameless) (ruleNode sourced) := by
    rw [Filter.decodeNode_eq]
    exact .variant rfl rfl rfl (.field [] [] (.here rfl rfl) rule)
  have clause : Added Filter.decodeClause (ruleClause nameless) (ruleClause sourced) :=
    .field [] [] (.here rfl rfl) node
  have operation : Added decodeOperation (removal nameless) (removal sourced) := by
    refine .variant rfl rfl rfl (.field [("resource", .string "t")] [] ?_ (.optional clause))
    exact .there (by decide) (.here rfl rfl)
  exact .field [_] [] (.there (by decide) (.here rfl rfl)) operation

theorem reordered_reversed : Json.Reordered (removalRequest sourced) reversed := by
  have rule : Json.Reordered (.object sourced) (.object sourced.reverse) :=
    .object (.refl sourced) (List.reverse_perm sourced).symm
  refine .object (.cons (.same _) (.cons ?_ .nil)) (.swap _ _ _)
  refine .object (.cons (.same _) (.cons (.same _) (.cons ?_ .nil)))
    (List.reverse_perm [_, _, _]).symm
  refine .object (.cons ?_ .nil) (.refl _)
  exact .object (.cons (.same _) (.cons rule .nil)) (.swap _ _ _)

set_option maxRecDepth 2000 in
/-- A request means the same if all its keys are turned round and a rule has one key more. -/
theorem spelling_is_free_reversed :
    Json.read? Json.nestingLimit namelessText = some (removalRequest nameless) ∧
      (removalRequest nameless).hasDistinctKeys = true ∧
      Json.read? Json.nestingLimit reversedText = some reversed ∧
      Respelled decodeEnvelope (removalRequest nameless) reversed ∧
      (Http.readEnvelope namelessText).toOption.isSome = true ∧
      ∀ settings, (Http.readEnvelope reversedText).toOption.map (Envelope.plan settings) =
        (Http.readEnvelope namelessText).toOption.map (Envelope.plan settings) := by
  have read : Json.read? Json.nestingLimit namelessText = some (removalRequest nameless) := by cbv
  have read' : Json.read? Json.nestingLimit reversedText = some reversed := by cbv
  have distinct : (removalRequest nameless).hasDistinctKeys = true := by decide +kernel
  have respelled : Respelled decodeEnvelope (removalRequest nameless) reversed :=
    .reordered (.added .same added_valueSrc (by decide +kernel)) reordered_reversed
  refine ⟨read, distinct, read', respelled, by decide +kernel, fun settings => ?_⟩
  exact (spelling_is_free read distinct).planned_eq settings read' respelled

end Request

end SqlBroker
