import SqlBroker.Filter.Decode
import SqlBroker.Proofs.Decode.Outcome

/-!
# Filters of any depth

The nodes of a filter are decoded up to a number of levels that is greater than that of the value
itself. So the limit is never met (`decodeNode_eq`): two decoders that agree on all values of fewer
levels agree, as the decoder of children, on all values of one level more.

Headlines:
* **`AgreeBelow.record`**, **`AgreeBelow.tagged`**: what decoders of parts agree on.
* **`decodeNode_eq`**: the children of a group are decoded as the node itself is.
-/

namespace SqlBroker.Decode

variable {α β : Type} {n : Nat}

/-- Whether two decoders agree on everything of fewer levels. -/
def AgreeBelow (n : Nat) (decode decode' : Decoder α) : Prop :=
  ∀ src d, d.depth < n → decode src d = decode' src d

theorem AgreeBelow.refl (decode : Decoder α) : AgreeBelow n decode decode := fun _ _ _ => rfl

/-! ## Lists -/

theorem items_agree {decode decode' : Decoder α} (h : AgreeBelow n decode decode') (src : Source) :
    ∀ (i : Nat) (ds : List Draft), Draft.depthAll ds < n →
      items decode src i ds = items decode' src i ds
  | _, [], _ => rfl
  | i, d :: rest, levels => by
    have here : d.depth < n := Nat.lt_of_le_of_lt (Nat.le_max_left _ _) levels
    have later : Draft.depthAll rest < n := Nat.lt_of_le_of_lt (Nat.le_max_right _ _) levels
    rw [items, items, h src d here, items_agree h src (i + 1) rest later]

theorem AgreeBelow.list {decode decode' : Decoder α} (h : AgreeBelow n decode decode') :
    AgreeBelow n (list decode) (list decode') := by
  intro src d levels
  cases d with
  | array ds => exact items_agree h src 0 ds (Nat.lt_trans (Nat.lt_succ_self _) levels)
  | _ => rfl

/-! ## Records -/

namespace Fields

/-- Whether two lists of fields differ in nothing but decoders, and those agree. -/
def AgreeBelow (n : Nat) : {αs : List Type} → Fields αs → Fields αs → Prop
  | _, .nil, .nil => True
  | _, .cons field rest, .cons field' rest' =>
    field.name = field'.name ∧ field.absent = field'.absent ∧
      Decode.AgreeBelow n field.decode field'.decode ∧ rest.AgreeBelow n rest'

theorem take_agree (src : Source) (k : String) {d : Draft} (levels : d.depth < n) :
    ∀ {αs : List Type} {fields fields' : Fields αs}, fields.AgreeBelow n fields' →
      ∀ slots : Slots αs, fields.take src k d slots = fields'.take src k d slots
  | _, .nil, .nil, _, _ => rfl
  | _, .cons field rest, .cons field' rest', h, (slot, slots) => by
    obtain ⟨name, -, decode, later⟩ := h
    by_cases here : field.name = k
    · subst here
      cases slot with
      | some a => rw [take_met src slots a d, name, take_met src slots a d]
      | none =>
        rw [take_own src slots d, name, take_own src slots d, decode src d levels]
    · rw [take_other src slots here d slot, take_other src slots (name ▸ here) d slot,
        take_agree src k levels later slots]

theorem fill_agree (src : Source) {αs : List Type} {fields fields' : Fields αs}
    (h : fields.AgreeBelow n fields') : ∀ (es : List (Draft × Draft)) (slots : Slots αs),
      Draft.depthEntries es < n → fields.fill src es slots = fields'.fill src es slots
  | [], _, _ => rfl
  | (k, d) :: rest, slots, levels => by
    have here : d.depth < n := Nat.lt_of_le_of_lt (Nat.le_max_left _ _) levels
    have later : Draft.depthEntries rest < n := Nat.lt_of_le_of_lt (Nat.le_max_right _ _) levels
    have filled := funext fun slots => fill_agree src h rest slots later
    unfold fill
    rw [filled]
    refine congrArg _ (funext fun k => ?_)
    rw [take_agree src k here h slots]

theorem unmet_agree : ∀ {αs : List Type} {fields fields' : Fields αs},
    fields.AgreeBelow n fields' → fields.unmet = fields'.unmet
  | _, .nil, .nil, _ => rfl
  | _, .cons _ _, .cons _ _, h => congrArg (Prod.mk none) (unmet_agree h.2.2.2)

theorem finish_agree : ∀ {αs : List Type} {fields fields' : Fields αs},
    fields.AgreeBelow n fields' → ∀ slots : Slots αs, fields.finish slots = fields'.finish slots
  | _, .nil, .nil, _, _ => rfl
  | _, .cons field _, .cons field' _, h, (slot, slots) => by
    obtain ⟨name, absent, -, rest⟩ := h
    cases slot with
    | some a => rw [finish_met, finish_met, finish_agree rest slots]
    | none =>
      cases missing : field.absent with
      | some a =>
        rw [finish_absent slots missing, finish_absent slots (absent.symm.trans missing),
          finish_agree rest slots]
      | none =>
        rw [finish_missing slots missing, finish_missing slots (absent.symm.trans missing), name]

theorem positional_agree (src : Source) (expected : String) : ∀ {αs : List Type}
    {fields fields' : Fields αs}, fields.AgreeBelow n fields' → ∀ (i : Nat) (ds : List Draft),
      Draft.depthAll ds < n →
        fields.positional src expected i ds = fields'.positional src expected i ds
  | _, .nil, .nil, _, _, _, _ => rfl
  | _, .cons field rest, .cons field' rest', h, i, [], levels => by
    obtain ⟨name, absent, -, later⟩ := h
    have same := positional_agree src expected later i [] levels
    cases missing : field.absent with
    | some a =>
      rw [positional_absent src expected i missing,
        positional_absent src expected i (absent.symm.trans missing), same]
    | none =>
      rw [positional_missing src expected i missing,
        positional_missing src expected i (absent.symm.trans missing)]
  | _, .cons field rest, .cons field' rest', h, i, d :: ds, levels => by
    obtain ⟨-, -, decode, later⟩ := h
    have here : d.depth < n := Nat.lt_of_le_of_lt (Nat.le_max_left _ _) levels
    have deeper : Draft.depthAll ds < n := Nat.lt_of_le_of_lt (Nat.le_max_right _ _) levels
    rw [positional_cons, positional_cons, decode src d here,
      positional_agree src expected later (i + 1) ds deeper]

theorem count_agree : ∀ {αs : List Type} {fields fields' : Fields αs},
    fields.AgreeBelow n fields' → fields.count = fields'.count
  | _, .nil, .nil, _ => rfl
  | _, .cons _ _, .cons _ _, h => congrArg (· + 1) (count_agree h.2.2.2)

end Fields

/-- **A record has one level more than its fields.** -/
theorem AgreeBelow.record {αs : List Type} {fields fields' : Fields αs} (title : String)
    (make : Values αs → β) (h : fields.AgreeBelow n fields') :
    AgreeBelow (n + 1) (record title fields make) (record title fields' make) := by
  intro src d levels
  cases d with
  | object es =>
    have deeper : Draft.depthEntries es < n := Nat.lt_of_succ_lt_succ levels
    unfold Decode.record
    dsimp only
    rw [Fields.unmet_agree h, Fields.fill_agree src h es _ deeper]
    refine congrArg _ (funext fun slots => ?_)
    rw [Fields.finish_agree h slots]
  | array ds =>
    have deeper : Draft.depthAll ds < n := Nat.lt_of_succ_lt_succ levels
    unfold Decode.record
    dsimp only
    rw [Fields.count_agree h, Fields.positional_agree src _ h 0 ds deeper]
  | _ => rfl

/-! ## Tagged values -/

/-- What is kept is kept as it is. -/
theorem eq_of_kept {d d' : Draft} (h : kept d = .ok d') : d' = d := by
  unfold kept at h
  split at h
  · exact (Except.ok.inj h).symm
  · exact nomatch h

theorem eq_of_mapM_kept : ∀ {ds ds' : List Draft}, ds.mapM kept = .ok ds' → ds' = ds
  | [], _, h => (Except.ok.inj h).symm
  | d :: rest, _, h => by
    rw [List.mapM_cons] at h
    obtain ⟨d', first, h⟩ := bind_eq_ok_iff.mp h
    obtain ⟨rest', later, h⟩ := bind_eq_ok_iff.mp h
    obtain rfl := Except.ok.inj h
    rw [eq_of_kept first, eq_of_mapM_kept later]

section

variable {κ : Type} (f : κ → β) (kinds : List (String × κ))

theorem variantOf_map (name : String) :
    variantOf (kinds.map (Prod.map id f)) name = (variantOf kinds name).map f := by
  have found : (kinds.map (Prod.map id f)).lookup name = (kinds.lookup name).map f := by
    induction kinds with
    | nil => rfl
    | cons v rest ih =>
      rw [List.map_cons, List.lookup_cons, List.lookup_cons, Prod.map_fst, id_eq]
      split
      · rfl
      · exact ih
  have names : (kinds.map (Prod.map id f)).map Prod.fst = kinds.map Prod.fst := by
    rw [List.map_map]
    rfl
  unfold variantOf
  rw [found, names]
  cases kinds.lookup name <;> rfl

theorem variantTag_map (src : Source) (d : Draft) :
    variantTag (kinds.map (Prod.map id f)) src d = (variantTag kinds src d).map f := by
  cases d with
  | string name => cases src <;> exact variantOf_map f kinds name
  | number m =>
    cases src with
    | held =>
      cases m with
      | float x => rfl
      | integer n =>
        unfold variantTag
        dsimp only
        split
        · rfl
        · rw [List.getElem?_map, List.length_map]
          cases kinds[n.toNat]? <;> rfl
    | _ => cases m <;> rfl
  | _ => cases src <;> rfl

theorem splitTag_map (src : Source) (tag : String) : ∀ (es : List (Draft × Draft))
    (found : Option κ), splitTag src tag (kinds.map (Prod.map id f)) es (found.map f) =
      (splitTag src tag kinds es found).map fun r => (r.1.map f, r.2)
  | [], _ => rfl
  | (k, d) :: rest, found => by
    unfold splitTag
    cases key k with
    | error fault => rfl
    | ok name =>
      dsimp only [bind, Except.bind]
      split
      · rw [Option.isSome_map]
        split
        · rfl
        · rw [variantTag_map]
          cases variantTag kinds src d with
          | error fault => rfl
          | ok a => exact splitTag_map src tag rest (some a)
      · cases kept d with
        | error fault => rfl
        | ok d' =>
          dsimp only
          rw [splitTag_map src tag rest found]
          cases splitTag src tag kinds rest found <;> rfl

/-- What is left beside a tag has no more levels. -/
theorem depth_of_splitTag (src : Source) (tag : String) : ∀ {es : List (Draft × Draft)}
    {found : Option κ} {r : Option κ × List (Draft × Draft)},
      splitTag src tag kinds es found = .ok r → Draft.depthEntries r.2 ≤ Draft.depthEntries es
  | [], _, _, h => by
    obtain rfl := Except.ok.inj h
    exact Nat.le_refl _
  | (k, d) :: rest, found, r, h => by
    obtain ⟨name, -, h⟩ := bind_eq_ok_iff.mp h
    dsimp only at h
    split at h
    · split at h
      · exact nomatch h
      · obtain ⟨a, -, h⟩ := bind_eq_ok_iff.mp h
        exact Nat.le_trans (depth_of_splitTag src tag h) (Nat.le_max_right _ _)
    · obtain ⟨d', isKept, h⟩ := bind_eq_ok_iff.mp h
      obtain ⟨r', isSplit, h⟩ := bind_eq_ok_iff.mp h
      obtain rfl := Except.ok.inj h
      obtain rfl := eq_of_kept isKept
      have later := depth_of_splitTag src tag isSplit
      simp only [Draft.depthEntries]
      omega

end

/-- **A tagged value has as many levels as what it is.** -/
theorem AgreeBelow.tagged (title tag : String) {κ : Type} (kinds : List (String × κ))
    (f f' : κ → Decoder α) (h : ∀ k, AgreeBelow n (f k) (f' k)) :
    AgreeBelow n (tagged title tag (kinds.map (Prod.map id f)))
      (tagged title tag (kinds.map (Prod.map id f'))) := by
  intro src d levels
  cases d with
  | object es =>
    -- Which variant the tag names does not depend on how variants are decoded.
    have isSplit (f : κ → Decoder α) : splitTag src tag (kinds.map (Prod.map id f)) es none = _ :=
      splitTag_map f kinds src tag es none
    unfold Decode.tagged
    dsimp only
    rw [isSplit f, isSplit f']
    cases left : splitTag src tag kinds es none with
    | error fault => rfl
    | ok r =>
      obtain ⟨found, others⟩ := r
      cases found with
      | none => rfl
      | some k =>
        have deeper : (Draft.object others).depth < n := by
          have less : Draft.depthEntries others ≤ Draft.depthEntries es :=
            depth_of_splitTag kinds src tag left
          simp only [Draft.depth] at levels ⊢
          omega
        exact congrArg (Except.mapError Fault.asWhole) (h k .held (.object others) deeper)
  | array ds =>
    cases ds with
    | nil => rfl
    | cons d rest =>
      unfold Decode.tagged
      dsimp only
      rw [variantTag_map, variantTag_map]
      cases variantTag kinds src d with
      | error fault => rfl
      | ok k =>
        cases all : rest.mapM kept with
        | error fault => rfl
        | ok others =>
          have deeper : (Draft.array others).depth < n := by
            rw [eq_of_mapM_kept all]
            simp only [Draft.depth, Draft.depthAll] at levels ⊢
            omega
          exact congrArg (Except.mapError Fault.asWhole) (h k .held (.array others) deeper)
  | _ => rfl

end SqlBroker.Decode

/-! ## Nodes -/

namespace SqlBroker.Filter

open SqlBroker.Decode

/-- What a node of each kind is decoded as, given how children are. -/
def decodeKind (child : Decoder Node) (isGroup : Bool) : Decoder Node :=
  if isGroup then decodeGroupNode child else decodeRuleNode

/-- A node of either kind, given how children are decoded. -/
def decodeNodeWith (child : Decoder Node) : Decoder Node :=
  tagged "internally tagged enum FilterNode" "type"
    [("rule", decodeRuleNode), ("group", decodeGroupNode child)]

theorem agree_decodeNodeWith {n : Nat} {child child' : Decoder Node}
    (h : AgreeBelow n child child') :
    AgreeBelow (n + 1) (decodeNodeWith child) (decodeNodeWith child') := by
  refine AgreeBelow.tagged _ _ [("rule", false), ("group", true)] (decodeKind child)
    (decodeKind child') fun isGroup => ?_
  cases isGroup with
  | false => exact .refl _
  | true =>
    refine AgreeBelow.record _ _ ⟨rfl, rfl, .refl _, rfl, rfl, ?_, trivial⟩
    exact h.list

theorem agree_decodeNodeUpTo : ∀ (n m : Nat), n ≤ m →
    AgreeBelow n (decodeNodeUpTo n) (decodeNodeUpTo m)
  | 0, _, _ => fun _ _ h => absurd h (Nat.not_lt_zero _)
  | n + 1, m + 1, h => agree_decodeNodeWith (agree_decodeNodeUpTo n m (Nat.le_of_succ_le_succ h))

/-- More levels than a value has make no difference. -/
theorem decodeNodeUpTo_eq {n : Nat} (src : Source) {d : Draft} (h : d.depth < n) :
    decodeNodeUpTo n src d = decodeNode src d :=
  (agree_decodeNodeUpTo (d.depth + 1) n h src d (Nat.lt_succ_self _)).symm

/-- **The children of a group are decoded as the node itself**, at any depth. -/
theorem decodeNode_eq : decodeNode = decodeNodeWith decodeNode := by
  funext src d
  have children : AgreeBelow d.depth (decodeNodeUpTo d.depth) decodeNode :=
    fun src x h => decodeNodeUpTo_eq src h
  exact agree_decodeNodeWith children src d (Nat.lt_succ_self _)

end SqlBroker.Filter
