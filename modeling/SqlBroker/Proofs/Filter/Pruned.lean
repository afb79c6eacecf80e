import SqlBroker.Proofs.Filter.Columns

/-!
# Trees without what asks for nothing

A rule without a field asks for nothing, nor does a group that holds nothing but such rules and such
groups. What is left of a tree without them is all that its condition comes from.

Headlines:
* **`Node.rules_pruned`**: the rules that name a field are left, in their order, and no other.
* **`Node.condition_pruned`**: a tree asks for what is left of it, and fails as that does.
-/

namespace SqlBroker.Filter

/-! ## What is left -/

/-- Whether a rule is about a field. -/
def Rule.asks (r : Rule) : Bool := r.field.isSome

mutual

/-- A tree without the rules that name no field and the groups that hold no rule but these; none if
that leaves nothing. -/
def Node.pruned? : Node → Option Node
  | .rule r => if r.asks then some (.rule r) else none
  | .group j children =>
    let left := Node.prunedAll children
    if left.isEmpty then none else some (.group j left)

/-- What is left of several trees. -/
def Node.prunedAll : List Node → List Node
  | [] => []
  | n :: rest => n.pruned?.toList ++ Node.prunedAll rest

end

theorem Node.prunedAll_append : ∀ ns ms : List Node,
    Node.prunedAll (ns ++ ms) = Node.prunedAll ns ++ Node.prunedAll ms
  | [], _ => rfl
  | n :: ns, ms => by
    rw [List.cons_append, Node.prunedAll, Node.prunedAll, Node.prunedAll_append ns ms,
      List.append_assoc]

theorem Node.rulesAll_append : ∀ ns ms : List Node,
    Node.rulesAll (ns ++ ms) = Node.rulesAll ns ++ Node.rulesAll ms
  | [], _ => rfl
  | n :: ns, ms => by
    rw [List.cons_append, Node.rulesAll, Node.rulesAll, Node.rulesAll_append ns ms,
      List.append_assoc]

/-! ## The rules that are left -/

mutual

/-- **The rules that name a field are left**, in their order. -/
theorem Node.rules_pruned : ∀ n : Node,
    Node.rulesAll n.pruned?.toList = n.rules.filter Rule.asks
  | .rule r => by
    rw [Node.pruned?, Node.rules]
    cases asks : r.asks with
    | true => simp [Node.rulesAll, Node.rules, asks]
    | false => simp [Node.rulesAll, asks]
  | .group j children => by
    rw [Node.rules, ← Node.rulesAll_pruned children, Node.pruned?]
    cases Node.prunedAll children with
    | nil => rfl
    | cons m rest => exact List.append_nil _

theorem Node.rulesAll_pruned : ∀ ns : List Node,
    Node.rulesAll (Node.prunedAll ns) = (Node.rulesAll ns).filter Rule.asks
  | [] => rfl
  | n :: rest => by
    rw [Node.prunedAll, Node.rulesAll_append, Node.rules_pruned n, Node.rulesAll_pruned rest,
      Node.rulesAll, List.filter_append]

end

mutual

/-- **A tree without a rule about a field leaves nothing.** -/
theorem Node.pruned?_of_nameless : ∀ {n : Node}, (∀ r ∈ n.rules, r.field = none) →
    n.pruned? = none
  | .rule r, h => by
    have nameless : r.field = none := h r (List.mem_singleton.mpr rfl)
    simp [Node.pruned?, Rule.asks, nameless]
  | .group j children, h => by
    rw [Node.pruned?, Node.prunedAll_of_nameless h]
    rfl

theorem Node.prunedAll_of_nameless : ∀ {ns : List Node},
    (∀ r ∈ Node.rulesAll ns, r.field = none) → Node.prunedAll ns = []
  | [], _ => rfl
  | n :: rest, h => by
    obtain ⟨first, later⟩ := List.forall_mem_append.mp h
    rw [Node.prunedAll, Node.pruned?_of_nameless first, Node.prunedAll_of_nameless later]
    rfl

end

/-! ## The condition of what is left -/

variable (t : Table) (fields : Keyed FieldInfo)

mutual

/-- **A tree asks for what is left of it**, and for nothing if nothing is. -/
theorem Node.condition_pruned : ∀ n : Node,
    n.condition t fields = n.pruned?.elim (.ok none) (Node.condition t fields)
  | .rule r => by
    rw [Node.pruned?, Node.condition]
    cases hf : r.field with
    | none => simp [Rule.asks, Rule.condition, hf]
    | some field => simp [Rule.asks, Node.condition, hf]
  | .group j children => by
    rw [Node.condition, Node.conditions_pruned children, Node.pruned?]
    cases Node.prunedAll children with
    | nil => rfl
    | cons m rest => rfl

theorem Node.conditions_pruned : ∀ ns : List Node,
    Node.conditions t fields ns = Node.conditions t fields (Node.prunedAll ns)
  | [] => rfl
  | n :: rest => by
    rw [Node.conditions, Node.condition_pruned n, Node.conditions_pruned rest, Node.prunedAll]
    cases n.pruned? with
    | none => exact bind_pure (Node.conditions t fields (Node.prunedAll rest))
    | some m => rfl

end

end SqlBroker.Filter
