import Mathlib.Data.List.Chain
import SqlBroker.Proofs.Filter.Condition
import SqlBroker.Request.Basic

/-!
# How deep a condition is

The limit on filters counts the levels of a tree, which are the nodes of its longest path. A
condition is not built level by level: nodes that ask for nothing leave no level, a negated group
leaves two, and so does a rule whose operator is the opposite of another. It is at most twice as
deep as its tree.

Headlines:
* **`Node.lt_depth_iff`**: a tree is deeper than a limit iff one of its paths is longer.
* **`Node.depth_condition`**: a condition is at most twice as deep as its tree.
* **`Envelope.depth_of_validate`**, **`Envelope.validate_of_deep`**: what the limit lets through.
-/

namespace SqlBroker

namespace Predicate

mutual

/-- The levels of a condition; a test alone is one. -/
def depth : Predicate → Nat
  | .all children => 1 + depthAll children
  | .any children => 1 + depthAll children
  | .not inner => 1 + inner.depth
  | _ => 1

/-- The levels of the deepest of several conditions. -/
def depthAll : List Predicate → Nat
  | [] => 0
  | p :: rest => max p.depth (depthAll rest)

end

theorem depthAll_append : ∀ ps qs : List Predicate,
    depthAll (ps ++ qs) = max (depthAll ps) (depthAll qs)
  | [], qs => (Nat.zero_max _).symm
  | p :: ps, qs => by
    rw [List.cons_append, depthAll, depthAll, depthAll_append ps qs, Nat.max_assoc]

theorem depth_pos (p : Predicate) : 1 ≤ p.depth := by
  cases p <;> simp [depth]

theorem depth_le_depthAll {p : Predicate} {ps : List Predicate} (h : p ∈ ps) :
    p.depth ≤ depthAll ps := by
  induction ps with
  | nil => exact absurd h List.not_mem_nil
  | cons q rest ih =>
    rw [depthAll]
    rcases List.mem_cons.mp h with rfl | h
    · exact Nat.le_max_left _ _
    · exact Nat.le_trans (ih h) (Nat.le_max_right _ _)

end Predicate

/-- A test is one level, its opposite two. -/
theorem Predicate.IsTest.depth_le {column : String} {p : Predicate} (h : p.IsTest column) :
    p.depth ≤ 2 := by
  cases h with
  | notBetween low high => exact Nat.le_refl 2
  | _ => exact Nat.le_succ 1

namespace Filter

/-! ## Paths -/

/-- The nodes right below a node. -/
def Node.children : Node → List Node
  | .rule _ => []
  | .group _ children => children

/-- Nodes from the root of a tree downwards, each right below the one before it. -/
structure Node.IsPath (root : Node) (path : List Node) : Prop where
  starts : path.head? = some root
  descends : path.IsChain fun n m => m ∈ n.children

theorem Node.depth_le_depthAll {n : Node} {ns : List Node} (h : n ∈ ns) :
    n.depth ≤ Node.depthAll ns := by
  induction ns with
  | nil => exact absurd h List.not_mem_nil
  | cons m rest ih =>
    rw [Node.depthAll]
    rcases List.mem_cons.mp h with rfl | h
    · exact Nat.le_max_left _ _
    · exact Nat.le_trans (ih h) (Nat.le_max_right _ _)

/-- Every step down loses a level. -/
theorem Node.depth_of_mem_children {n m : Node} (h : m ∈ n.children) : m.depth < n.depth := by
  cases n with
  | rule r => exact absurd h List.not_mem_nil
  | group j children =>
    have deepest : m.depth ≤ Node.depthAll children := Node.depth_le_depthAll h
    rw [Node.depth]
    omega

theorem Node.IsPath.length_le {root : Node} {path : List Node} (h : root.IsPath path) :
    path.length ≤ root.depth := by
  obtain ⟨starts, descends⟩ := h
  induction path generalizing root with
  | nil => exact nomatch starts
  | cons n rest ih =>
    obtain rfl := Option.some.inj starts
    cases rest with
    | nil =>
      rw [List.length_singleton]
      cases n with
      | rule r => exact Nat.le_refl 1
      | group j children => exact Nat.le_add_right 1 _
    | cons m rest =>
      obtain ⟨below, descends⟩ := List.isChain_cons_cons.mp descends
      exact Nat.lt_of_le_of_lt (ih rfl descends) (Node.depth_of_mem_children below)

/-- A path to a node below a group goes on from the group. -/
theorem Node.IsPath.group {j : Junction} {children : List Node} {n : Node} {path : List Node}
    (h : n.IsPath path) (mem : n ∈ children) :
    (Node.group j children).IsPath (.group j children :: path) := by
  refine ⟨rfl, List.isChain_cons.mpr ⟨fun m first => ?_, h.descends⟩⟩
  obtain rfl := Option.some.inj (h.starts.symm.trans first)
  exact mem

mutual

/-- **A tree has a path through all its levels.** -/
theorem Node.exists_path : ∀ n : Node, ∃ path, n.IsPath path ∧ path.length = n.depth
  | .rule r => ⟨[.rule r], ⟨rfl, .singleton _⟩, rfl⟩
  | .group j children => by
    rcases Node.exists_path_below children with rfl | ⟨n, mem, path, isPath, length⟩
    · exact ⟨[.group j []], ⟨rfl, .singleton _⟩, rfl⟩
    · refine ⟨_, isPath.group mem, ?_⟩
      rw [List.length_cons, length, Node.depth, Nat.add_comm]

theorem Node.exists_path_below : ∀ ns : List Node,
    ns = [] ∨ ∃ n ∈ ns, ∃ path, n.IsPath path ∧ path.length = Node.depthAll ns
  | [] => .inl rfl
  | n :: rest => by
    obtain ⟨path, isPath, length⟩ := Node.exists_path n
    right
    rw [Node.depthAll]
    rcases Nat.le_total (Node.depthAll rest) n.depth with first | later
    · exact ⟨n, List.mem_cons_self, path, isPath, by rw [length, Nat.max_eq_left first]⟩
    · rcases Node.exists_path_below rest with rfl | ⟨m, mem, path, isPath, length⟩
      · exact ⟨n, List.mem_cons_self, path, isPath, by rw [length, Node.depthAll, Nat.max_zero]⟩
      · exact ⟨m, List.mem_cons_of_mem n mem, path, isPath, by
          rw [length, Nat.max_eq_right later]⟩

end

/-- **A tree is deeper than a limit iff one of its paths is longer.** -/
theorem Node.lt_depth_iff {n : Node} {limit : Nat} :
    limit < n.depth ↔ ∃ path, n.IsPath path ∧ limit < path.length := by
  constructor
  · intro deep
    obtain ⟨path, isPath, length⟩ := n.exists_path
    exact ⟨path, isPath, length ▸ deep⟩
  · rintro ⟨path, isPath, long⟩
    exact Nat.lt_of_lt_of_le long isPath.length_le

/-! ## Conditions -/

variable {t : Table} {fields : Keyed FieldInfo}

/-- A group adds a level to its conditions, and another one if it negates them. -/
theorem Junction.depth_join {j : Junction} {ps : List Predicate} :
    ∀ p ∈ j.join ps, p.depth ≤ 2 + Predicate.depthAll ps := by
  intro p hp
  cases ps with
  | nil => exact nomatch hp
  | cons q rest =>
    rw [Junction.join_cons] at hp
    obtain rfl := Option.some.inj hp
    have joined : (j.joined (q :: rest)).depth = 1 + Predicate.depthAll (q :: rest) := by
      unfold Junction.joined
      split <;> rfl
    split
    · rw [Predicate.depth, joined]
      omega
    · rw [joined]
      omega

mutual

/-- **A condition is at most twice as deep as its tree**, whatever is left out of it. -/
theorem Node.depth_condition : ∀ {n : Node} {c : Option Predicate},
    n.condition t fields = .ok c → ∀ p ∈ c, p.depth ≤ 2 * n.depth
  | .rule r, c, h => by
    rcases Node.condition_rule_cases h with rfl | ⟨field, p, rfl, -, test⟩
    · exact fun _ h => nomatch h
    · rintro q ⟨⟩
      exact test.depth_le
  | .group j children, c, h => by
    obtain ⟨ps, hps, rfl⟩ := Node.condition_group h
    have below := Node.depthAll_conditions hps
    intro p hp
    have levels := Junction.depth_join p hp
    rw [Node.depth]
    omega

theorem Node.depthAll_conditions : ∀ {ns : List Node} {ps : List Predicate},
    Node.conditions t fields ns = .ok ps → Predicate.depthAll ps ≤ 2 * Node.depthAll ns
  | [], ps, h => by
    obtain rfl := Except.ok.inj h
    exact Nat.zero_le _
  | n :: rest, ps, h => by
    obtain ⟨c, qs, hc, hqs, rfl⟩ := Node.conditions_cons h
    have first := Node.depth_condition hc
    have later := Node.depthAll_conditions hqs
    rw [Predicate.depthAll_append, Node.depthAll]
    cases c with
    | none =>
      rw [Option.toList_none, Predicate.depthAll]
      omega
    | some p =>
      have own : p.depth ≤ 2 * n.depth := first p rfl
      rw [Option.toList_some, Predicate.depthAll, Predicate.depthAll]
      omega

end

end Filter

/-! ## The limit -/

namespace Envelope

variable {e : Envelope} {limit : Nat} {c : Filter.Clause}

/-- **A request that is let through has no tree above the limit.** -/
theorem depth_of_validate (hc : e.operation.filters? = some c) (valid : e.validate limit = .ok ()) :
    c.tree.depth ≤ limit := by
  obtain ⟨_, -, valid⟩ := bind_eq_ok_iff.mp valid
  obtain ⟨_, depth, -⟩ := bind_eq_ok_iff.mp valid
  refine Nat.le_of_not_lt fun deep => ?_
  simp [checkDepth, hc, deep] at depth

/-- **A tree above the limit is refused** as what is wrong with the request, unless its resource is
missing, which is found first. -/
theorem validate_of_deep (hc : e.operation.filters? = some c) (deep : limit < c.tree.depth) :
    ∃ fault, e.validate limit = .error (.requestShape fault) ∧
      (e.checkResource = .ok () → fault = .tooDeep c.tree.depth limit) := by
  have refused : e.checkDepth limit = .error (.requestShape (.tooDeep c.tree.depth limit)) := by
    simp only [checkDepth, hc, if_pos deep]
  rw [validate, refused]
  cases resource : e.checkResource with
  | ok _ => exact ⟨_, rfl, fun _ => rfl⟩
  | error error =>
    obtain ⟨_, blank⟩ : ∃ s, error = .requestShape s := by
      unfold checkResource at resource
      split at resource
      · split at resource
        · exact ⟨_, (Except.error.inj resource).symm⟩
        · exact nomatch resource
      · exact nomatch resource
    exact ⟨_, congrArg Except.error blank, fun h => nomatch h⟩

end Envelope

end SqlBroker
