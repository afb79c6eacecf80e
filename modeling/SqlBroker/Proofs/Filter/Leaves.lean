import SqlBroker.Proofs.Filter.Pruned

/-!
# Every rule is kept

A filter is compiled rule by rule. The first rule in the order of the text that fails is the error,
and nothing around it makes a difference; if none fails, the condition is built as the tree is, once
what asks for nothing is taken out of that, and its tests are those of the rules, in their order.

Concerns `compile` and `compile_rule` (SPEC_FULL.md, section 4.3).

Headlines:
* **`Node.tests_rules`**: a tree and the list of its rules give the same tests, or fail alike.
* **`Node.mirrors_pruned`**: a condition is built as what is left of its tree.
* **`Node.condition_keeps`**: no rule is lost, repeated or moved, and the first fault is reported.
-/

namespace SqlBroker

/-! ## Tests -/

namespace Predicate

/-- Whether a condition is a conjunction or a disjunction. -/
def isGroup : Predicate → Bool
  | .all _ => true
  | .any _ => true
  | _ => false

mutual

/-- The tests that a condition is joined from, from left to right. A negated test is a test, a
negated group is none. -/
def leaves : Predicate → List Predicate
  | .all children => leavesAll children
  | .any children => leavesAll children
  | .not inner => if inner.isGroup then inner.leaves else [.not inner]
  | p => [p]

/-- The tests of several conditions. -/
def leavesAll : List Predicate → List Predicate
  | [] => []
  | p :: rest => p.leaves ++ leavesAll rest

end

theorem leavesAll_append : ∀ ps qs : List Predicate,
    leavesAll (ps ++ qs) = leavesAll ps ++ leavesAll qs
  | [], _ => rfl
  | p :: ps, qs => by
    rw [List.cons_append, leavesAll, leavesAll, leavesAll_append ps qs, List.append_assoc]

theorem leavesAll_toList (c : Option Predicate) : leavesAll c.toList = c.elim [] leaves := by
  cases c with
  | none => rfl
  | some p => exact List.append_nil _

end Predicate

/-- What an operator asks for is one test. -/
theorem Operator.leaves_predicate {op : Operator} {column : String} {values : List Value}
    {p : Predicate} (h : op.predicate column values = .ok p) : p.leaves = [p] := by
  cases Operator.isTest_predicate h <;> rfl

namespace Filter

/-! ## Rules in the order of the text -/

variable (t : Table) (fields : Keyed FieldInfo)

theorem Junction.leaves_join (j : Junction) (ps : List Predicate) :
    (j.join ps).elim [] Predicate.leaves = Predicate.leavesAll ps := by
  cases ps with
  | nil => rfl
  | cons p rest =>
    rw [Junction.join_cons]
    obtain ⟨conjunction, negated⟩ := j
    cases conjunction <;> cases negated' : Junction.isNegated ⟨_, negated⟩ <;> rfl

/-- The tests of the rules that name a field, one for each, unless one of them fails. -/
def Rule.tests (rules : List Rule) : Except Error (List (Option Predicate)) :=
  (rules.filter Rule.asks).mapM fun r => r.condition t fields

theorem Rule.tests_append (rs ss : List Rule) : Rule.tests t fields (rs ++ ss) = do
    let ps ← Rule.tests t fields rs
    let qs ← Rule.tests t fields ss
    return ps ++ qs := by
  rw [tests, List.filter_append, List.mapM_append]
  rfl

theorem Rule.tests_singleton (r : Rule) : Rule.tests t fields [r] =
    (r.condition t fields).map fun c => (c.elim [] Predicate.leaves).map some := by
  cases hf : r.field with
  | none =>
    have silent : [r].filter Rule.asks = [] := by simp [asks, hf]
    rw [tests, silent, condition, hf]
    rfl
  | some field =>
    have asked : [r].filter Rule.asks = [r] := by simp [asks, hf]
    have own : r.condition t fields = (r.predicate field t fields).map some := by
      rw [condition, hf]
    rw [tests, asked, List.mapM_cons, own]
    cases hp : r.predicate field t fields with
    | error e => rfl
    | ok p =>
      obtain ⟨op, values, -, -, test⟩ := Rule.predicate_eq_ok hp
      change Except.ok [some p] = .ok (p.leaves.map some)
      rw [Operator.leaves_predicate test]
      rfl

mutual

/-- **A tree and the list of its rules give the same tests**, or fail with the same error. -/
theorem Node.tests_rules : ∀ n : Node, Rule.tests t fields n.rules =
    (n.condition t fields).map fun c => (c.elim [] Predicate.leaves).map some
  | .rule r => Rule.tests_singleton t fields r
  | .group j children => by
    rw [Node.rules, Node.tests_rulesAll children, Node.condition]
    cases Node.conditions t fields children with
    | error e => rfl
    | ok ps =>
      change Except.ok _ = .ok (((j.join ps).elim [] Predicate.leaves).map some)
      rw [j.leaves_join ps]

theorem Node.tests_rulesAll : ∀ ns : List Node, Rule.tests t fields (Node.rulesAll ns) =
    (Node.conditions t fields ns).map fun ps => (Predicate.leavesAll ps).map some
  | [] => rfl
  | n :: rest => by
    rw [Node.rulesAll, Rule.tests_append, Node.tests_rules n, Node.tests_rulesAll rest,
      Node.conditions]
    cases n.condition t fields with
    | error e => rfl
    | ok c =>
      cases Node.conditions t fields rest with
      | error e => rfl
      | ok ps =>
        change Except.ok _ = .ok ((Predicate.leavesAll (c.toList ++ ps)).map some)
        rw [Predicate.leavesAll_append, Predicate.leavesAll_toList, List.map_append]

end

variable {t fields}

/-- **A tree fails as the first of its rules does that fails.** -/
theorem Node.condition_eq_error_iff {n : Node} {e : Error} : n.condition t fields = .error e ↔
    ∃ before r after, n.rules.filter Rule.asks = before ++ r :: after ∧
      (∀ s ∈ before, ∃ c, s.condition t fields = .ok c) ∧ r.condition t fields = .error e := by
  rw [← mapM_eq_error_iff, ← map_eq_error_iff, ← Node.tests_rules, Rule.tests]

/-- **A tree that is understood is so rule by rule.** -/
theorem Node.map_condition_rules {n : Node} {c : Option Predicate}
    (h : n.condition t fields = .ok c) :
    (n.rules.filter Rule.asks).map (fun r => r.condition t fields) =
      (c.elim [] Predicate.leaves).map fun p => .ok (some p) := by
  have tests := Node.tests_rules t fields n
  rw [h] at tests
  rw [mapM_eq_ok_iff.mp tests, List.map_map]
  rfl

variable (t fields)

/-! ## Groups -/

/-- What a group makes of the conditions of its children. -/
def Junction.grouped (j : Junction) (ps : List Predicate) : Predicate :=
  if j.negated = some true then .not (j.joined ps) else j.joined ps

mutual

/-- A condition is built as a tree is: from each rule its own, from each group those of its children
one by one, joined and negated as the group says. -/
inductive Mirrors : Node → Predicate → Prop where
  | rule {r : Rule} {p : Predicate} (h : r.condition t fields = .ok (some p)) :
    Mirrors (.rule r) p
  | group (j : Junction) {children : List Node} {ps : List Predicate} (h : AllMirror children ps) :
    Mirrors (.group j children) (j.grouped ps)

/-- Conditions are built as trees are, one by one. -/
inductive AllMirror : List Node → List Predicate → Prop where
  | nil : AllMirror [] []
  | cons {n : Node} {p : Predicate} {ns : List Node} {ps : List Predicate} (first : Mirrors n p)
    (later : AllMirror ns ps) : AllMirror (n :: ns) (p :: ps)

end

variable {t fields}

theorem Junction.join_eq_grouped (j : Junction) (p : Predicate) (rest : List Predicate) :
    j.join (p :: rest) = some (j.grouped (p :: rest)) := by
  simp [Junction.join_cons, Junction.grouped, Junction.isNegated]

mutual

/-- **A condition is built as what is left of its tree**, and there is none iff nothing is left. -/
theorem Node.mirrors_pruned : ∀ {n : Node} {c : Option Predicate},
    n.condition t fields = .ok c → Option.Rel (Mirrors t fields) n.pruned? c
  | .rule r, c, h => by
    rw [Node.pruned?]
    cases hf : r.field with
    | none =>
      simp only [Node.condition, Rule.condition, hf] at h
      obtain rfl := Except.ok.inj h
      simp only [Rule.asks, hf]
      exact .none
    | some field =>
      obtain ⟨p, rfl, -⟩ := Node.condition_rule hf h
      simp only [Rule.asks, hf]
      exact .some (.rule h)
  | .group j children, c, h => by
    obtain ⟨ps, hps, rfl⟩ := Node.condition_group h
    have all := Node.mirrors_prunedAll hps
    rw [Node.pruned?]
    -- Whether anything is left of the children decides both if the group stays and if it asks.
    generalize Node.prunedAll children = left at all ⊢
    cases all with
    | nil => exact .none
    | cons first later =>
      rw [Junction.join_eq_grouped]
      exact .some (.group j (.cons first later))

theorem Node.mirrors_prunedAll : ∀ {ns : List Node} {ps : List Predicate},
    Node.conditions t fields ns = .ok ps → AllMirror t fields (Node.prunedAll ns) ps
  | [], ps, h => by
    obtain rfl := Except.ok.inj h
    exact .nil
  | n :: rest, ps, h => by
    obtain ⟨c, qs, hc, hqs, rfl⟩ := Node.conditions_cons h
    have first := Node.mirrors_pruned hc
    have later := Node.mirrors_prunedAll hqs
    rw [Node.prunedAll]
    generalize n.pruned? = left at first ⊢
    cases first with
    | none => exact later
    | some first => exact .cons first later

end

/-- **Every rule is kept, in order, and the first fault is reported.** A tree fails iff a rule about
a field does, and with the error of the first of them that does. Else the tests of its condition are
what these rules ask for, in the order of the text, in the groups that are left of the tree; and it
has no condition iff it has no such rule. -/
theorem Node.condition_keeps (n : Node) (t : Table) (fields : Keyed FieldInfo) :
    let asked := n.rules.filter Rule.asks
    ((∃ e, n.condition t fields = .error e) ↔
      ∃ r ∈ asked, ∃ e, r.condition t fields = .error e) ∧
    (∀ e, n.condition t fields = .error e ↔ ∃ before r after, asked = before ++ r :: after ∧
      (∀ s ∈ before, ∃ c, s.condition t fields = .ok c) ∧ r.condition t fields = .error e) ∧
    (∀ c, n.condition t fields = .ok c →
      asked.map (fun r => r.condition t fields) =
        (c.elim [] Predicate.leaves).map (fun p => .ok (some p)) ∧
      Option.Rel (Mirrors t fields) n.pruned? c) ∧
    (n.condition t fields = .ok none ↔ asked = []) := by
  intro asked
  refine ⟨⟨?_, ?_⟩, fun e => Node.condition_eq_error_iff,
    fun c h => ⟨Node.map_condition_rules h, Node.mirrors_pruned h⟩, ?_, ?_⟩
  · rintro ⟨e, h⟩
    obtain ⟨before, r, after, same, -, hr⟩ := Node.condition_eq_error_iff.mp h
    have mem : r ∈ before ++ r :: after := List.mem_append_right before List.mem_cons_self
    rw [← same] at mem
    exact ⟨r, mem, e, hr⟩
  · rintro ⟨r, mem, e, hr⟩
    cases h : n.condition t fields with
    | error e' => exact ⟨e', rfl⟩
    | ok c =>
      have own : r.condition t fields ∈ asked.map fun r => r.condition t fields :=
        List.mem_map_of_mem mem
      rw [Node.map_condition_rules h, hr] at own
      obtain ⟨p, -, absurd⟩ := List.mem_map.mp own
      exact nomatch absurd
  · intro h
    exact List.map_eq_nil_iff.mp (Node.map_condition_rules h)
  · intro empty
    refine Node.condition_of_nameless ((fieldsOf_eq_nil_iff _).mpr fun r mem => ?_)
    have silent := List.filter_eq_nil_iff.mp empty r mem
    simpa [Rule.asks] using silent

/-! ### A tree of three rules -/

/-- Two rules that can be understood, one about a field that there is not, one that asks nothing. -/
def young : Rule := ⟨some "age", some .less, [⟨.number (.integer 18), none⟩]⟩

def named : Rule := ⟨some "name", some .isNotNull, []⟩

def ghost : Rule := ⟨some "ghost", some .isNull, []⟩

def speechless : Rule := ⟨some "name", none, []⟩

/-- A rule in a negated group, between a group that asks for nothing and one that holds another. -/
def search (later : List Node) : Node :=
  .group ⟨.and, some true⟩
    [.group ⟨.or, some true⟩ [.rule ⟨none, some .between, []⟩], .rule young,
     .group ⟨.or, none⟩ (.group ⟨.and, none⟩ [] :: later)]

def staff : Table := ⟨"staff", ["age", "name"]⟩

/-- Two rules stay in their groups, and of two faults the first is the error. -/
theorem Node.condition_keeps_search :
    (∃ c, (search [.rule named]).condition staff .empty = .ok c ∧
      [young, named].map (fun r => r.condition staff .empty) =
        (c.elim [] Predicate.leaves).map (fun p => .ok (some p)) ∧
      Option.Rel (Mirrors staff .empty)
        (some (.group ⟨.and, some true⟩ [.rule young, .group ⟨.or, none⟩ [.rule named]])) c) ∧
    (search [.rule named, .rule ghost, .rule speechless]).condition staff .empty =
      .error (.unknownField "ghost") := by
  obtain ⟨-, -, kept, -⟩ := Node.condition_keeps (search [.rule named]) staff .empty
  obtain ⟨-, fails, -⟩ :=
    Node.condition_keeps (search [.rule named, .rule ghost, .rule speechless]) staff .empty
  refine ⟨⟨_, rfl, kept _ rfl⟩, (fails _).mpr ⟨[young, named], ghost, [speechless], rfl, ?_, rfl⟩⟩
  intro s mem
  rcases List.mem_cons.mp mem with rfl | mem
  · exact ⟨_, rfl⟩
  · obtain rfl := List.mem_singleton.mp mem
    exact ⟨_, rfl⟩

end Filter

end SqlBroker
