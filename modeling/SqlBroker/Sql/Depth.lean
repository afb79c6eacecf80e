import SqlBroker.Sql.Lexer

/-!
# The depth of a condition

How many operators a database finds above each other in the condition of a statement. It reads the
conditions of a row from left to right, each as one more above those before it; parentheses add
nothing. A comparison is two deep, one that is negated in itself three, and a constant one.
-/

namespace SqlBroker.Sql

/-! ## Pieces of a condition -/

/-- A piece of a condition: a parenthesis, or a condition without any, by its depth. -/
inductive Piece where
  | opened (negated : Bool)
  | closed
  | plain (depth : Nat)
deriving DecidableEq, Repr

/-- The depth of the comparison of a column that a text goes on with. -/
def comparisonDepth (cs : List Char) : Nat := if " NOT LIKE ".toList.isPrefixOf cs then 3 else 2

/-- The pieces of a text: each quoted name starts a comparison. -/
def pieces (quote : Char) (cs : List Char) : List Piece :=
  match cs with
  | [] => []
  | c :: rest =>
    if c = quote then
      match _read : readName quote rest with
      | some r => .plain (comparisonDepth r.2) :: pieces quote r.2
      | none => []
    else if c = '(' then .opened false :: pieces quote rest
    else if c = ')' then .closed :: pieces quote rest
    else if "NOT (".toList.isPrefixOf (c :: rest) then
      .opened true :: pieces quote (rest.drop 4)
    else if "TRUE".toList.isPrefixOf (c :: rest) then .plain 1 :: pieces quote rest
    else pieces quote rest
termination_by cs.length
decreasing_by
  · have := length_of_readName _read
    simp only [List.length_cons]
    omega
  all_goals
    simp only [List.length_cons, List.length_drop]
    omega

/-! ## Depth -/

/-- A row of conditions inside a parenthesis, by its depth so far; an empty row has none. -/
structure Frame where
  negated : Bool
  depth : Option Nat
deriving DecidableEq, Repr

/-- The row with one more condition. -/
def Frame.add (f : Frame) (depth : Nat) : Frame :=
  { f with depth := some (f.depth.elim depth fun before => max before depth + 1) }

/-- The depth of the closed row. -/
def Frame.close (f : Frame) : Nat := f.depth.getD 0 + f.negated.toNat

/-- The depth of the condition that pieces start with, inside rows that are open. -/
def depthOf : List Frame → List Piece → Nat
  | _, [] => 0
  | frames, .opened negated :: ps => depthOf (⟨negated, none⟩ :: frames) ps
  | [], .plain depth :: _ => depth
  | f :: frames, .plain depth :: ps => depthOf (f.add depth :: frames) ps
  | [], .closed :: _ => 0
  | [f], .closed :: _ => f.close
  | f :: g :: frames, .closed :: ps => depthOf (g.add f.close :: frames) ps

/-! ## Statements -/

/-- What a text has after its first word for a condition outside names. -/
def afterWhere (quote : Char) (cs : List Char) : List Char :=
  match cs with
  | [] => []
  | c :: rest =>
    if c = quote then
      match _read : readName quote rest with
      | some r => afterWhere quote r.2
      | none => []
    else if " WHERE ".toList.isPrefixOf (c :: rest) then rest.drop 6
    else afterWhere quote rest
termination_by cs.length
decreasing_by
  · have := length_of_readName _read
    simp only [List.length_cons]
    omega
  · simp

/-- The depth of the condition of a statement; without a condition it is zero. -/
def conditionDepth (b : Backend) (text : String) : Nat :=
  depthOf [] (pieces (nameQuote b) (afterWhere (nameQuote b) text.toList))

end SqlBroker.Sql
