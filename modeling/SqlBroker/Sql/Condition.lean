import SqlBroker.Filter.Predicate
import SqlBroker.Sql.Script

/-!
# Conditions in statements

The tokens of a predicate. A conjunction or disjunction of one condition is that condition; of any
other number it stands in parentheses, as does what is negated.

Models `push_predicate` and `push_joined` (SPEC_FULL.md, section 11).
-/

namespace SqlBroker.Predicate

open SqlBroker.Sql

mutual

/-- The tokens of a predicate. -/
def tokens : Predicate → List Token
  | .always => [.word "TRUE"]
  | .compare column op value => [.name column, .word s!" {op.sign} ", .value value]
  | .like column pattern negated =>
    [.name column, .word (if negated then " NOT LIKE " else " LIKE "), .value pattern]
  | .between column low high =>
    [.name column, .word " BETWEEN ", .value low, .word " AND ", .value high]
  | .isNull column negated =>
    [.name column, .word (if negated then " IS NOT NULL" else " IS NULL")]
  | .all children => joinedTokens " AND " children
  | .any children => joinedTokens " OR " children
  | .not inner => .word "NOT (" :: inner.tokens ++ [.word ")"]

/-- The tokens of several predicates joined by a word. -/
def joinedTokens (word : String) : List Predicate → List Token
  | [] => [.word "(", .word ")"]
  | [p] => p.tokens
  | p :: rest => .word "(" :: p.tokens ++ laterTokens word rest ++ [.word ")"]

/-- The tokens of the predicates after the first. -/
def laterTokens (word : String) : List Predicate → List Token
  | [] => []
  | p :: rest => .word word :: p.tokens ++ laterTokens word rest

end

end SqlBroker.Predicate
