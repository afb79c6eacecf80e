import SqlBroker.Request.Basic
import SqlBroker.Sql.Condition

/-!
# Statements

The four statements that a request can become, and their tokens.

Models the texts that `plan` writes (SPEC_FULL.md, sections 4.4 and 12).
-/

namespace SqlBroker.Sql

-- Here `^` is the power of natural numbers, whatever instances are imported beside it.
attribute [local instance (2000)] instPowNat

/-- The rows to pass over and how many to take after them. -/
structure Window where
  limit : Nat
  offset : Nat
deriving DecidableEq, Repr

/-- The largest number that a window can pass over. -/
def offsetMax : Nat := 2 ^ (64 : Nat) - 1

/-- The window of a page; an offset past the largest number is the largest number. -/
def Window.ofPage (p : Page) : Window := ⟨p.size, min (p.index * p.size) offsetMax⟩

/-- A column and the value to write into it. -/
structure Assignment where
  column : String
  value : Value
deriving Repr

/-- A statement. Those that write may ask for the rows that they touched. -/
inductive Statement where
  | select (table : String) (condition : Predicate) (sort : List SortItem) (window : Option Window)
  | insert (table : String) (writes : List Assignment) (returning : Bool)
  | update (table : String) (writes : List Assignment) (condition : Predicate) (returning : Bool)
  | delete (table : String) (condition : Predicate) (returning : Bool)
deriving Repr

/-- Lists of tokens with a comma between them. -/
def separated : List (List Token) → List Token
  | [] => []
  | [ts] => ts
  | ts :: rest => ts ++ .word ", " :: separated rest

namespace Statement

/-- The word for a direction. -/
def orderWord : SortOrder → Token
  | .asc => .word " ASC"
  | .desc => .word " DESC"

/-- The tokens of a condition. -/
def whereTokens (p : Predicate) : List Token := .word " WHERE " :: p.tokens

/-- The tokens of a sort. -/
def sortTokens (sort : List SortItem) : List Token :=
  if sort.isEmpty then []
  else .word " ORDER BY " :: separated (sort.map fun i => [.name i.field, orderWord i.order])

/-- The tokens of a window. -/
def windowTokens : Option Window → List Token
  | none => []
  | some w =>
    [.word " LIMIT ", .word (String.ofList (Text.digits w.limit)), .word " OFFSET ",
     .word (String.ofList (Text.digits w.offset))]

/-- The tokens that ask for the rows touched. -/
def returningTokens (returning : Bool) : List Token :=
  if returning then [.word " RETURNING *"] else []

/-- The tokens of a row of values for some columns. -/
def rowTokens (b : Backend) (writes : List Assignment) : List Token :=
  if writes.isEmpty then
    match b with
    | .mysql => [.word " () VALUES ()"]
    | .postgres => [.word " DEFAULT VALUES"]
    | .sqlite => [.word " DEFAULT VALUES"]
  else
    .word " (" :: separated (writes.map fun a => [.name a.column]) ++
      .word ") VALUES (" :: separated (writes.map fun a => [.value a.value]) ++ [.word ")"]

/-- The tokens of values set in columns. -/
def setTokens (writes : List Assignment) : List Token :=
  .word " SET " :: separated (writes.map fun a => [.name a.column, .word " = ", .value a.value])

/-- The tokens of a statement. -/
def tokens (b : Backend) : Statement → List Token
  | .select table condition sort window =>
    [.word "SELECT * FROM ", .name table] ++ whereTokens condition ++ sortTokens sort ++
      windowTokens window
  | .insert table writes returning =>
    [.word "INSERT INTO ", .name table] ++ rowTokens b writes ++ returningTokens returning
  | .update table writes condition returning =>
    [.word "UPDATE ", .name table] ++ setTokens writes ++ whereTokens condition ++
      returningTokens returning
  | .delete table condition returning =>
    [.word "DELETE FROM ", .name table] ++ whereTokens condition ++ returningTokens returning

/-- The script of a statement. -/
def script (b : Backend) (s : Statement) : Script := .ofTokens b (s.tokens b)

/-- Whether a statement answers with rows. -/
def returnsRows : Statement → Bool
  | .select _ _ _ _ => true
  | .insert _ _ returning => returning
  | .update _ _ _ returning => returning
  | .delete _ _ returning => returning

end Statement

end SqlBroker.Sql
