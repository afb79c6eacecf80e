import SqlBroker.Backend.Basic
import SqlBroker.Value.Basic

/-!
# Scripts

A script is the text of a statement and the values of its placeholders, in their order. It is
written token by token: words as they are, names between the backend's quotes, and values either in
place or as a placeholder with the value beside the text.

Models `SqlWriter` with `push_ident`, `push_value`, `push_pg_literal` and `push_param`
(SPEC_FULL.md, section 11).
-/

namespace SqlBroker.Sql

/-- A piece of a statement. -/
inductive Token where
  /-- Keywords and marks with the blanks around them. -/
  | word (text : String)
  /-- The name of a table or column. -/
  | name (s : String)
  | value (v : Value)
deriving Repr

/-! ## Names and literals -/

/-- The quote around names. -/
def nameQuote : Backend → Char
  | .mysql => '\x60'
  | .postgres => '"'
  | .sqlite => '"'

/-- The characters of a name with each quote doubled. -/
def doubled (quote : Char) : List Char → List Char
  | [] => []
  | c :: cs => if c = quote then quote :: quote :: doubled quote cs else c :: doubled quote cs

/-- A name between quotes. -/
def nameChars (b : Backend) (s : String) : List Char :=
  nameQuote b :: doubled (nameQuote b) s.toList ++ [nameQuote b]

/-- One character of a text literal: quotes and backslashes are doubled. -/
def literalChar (c : Char) : List Char :=
  if c = '\x27' then ['\x27', '\x27'] else if c = '\\' then ['\\', '\\'] else [c]

/-- A text literal in which the backslash escapes, whatever the server's settings. -/
def literalChars (s : String) : List Char :=
  'E' :: '\x27' :: s.toList.flatMap literalChar ++ ['\x27']

/-- The text of a value that is written in place. Null always is. A text is on Postgres, so that the
column's type decides what it means, unless it holds the null character, which no statement can. -/
def inPlace? (b : Backend) : Value → Option (List Char)
  | .null => some ['N', 'U', 'L', 'L']
  | .text s => if b = .postgres ∧ '\x00' ∉ s.toList then some (literalChars s) else none
  | _ => none

/-- The placeholder of the `n`-th value. -/
def placeholder (b : Backend) (n : Nat) : List Char :=
  match b with
  | .postgres => '$' :: Text.digits n
  | .mysql => ['?']
  | .sqlite => ['?']

/-! ## Writing -/

/-- The text of a statement and the values of its placeholders. -/
structure Script where
  chars : List Char
  params : List Value
deriving Repr

namespace Script

/-- Nothing written. -/
def empty : Script := ⟨[], []⟩

/-- The text. -/
def text (s : Script) : String := String.ofList s.chars

/-- One script after the other. -/
def append (s t : Script) : Script := ⟨s.chars ++ t.chars, s.params ++ t.params⟩

/-- What a token adds to a script that has `n` values. -/
def ofToken (b : Backend) (n : Nat) : Token → Script
  | .word w => ⟨w.toList, []⟩
  | .name s => ⟨nameChars b s, []⟩
  | .value v =>
    match inPlace? b v with
    | some cs => ⟨cs, []⟩
    | none => ⟨placeholder b (n + 1), [v]⟩

/-- What tokens add to a script that has `n` values. -/
def ofTokensFrom (b : Backend) (n : Nat) : List Token → Script
  | [] => empty
  | t :: ts =>
    let s := ofToken b n t
    s.append (ofTokensFrom b (n + s.params.length) ts)

/-- The script with more tokens. -/
def write (b : Backend) (s : Script) (tokens : List Token) : Script :=
  s.append (ofTokensFrom b s.params.length tokens)

/-- A script of tokens. -/
def ofTokens (b : Backend) (tokens : List Token) : Script := ofTokensFrom b 0 tokens

end Script

end SqlBroker.Sql
