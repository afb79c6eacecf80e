import SqlBroker.Decimal.Notation
import SqlBroker.Json.Basic

/-!
# JSON text

`Json.text` writes a value without blanks. A string escapes the quote, the backslash and the control
characters below the space, five of them by letters; all else stands for itself.

Models the text of JSON in `pattern_text`, in `format_error` and in parameters (SPEC_FULL.md,
section 4.1).
-/

namespace SqlBroker

/-- Floats in JSON text: exponents from -5 to 15 are written positionally, a whole number keeps its
`.0`, and of two equally near decimals the even one is written. -/
def jsonLayout : Decimal.Layout := ⟨some (-5, 15), true, .even⟩

namespace Number

/-- A whole number in base ten. -/
def integerChars (n : Int) : List Char :=
  if n < 0 then '-' :: Text.digits n.natAbs else Text.digits n.natAbs

/-- A number as JSON text. -/
def chars : Number → List Char
  | .integer n => integerChars n
  | .float x => jsonLayout.render x

/-- A number as JSON text. -/
def text (n : Number) : String := String.ofList n.chars

end Number

namespace Json

/-- One character inside a JSON string. -/
def stringChar (c : Char) : List Char :=
  if c = '"' then ['\\', '"']
  else if c = '\\' then ['\\', '\\']
  else if c = '\x08' then ['\\', 'b']
  else if c = '\x0c' then ['\\', 'f']
  else if c = '\n' then ['\\', 'n']
  else if c = '\r' then ['\\', 'r']
  else if c = '\t' then ['\\', 't']
  else if c.toNat < 0x20 then '\\' :: 'u' :: '0' :: '0' :: Text.hexByte c.toUInt8
  else [c]

/-- A JSON string with its quotes. -/
def stringChars (s : String) : List Char := '"' :: s.toList.flatMap stringChar ++ ['"']

mutual

/-- A value as JSON text. -/
def chars : Json → List Char
  | .null => ['n', 'u', 'l', 'l']
  | .bool true => ['t', 'r', 'u', 'e']
  | .bool false => ['f', 'a', 'l', 's', 'e']
  | .number n => n.chars
  | .string s => stringChars s
  | .array items => '[' :: itemChars items ++ [']']
  | .object entries => '{' :: entryChars entries ++ ['}']

/-- Values with commas between them. -/
def itemChars : List Json → List Char
  | [] => []
  | [j] => j.chars
  | j :: rest => j.chars ++ ',' :: itemChars rest

/-- Entries with commas between them. -/
def entryChars : List (String × Json) → List Char
  | [] => []
  | [(k, j)] => stringChars k ++ ':' :: j.chars
  | (k, j) :: rest => stringChars k ++ ':' :: j.chars ++ ',' :: entryChars rest

end

/-- A value as JSON text. -/
def text (j : Json) : String := String.ofList j.chars

end Json

end SqlBroker
