import SqlBroker.Text.Digits
import SqlBroker.Text.Hidden

/-!
# Quoted text

A text between double quotes, as messages show it. The quote and the backslash are escaped, tab,
line feed, carriage return and the null character have short escapes, and a character without a
glyph of its own is shown as its code point in braces.
-/

namespace SqlBroker.Text

/-- One character inside quoted text. -/
def quotedChar (c : Char) : List Char :=
  if c = '\x00' then ['\\', '0']
  else if c = '\t' then ['\\', 't']
  else if c = '\r' then ['\\', 'r']
  else if c = '\n' then ['\\', 'n']
  else if c = '"' then ['\\', '"']
  else if c = '\\' then ['\\', '\\']
  else if isHidden c then '\\' :: 'u' :: '{' :: hexDigits c.toNat ++ ['}']
  else [c]

/-- A text between double quotes. -/
def quoted (s : String) : String :=
  String.ofList ('"' :: s.toList.flatMap quotedChar ++ ['"'])

end SqlBroker.Text
