import SqlBroker.Text.Encoded

/-!
# Parameters of connection strings

What a connection string has after its question mark, as forms write it: pairs with ampersands
between them, a plus sign for a blank, percent signs for bytes. Bytes that are no text are replaced.

Models what `open` finds in a connection string after the question mark (SPEC_FULL.md, section 11).
-/

namespace SqlBroker.Query

/-- The pieces of a text between the marks. -/
def pieces (mark : Char) : List Char → List (List Char)
  | [] => [[]]
  | c :: cs =>
    if c = mark then [] :: pieces mark cs
    else
      match pieces mark cs with
      | [] => [[c]]
      | piece :: rest => (c :: piece) :: rest

/-- The text of a name or value in a parameter. -/
def component (cs : List Char) : String :=
  Text.unescaped (cs.map fun c => if c = '+' then ' ' else c)

/-- The name and value of a parameter. -/
def pair (cs : List Char) : String × String :=
  (component (cs.takeWhile (· ≠ '=')), component ((cs.dropWhile (· ≠ '=')).drop 1))

/-- The parameters of a text. -/
def parameters (cs : List Char) : List (String × String) :=
  ((pieces '&' cs).filter (· ≠ [])).map pair

end SqlBroker.Query
