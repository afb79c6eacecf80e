import SqlBroker.Decimal.Binary64
import SqlBroker.Text.Encoded

/-!
# Cells

What a database holds in one column of one row, or takes for a placeholder. A text is kept as the
bytes that the database has for it, which need not be a text.
-/

namespace SqlBroker

/-- What a database holds in one place. -/
inductive Cell where
  | null
  | bool (b : Bool)
  | int (n : Int)
  | float (x : Decimal.Binary64)
  | text (bytes : List UInt8)
  | blob (bytes : List UInt8)
deriving DecidableEq, Repr

namespace Cell

/-- The cell of a text. -/
def ofText (s : String) : Cell := .text (Text.encode s)

/-- The bytes of a text or blob. -/
def bytes? : Cell → Option (List UInt8)
  | .text bytes => some bytes
  | .blob bytes => some bytes
  | _ => none

/-- The text of a cell, if its bytes are one. -/
def text? (c : Cell) : Option String := c.bytes? >>= Text.decode?

end Cell

end SqlBroker
