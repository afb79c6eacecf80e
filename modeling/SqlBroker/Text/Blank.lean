/-!
# Blank characters

The characters with the Unicode property White_Space: 25 code points in ten ranges. A request's
resource counts as empty when it holds nothing else, and the numbers of a date skip them.
-/

namespace SqlBroker.Text

/-- The code points with the property White_Space, as ascending ranges with both ends included. -/
def blankRanges : List (Nat × Nat) :=
  [(0x09, 0x0D), (0x20, 0x20), (0x85, 0x85), (0xA0, 0xA0), (0x1680, 0x1680), (0x2000, 0x200A),
   (0x2028, 0x2029), (0x202F, 0x202F), (0x205F, 0x205F), (0x3000, 0x3000)]

/-- Whether a character is white space. -/
def isBlank (c : Char) : Bool :=
  blankRanges.any fun r => r.1 ≤ c.toNat && c.toNat ≤ r.2

/-- The text from its first character that is not white space. -/
def skipBlanks (cs : List Char) : List Char := cs.dropWhile isBlank

/-- Whether a text is empty or holds white space alone. -/
def isAllBlank (s : String) : Bool := s.toList.all isBlank

end SqlBroker.Text
