/-!
# Letter case

Lower and upper case for the letters from A to Z; all other characters stay as they are. Schemes,
modes, media types and the names of an embedded database are compared without regard to case.
-/

namespace SqlBroker.Text

/-- A text with the letters from A to Z in lower case. -/
def lowerCase (s : String) : String := String.ofList (s.toList.map Char.toLower)

/-- A text with the letters from a to z in upper case. -/
def upperCase (s : String) : String := String.ofList (s.toList.map Char.toUpper)

/-- Whether two texts differ at most in the case of letters. -/
def sameLetters (s t : String) : Bool := lowerCase s == lowerCase t

end SqlBroker.Text
