import SqlBroker.Text.Case

/-!
# Media types

The value of a `Content-Type` header: a type, a slash, a subtype, and parameters after a semicolon
or a blank. A plus sign in the subtype divides it from a suffix; of several the last one does. What
is not written by these rules has no media type.

Models what a body is said to be before `execute_query` takes it (SPEC_FULL.md, section 15).
-/

namespace SqlBroker.Http

/-- A media type without its parameters. -/
structure MediaType where
  type : String
  subtype : String
  suffix : Option String
deriving DecidableEq, Repr

namespace MediaType

/-- The marks that a token may hold besides letters and digits. -/
def tokenMarks : List Char :=
  ['!', '#', '$', '%', '&', '\x27', '*', '+', '-', '.', '^', '_', '\x60', '|', '~']

/-- Whether a character may stand in a token. -/
def isTokenChar (c : Char) : Bool := c.isAlphanum || c ∈ tokenMarks

/-- Whether a character may stand between quotes. -/
def isQuotedChar (c : Char) : Bool := ' ' ≤ c && c ≤ '~'

/-! ## Parameters -/

/-- Where the reading of parameters stands; `begun` says that the part has a character. -/
inductive Stage where
  | name (begun : Bool)
  | value (begun : Bool)
  | quoted (begun : Bool)
  /-- After a closing quote. -/
  | closed
deriving DecidableEq, Repr

/-- The stage after one more character, where it may stand. A quote right after the opening one is
a character of the text. -/
def Stage.next? : Stage → Char → Option Stage
  | .name false, ' ' => some (.name false)
  | .name true, '=' => some (.value false)
  | .name _, c => if isTokenChar c then some (.name true) else none
  | .value false, '"' => some (.quoted false)
  | .value true, ';' => some (.name false)
  | .value _, c => if isTokenChar c then some (.value true) else none
  | .quoted true, '"' => some .closed
  | .quoted _, c => if isQuotedChar c then some (.quoted true) else none
  | .closed, ';' => some (.name false)
  | .closed, ' ' => some .closed
  | .closed, _ => none

/-- Whether parameters may end here. -/
def Stage.mayEnd : Stage → Bool
  | .name begun => !begun
  | .value _ => true
  | .quoted _ => false
  | .closed => true

/-- Whether a text is parameters. -/
def areParameters (cs : List Char) : Bool :=
  match cs.foldlM Stage.next? (.name false) with
  | some stage => stage.mayEnd
  | none => false

/-! ## Types -/

/-- A subtype divided at its last plus sign, unless that is its first character. -/
def divided (cs : List Char) : List Char × Option (List Char) :=
  let after := (cs.reverse.takeWhile (· ≠ '+')).reverse
  let before := cs.take (cs.length - after.length - 1)
  if before = [] then (cs, none) else (before, some after)

/-- The text of characters in lower case. -/
def lower (cs : List Char) : String := Text.lowerCase (String.ofList cs)

/-- The media type of a type and a subtype. -/
def ofParts (type subtype : List Char) : MediaType :=
  let parts := divided subtype
  ⟨lower type, lower parts.1, parts.2.map lower⟩

/-- Whether a text may follow a subtype. -/
def mayFollow (subtype : List Char) : List Char → Bool
  | [] => true
  | c :: cs => subtype ≠ [] && (c == ';' || c == ' ') && areParameters cs

/-- The media type that a header writes. -/
def read? (s : String) : Option MediaType :=
  let cs := s.toList
  let type := cs.takeWhile isTokenChar
  match cs.dropWhile isTokenChar with
  | '/' :: rest =>
    let subtype := rest.takeWhile isTokenChar
    if type ≠ [] ∧ mayFollow subtype (rest.dropWhile isTokenChar) then some (ofParts type subtype)
    else none
  | _ => none

/-- Whether the type is one of JSON. -/
def isJson (m : MediaType) : Bool :=
  m.type == "application" && (m.subtype == "json" || m.suffix == some "json")

end MediaType

end SqlBroker.Http
