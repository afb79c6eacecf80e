import SqlBroker.Json.Draft
import SqlBroker.Text.Digits

/-!
# Reading JSON text

`Document.read` sees as much of a text as there is of JSON in it, and `Json.read?` reads a text that
holds one value and blanks around it. Entries keep their order and repeated keys. Arrays and objects
nest up to a limit. A number without a point or an exponent that fits 64 bits is whole; every other
number is a float, made from the leading digits that fit 64 bits and a power of ten, and one past
the largest float is flawed, as is a string with half of a pair of escapes in it.

The functions for parts give what they read and what follows it, or nothing where the text is not
written like such a part; a part that is written well and has no value is none inside.

Models what the body of a request is read by (SPEC_FULL.md, section 6).
-/

namespace SqlBroker

-- Here `^` is the power of natural numbers, whatever instances are imported beside it.
attribute [local instance (2000)] instPowNat

namespace Json

/-! ## Blanks and words -/

/-- The four characters that may stand between tokens. -/
def isBlank (c : Char) : Bool := c == ' ' || c == '\n' || c == '\r' || c == '\t'

/-- The text from its first character that is no blank. -/
def skipBlanks (cs : List Char) : List Char := cs.dropWhile isBlank

/-- What follows a word at the start of a text. -/
def afterWord? : List Char → List Char → Option (List Char)
  | [], cs => some cs
  | w :: ws, c :: cs => if w = c then afterWord? ws cs else none
  | _ :: _, [] => none

/-! ## Numbers -/

/-- The largest whole number of 64 bits. -/
def wordMax : Nat := 2 ^ (64 : Nat) - 1

/-- The digits at the start of a text as long as the number stays within 64 bits: the number, how
many digits it took, and what follows. -/
def wordDigits : Nat → Nat → List Char → Nat × Nat × List Char
  | n, taken, [] => (n, taken, [])
  | n, taken, c :: cs =>
    match Text.digitValue? c with
    | some d =>
      if 10 * n + d ≤ wordMax then wordDigits (10 * n + d) (taken + 1) cs else (n, taken, c :: cs)
    | none => (n, taken, c :: cs)

/-- How many digits a text starts with, and what follows them. -/
def countDigits (cs : List Char) : Nat × List Char :=
  ((cs.takeWhile Char.isDigit).length, cs.dropWhile Char.isDigit)

/-- The largest exponent that is read; past it a number is zero or out of range. -/
def exponentMax : Nat := 2 ^ (31 : Nat) - 1

/-- The float of a sign, its leading digits and a power of ten. -/
def floatOf? (negative : Bool) (coefficient : Nat) (exponent : Int) : Option Number :=
  (Decimal.Binary64.ofDecimal? negative coefficient exponent).map .float

/-- A float from its exponent mark on, the text starting after that mark. -/
def readExponent (negative : Bool) (coefficient : Nat) (exponent : Int) (cs : List Char) :
    Option (Option Number × List Char) :=
  let down := cs.head? == some '-'
  let digits :=
    match cs with
    | '+' :: rest => rest
    | '-' :: rest => rest
    | _ => cs
  let (count, rest) := countDigits digits
  let size := Nat.ofDigitChars 10 (digits.take count) 0
  if count = 0 then none
  else if exponentMax < size then
    some (if coefficient ≠ 0 ∧ !down then none else floatOf? negative 0 0, rest)
  else
    let shift : Int := if down then -(size : Int) else size
    some (floatOf? negative coefficient (exponent + shift), rest)

/-- A float once its leading digits are read: its exponent, if there is one. -/
def finishFloat (negative : Bool) (coefficient : Nat) (exponent : Int) :
    List Char → Option (Option Number × List Char)
  | 'e' :: cs => readExponent negative coefficient exponent cs
  | 'E' :: cs => readExponent negative coefficient exponent cs
  | cs => some (floatOf? negative coefficient exponent, cs)

/-- A float from its point on, the text starting after the point. Digits that no longer fit are
dropped. -/
def readFraction (negative : Bool) (coefficient : Nat) (exponent : Int) (cs : List Char) :
    Option (Option Number × List Char) :=
  let (n, taken, rest) := wordDigits coefficient 0 cs
  let (dropped, rest) := countDigits rest
  if taken = 0 ∧ dropped = 0 then none
  else finishFloat negative n (exponent - taken) rest

/-- The number of a sign and digits that fit 64 bits: whole where that is possible. -/
def wholeNumber (negative : Bool) (n : Nat) : Number :=
  if !negative then .integer n
  else if n = 0 ∨ 2 ^ (63 : Nat) < n then .float (Decimal.Binary64.ofNat n).neg
  else .integer (-(n : Int))

/-- A number after its sign. -/
def readUnsignedNumber (negative : Bool) (cs : List Char) :
    Option (Option Number × List Char) :=
  let (n, taken, rest) := wordDigits 0 0 cs
  let (further, rest) := countDigits rest
  if taken = 0 then none
  else if cs.head? = some '0' ∧ 1 < taken + further then none
  else
    match rest with
    | '.' :: fraction => readFraction negative n further fraction
    | 'e' :: power => readExponent negative n further power
    | 'E' :: power => readExponent negative n further power
    | _ =>
      let number? := if further = 0 then some (wholeNumber negative n) else none
      some (number? <|> floatOf? negative n further, rest)

/-- The number at the start of a text. -/
def readNumber : List Char → Option (Option Number × List Char)
  | '-' :: cs => readUnsignedNumber true cs
  | cs => readUnsignedNumber false cs

/-! ## Strings -/

/-- The number that four hexadecimal digits write. -/
def readUnit : List Char → Option (Nat × List Char)
  | a :: b :: c :: d :: rest => do
    let a ← Text.hexValue? a
    let b ← Text.hexValue? b
    let c ← Text.hexValue? c
    let d ← Text.hexValue? d
    return (((16 * a + b) * 16 + c) * 16 + d, rest)
  | _ => none

/-- The second code of a pair, the text starting after the first. -/
def readLow? : List Char → Option (Nat × List Char)
  | '\\' :: 'u' :: cs => do
    let (low, rest) ← readUnit cs
    if 0xDC00 ≤ low ∧ low < 0xE000 then some (low, rest) else none
  | _ => none

/-- The character of an escape by code, the text starting after `\u`. A character past U+FFFF is
written as two codes; half of such a pair alone has no character. -/
def readCode (cs : List Char) : Option (Option Char × List Char) := do
  let (high, rest) ← readUnit cs
  if 0xD800 ≤ high ∧ high < 0xDC00 then
    match readLow? rest with
    | some (low, rest) =>
      return (some (Char.ofNat (0x10000 + (high - 0xD800) * 0x400 + (low - 0xDC00))), rest)
    | none => return (none, rest)
  else if 0xDC00 ≤ high ∧ high < 0xE000 then return (none, rest)
  else return (some (Char.ofNat high), rest)

/-- The character of an escape, the text starting after the backslash. -/
def readEscape : List Char → Option (Option Char × List Char)
  | '"' :: rest => some ('"', rest)
  | '\\' :: rest => some ('\\', rest)
  | '/' :: rest => some ('/', rest)
  | 'b' :: rest => some ('\x08', rest)
  | 'f' :: rest => some ('\x0c', rest)
  | 'n' :: rest => some ('\n', rest)
  | 'r' :: rest => some ('\r', rest)
  | 't' :: rest => some ('\t', rest)
  | 'u' :: rest => readCode rest
  | _ => none

/-- The characters of a string up to its closing quote, in reverse before those already read. -/
def readStringChars :
    Nat → List (Option Char) → List Char → Option (List (Option Char) × List Char)
  | 0, _, _ => none
  | fuel + 1, read, c :: rest =>
    if c = '"' then some (read, rest)
    else if c = '\\' then
      match readEscape rest with
      | some (e, rest) => readStringChars fuel (e :: read) rest
      | none => none
    else if c.toNat < 0x20 then none
    else readStringChars fuel (some c :: read) rest
  | _ + 1, _, [] => none

/-- A string, the text starting after its opening quote. -/
def readString (cs : List Char) : Option (Option String × List Char) :=
  (readStringChars (cs.length + 1) [] cs).map fun r =>
    ((r.1.reverse.mapM id).map String.ofList, r.2)

/-! ## Values -/

/-- A part as a draft, and what follows it if the text goes on. -/
def drafted {α : Type} (make : α → Draft) :
    Option (Option α × List Char) → Draft × Option (List Char)
  | some (some a, rest) => (make a, some rest)
  | some (none, rest) => (.flawed, some rest)
  | none => (.broken, none)

/-- A word that stands for a value, its first character left out. -/
def draftedWord (d : Draft) (word : List Char) (cs : List Char) : Draft × Option (List Char) :=
  drafted id ((afterWord? word cs).map (some d, ·))

mutual

/-- A value with blanks before it. -/
def readValue : (fuel : Nat) → List Char → Draft × Option (List Char)
  | 0, _ => (.broken, none)
  | fuel + 1, cs =>
    match skipBlanks cs with
    | 'n' :: rest => draftedWord .null ['u', 'l', 'l'] rest
    | 't' :: rest => draftedWord (.bool true) ['r', 'u', 'e'] rest
    | 'f' :: rest => draftedWord (.bool false) ['a', 'l', 's', 'e'] rest
    | '"' :: rest => drafted .string (readString rest)
    | '[' :: rest =>
      match skipBlanks rest with
      | ']' :: rest => (.array [], some rest)
      | rest =>
        let (items, rest) := readItems fuel rest
        (.array items, rest)
    | '{' :: rest =>
      match skipBlanks rest with
      | '}' :: rest => (.object [], some rest)
      | rest =>
        let (entries, rest) := readEntries fuel rest
        (.object entries, rest)
    | rest => drafted .number (readNumber rest)

/-- The values of an array from the first on, and its closing bracket. -/
def readItems : (fuel : Nat) → List Char → List Draft × Option (List Char)
  | 0, _ => ([.broken], none)
  | fuel + 1, cs =>
    match readValue fuel cs with
    | (d, none) => ([d], none)
    | (d, some rest) =>
      match skipBlanks rest with
      | ',' :: rest =>
        let (items, rest) := readItems fuel rest
        (d :: items, rest)
      | ']' :: rest => ([d], some rest)
      | _ => ([d, .broken], none)

/-- The entries of an object from the first on, and its closing brace. The text breaks after a key
that is no string. -/
def readEntries : (fuel : Nat) → List Char → List (Draft × Draft) × Option (List Char)
  | 0, _ => ([(.broken, .broken)], none)
  | fuel + 1, cs =>
    match readValue fuel cs with
    | (k, none) => ([(k, .broken)], none)
    | (k, some rest) =>
      if (skipBlanks cs).head? ≠ some '"' then ([(k, .broken)], none)
      else
        match skipBlanks rest with
        | ':' :: rest =>
          match readValue fuel rest with
          | (d, none) => ([(k, d)], none)
          | (d, some rest) =>
            match skipBlanks rest with
            | ',' :: rest =>
              let (entries, rest) := readEntries fuel rest
              ((k, d) :: entries, rest)
            | '}' :: rest => ([(k, d)], some rest)
            | _ => ([(k, d), (.broken, .broken)], none)
        | _ => ([(k, .broken)], none)

end

end Json

/-! ## Texts -/

/-- A text that should hold one value. -/
structure Document where
  value : Draft
  /-- Whether only blanks follow the value. -/
  ends : Bool
deriving Repr

namespace Document

/-- What is seen of a text, with at most `nesting` arrays and objects around any part of it. -/
def read (nesting : Nat) (s : String) : Document :=
  let cs := s.toList
  let (d, rest) := Json.readValue (2 * cs.length + 2) cs
  ⟨d.capped nesting, rest.any fun rest => Json.skipBlanks rest = []⟩

/-- The value that a text holds, if it holds one. -/
def json? (d : Document) : Option Json := if d.ends then d.value.json? else none

end Document

namespace Json

/-- The value that a text holds, with at most `nesting` arrays and objects around any value of it;
`none` where the text is not well formed. -/
def read? (nesting : Nat) (s : String) : Option Json := (Document.read nesting s).json?

/-- How many arrays and objects a request may nest. -/
def nestingLimit : Nat := 127

end Json

end SqlBroker
