import SqlBroker.Text.Digits

/-!
# Internet addresses

Addresses of version 4 as four bytes, and of version 6 as eight groups of sixteen bits. Version 6 is
read in all its forms, with one run of zero groups left out and with its last two groups as an
address of version 4; it is written with the first of its longest runs of zero groups left out.
-/

namespace SqlBroker.Internet

/-! ## Reading -/

/-- The number that the digits at the start of a text write, and how many they are. -/
def readNumber? (value? : Char → Option Nat) (base : Nat) (cs : List Char) :
    Nat × Nat × List Char :=
  let digits := cs.takeWhile fun c => (value? c).isSome
  let n := digits.foldl (fun n c => base * n + (value? c).getD 0) 0
  (n, digits.length, cs.drop digits.length)

/-- A byte in base ten, without leading zeros. -/
def readByte? (cs : List Char) : Option (Nat × List Char) :=
  let (n, count, rest) := readNumber? Text.digitValue? 10 cs
  if count = 0 ∨ 3 < count ∨ 255 < n then none
  else if cs.head? = some '0' ∧ 1 < count then none
  else some (n, rest)

/-- A number in base ten of any number of digits, up to a limit. -/
def readLimited? (limit : Nat) (cs : List Char) : Option (Nat × List Char) :=
  let (n, count, rest) := readNumber? Text.digitValue? 10 cs
  if count = 0 ∨ limit < n then none else some (n, rest)

/-- A group of one to four hexadecimal digits. -/
def readGroup? (cs : List Char) : Option (Nat × List Char) :=
  let (n, count, rest) := readNumber? Text.hexValue? 16 cs
  if count = 0 ∨ 4 < count then none else some (n, rest)

/-- What follows a character at the start of a text. -/
def after? (m : Char) : List Char → Option (List Char)
  | [] => none
  | c :: cs => if c = m then some cs else none

/-- The four bytes of an address of version 4. -/
def readBytes? (cs : List Char) : Option (List Nat × List Char) := do
  let (a, cs) ← readByte? cs
  let cs ← after? '.' cs
  let (b, cs) ← readByte? cs
  let cs ← after? '.' cs
  let (c, cs) ← readByte? cs
  let cs ← after? '.' cs
  let (d, cs) ← readByte? cs
  return ([a, b, c, d], cs)

/-- Reads with a colon in front, except for the first of a row. -/
def separated? {α : Type} (isFirst : Bool) (read : List Char → Option α) (cs : List Char) :
    Option α :=
  if isFirst then read cs else (after? ':' cs).bind read

/-- The groups that two pairs of bytes make. -/
def groupsOfBytes : List Nat → List Nat
  | [a, b, c, d] => [256 * a + b, 256 * c + d]
  | _ => []

/-- Reads up to `room` groups with colons between them; says whether the last two were written as an
address of version 4, after which no more are read. -/
def readGroups (isFirst : Bool) : (room : Nat) → List Char → List Nat × Bool × List Char
  | 0, cs => ([], false, cs)
  | room + 1, cs =>
    match if 0 < room then separated? isFirst readBytes? cs else none with
    | some (bytes, rest) => (groupsOfBytes bytes, true, rest)
    | none =>
      match separated? isFirst readGroup? cs with
      | some (g, rest) =>
        let (gs, mixed, rest) := readGroups false room rest
        (g :: gs, mixed, rest)
      | none => ([], false, cs)

/-- The eight groups of an address of version 6. -/
def readEightGroups? (cs : List Char) : Option (List Nat × List Char) := do
  let (head, mixed, rest) := readGroups true 8 cs
  if head.length = 8 then some (head, rest)
  else if mixed then none
  else
    let rest ← after? ':' rest
    let rest ← after? ':' rest
    let (tail, _, rest) := readGroups true (7 - head.length) rest
    some (head ++ List.replicate (8 - head.length - tail.length) 0 ++ tail, rest)

/-- Whether a text is an address of version 6 and nothing else. -/
def isVersion6 (cs : List Char) : Bool :=
  match readEightGroups? cs with
  | some (_, rest) => rest.isEmpty
  | none => false

/-- Whether a text is an address of version 4 and nothing else. -/
def isVersion4 (cs : List Char) : Bool :=
  match readBytes? cs with
  | some (_, rest) => rest.isEmpty
  | none => false

/-! ## Writing -/

/-- Texts with a mark between them. -/
def joined (mark : Char) : List (List Char) → List Char
  | [] => []
  | [cs] => cs
  | cs :: rest => cs ++ mark :: joined mark rest

/-- How many zeros a list starts with. -/
def leadingZeros (gs : List Nat) : Nat := (gs.takeWhile (· == 0)).length

/-- The start and length of the first longest run of zeros in a list that starts at `start`; `best`
is the longest run before it. -/
def longestZeros (best : Nat × Nat) : (start : Nat) → List Nat → Nat × Nat
  | _, [] => best
  | start, g :: gs =>
    let here := leadingZeros (g :: gs)
    longestZeros (if best.2 < here then (start, here) else best) (start + 1) gs

/-- Groups with colons between them. -/
def groupChars (gs : List Nat) : List Char := joined ':' (gs.map Text.hexDigits)

/-- Eight groups: an address of version 4 inside them is written as one, and the first longest run
of two or more zeros is left out. -/
def eightGroupChars : List Nat → List Char
  | [0, 0, 0, 0, 0, 0xffff, high, low] =>
    [':', ':', 'f', 'f', 'f', 'f', ':'] ++
      joined '.' ([high / 256, high % 256, low / 256, low % 256].map Text.digits)
  | gs =>
    let (start, length) := longestZeros (0, 0) 0 gs
    if 1 < length then
      groupChars (gs.take start) ++ [':', ':'] ++ groupChars (gs.drop (start + length))
    else groupChars gs

end SqlBroker.Internet
