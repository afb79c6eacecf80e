import SqlBroker.Text.Digits

/-!
# Text as bytes

The bytes of a text in UTF-8, and the text of bytes. `decode?` refuses bytes that are no UTF-8,
`fault?` finds where they cease to be it, and `decodeLossy` puts a replacement character in place of
each longest piece that no text starts with.
-/

namespace SqlBroker.Text

/-- The bytes of a text. -/
def encode (s : String) : List UInt8 := s.toUTF8.data.toList

/-- The text of bytes, if they are one. -/
def decode? (bytes : List UInt8) : Option String := String.fromUTF8? ⟨bytes.toArray⟩

/-- What is read of a text where the null character ends it. -/
def beforeNull (s : String) : String := String.ofList (s.toList.takeWhile (· ≠ '\x00'))

/-! ## Bytes that are no text -/

/-- The character that stands for bytes that are no text. -/
def replacement : Char := '\ufffd'

/-- A character of which some bytes are read: its bits so far, how many bytes are missing, and what
the next may be. -/
structure Partial where
  bits : Nat
  missing : Nat
  low : Nat
  high : Nat
deriving DecidableEq, Repr

/-- The character that a first byte of several opens. -/
def opened? (b : Nat) : Option Partial :=
  if 0xC2 ≤ b ∧ b ≤ 0xDF then some ⟨b - 0xC0, 1, 0x80, 0xBF⟩
  else if b = 0xE0 then some ⟨0, 2, 0xA0, 0xBF⟩
  else if b = 0xED then some ⟨13, 2, 0x80, 0x9F⟩
  else if 0xE1 ≤ b ∧ b ≤ 0xEF then some ⟨b - 0xE0, 2, 0x80, 0xBF⟩
  else if b = 0xF0 then some ⟨0, 3, 0x90, 0xBF⟩
  else if b = 0xF4 then some ⟨4, 3, 0x80, 0x8F⟩
  else if 0xF1 ≤ b ∧ b ≤ 0xF3 then some ⟨b - 0xF0, 3, 0x80, 0xBF⟩
  else none

/-- What a byte at the start of a character gives: finished characters, or one that is begun. -/
def begun (b : Nat) : List Char × Option Partial :=
  if b < 0x80 then ([Char.ofNat b], none)
  else
    match opened? b with
    | some p => ([], some p)
    | none => ([replacement], none)

/-- The text of bytes after a character that may be begun. -/
def decodeFrom : Option Partial → List UInt8 → List Char
  | none, [] => []
  | some _, [] => [replacement]
  | none, b :: rest => (begun b.toNat).1 ++ decodeFrom (begun b.toNat).2 rest
  | some p, b :: rest =>
    if p.low ≤ b.toNat ∧ b.toNat ≤ p.high then
      let bits := p.bits * 64 + b.toNat % 64
      if p.missing = 1 then Char.ofNat bits :: decodeFrom none rest
      else decodeFrom (some ⟨bits, p.missing - 1, 0x80, 0xBF⟩) rest
    else replacement :: (begun b.toNat).1 ++ decodeFrom (begun b.toNat).2 rest

/-- The text of bytes, with replacements where they are none. -/
def decodeLossy (bytes : List UInt8) : String := String.ofList (decodeFrom none bytes)

/-! ## The first fault -/

/-- Where bytes cease to be a text. -/
inductive ByteFault where
  /-- Some bytes start no character, or one that does not go on as it should. -/
  | invalid (length index : Nat)
  /-- The bytes end inside a character. -/
  | incomplete (index : Nat)
deriving DecidableEq, Repr

/-- The fault in words. -/
def ByteFault.message : ByteFault → String
  | .invalid length index =>
    s!"invalid utf-8 sequence of {length} bytes from index {index}"
  | .incomplete index => s!"incomplete utf-8 byte sequence from index {index}"

/-- The first fault of bytes of which the first has an index; a character may be begun there, with
the number of its bytes so far. -/
def faultFrom (index : Nat) : Option (Partial × Nat) → List UInt8 → Option ByteFault
  | none, [] => none
  | some _, [] => some (.incomplete index)
  | none, b :: rest =>
    if b.toNat < 0x80 then faultFrom (index + 1) none rest
    else
      match opened? b.toNat with
      | some p => faultFrom index (some (p, 1)) rest
      | none => some (.invalid 1 index)
  | some (p, length), b :: rest =>
    if p.low ≤ b.toNat ∧ b.toNat ≤ p.high then
      if p.missing = 1 then faultFrom (index + length + 1) none rest
      else
        let bits := p.bits * 64 + b.toNat % 64
        faultFrom index (some (⟨bits, p.missing - 1, 0x80, 0xBF⟩, length + 1)) rest
    else some (.invalid length index)

/-- The first fault of bytes, if they are no text. -/
def fault? (bytes : List UInt8) : Option ByteFault := faultFrom 0 none bytes

/-- The text of bytes, or why they are none. -/
def decode (bytes : List UInt8) : Except ByteFault String :=
  match fault? bytes with
  | none => .ok (decodeLossy bytes)
  | some fault => .error fault

/-! ## Percent signs -/

/-- Bytes with each percent sign before two hexadecimal digits read as the byte that they write. -/
def percentDecoded : List Char → List UInt8
  | [] => []
  | [c] => encode (String.singleton c)
  | [c, d] => encode (String.singleton c) ++ encode (String.singleton d)
  | c :: h :: l :: rest =>
    match c, hexValue? h, hexValue? l with
    | '%', some high, some low => UInt8.ofNat (16 * high + low) :: percentDecoded rest
    | _, _, _ => encode (String.singleton c) ++ percentDecoded (h :: l :: rest)

/-- The text that a text with percent signs writes, with replacements where it writes none. -/
def unescaped (cs : List Char) : String := decodeLossy (percentDecoded cs)

end SqlBroker.Text
