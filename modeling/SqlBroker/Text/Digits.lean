/-!
# Digits

Numbers as digits, and digits as numbers. `readUnsigned` and `readSigned` read a whole text and
name the first thing wrong with it; a number that is too large is noticed at the digit that makes
it so, before any later character is looked at.
-/

namespace SqlBroker.Text

/-! ## Writing -/

/-- The digits of a number in base ten, without leading zeros. -/
def digits (n : Nat) : List Char := Nat.toDigits 10 n

/-- The digits of a number, filled up with zeros on the left to a width. -/
def padded (width n : Nat) : List Char :=
  List.replicate (width - (digits n).length) '0' ++ digits n

/-- The digits of a number in base sixteen, lower case. -/
def hexDigits (n : Nat) : List Char := Nat.toDigits 16 n

/-- A byte as two hexadecimal digits. -/
def hexByte (b : UInt8) : List Char :=
  [Nat.digitChar (b.toNat / 16), Nat.digitChar (b.toNat % 16)]

/-- Bytes as hexadecimal digits, two each. -/
def hexText (bytes : List UInt8) : String := String.ofList (bytes.flatMap hexByte)

/-! ## Reading -/

/-- The value of a decimal digit. -/
def digitValue? (c : Char) : Option Nat :=
  if c.isDigit then some (c.toNat - '0'.toNat) else none

/-- The value of a hexadecimal digit of either case. -/
def hexValue? (c : Char) : Option Nat :=
  if c.isDigit then some (c.toNat - '0'.toNat)
  else if 'a' ≤ c ∧ c ≤ 'f' then some (c.toNat - 'a'.toNat + 10)
  else if 'A' ≤ c ∧ c ≤ 'F' then some (c.toNat - 'A'.toNat + 10)
  else none

/-- The bytes that a text of hexadecimal digits writes, two digits a byte. -/
def readHex : List Char → Option (List UInt8)
  | [] => some []
  | a :: b :: rest => do
    let high ← hexValue? a
    let low ← hexValue? b
    let bytes ← readHex rest
    return UInt8.ofNat (16 * high + low) :: bytes
  | [_] => none

/-- What is wrong with a text that should be a whole number. -/
inductive NumberFault where
  | empty
  | badDigit
  | tooLarge
  | tooSmall
deriving DecidableEq, Repr

/-- The fault in words. -/
def NumberFault.message : NumberFault → String
  | .empty => "cannot parse integer from empty string"
  | .badDigit => "invalid digit found in string"
  | .tooLarge => "number too large to fit in target type"
  | .tooSmall => "number too small to fit in target type"

/-- Reads digits onto `n`; `fault` arises at the digit that passes `limit`. -/
def readDigits (limit : Nat) (fault : NumberFault) : Nat → List Char → Except NumberFault Nat
  | n, [] => .ok n
  | n, c :: cs =>
    match digitValue? c with
    | none => .error .badDigit
    | some d =>
      if 10 * n + d ≤ limit then readDigits limit fault (10 * n + d) cs else .error fault

/-- Reads a whole number from 0 to `limit`; one leading plus sign is allowed. -/
def readUnsigned (limit : Nat) (s : String) : Except NumberFault Nat :=
  match s.toList with
  | [] => .error .empty
  | ['+'] => .error .badDigit
  | '+' :: cs => readDigits limit .tooLarge 0 cs
  | cs => readDigits limit .tooLarge 0 cs

/-- Reads a whole number from `-limit - 1` to `limit`; one leading sign is allowed. -/
def readSigned (limit : Nat) (s : String) : Except NumberFault Int :=
  match s.toList with
  | [] => .error .empty
  | ['+'] => .error .badDigit
  | ['-'] => .error .badDigit
  | '+' :: cs => (readDigits limit .tooLarge 0 cs).map Int.ofNat
  | '-' :: cs => (readDigits (limit + 1) .tooSmall 0 cs).map fun n => -(n : Int)
  | cs => (readDigits limit .tooLarge 0 cs).map Int.ofNat

end SqlBroker.Text
