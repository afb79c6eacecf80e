import SqlBroker.Text.Digits

/-!
# Bytes as hexadecimal digits

Bytes are written with two digits each, in lower case, and no byte is lost: a digit has its own
value, and a byte is sixteen times its first digit and its second.

Headline:
* **`Text.writesHex_hexText`**: what is written of bytes, and that it reads back.
-/

namespace SqlBroker.Text

/-- A text is bytes in lower-case hexadecimal digits. -/
structure WritesHex (text : String) (bytes : List UInt8) : Prop where
  length_eq : text.length = 2 * bytes.length
  lower : ∀ c ∈ text.toList, c.isDigit ∨ 'a' ≤ c ∧ c ≤ 'f'
  read_eq : readHex text.toList = some bytes

/-! ## Digits -/

theorem hexValue?_digitChar {n : Nat} (h : n < 16) : hexValue? (Nat.digitChar n) = some n := by
  have all : ∀ n : Fin 16, hexValue? (Nat.digitChar n) = some n.val := by decide
  exact all ⟨n, h⟩

theorem lower_digitChar {n : Nat} (h : n < 16) :
    (Nat.digitChar n).isDigit ∨ 'a' ≤ Nat.digitChar n ∧ Nat.digitChar n ≤ 'f' := by
  have all : ∀ n : Fin 16,
      (Nat.digitChar n).isDigit ∨ 'a' ≤ Nat.digitChar n ∧ Nat.digitChar n ≤ 'f' := by decide
  exact all ⟨n, h⟩

theorem digits_lt (b : UInt8) : b.toNat / 16 < 16 ∧ b.toNat % 16 < 16 := by
  have byte : b.toNat < 256 := b.toNat_lt
  omega

/-! ## Bytes -/

/-- A byte is read back from its digits. -/
theorem readHex_hexByte (b : UInt8) (rest : List Char) :
    readHex (hexByte b ++ rest) = (readHex rest).map (b :: ·) := by
  obtain ⟨high, low⟩ := digits_lt b
  have whole : UInt8.ofNat (16 * (b.toNat / 16) + b.toNat % 16) = b := by
    rw [Nat.div_add_mod, UInt8.ofNat_toNat]
  change readHex (_ :: _ :: rest) = _
  rw [readHex, hexValue?_digitChar high, hexValue?_digitChar low]
  simp only [Option.bind_eq_bind, Option.bind_some, whole]
  cases readHex rest <;> rfl

theorem readHex_hexBytes : ∀ bytes : List UInt8, readHex (bytes.flatMap hexByte) = some bytes
  | [] => rfl
  | b :: rest => by rw [List.flatMap_cons, readHex_hexByte, readHex_hexBytes rest, Option.map_some]

theorem length_hexBytes : ∀ bytes : List UInt8,
    (bytes.flatMap hexByte).length = 2 * bytes.length
  | [] => rfl
  | b :: rest => by
    have two : (hexByte b).length = 2 := rfl
    rw [List.flatMap_cons, List.length_append, two, length_hexBytes rest, List.length_cons]
    omega

theorem lower_hexBytes {bytes : List UInt8} {c : Char} (h : c ∈ bytes.flatMap hexByte) :
    c.isDigit ∨ 'a' ≤ c ∧ c ≤ 'f' := by
  obtain ⟨b, -, mem⟩ := List.mem_flatMap.mp h
  obtain ⟨high, low⟩ := digits_lt b
  simp only [hexByte, List.mem_cons, List.not_mem_nil, or_false] at mem
  rcases mem with rfl | rfl
  · exact lower_digitChar high
  · exact lower_digitChar low

/-- **Bytes are written in two digits each, and read back from them.** -/
theorem writesHex_hexText (bytes : List UInt8) : WritesHex (hexText bytes) bytes where
  length_eq := by rw [hexText, String.length_ofList, length_hexBytes]
  lower c mem := by
    rw [hexText, String.toList_ofList] at mem
    exact lower_hexBytes mem
  read_eq := by rw [hexText, String.toList_ofList, readHex_hexBytes]

end SqlBroker.Text
