import SqlBroker.Text.Encoded

/-!
# The bytes of texts

Bytes are those of at most one text, and are read as it. Texts that are compared byte by byte, as
they are written in UTF-8, are in the order of their code points.

Headlines:
* **`Text.decode?_eq_some_iff`**: bytes are read as the text that they are of.
* **`Text.octets_append_lt`**: the bytes of a later character are past those of an earlier one,
  whatever follows them.
* **`Text.encode_lt_encode_iff`**: the order of texts is that of their bytes.
-/

namespace SqlBroker.Text

/-! ## Reading -/

theorem decode?_encode (s : String) : decode? (encode s) = some s := by
  unfold decode? encode String.fromUTF8?
  rw [Array.toArray_toList]
  exact dif_pos s.isValidUTF8

/-- **Bytes are read as the text that they are of.** -/
theorem decode?_eq_some_iff {bytes : List UInt8} {s : String} :
    decode? bytes = some s ↔ bytes = encode s := by
  constructor
  · intro h
    unfold decode? String.fromUTF8? at h
    split at h
    next valid =>
      obtain rfl := Option.some.inj h
      rfl
    next => exact nomatch h
  · rintro rfl
    exact decode?_encode s

/-- Bytes that no text has are not read. -/
theorem decode?_eq_none_iff {bytes : List UInt8} :
    decode? bytes = none ↔ ∀ s, bytes ≠ encode s := by
  rw [Option.eq_none_iff_forall_ne_some]
  exact forall_congr' fun s => not_congr decode?_eq_some_iff

/-! ## Characters -/

/-- The numbers of the bytes of a code point. -/
def octets (v : Nat) : List Nat :=
  if v ≤ 0x7f then [v]
  else if v ≤ 0x7ff then [v / 64 % 32 + 192, v % 64 + 128]
  else if v ≤ 0xffff then [v / 4096 % 16 + 224, v / 64 % 64 + 128, v % 64 + 128]
  else [v / 262144 % 8 + 240, v / 4096 % 64 + 128, v / 64 % 64 + 128, v % 64 + 128]

theorem utf8EncodeChar_eq (c : Char) :
    String.utf8EncodeChar c = (octets c.toNat).map UInt8.ofNat := by
  have number : c.val.toNat = c.toNat := rfl
  rw [String.utf8EncodeChar, octets, number]
  repeat' split
  all_goals rfl

theorem octets_ne_nil (v : Nat) : octets v ≠ [] := by
  unfold octets
  repeat' split
  all_goals exact List.cons_ne_nil _ _

theorem lt_of_mem_octets {v : Nat} : ∀ n ∈ octets v, n < 256 := by
  unfold octets
  repeat' split
  all_goals simp only [List.mem_cons, List.not_mem_nil, or_false, forall_eq_or_imp, forall_eq]
  all_goals omega

/-- **The bytes of a later character are past those of an earlier one**: they differ in the first
byte, which tells how many there are, or in one after equal ones. -/
theorem octets_append_lt {v w : Nat} (h : v < w) (bound : w < 0x110000) (xs ys : List Nat) :
    octets v ++ xs < octets w ++ ys := by
  have higher (n : Nat) : n / 4096 = n / 64 / 64 ∧ n / 262144 = n / 64 / 64 / 64 := by omega
  obtain ⟨hv, hv'⟩ := higher v
  obtain ⟨hw, hw'⟩ := higher w
  rw [octets, octets, hv, hv', hw, hw']
  clear hv hv' hw hw' higher
  repeat' split
  all_goals simp only [List.cons_append, List.nil_append, List.cons_lt_cons_iff]
  all_goals omega

/-! ## Texts -/

/-- The numbers of the bytes of characters. -/
def octetsAll (cs : List Char) : List Nat := cs.flatMap fun c => octets c.toNat

theorem octetsAll_lt : ∀ {cs ds : List Char}, cs < ds → octetsAll cs < octetsAll ds
  | [], [], h => absurd h (List.lt_irrefl [])
  | _ :: _, [], h => absurd h (List.not_lt_nil _)
  | [], d :: ds, _ => by
    rw [octetsAll, octetsAll, List.flatMap_cons]
    cases first : octets d.toNat with
    | nil => exact absurd first (octets_ne_nil _)
    | cons n rest => exact List.nil_lt_cons n _
  | c :: cs, d :: ds, h => by
    rw [octetsAll, octetsAll, List.flatMap_cons, List.flatMap_cons]
    rcases List.cons_lt_cons_iff.mp h with less | ⟨rfl, later⟩
    · have bound : d.toNat < 0x110000 := by
        rcases d.valid with low | high
        · exact Nat.lt_trans low (by decide)
        · exact high.2
      exact octets_append_lt (UInt32.lt_iff_toNat_lt.mp less) bound _ _
    · exact List.append_left_lt (octetsAll_lt later)

theorem map_toNat_encode (s : String) : (encode s).map UInt8.toNat = octetsAll s.toList := by
  have bytes : encode s = s.toList.flatMap String.utf8EncodeChar := by
    rw [← String.ofList_toList (s := s), encode, String.toUTF8_eq_toByteArray,
      String.toByteArray_ofList, List.utf8Encode, List.toList_data_toByteArray,
      String.toList_ofList]
  have character (c : Char) : (String.utf8EncodeChar c).map UInt8.toNat = octets c.toNat := by
    rw [utf8EncodeChar_eq, List.map_map]
    refine (List.map_congr_left fun n mem => ?_).trans (List.map_id' _)
    exact UInt8.toNat_ofNat_of_lt' (lt_of_mem_octets n mem)
  rw [bytes, octetsAll, List.map_flatMap, funext character]

/-- **The order of texts is that of their bytes.** -/
theorem encode_lt_encode_iff {s t : String} : encode s < encode t ↔ s < t := by
  have numbers {s t : String} (h : encode s < encode t) :
      octetsAll s.toList < octetsAll t.toList := by
    rw [← map_toNat_encode, ← map_toNat_encode]
    exact List.map_lt (fun _ _ => UInt8.lt_iff_toNat_lt.mp) h
  constructor
  · intro h
    refine Std.not_le.mp fun past => ?_
    rcases Std.le_iff_lt_or_eq.mp past with less | rfl
    · exact List.lt_asymm (octetsAll_lt less) (numbers h)
    · exact List.lt_irrefl _ h
  · intro h
    refine Std.not_le.mp fun past => ?_
    rcases List.le_iff_lt_or_eq.mp past with less | same
    · exact List.lt_asymm (octetsAll_lt h) (numbers less)
    · have equal : octetsAll t.toList = octetsAll s.toList := by
        rw [← map_toNat_encode, ← map_toNat_encode, same]
      exact List.lt_irrefl _ (equal ▸ octetsAll_lt h)

end SqlBroker.Text
