import SqlBroker.Json.Printer

/-!
# The grammar of compact JSON

The text of a value has no blanks (`Json.IsText`): words for null and for truth values, whole
numbers in base ten, strings between quotes, and commas between the parts of arrays and objects.
Inside a string a character stands for itself unless it is a quote, a backslash or a control
character. How many digits a float has is left to its layout (`jsonLayout`).

Concerns the text of JSON in `pattern_text` and in parameters (SPEC_FULL.md, section 4.1).

Headline:
* **`Json.isText_iff`**: a value is written by this grammar, and in one way.
-/

namespace SqlBroker

theorem Number.integerChars_eq (n : Int) : Number.integerChars n = (toString n).toList := by
  cases n with
  | ofNat m => exact String.toList_ofList.symm
  | negSucc m =>
    have text : String.ofList ('-' :: Text.digits (m + 1)) = toString (Int.negSucc m) :=
      String.ofList_cons
    rw [Number.integerChars, if_pos (Int.negSucc_lt_zero m), ← text, String.toList_ofList]
    rfl

namespace Json

/-! ## Strings -/

/-- What a character is inside a string. -/
inductive IsEscape : Char → List Char → Prop
  | quote : IsEscape '"' ['\\', '"']
  | backslash : IsEscape '\\' ['\\', '\\']
  | backspace : IsEscape '\x08' ['\\', 'b']
  | formFeed : IsEscape '\x0c' ['\\', 'f']
  | newline : IsEscape '\n' ['\\', 'n']
  | carriageReturn : IsEscape '\r' ['\\', 'r']
  | tab : IsEscape '\t' ['\\', 't']
  | control {c : Char} (below : c.toNat < 0x20) (other : c ∉ ['\x08', '\x0c', '\n', '\r', '\t']) :
    IsEscape c
      ['\\', 'u', '0', '0', Nat.digitChar (c.toNat / 16), Nat.digitChar (c.toNat % 16)]
  | plain {c : Char} (visible : 0x20 ≤ c.toNat) (quote : c ≠ '"') (backslash : c ≠ '\\') :
    IsEscape c [c]

/-- What characters are inside a string. -/
inductive AreEscapes : List Char → List Char → Prop
  | nil : AreEscapes [] []
  | cons {c : Char} {es cs ds : List Char} (first : IsEscape c es) (rest : AreEscapes cs ds) :
    AreEscapes (c :: cs) (es ++ ds)

/-- A string between its quotes. -/
inductive IsQuoted (s : String) : List Char → Prop
  | intro {cs : List Char} (escapes : AreEscapes s.toList cs) : IsQuoted s ('"' :: cs ++ ['"'])

/-! ## Values -/

mutual

/-- The text of a value. -/
inductive IsText : Json → List Char → Prop
  | null : IsText .null "null".toList
  | bool (b : Bool) : IsText (.bool b) (toString b).toList
  | integer (n : Int) : IsText (.number (.integer n)) (toString n).toList
  | float (x : Decimal.Binary64) : IsText (.number (.float x)) (jsonLayout.render x)
  | string {s : String} {cs : List Char} (quoted : IsQuoted s cs) : IsText (.string s) cs
  | array {items : List Json} {cs : List Char} (texts : AreItems items cs) :
    IsText (.array items) ('[' :: cs ++ [']'])
  | object {entries : List (String × Json)} {cs : List Char} (texts : AreEntries entries cs) :
    IsText (.object entries) ('{' :: cs ++ ['}'])

/-- The texts of values with commas between them. -/
inductive AreItems : List Json → List Char → Prop
  | nil : AreItems [] []
  | one {j : Json} {cs : List Char} (text : IsText j cs) : AreItems [j] cs
  | cons {j k : Json} {rest : List Json} {cs ds : List Char} (text : IsText j cs)
    (texts : AreItems (k :: rest) ds) : AreItems (j :: k :: rest) (cs ++ ',' :: ds)

/-- The texts of entries, each with a colon in it, with commas between them. -/
inductive AreEntries : List (String × Json) → List Char → Prop
  | nil : AreEntries [] []
  | one {key : String} {j : Json} {ks cs : List Char} (quoted : IsQuoted key ks)
    (text : IsText j cs) : AreEntries [(key, j)] (ks ++ ':' :: cs)
  | cons {key : String} {j : Json} {next : String × Json} {rest : List (String × Json)}
    {ks cs ds : List Char} (quoted : IsQuoted key ks) (text : IsText j cs)
    (texts : AreEntries (next :: rest) ds) :
    AreEntries ((key, j) :: next :: rest) (ks ++ ':' :: cs ++ ',' :: ds)

end

/-! ## What is written -/

theorem hexByte_toUInt8 {c : Char} (below : c.toNat < 0x20) :
    Text.hexByte c.toUInt8 = [Nat.digitChar (c.toNat / 16), Nat.digitChar (c.toNat % 16)] := by
  have byte : c.toUInt8.toNat = c.toNat := by
    rw [Char.toUInt8, UInt32.toNat_toUInt8]
    exact Nat.mod_eq_of_lt (Nat.lt_trans below (by decide))
  rw [Text.hexByte, byte]

theorem isEscape_stringChar (c : Char) : IsEscape c (stringChar c) := by
  unfold stringChar
  split
  next h => exact h ▸ .quote
  next quote =>
  split
  next h => exact h ▸ .backslash
  next backslash =>
  split
  next h => exact h ▸ .backspace
  next backspace =>
  split
  next h => exact h ▸ .formFeed
  next formFeed =>
  split
  next h => exact h ▸ .newline
  next newline =>
  split
  next h => exact h ▸ .carriageReturn
  next carriageReturn =>
  split
  next h => exact h ▸ .tab
  next tab =>
  split
  next below =>
    rw [hexByte_toUInt8 below]
    exact .control below (by simp [*])
  next above => exact .plain (Nat.not_lt.mp above) quote backslash

theorem IsEscape.eq_stringChar {c : Char} {cs : List Char} (h : IsEscape c cs) :
    cs = stringChar c := by
  cases h with
  | control below other =>
    simp only [List.mem_cons, List.not_mem_nil, or_false, not_or] at other
    obtain ⟨backspace, formFeed, newline, carriageReturn, tab⟩ := other
    have quote : c ≠ '"' := by rintro rfl; exact absurd below (by decide)
    have backslash : c ≠ '\\' := by rintro rfl; exact absurd below (by decide)
    rw [stringChar, if_neg quote, if_neg backslash, if_neg backspace, if_neg formFeed,
      if_neg newline, if_neg carriageReturn, if_neg tab, if_pos below, hexByte_toUInt8 below]
  | plain visible quote backslash =>
    have control {d : Char} (below : d.toNat < 0x20) : c ≠ d := by
      rintro rfl
      exact absurd below (Nat.not_lt.mpr visible)
    rw [stringChar, if_neg quote, if_neg backslash, if_neg (control (by decide)),
      if_neg (control (by decide)), if_neg (control (by decide)), if_neg (control (by decide)),
      if_neg (control (by decide)), if_neg (Nat.not_lt.mpr visible)]
  | _ => rfl

theorem areEscapes_iff : ∀ {cs es : List Char}, AreEscapes cs es ↔ es = cs.flatMap stringChar
  | [], es => ⟨fun | .nil => rfl, fun h => h ▸ .nil⟩
  | c :: cs, es => by
    rw [List.flatMap_cons]
    constructor
    · rintro (_ | ⟨first, rest⟩)
      rw [first.eq_stringChar, areEscapes_iff.mp rest]
    · rintro rfl
      exact .cons (isEscape_stringChar c) (areEscapes_iff.mpr rfl)

theorem isQuoted_iff {s : String} {cs : List Char} : IsQuoted s cs ↔ cs = stringChars s := by
  unfold stringChars
  constructor
  · rintro ⟨escapes⟩
    rw [areEscapes_iff.mp escapes]
  · rintro rfl
    exact .intro (areEscapes_iff.mpr rfl)

mutual

theorem isText_chars : ∀ j : Json, IsText j j.chars
  | .null => .null
  | .bool true => .bool true
  | .bool false => .bool false
  | .number (.integer n) => by
    rw [chars, Number.chars, Number.integerChars_eq]
    exact .integer n
  | .number (.float x) => .float x
  | .string _ => .string (isQuoted_iff.mpr rfl)
  | .array items => .array (areItems_itemChars items)
  | .object entries => .object (areEntries_entryChars entries)

theorem areItems_itemChars : ∀ items : List Json, AreItems items (itemChars items)
  | [] => .nil
  | [j] => .one (isText_chars j)
  | j :: k :: rest => .cons (isText_chars j) (areItems_itemChars (k :: rest))

theorem areEntries_entryChars : ∀ entries : List (String × Json),
    AreEntries entries (entryChars entries)
  | [] => .nil
  | [(_, j)] => .one (isQuoted_iff.mpr rfl) (isText_chars j)
  | (_, j) :: next :: rest =>
    .cons (isQuoted_iff.mpr rfl) (isText_chars j) (areEntries_entryChars (next :: rest))

end

mutual

theorem IsText.eq_chars : ∀ {j : Json} {cs : List Char}, IsText j cs → cs = j.chars
  | _, _, .null => rfl
  | _, _, .bool true => rfl
  | _, _, .bool false => rfl
  | _, _, .integer n => (Number.integerChars_eq n).symm
  | _, _, .float _ => rfl
  | _, _, .string quoted => isQuoted_iff.mp quoted
  | _, _, .array texts => by rw [texts.eq_itemChars, chars]
  | _, _, .object texts => by rw [texts.eq_entryChars, chars]

theorem AreItems.eq_itemChars : ∀ {items : List Json} {cs : List Char},
    AreItems items cs → cs = itemChars items
  | _, _, .nil => rfl
  | _, _, .one text => text.eq_chars
  | _, _, .cons text texts => by
    rw [text.eq_chars, texts.eq_itemChars]
    rfl

theorem AreEntries.eq_entryChars : ∀ {entries : List (String × Json)} {cs : List Char},
    AreEntries entries cs → cs = entryChars entries
  | _, _, .nil => rfl
  | _, _, .one quoted text => by rw [isQuoted_iff.mp quoted, text.eq_chars, entryChars]
  | _, _, .cons quoted text texts => by
    rw [isQuoted_iff.mp quoted, text.eq_chars, texts.eq_entryChars]
    rfl

end

/-- **A value is written by this grammar**, and in one way. -/
theorem isText_iff {j : Json} {cs : List Char} : IsText j cs ↔ cs = j.chars :=
  ⟨IsText.eq_chars, fun h => h ▸ isText_chars j⟩

end Json

end SqlBroker
