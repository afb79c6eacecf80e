import SqlBroker.Proofs.Sql.Lexeme

/-!
# Quotes undone

A name goes into a statement between quotes, and on Postgres a text does too. What a server takes
from the front of what was written is the name or the text itself, and it stops where that ends,
though either may hold quotes and backslashes in any number and at any place. Of a name nothing
else is taken: every quoted name that a server can take was written in this way. A text can be
written in several ways, as a server knows more escapes than are ever used; which ones makes no
difference.

Concerns `push_ident` and `push_pg_literal` (SPEC_FULL.md, section 11).

Headlines:
* **`takeName_eq_some_iff`**: a quoted name is taken iff it was written.
* **`readEscaped_of_readLiteral`**: where only quotes and backslashes are escaped, it does not
  matter what other escapes mean.
* **`quotes_undone`**: names and texts are found again before any text that does not go on with the
  quote, and no two of them are written alike.
-/

namespace SqlBroker.Sql

/-! ## Names -/

/-- Takes a quoted name from the front of a text: the name, and what follows it. -/
def takeName (quote : Char) : List Char → Option (String × List Char)
  | [] => none
  | c :: cs =>
    if c = quote then (readName quote cs).map fun r => (String.ofList r.1, r.2) else none

/-- What is read as a name has its quotes doubled, and ends at a quote that is not. -/
theorem eq_doubled_of_readName {quote : Char} {cs : List Char} {r : List Char × List Char}
    (h : readName quote cs = some r) :
    cs = doubled quote r.1 ++ quote :: r.2 ∧ r.2.head? ≠ some quote := by
  fun_induction readName quote cs generalizing r with
  | case1 => cases h
  | case2 =>
    obtain rfl := Option.some.inj h
    exact ⟨rfl, by simp⟩
  | case3 => cases h
  | case4 cs ih =>
    obtain ⟨s, hs, rfl⟩ := Option.map_eq_some_iff.mp h
    obtain ⟨same, apart⟩ := ih hs
    exact ⟨by rw [doubled, if_pos rfl, same]; rfl, apart⟩
  | case5 d cs other =>
    obtain rfl := Option.some.inj h
    exact ⟨rfl, by simpa using other⟩
  | case6 c d cs other ih =>
    obtain ⟨s, hs, rfl⟩ := Option.map_eq_some_iff.mp h
    obtain ⟨same, apart⟩ := ih hs
    exact ⟨by rw [doubled, if_neg other, same]; rfl, apart⟩

/-- **A quoted name is taken iff it was written**, and iff what follows does not go on with the
quote. -/
theorem takeName_eq_some_iff {b : Backend} {cs rest : List Char} {s : String} :
    takeName (nameQuote b) cs = some (s, rest) ↔
      cs = nameChars b s ++ rest ∧ rest.head? ≠ some (nameQuote b) := by
  constructor
  · intro h
    cases cs with
    | nil => exact nomatch h
    | cons c cs =>
      obtain ⟨rfl, taken⟩ := Option.ite_none_right_eq_some.mp h
      obtain ⟨r, hr, same⟩ := Option.map_eq_some_iff.mp taken
      obtain ⟨rfl, rfl⟩ := Prod.mk.inj same
      obtain ⟨rfl, apart⟩ := eq_doubled_of_readName hr
      exact ⟨by simp [nameChars], apart⟩
  · rintro ⟨rfl, apart⟩
    rw [nameChars, List.cons_append, List.cons_append, List.append_assoc, List.singleton_append,
      takeName, if_pos rfl, readName_doubled apart, Option.map_some, String.ofList_toList]

/-! ## Texts -/

/-- Reads a literal after its opening quote, for a meaning of escapes: a doubled quote stands for
one, and a backslash and the character after it for what they mean. -/
def readEscaped (meaning : Char → List Char) : List Char → Option (List Char × List Char)
  | [] => none
  | [c] => if c = '\x27' then some ([], []) else none
  | c :: d :: cs =>
    if c = '\x27' then
      if d = '\x27' then (readEscaped meaning cs).map fun r => ('\x27' :: r.1, r.2)
      else some ([], d :: cs)
    else if c = '\\' then (readEscaped meaning cs).map fun r => (meaning d ++ r.1, r.2)
    else (readEscaped meaning (d :: cs)).map fun r => (c :: r.1, r.2)

/-- Takes a literal with escapes from the front of a text: the text that it stands for, and what
follows it. -/
def takeLiteral (meaning : Char → List Char) : List Char → Option (String × List Char)
  | 'E' :: '\x27' :: cs => (readEscaped meaning cs).map fun r => (String.ofList r.1, r.2)
  | _ => none

/-- **Other escapes make no difference** to a literal that has none of them. -/
theorem readEscaped_of_readLiteral {meaning : Char → List Char} (backslash : meaning '\\' = ['\\'])
    {cs : List Char} {r : List Char × List Char} (h : readLiteral cs = some r) :
    readEscaped meaning cs = some r := by
  fun_induction readLiteral cs generalizing r with
  | case1 => cases h
  | case2 => exact h
  | case3 => cases h
  | case4 cs ih =>
    obtain ⟨s, hs, rfl⟩ := Option.map_eq_some_iff.mp h
    rw [readEscaped, if_pos rfl, if_pos rfl, ih hs]
    rfl
  | case5 d cs other =>
    rw [readEscaped, if_pos rfl, if_neg other, h]
  | case6 cs quote ih =>
    obtain ⟨s, hs, rfl⟩ := Option.map_eq_some_iff.mp h
    rw [readEscaped, if_neg quote, if_pos rfl, ih hs, backslash]
    rfl
  | case7 => cases h
  | case8 c d cs quote other ih =>
    obtain ⟨s, hs, rfl⟩ := Option.map_eq_some_iff.mp h
    rw [readEscaped, if_neg quote, if_neg other, ih hs]
    rfl

/-- **A written text is taken as it was**, whatever characters it has. -/
theorem takeLiteral_literalChars (meaning : Char → List Char) (backslash : meaning '\\' = ['\\'])
    (s : String) (rest : List Char) (apart : rest.head? ≠ some '\x27') :
    takeLiteral meaning (literalChars s ++ rest) = some (s, rest) := by
  have read := readEscaped_of_readLiteral backslash (readLiteral_flatMap apart s.toList)
  rw [literalChars, List.cons_append, List.cons_append, List.cons_append, List.cons_append,
    List.append_assoc, List.singleton_append, takeLiteral, read, Option.map_some,
    String.ofList_toList]

/-! ## Both -/

/-- **Quoting is undone by the server**: a name on every backend, and a text with its escapes on
Postgres, before any text that does not go on with the quote. So different names are never written
alike, nor are different texts. -/
theorem quotes_undone :
    (∀ (b : Backend) (s : String) (rest : List Char), rest.head? ≠ some (nameQuote b) →
      takeName (nameQuote b) (nameChars b s ++ rest) = some (s, rest)) ∧
    (∀ meaning : Char → List Char, meaning '\\' = ['\\'] →
      ∀ (s : String) (rest : List Char), rest.head? ≠ some '\x27' →
        takeLiteral meaning (literalChars s ++ rest) = some (s, rest)) ∧
    (∀ (b : Backend) (s t : String), nameChars b s = nameChars b t ↔ s = t) ∧
    ∀ s t : String, literalChars s = literalChars t ↔ s = t := by
  have name (b : Backend) (s : String) (rest : List Char)
      (apart : rest.head? ≠ some (nameQuote b)) :
      takeName (nameQuote b) (nameChars b s ++ rest) = some (s, rest) :=
    takeName_eq_some_iff.mpr ⟨rfl, apart⟩
  refine ⟨name, takeLiteral_literalChars, fun b s t => ⟨fun same => ?_, congrArg _⟩,
    fun s t => ⟨fun same => ?_, congrArg _⟩⟩
  · have first := name b s [] nofun
    rw [same, name b t [] nofun] at first
    exact (Prod.mk.inj (Option.some.inj first)).1.symm
  · have first := takeLiteral_literalChars (fun c => [c]) rfl s [] nofun
    rw [same, takeLiteral_literalChars _ rfl t [] nofun] at first
    exact (Prod.mk.inj (Option.some.inj first)).1.symm

/-- What a backslash and a letter mean on Postgres. -/
def control : Char → List Char
  | 'n' => ['\n']
  | 't' => ['\t']
  | c => [c]

/-- A name that ends with its quote and looks like the end of a statement, and a text that ends with
a quote after a backslash and would be a line break, are found again before a comment. -/
theorem quotes_undone_hostile :
    takeName '\x60' "\x60a\x60\x60; --\x60\x60\x60 -- \x60".toList =
      some ("a\x60; --\x60", " -- \x60".toList) ∧
    takeLiteral control "E\x27\\\\n\\\\\x27\x27\x27, \x27".toList =
      some ("\\n\\\x27", ", \x27".toList) := by
  obtain ⟨name, literal, -, -⟩ := quotes_undone
  exact ⟨name .mysql "a\x60; --\x60" " -- \x60".toList (by decide),
    literal control rfl "\\n\\\x27" ", \x27".toList (by decide)⟩

end SqlBroker.Sql
