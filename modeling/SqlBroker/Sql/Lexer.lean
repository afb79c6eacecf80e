import SqlBroker.Sql.Statement

/-!
# Reading parts of a statement

What a database does with a quoted name: two quotes stand for one, and a single one ends the name.
The window of a statement, where it has one, is what it ends with.
-/

namespace SqlBroker.Sql

/-- Reads a name after its opening quote: the name, and what follows the closing one. -/
def readName (quote : Char) : List Char → Option (List Char × List Char)
  | [] => none
  | [c] => if c = quote then some ([], []) else none
  | c :: d :: cs =>
    if c = quote then
      if d = quote then (readName quote cs).map fun r => (quote :: r.1, r.2) else some ([], d :: cs)
    else (readName quote (d :: cs)).map fun r => (c :: r.1, r.2)

theorem length_of_readName {quote : Char} {cs : List Char} {r : List Char × List Char}
    (h : readName quote cs = some r) : r.2.length < cs.length := by
  fun_induction readName quote cs generalizing r with
  | case1 => simp at h
  | case2 => simp [← Option.some.inj h]
  | case3 => simp at h
  | case4 cs ih =>
    obtain ⟨s, hs, rfl⟩ := Option.map_eq_some_iff.mp h
    have := ih hs
    simp only [List.length_cons]
    omega
  | case5 => simp [← Option.some.inj h]
  | case6 =>
    rename_i ih
    obtain ⟨s, hs, rfl⟩ := Option.map_eq_some_iff.mp h
    have := ih hs
    simp only [List.length_cons] at this ⊢
    omega

/-- What stands from the opening quote of a name that is never closed. -/
def unclosedName? (quote : Char) (cs : List Char) : Option (List Char) :=
  match cs with
  | [] => none
  | c :: rest =>
    if c = quote then
      match _read : readName quote rest with
      | none => some (c :: rest)
      | some r => unclosedName? quote r.2
    else unclosedName? quote rest
termination_by cs.length
decreasing_by
  · have := length_of_readName _read
    simp only [List.length_cons]
    omega
  · simp

/-- The first quoted name of a statement. -/
def firstName? (b : Backend) (text : String) : Option String :=
  (readName (nameQuote b) ((text.toList.dropWhile (· ≠ nameQuote b)).drop 1)).map fun r =>
    String.ofList r.1

/-- The number at the end of a text after a word, and the text before both. -/
def lastNumber? (word : List Char) (cs : List Char) : Option (Nat × List Char) :=
  let digits := (cs.reverse.takeWhile Char.isDigit).reverse
  let before := cs.take (cs.length - digits.length)
  if digits ≠ [] ∧ word.isSuffixOf before then
    some (Nat.ofDigitChars 10 digits 0, before.take (before.length - word.length))
  else none

/-- The window that a statement ends with. -/
def lastWindow? (text : String) : Option Window := do
  let (offset, cs) ← lastNumber? " OFFSET ".toList text.toList
  let (limit, _) ← lastNumber? " LIMIT ".toList cs
  return ⟨limit, offset⟩

end SqlBroker.Sql
