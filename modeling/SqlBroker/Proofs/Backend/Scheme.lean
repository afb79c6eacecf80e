import Mathlib.Data.List.Forall2
import Mathlib.Data.List.TakeWhile
import SqlBroker.Backend.Capabilities
import SqlBroker.Proofs.Keyed

/-!
# Schemes of connection strings

A connection string is cut twice: at its first colon or plus sign, to see which backend it is for,
and at its first colon, to put the backend's own scheme before what follows. Both cuts are the one
cut into scheme, driver and rest (`Cut`), whatever other colons and plus signs the string has.

Concerns `for_uri`, `connect_uri` and `uri_prefix` (SPEC_FULL.md, section 11).

Headlines:
* **`Cut.unique`**: a connection string has at most one cut, and one iff it has a colon.
* **`ofUri_eq_ok_iff`**: a string is for the backend that its scheme is registered for, in either
  case of letters.
* **`connectUri_canonical`**: what is handed to the driver is the backend's scheme and the string
  from its first colon on; it is for the same backend, and is handed over as it is.
* **`ofUri_echo`**: of a string that is for no backend the error shows a beginning, at most up to
  the first colon. That is a scheme as it stands; only where there is none, it is looked at
  character by character.
-/

namespace SqlBroker

namespace Text

/-- The same character but for the case of a letter from A to Z. -/
def SameButCase (c d : Char) : Prop :=
  c = d ∨ (c.isUpper ∧ d.toNat = c.toNat + 32) ∨ (d.isUpper ∧ c.toNat = d.toNat + 32)

theorem isUpper_iff_toNat {c : Char} : c.isUpper ↔ 65 ≤ c.toNat ∧ c.toNat ≤ 90 := by
  delta Char.isUpper
  simp [UInt32.le_iff_toNat_le, ← Char.toNat_val]

theorem toNat_toLower (c : Char) :
    c.toLower.toNat = if 65 ≤ c.toNat ∧ c.toNat ≤ 90 then c.toNat + 32 else c.toNat := by
  unfold Char.toLower
  split
  next upper =>
    have bounds : 65 ≤ c.toNat ∧ c.toNat ≤ 90 := upper
    rw [if_pos bounds]
    change (c.toNat + 32) % 2 ^ 32 = c.toNat + 32
    omega
  next other =>
    have bounds : ¬ (65 ≤ c.toNat ∧ c.toNat ≤ 90) := other
    rw [if_neg bounds]

theorem toLower_eq_iff {c d : Char} : c.toLower = d.toLower ↔ SameButCase c d := by
  rw [← Char.toNat_inj, toNat_toLower, toNat_toLower, SameButCase, ← Char.toNat_inj,
    isUpper_iff_toNat, isUpper_iff_toNat]
  split <;> split <;> omega

/-- **Two texts are the same in lower case** iff they are the same but for the case of letters. -/
theorem map_toLower_eq_iff {cs ds : List Char} :
    cs.map Char.toLower = ds.map Char.toLower ↔ List.Forall₂ SameButCase cs ds := by
  rw [← List.forall₂_eq_eq_eq, List.forall₂_map_left_iff, List.forall₂_map_right_iff]
  simp only [toLower_eq_iff]

end Text

namespace Capabilities

/-! ## Cutting a connection string -/

/-- A connection string cut into its scheme, the name of a driver with its plus sign, if there is
one, and what follows the first colon. -/
structure Cut (uri : String) (scheme driver rest : List Char) : Prop where
  text : uri.toList = scheme ++ driver ++ ':' :: rest
  colon_not_mem : ':' ∉ scheme ++ driver
  plus_not_mem : '+' ∉ scheme
  driver_eq : driver = [] ∨ ∃ name, driver = '+' :: name

variable {uri : String} {scheme driver rest before : List Char}

theorem splitColon?_of_append (text : uri.toList = before ++ ':' :: rest) (first : ':' ∉ before) :
    splitColon? uri = some (before, rest) := by
  have other : ∀ c ∈ before, decide (c ≠ ':') = true := fun c mem =>
    decide_eq_true fun same => first (same ▸ mem)
  unfold splitColon?
  dsimp only
  rw [text, List.dropWhile_append_of_pos other, List.takeWhile_append_of_pos other]
  simp

theorem splitColon?_of_not_mem (none : ':' ∉ uri.toList) : splitColon? uri = Option.none := by
  have all : uri.toList.dropWhile (· ≠ ':') = [] :=
    List.dropWhile_eq_nil_iff.mpr fun c mem => decide_eq_true fun same => none (same ▸ mem)
  unfold splitColon?
  dsimp only
  rw [all]

theorem Cut.splitColon? (cut : Cut uri scheme driver rest) :
    splitColon? uri = some (scheme ++ driver, rest) :=
  splitColon?_of_append cut.text cut.colon_not_mem

theorem Cut.takeWhile (cut : Cut uri scheme driver rest) :
    (scheme ++ driver).takeWhile (· ≠ '+') = scheme := by
  have other : ∀ c ∈ scheme, decide (c ≠ '+') = true := fun c mem =>
    decide_eq_true fun same => cut.plus_not_mem (same ▸ mem)
  rw [List.takeWhile_append_of_pos other]
  rcases cut.driver_eq with rfl | ⟨name, rfl⟩ <;> simp

/-- **A connection string has at most one cut.** -/
theorem Cut.unique {scheme' driver' rest' : List Char} (cut : Cut uri scheme driver rest)
    (cut' : Cut uri scheme' driver' rest') :
    scheme = scheme' ∧ driver = driver' ∧ rest = rest' := by
  have same := Option.some.inj (cut.splitColon?.symm.trans cut'.splitColon?)
  obtain ⟨before, rfl⟩ := Prod.mk.inj same
  have schemes := cut.takeWhile
  rw [before, cut'.takeWhile] at schemes
  subst schemes
  exact ⟨rfl, List.append_cancel_left before, rfl⟩

/-- **A connection string has a cut** iff it has a colon. -/
theorem exists_cut_iff : (∃ scheme driver rest, Cut uri scheme driver rest) ↔ ':' ∈ uri.toList := by
  constructor
  · rintro ⟨scheme, driver, rest, cut⟩
    rw [cut.text]
    exact List.mem_append_right _ List.mem_cons_self
  · intro colon
    -- The first colon ends the scheme and the driver, the first plus sign before it parts them.
    obtain ⟨before, rest, text, first⟩ := List.eq_append_cons_of_mem colon
    have parts : before.takeWhile (· ≠ '+') ++ before.dropWhile (· ≠ '+') = before :=
      List.takeWhile_append_dropWhile
    refine ⟨before.takeWhile (· ≠ '+'), before.dropWhile (· ≠ '+'), rest, ?_, ?_, ?_, ?_⟩
    · rw [parts, text]
    · rwa [parts]
    · intro mem
      simpa using List.mem_takeWhile_imp mem
    · cases driver : before.dropWhile (· ≠ '+') with
      | nil => exact .inl rfl
      | cons c name =>
        have plus := List.head?_dropWhile_not (· ≠ '+') before
        rw [driver] at plus
        exact .inr ⟨name, by simpa using plus⟩

/-! ## Looking up a scheme -/

theorem nodup_registry : (registry.map Prod.fst).Nodup := by decide

/-- The registered schemes are in lower case. -/
theorem map_toLower_registry : ∀ e ∈ registry, e.1.toList.map Char.toLower = e.1.toList := by
  decide

/-- **A scheme is found** iff it is registered, in either case of letters. -/
theorem ofScheme?_eq_some_iff {caps : Capabilities} :
    ofScheme? (String.ofList scheme) = some caps ↔
      ∃ name, (name, caps) ∈ registry ∧ List.Forall₂ Text.SameButCase scheme name.toList := by
  rw [ofScheme?, Keyed.lookup_eq_some_iff_mem nodup_registry]
  constructor
  · intro mem
    refine ⟨_, mem, Text.map_toLower_eq_iff.mp ?_⟩
    rw [map_toLower_registry _ mem]
    simp [Text.lowerCase]
  · rintro ⟨name, mem, same⟩
    have lower := Text.map_toLower_eq_iff.mpr same
    rw [map_toLower_registry _ mem] at lower
    have own : Text.lowerCase (String.ofList scheme) = name := by
      rw [Text.lowerCase, String.toList_ofList, lower, String.ofList_toList]
    rwa [own]

theorem Cut.scheme? (cut : Cut uri scheme driver rest) (named : scheme ≠ []) :
    scheme? uri = some (String.ofList scheme) := by
  unfold Capabilities.scheme?
  rw [cut.splitColon?]
  dsimp only
  rw [cut.takeWhile]
  cases scheme with
  | nil => exact absurd rfl named
  | cons c cs => rfl

theorem Cut.ofUri_eq_ok_iff (cut : Cut uri scheme driver rest) (named : scheme ≠ [])
    {caps : Capabilities} :
    ofUri uri = .ok caps ↔ ofScheme? (String.ofList scheme) = some caps := by
  unfold ofUri
  rw [cut.scheme? named]
  dsimp only
  cases ofScheme? (String.ofList scheme) <;> simp

/-- A scheme that is not registered is the error as it stands. -/
theorem Cut.eq_of_ofUri_eq_error (cut : Cut uri scheme driver rest) (named : scheme ≠ [])
    {e : Error} (refused : ofUri uri = .error e) :
    e = .unsupportedBackend (String.ofList scheme) := by
  unfold ofUri at refused
  rw [cut.scheme? named] at refused
  dsimp only at refused
  cases found : ofScheme? (String.ofList scheme) with
  | none =>
    rw [found] at refused
    exact (Except.error.inj refused).symm
  | some caps =>
    rw [found] at refused
    exact nomatch refused

theorem unnamed_or_named (uri : String) :
    (∀ scheme driver rest, Cut uri scheme driver rest → scheme = []) ∨
      ∃ scheme driver rest, Cut uri scheme driver rest ∧ scheme ≠ [] := by
  by_cases unnamed : ∀ scheme driver rest, Cut uri scheme driver rest → scheme = []
  · exact .inl unnamed
  · push Not at unnamed
    exact .inr unnamed

/-- A connection string without a scheme is for no backend. -/
theorem ofUri_of_unnamed
    (unnamed : ∀ scheme driver rest, Cut uri scheme driver rest → scheme = []) :
    ofUri uri = .error (.unsupportedBackend (harmlessStart uri)) := by
  have own : scheme? uri = none := by
    unfold scheme?
    by_cases colon : ':' ∈ uri.toList
    · obtain ⟨scheme, driver, rest, cut⟩ := exists_cut_iff.mpr colon
      rw [cut.splitColon?]
      dsimp only
      rw [cut.takeWhile, unnamed scheme driver rest cut]
    · rw [splitColon?_of_not_mem colon]
  rw [ofUri, own]

/-- **A connection string is for the backend that its scheme is registered for.** -/
theorem ofUri_eq_ok_iff {caps : Capabilities} : ofUri uri = .ok caps ↔
    ∃ scheme driver rest, Cut uri scheme driver rest ∧
      ∃ name, (name, caps) ∈ registry ∧ List.Forall₂ Text.SameButCase scheme name.toList := by
  constructor
  · intro found
    rcases unnamed_or_named uri with unnamed | ⟨scheme, driver, rest, cut, named⟩
    · rw [ofUri_of_unnamed unnamed] at found
      exact nomatch found
    · exact ⟨scheme, driver, rest, cut,
        ofScheme?_eq_some_iff.mp ((cut.ofUri_eq_ok_iff named).mp found)⟩
  · rintro ⟨scheme, driver, rest, cut, name, mem, same⟩
    have named : scheme ≠ [] := by
      rintro rfl
      have empty := List.forall₂_nil_left_iff.mp same
      have letters : ∀ e ∈ registry, e.1.toList ≠ [] := by decide
      exact letters _ mem empty
    exact (cut.ofUri_eq_ok_iff named).mpr (ofScheme?_eq_some_iff.mpr ⟨name, mem, same⟩)

/-! ## Handing a connection string over -/

theorem toList_connectUri (caps : Capabilities) (text : uri.toList = before ++ ':' :: rest)
    (first : ':' ∉ before) :
    (caps.connectUri uri).toList = caps.backend.scheme.toList ++ ':' :: rest := by
  unfold connectUri
  rw [splitColon?_of_append text first]
  simp

theorem not_mem_scheme (b : Backend) : ':' ∉ b.scheme.toList ∧ '+' ∉ b.scheme.toList := by
  cases b <;> decide

/-- Every backend is registered by its own scheme. -/
theorem mem_registry : ∀ e ∈ registry, (e.2.backend.scheme, e.2) ∈ registry := by decide

/-- **Looking up and rewriting agree.** A connection string is for a backend iff what stands before
its first colon and the first plus sign there is registered, in either case of letters. What is
handed to the driver is the backend's own scheme, a colon and all that follows the first colon; it
is for the same backend, and handing it over again changes nothing. -/
theorem connectUri_canonical (uri : String) :
    (∀ caps, ofUri uri = .ok caps ↔ ∃ scheme driver rest, Cut uri scheme driver rest ∧
      ∃ name, (name, caps) ∈ registry ∧ List.Forall₂ Text.SameButCase scheme name.toList) ∧
    ∀ caps, ofUri uri = .ok caps →
      (∃ before rest, uri.toList = before ++ ':' :: rest ∧ ':' ∉ before ∧
        (caps.connectUri uri).toList = caps.backend.scheme.toList ++ ':' :: rest) ∧
      ofUri (caps.connectUri uri) = .ok caps ∧
      caps.connectUri (caps.connectUri uri) = caps.connectUri uri := by
  refine ⟨fun caps => ofUri_eq_ok_iff, fun caps found => ?_⟩
  obtain ⟨scheme, driver, rest, cut, name, mem, -⟩ := ofUri_eq_ok_iff.mp found
  obtain ⟨colon, plus⟩ := not_mem_scheme caps.backend
  have text := toList_connectUri caps cut.text cut.colon_not_mem
  have own : Cut (caps.connectUri uri) caps.backend.scheme.toList [] rest :=
    ⟨by rw [List.append_nil, text], by rwa [List.append_nil], plus, .inl rfl⟩
  refine ⟨⟨_, rest, cut.text, cut.colon_not_mem, text⟩, ofUri_eq_ok_iff.mpr ?_, ?_⟩
  · exact ⟨_, [], rest, own, _, mem_registry _ mem,
      List.forall₂_same.mpr fun c _ => .inl rfl⟩
  · exact String.toList_injective ((toList_connectUri caps text colon).trans text.symm)

/-- A scheme of mixed case with two drivers, before a password with a colon and a plus sign. -/
def decorated : String := "PostgreSQL+async+pg://ada:p:+w@db/app"

/-- Only what stands before the first colon is taken for the scheme. -/
theorem connectUri_canonical_decorated :
    (⟨.postgres, true, true⟩ : Capabilities).connectUri decorated = "postgres://ada:p:+w@db/app" ∧
      ofUri "postgres://ada:p:+w@db/app" = .ok ⟨.postgres, true, true⟩ ∧
      (⟨.postgres, true, true⟩ : Capabilities).connectUri "postgres://ada:p:+w@db/app" =
        "postgres://ada:p:+w@db/app" := by
  have found : ofUri decorated = .ok ⟨.postgres, true, true⟩ := by decide
  obtain ⟨-, again, settled⟩ := (connectUri_canonical decorated).2 _ found
  have written : (⟨.postgres, true, true⟩ : Capabilities).connectUri decorated =
      "postgres://ada:p:+w@db/app" := by decide
  rw [written] at again settled
  exact ⟨written, again, settled⟩

/-! ## Refusing a connection string -/

/-- Whether a text has letters from A to Z of either case, digits and plus signs alone. -/
def IsHarmless (cs : List Char) : Prop := ∀ c ∈ cs, c.isAlphanum ∨ c = '+'

instance (cs : List Char) : Decidable (IsHarmless cs) :=
  decidable_of_iff (cs.all fun c => c.isAlphanum || c == '+') (by simp [IsHarmless])

theorem isHarmless_harmlessStart (uri : String) : IsHarmless (harmlessStart uri).toList := by
  intro c mem
  rw [harmlessStart, String.toList_ofList] at mem
  simpa using List.mem_takeWhile_imp mem

theorem harmlessStart_prefix (uri : String) : (harmlessStart uri).toList <+: uri.toList := by
  rw [harmlessStart, String.toList_ofList]
  exact List.takeWhile_prefix _

/-- **What is shown of a connection string that is for no backend** is a beginning of it that has no
colon: its scheme, if it has one. So it is made of letters, digits and plus signs alone iff the
scheme is, and a scheme may be anything that stands before a colon. -/
theorem ofUri_echo {uri : String} {e : Error} (refused : ofUri uri = .error e) :
    ∃ shown, e = .unsupportedBackend shown ∧ shown.toList <+: uri.toList ∧ ':' ∉ shown.toList ∧
      (∀ scheme driver rest, Cut uri scheme driver rest → scheme ≠ [] → shown.toList = scheme) ∧
      (IsHarmless shown.toList ↔
        ∀ scheme driver rest, Cut uri scheme driver rest → IsHarmless scheme) := by
  rcases unnamed_or_named uri with unnamed | ⟨scheme, driver, rest, cut, named⟩
  · -- Only here is what is shown looked at character by character.
    rw [ofUri_of_unnamed unnamed] at refused
    have harmless := isHarmless_harmlessStart uri
    refine ⟨harmlessStart uri, (Except.error.inj refused).symm, harmlessStart_prefix uri, ?_, ?_,
      ?_⟩
    · intro colon
      exact absurd (harmless ':' colon) (by decide)
    · intro scheme driver rest cut named
      exact absurd (unnamed scheme driver rest cut) named
    · refine iff_of_true harmless fun scheme driver rest cut => ?_
      rw [unnamed scheme driver rest cut]
      exact fun c mem => nomatch mem
  · have own : ∀ scheme' driver' rest', Cut uri scheme' driver' rest' → scheme = scheme' :=
      fun _ _ _ cut' => (cut.unique cut').1
    refine ⟨String.ofList scheme, cut.eq_of_ofUri_eq_error named refused, ?_⟩
    rw [String.toList_ofList]
    refine ⟨⟨driver ++ ':' :: rest, by rw [cut.text, List.append_assoc]⟩,
      fun colon => cut.colon_not_mem (List.mem_append_left _ colon),
      fun scheme' driver' rest' cut' _ => own scheme' driver' rest' cut',
      fun harmless scheme' driver' rest' cut' => own scheme' driver' rest' cut' ▸ harmless,
      fun harmless => harmless scheme driver rest cut⟩

/-- A user and a password, with a colon only before the port. -/
def unschemed : String := "admin/s3cr!t@db.internal:5432/app"

/-- All that stands before the port is taken for the scheme and shown, the password too; without a
port only the user is. -/
theorem ofUri_echo_unschemed :
    (∃ shown, ofUri unschemed = .error (.unsupportedBackend shown) ∧
      shown.toList = "admin/s3cr!t@db.internal".toList ∧ ¬ IsHarmless shown.toList) ∧
    ∃ shown, ofUri "admin/s3cr!t@db.internal" = .error (.unsupportedBackend shown) ∧
      IsHarmless shown.toList := by
  have cut : Cut unschemed "admin/s3cr!t@db.internal".toList [] "5432/app".toList :=
    ⟨by decide, by decide, by decide, .inl rfl⟩
  have uncut : ':' ∉ "admin/s3cr!t@db.internal".toList := by decide
  have refused : ofUri unschemed = .error (.unsupportedBackend "admin/s3cr!t@db.internal") := by
    decide
  have refused' : ofUri "admin/s3cr!t@db.internal" = .error (.unsupportedBackend "admin") := by
    decide
  obtain ⟨shown, same, -, -, scheme, harmless⟩ := ofUri_echo refused
  obtain ⟨shown', same', -, -, -, harmless'⟩ := ofUri_echo refused'
  refine ⟨⟨shown, by rw [refused, same], scheme _ _ _ cut (by decide), fun h => ?_⟩,
    shown', by rw [refused', same'], harmless'.mpr fun scheme driver rest cut' => ?_⟩
  · exact absurd (harmless.mp h _ _ _ cut) (by decide)
  · exact absurd (exists_cut_iff.mp ⟨scheme, driver, rest, cut'⟩) uncut

/-- What is shown is not always harmless. -/
theorem ofUri_unschemed : ∃ shown,
    ofUri unschemed = .error (.unsupportedBackend shown) ∧ ¬ IsHarmless shown.toList :=
  ⟨"admin/s3cr!t@db.internal", by decide, by decide⟩

end Capabilities

end SqlBroker
