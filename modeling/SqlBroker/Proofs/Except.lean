/-!
# Steps that succeed and steps that fail

A chain of steps gives a result iff each step does, and else the error of the first that fails.
These laws take such chains and lists of steps apart, and tell what errors a chain can have by the
errors of its steps (`FailsAs`).
-/

namespace SqlBroker

variable {ε α β : Type}

theorem bind_eq_ok_iff {x : Except ε α} {f : α → Except ε β} {r : β} :
    (x >>= f) = .ok r ↔ ∃ a, x = .ok a ∧ f a = .ok r := by
  cases x with
  | error e => exact ⟨fun h => (nomatch h), fun ⟨a, h, _⟩ => (nomatch h)⟩
  | ok a => exact ⟨fun h => ⟨a, rfl, h⟩, fun ⟨_, h, hf⟩ => Except.ok.inj h ▸ hf⟩

theorem bind_eq_error_iff {x : Except ε α} {f : α → Except ε β} {e : ε} :
    (x >>= f) = .error e ↔ x = .error e ∨ ∃ a, x = .ok a ∧ f a = .error e := by
  cases x with
  | error e' =>
    refine ⟨fun h => .inl (congrArg _ (Except.error.inj h)), ?_⟩
    rintro (h | ⟨a, h, -⟩)
    · exact congrArg _ (Except.error.inj h)
    · exact nomatch h
  | ok a =>
    refine ⟨fun h => .inr ⟨a, rfl, h⟩, ?_⟩
    rintro (h | ⟨a', h, hf⟩)
    · exact nomatch h
    · obtain rfl := Except.ok.inj h
      exact hf

theorem map_eq_ok_iff {x : Except ε α} {f : α → β} {r : β} :
    x.map f = .ok r ↔ ∃ a, x = .ok a ∧ f a = r := by
  cases x with
  | error e => exact ⟨fun h => (nomatch h), fun ⟨a, h, _⟩ => (nomatch h)⟩
  | ok a =>
    constructor
    · intro h
      exact ⟨a, rfl, Except.ok.inj h⟩
    · rintro ⟨a', h, rfl⟩
      obtain rfl := Except.ok.inj h
      rfl

theorem map_eq_error_iff {x : Except ε α} {f : α → β} {e : ε} :
    x.map f = .error e ↔ x = .error e := by
  cases x with
  | error e' =>
    constructor <;>
    · intro h
      exact congrArg _ (Except.error.inj h)
  | ok a => exact iff_of_false (fun h => nomatch h) (fun h => nomatch h)

/-! ## Lists of steps -/

/-- **A list of steps succeeds iff each step does.** -/
theorem mapM_eq_ok_iff {f : α → Except ε β} : ∀ {xs : List α} {ys : List β},
    xs.mapM f = .ok ys ↔ xs.map f = ys.map .ok
  | [], ys => by
    cases ys with
    | nil => exact iff_of_true rfl rfl
    | cons y ys => exact iff_of_false (fun h => nomatch h) (fun h => nomatch h)
  | x :: xs, ys => by
    rw [List.mapM_cons, bind_eq_ok_iff, List.map_cons]
    constructor
    · rintro ⟨y, hy, h⟩
      obtain ⟨ys', hys, h⟩ := bind_eq_ok_iff.mp h
      obtain rfl := Except.ok.inj h
      rw [List.map_cons, hy, mapM_eq_ok_iff.mp hys]
    · intro h
      cases ys with
      | nil => exact nomatch h
      | cons y ys =>
        obtain ⟨hy, hys⟩ := List.cons_eq_cons.mp h
        exact ⟨y, hy, bind_eq_ok_iff.mpr ⟨ys, mapM_eq_ok_iff.mpr hys, rfl⟩⟩

/-- **The first step that fails is the error.** -/
theorem mapM_eq_error_iff {f : α → Except ε β} {e : ε} : ∀ {xs : List α},
    xs.mapM f = .error e ↔ ∃ before x after, xs = before ++ x :: after ∧
      (∀ y ∈ before, ∃ b, f y = .ok b) ∧ f x = .error e
  | [] => iff_of_false (fun h => nomatch h) (by simp)
  | x :: xs => by
    rw [List.mapM_cons, bind_eq_error_iff]
    constructor
    · rintro (hx | ⟨b, hb, h⟩)
      · exact ⟨[], x, xs, rfl, by simp, hx⟩
      · rcases bind_eq_error_iff.mp h with h | ⟨_, -, h⟩
        · obtain ⟨before, z, after, rfl, kept, hz⟩ := mapM_eq_error_iff.mp h
          exact ⟨x :: before, z, after, rfl, List.forall_mem_cons.mpr ⟨⟨b, hb⟩, kept⟩, hz⟩
        · exact nomatch h
    · rintro ⟨before, z, after, same, kept, hz⟩
      cases before with
      | nil =>
        obtain ⟨rfl, -⟩ := List.cons_eq_cons.mp same
        exact .inl hz
      | cons y before =>
        obtain ⟨rfl, rfl⟩ := List.cons_eq_cons.mp same
        obtain ⟨⟨b, hb⟩, kept⟩ := List.forall_mem_cons.mp kept
        have later := mapM_eq_error_iff.mpr ⟨before, z, after, rfl, kept, hz⟩
        exact .inr ⟨b, hb, bind_eq_error_iff.mpr (.inl later)⟩

/-! ## Results without their errors -/

section

variable {ε' : Type}

@[simp] theorem toOption_ok (a : α) : (.ok a : Except ε α).toOption = some a := rfl

@[simp] theorem toOption_error (e : ε) : (.error e : Except ε α).toOption = none := rfl

@[simp] theorem toOption_pure (a : α) : (pure a : Except ε α).toOption = some a := rfl

@[simp] theorem toOption_bind (x : Except ε α) (f : α → Except ε β) :
    (x >>= f).toOption = x.toOption.bind fun a => (f a).toOption := by
  cases x <;> rfl

@[simp] theorem toOption_map (x : Except ε α) (f : α → β) :
    (x.map f).toOption = x.toOption.map f := by
  cases x <;> rfl

@[simp] theorem toOption_mapError (x : Except ε α) (f : ε → ε') :
    (x.mapError f).toOption = x.toOption := by
  cases x <;> rfl

theorem toOption_eq_some_iff {x : Except ε α} {a : α} : x.toOption = some a ↔ x = .ok a := by
  cases x <;> simp

end

/-! ## Kinds of errors -/

/-- Every error of a step is of a kind. -/
def FailsAs (P : ε → Prop) (x : Except ε α) : Prop := ∀ e, x = .error e → P e

namespace FailsAs

variable {P : ε → Prop}

theorem ok (a : α) : FailsAs P (.ok a) := fun _ h => nomatch h

theorem error {e : ε} (h : P e) : FailsAs P (.error e : Except ε α) :=
  fun _ same => Except.error.inj same ▸ h

theorem bind {x : Except ε α} {f : α → Except ε β} (hx : FailsAs P x) (hf : ∀ a, FailsAs P (f a)) :
    FailsAs P (x >>= f) := by
  intro e h
  cases x with
  | error _ => exact hx e (congrArg _ (Except.error.inj h))
  | ok a => exact hf a e h

theorem map {x : Except ε α} (hx : FailsAs P x) (f : α → β) : FailsAs P (x.map f) := by
  intro e h
  cases x with
  | error _ => exact hx e (congrArg _ (Except.error.inj h))
  | ok a => exact nomatch h

theorem imp {Q : ε → Prop} {x : Except ε α} (hx : FailsAs P x) (h : ∀ e, P e → Q e) :
    FailsAs Q x := fun e same => h e (hx e same)

end FailsAs

end SqlBroker
