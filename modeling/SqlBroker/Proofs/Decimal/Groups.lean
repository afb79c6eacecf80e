import SqlBroker.Decimal.Groups
import SqlBroker.Proofs.Decimal.Fixed
import SqlBroker.Proofs.Decimal.Rounding

/-!
# Which decimals can be read from groups

The groups of a decimal are added from the largest on, and after each the coefficient is rounded to
96 bits. For all these roundings a sum has no place left to give up only if the decimal is too
large: the first group after the point decides, and no later one changes that. Beside such decimals
those are refused whose groups reach behind the 28th place.

Headlines:
* **`fitted?_eq_none_iff`**: where the coefficient of a sum fails to fit.
* **`sumOf_whole`**: groups before the point are added exactly.
* **`isSum_places`**: groups after the point fail where the decimal is too large.
* **`readGroups?_eq_none_iff`**: a decimal does not read exactly if it is too large or too fine.
-/

namespace SqlBroker.Decimal.Fixed

/-! ## Coefficients that fit -/

theorem div_excess_lt (n : Nat) : n / 10 ^ excess n < coefficientLimit := by
  induction n using excess.induct with
  | case1 n fits =>
    rw [excess, dif_pos fits, Nat.pow_zero, Nat.div_one]
    exact fits
  | case2 n large ih =>
    rw [excess, dif_neg large, Nat.pow_succ', ← Nat.div_div_eq_div_mul]
    exact ih

/-- No fewer digits would do. -/
theorem excess_le {n : Nat} : ∀ {cut : Nat}, n / 10 ^ cut < coefficientLimit → excess n ≤ cut := by
  induction n using excess.induct with
  | case1 n fits =>
    intro cut _
    rw [excess, dif_pos fits]
    exact Nat.zero_le cut
  | case2 n large ih =>
    intro cut h
    rw [excess, dif_neg large]
    cases cut with
    | zero =>
      rw [Nat.pow_zero, Nat.div_one] at h
      exact absurd h large
    | succ cut =>
      rw [Nat.pow_succ', ← Nat.div_div_eq_div_mul] at h
      exact Nat.succ_le_succ (ih h)

theorem excess_le_iff {n cut : Nat} : excess n ≤ cut ↔ n < coefficientLimit * 10 ^ cut := by
  have pos : 0 < 10 ^ cut := Nat.pow_pos (by decide)
  rw [← Nat.div_lt_iff_lt_mul pos]
  constructor
  · intro h
    have more : n / 10 ^ cut ≤ n / 10 ^ excess n :=
      Nat.div_le_div_left (Nat.pow_le_pow_right (by decide) h) (Nat.pow_pos (by decide))
    exact Nat.lt_of_le_of_lt more (div_excess_lt n)
  · exact excess_le

/-- A coefficient does not fit if it would have to give up more places than it has, or if it is
rounded up to the limit with the last of them. -/
theorem fitted?_eq_none_iff_excess {n scale : Nat} :
    fitted? n scale = none ↔
      scale < excess n ∨
        scale = excess n ∧ coefficientLimit ≤ roundHalfEven n (10 ^ excess n) := by
  unfold fitted?
  dsimp only
  by_cases few : scale < excess n
  · rw [if_pos few]
    exact ⟨fun _ => .inl few, fun _ => rfl⟩
  · rw [if_neg few]
    by_cases fits : roundHalfEven n (10 ^ excess n) < coefficientLimit
    · rw [if_pos fits]
      simp; omega
    · rw [if_neg fits]
      by_cases none : scale = excess n
      · rw [if_pos none]
        exact ⟨fun _ => .inr ⟨none, Nat.le_of_not_lt fits⟩, fun _ => rfl⟩
      · rw [if_neg none]
        simp; omega

/-- What is below the limit is rounded to it from the half before it on; the number before the limit
is odd, so that an exact half goes up. -/
theorem limit_le_roundHalfEven {n den : Nat} (below : n < coefficientLimit * den) :
    coefficientLimit ≤ roundHalfEven n den ↔ (2 * coefficientLimit - 1) * den ≤ 2 * n := by
  have pos : 0 < den := Nat.pos_of_lt_mul_left below
  have parts : den * (n / den) + n % den = n := Nat.div_add_mod ..
  have rest : n % den < den := Nat.mod_lt _ pos
  have quotient : n / den < coefficientLimit := (Nat.div_lt_iff_lt_mul pos).mpr below
  by_cases last : n / den = coefficientLimit - 1
  · rw [roundHalfEven_of_odd (by rw [last]; decide), last]
    rw [last] at parts
    unfold coefficientLimit at parts ⊢
    by_cases half : den ≤ 2 * (n % den)
    · rw [if_pos half]
      omega
    · rw [if_neg half]
      omega
  · have less : n / den + 1 < coefficientLimit :=
      Nat.add_lt_of_lt_sub (Nat.lt_of_le_of_ne (Nat.le_sub_one_of_lt quotient) last)
    have least : den * (n / den + 2) ≤ den * coefficientLimit := Nat.mul_le_mul_left den less
    constructor
    · intro up
      rcases roundHalfEven_cases n den with same | ⟨next, -⟩
      · omega
      · omega
    · intro half
      rw [Nat.mul_add] at least
      unfold coefficientLimit at least half
      omega

/-- **Where a coefficient fails to fit**: from the half before the limit on. -/
theorem fitted?_eq_none_iff {n scale : Nat} :
    fitted? n scale = none ↔ (2 * coefficientLimit - 1) * 10 ^ scale ≤ 2 * n := by
  rw [fitted?_eq_none_iff_excess]
  rcases Nat.lt_trichotomy scale (excess n) with few | all | more
  · have above : coefficientLimit * 10 ^ scale ≤ n :=
      Nat.le_of_not_lt (mt excess_le_iff.mpr (Nat.not_le.mpr few))
    unfold coefficientLimit at above ⊢
    omega
  · have below : n < coefficientLimit * 10 ^ scale := excess_le_iff.mp (Nat.le_of_eq all.symm)
    rw [← all, limit_le_roundHalfEven below]
    simp
  · obtain ⟨scale, rfl⟩ := Nat.exists_eq_add_one_of_ne_zero (Nat.ne_zero_of_lt more)
    have below : n < coefficientLimit * 10 ^ scale := excess_le_iff.mp (Nat.le_of_lt_succ more)
    rw [Nat.pow_succ]
    unfold coefficientLimit at below ⊢
    omega

/-- A coefficient below the limit fits as it is. -/
theorem fitted?_of_lt {n scale : Nat} (fits : n < coefficientLimit) :
    fitted? n scale = some (n, scale) := by
  have none : excess n = 0 := by rw [excess, dif_pos fits]
  unfold fitted?
  dsimp only
  rw [none, Nat.pow_zero, roundHalfEven_one, if_neg (Nat.not_lt_zero scale), if_pos fits]
  rfl

/-- What fits is below the limit and has no new places. -/
theorem of_fitted? {n scale m s : Nat} (h : fitted? n scale = some (m, s)) :
    m < coefficientLimit ∧ s ≤ scale := by
  have bound : roundHalfEven n (10 ^ excess n) ≤ coefficientLimit :=
    (roundHalfEven_mem (Nat.pow_pos (by decide)) (Nat.div_mul_le_self n _)
      ((Nat.div_lt_iff_lt_mul (Nat.pow_pos (by decide))).mp (div_excess_lt n))).2
  unfold fitted? at h
  dsimp only at h
  split at h
  · exact nomatch h
  · split at h
    next fits =>
      obtain ⟨rfl, rfl⟩ := Prod.mk.inj (Option.some.inj h)
      exact ⟨fits, Nat.sub_le ..⟩
    next large =>
      split at h
      · exact nomatch h
      · have limit : roundHalfEven n (10 ^ excess n) = coefficientLimit :=
          Nat.le_antisymm bound (Nat.le_of_not_lt large)
        obtain ⟨rfl, rfl⟩ := Prod.mk.inj (Option.some.inj h)
        rw [limit]
        exact ⟨by decide, by omega⟩

/-- A coefficient without places fits or not as it is. -/
theorem fitted?_whole (n : Nat) :
    fitted? n 0 = if n < coefficientLimit then some (n, 0) else none := by
  by_cases fits : n < coefficientLimit
  · rw [if_pos fits]
    exact fitted?_of_lt fits
  · rw [if_neg fits, fitted?_eq_none_iff]
    unfold coefficientLimit at fits ⊢
    omega

/-! ## Sums of groups -/

/-- The sum of groups that are given from the smallest on. -/
def sumOf (groups : List Group) : Option (Nat × Nat) :=
  groups.foldrM (fun g a => plusGroup? a g) (0, 0)

theorem sumOf_cons (g : Group) (groups : List Group) :
    sumOf (g :: groups) = sumOf groups >>= fun a => plusGroup? a g :=
  List.foldrM_cons ..

theorem groupsFrom_zero (weight : Int) : groupsFrom weight 0 = [] := by
  rw [groupsFrom, dif_pos rfl]

theorem groupsFrom_of_ne_zero {n : Nat} (h : n ≠ 0) (weight : Int) :
    groupsFrom weight n =
      ⟨n % groupBase, weight⟩ :: groupsFrom (weight + 1) (n / groupBase) := by
  rw [groupsFrom, dif_neg h]

/-- A group too far from the point is refused. -/
theorem plusGroup?_far {a : Nat × Nat} {g : Group} (far : groupsMax < g.weight.natAbs) :
    plusGroup? a g = none := by
  unfold plusGroup? Group.part?
  simp [far]

/-- The sum with one more group before the point. -/
theorem plusGroup?_whole {a g weight : Nat} (few : weight ≤ groupsMax)
    (fits : a < coefficientLimit) :
    plusGroup? (a, 0) ⟨g, weight⟩ =
      if a + g * 10 ^ (groupWidth * weight) < coefficientLimit then
        some (a + g * 10 ^ (groupWidth * weight), 0)
      else none := by
  unfold plusGroup? Group.part?
  dsimp only
  rw [Int.natAbs_natCast, if_neg (Nat.not_lt.mpr few), if_neg (by omega)]
  by_cases part : g * 10 ^ (groupWidth * weight) < coefficientLimit
  · rw [if_pos part]
    by_cases zero : g = 0
    · subst zero
      simp [fits]
    · have sum : sum? (a, 0) (g * 10 ^ (groupWidth * weight), 0) =
          fitted? (a + g * 10 ^ (groupWidth * weight)) 0 := by simp [sum?]
      rw [← fitted?_whole, ← sum]
      simp [zero]
  · rw [if_neg part, if_neg (by omega)]
    rfl

/-- **Groups before the point are added exactly**, as far as they fit. -/
theorem sumOf_whole (n : Nat) : ∀ weight : Nat,
    sumOf (groupsFrom weight n) =
      if n * 10 ^ (groupWidth * weight) < coefficientLimit then
        some (n * 10 ^ (groupWidth * weight), 0)
      else none := by
  induction n using Nat.strongRecOn with
  | ind n ih =>
    intro weight
    by_cases zero : n = 0
    · subst zero
      rw [groupsFrom_zero, Nat.zero_mul, if_pos (by decide)]
      rfl
    · have less : n / groupBase < n := Nat.div_lt_self (Nat.pos_of_ne_zero zero) (by decide)
      have parts : n / groupBase * 10 ^ (groupWidth * (weight + 1)) +
          n % groupBase * 10 ^ (groupWidth * weight) = n * 10 ^ (groupWidth * weight) := by
        rw [Nat.mul_succ, Nat.pow_add, Nat.mul_comm (10 ^ _), ← Nat.mul_assoc, ← Nat.add_mul]
        exact congrArg (· * _) (Nat.div_add_mod' n groupBase)
      rw [groupsFrom_of_ne_zero zero, sumOf_cons]
      change sumOf (groupsFrom ((weight + 1 : Nat) : Int) _) >>= _ = _
      rw [ih _ less (weight + 1), ← parts]
      by_cases fits : n / groupBase * 10 ^ (groupWidth * (weight + 1)) < coefficientLimit
      · rw [if_pos fits]
        by_cases few : weight ≤ groupsMax
        · exact plusGroup?_whole few fits
        · -- So far before the point a number is too large, whatever its digits.
          have far : groupsMax < weight := Nat.lt_of_not_le few
          have large : coefficientLimit ≤ n * 10 ^ (groupWidth * weight) := by
            have power : 10 ^ (groupWidth * 8) ≤ 10 ^ (groupWidth * weight) :=
              Nat.pow_le_pow_right (by decide) (Nat.mul_le_mul_left _ far)
            have most : 1 * 10 ^ (groupWidth * weight) ≤ n * 10 ^ (groupWidth * weight) :=
              Nat.mul_le_mul_right _ (Nat.pos_of_ne_zero zero)
            unfold coefficientLimit groupWidth at *
            omega
          rw [parts, if_neg (Nat.not_lt.mpr large)]
          exact plusGroup?_far far
      · rw [if_neg fits, if_neg (by omega)]
        rfl

/-- The sum with one more group after the point. -/
theorem plusGroup?_places {m s g k : Nat} (few : k < groupsMax) (up : s ≤ groupWidth * (k + 1)) :
    plusGroup? (m, s) ⟨g, -((k + 1 : Nat) : Int)⟩ =
      if g = 0 then some (m, s)
      else fitted? (m * 10 ^ (groupWidth * (k + 1) - s) + g) (groupWidth * (k + 1)) := by
  unfold plusGroup? Group.part? sum?
  dsimp only
  rw [Int.natAbs_neg, Int.natAbs_natCast, if_neg (by omega), if_pos (by omega)]
  simp [Nat.max_eq_right up]

/-- Whether the groups of a number, from `k` groups after the point, are added as they have to be:
this fails from the half before the limit on, and there are no more places than the groups have. -/
structure IsSum (k n : Nat) (sum : Option (Nat × Nat)) : Prop where
  none_iff : sum = none ↔ (2 * coefficientLimit - 1) * 10 ^ (groupWidth * k) ≤ 2 * n
  fits : ∀ {m s : Nat}, sum = some (m, s) → m < coefficientLimit ∧ s ≤ groupWidth * k

/-- No group after the first one after the point makes a sum fail. -/
theorem later_fits {m s g k : Nat} (fits : m < coefficientLimit) (hg : g < groupBase) :
    2 * (m * 10 ^ (groupWidth * (k + 2) - s) + g) <
      (2 * coefficientLimit - 1) * 10 ^ (groupWidth * (k + 2)) := by
  have power : 10 ^ (groupWidth * 2) ≤ 10 ^ (groupWidth * (k + 2)) :=
    Nat.pow_le_pow_right (by decide) (Nat.mul_le_mul_left _ (Nat.le_add_left 2 k))
  have least : m * 10 ^ (groupWidth * (k + 2) - s) ≤
      (coefficientLimit - 1) * 10 ^ (groupWidth * (k + 2)) :=
    Nat.mul_le_mul (Nat.le_sub_one_of_lt fits)
      (Nat.pow_le_pow_right (by decide) (Nat.sub_le ..))
  generalize 10 ^ (groupWidth * (k + 2)) = b at *
  unfold coefficientLimit at least ⊢
  unfold groupBase groupWidth at *
  omega

/-- A number with one more group reaches the half before the limit where the number does; before the
point that half is odd, so that it takes a group to tell. -/
theorem half_le_cons {k q g : Nat} (hg : g < groupBase) (h : k ≠ 0 ∨ g = 0) :
    (2 * coefficientLimit - 1) * 10 ^ (groupWidth * (k + 1)) ≤ 2 * (q * groupBase + g) ↔
      (2 * coefficientLimit - 1) * 10 ^ (groupWidth * k) ≤ 2 * q := by
  rw [Nat.mul_succ, Nat.pow_add]
  rcases h with later | rfl
  · obtain ⟨k, rfl⟩ := Nat.exists_eq_add_one_of_ne_zero later
    rw [Nat.mul_succ, Nat.pow_add]
    unfold groupBase groupWidth coefficientLimit at *
    omega
  · unfold groupBase groupWidth coefficientLimit at *
    omega

/-- One more group after the point. -/
theorem IsSum.cons {k q g : Nat} {sum : Option (Nat × Nat)} (few : k < groupsMax)
    (hg : g < groupBase) (h : IsSum k q sum) (whole : k = 0 → ∀ {a}, sum = some a → a = (q, 0)) :
    IsSum (k + 1) (q * groupBase + g)
      (sum >>= fun a => plusGroup? a ⟨g, -((k + 1 : Nat) : Int)⟩) := by
  cases sum with
  | none =>
    have large := h.none_iff.mp rfl
    refine ⟨⟨fun _ => ?_, fun _ => rfl⟩, nofun⟩
    rw [Nat.mul_succ, Nat.pow_add]
    unfold groupBase groupWidth coefficientLimit at *
    omega
  | some a =>
    obtain ⟨m, s⟩ := a
    obtain ⟨fits, up⟩ := h.fits rfl
    have small := mt h.none_iff.mpr nofun
    have more : s ≤ groupWidth * (k + 1) := Nat.le_add_right_of_le up
    change IsSum (k + 1) _ (plusGroup? (m, s) ⟨g, -((k + 1 : Nat) : Int)⟩)
    rw [plusGroup?_places few more]
    by_cases zero : g = 0
    · rw [if_pos zero]
      refine ⟨⟨nofun, fun large => ?_⟩, ?_⟩
      · exact absurd ((half_le_cons hg (.inr zero)).mp large) small
      · rintro _ _ ⟨⟩
        exact ⟨fits, more⟩
    · rw [if_neg zero]
      refine ⟨fitted?_eq_none_iff.trans ?_, of_fitted?⟩
      cases k with
      | zero =>
        -- The sum is the whole part itself, so that the first group makes it the number.
        obtain ⟨rfl, rfl⟩ := Prod.mk.inj (whole rfl rfl)
        rfl
      | succ k =>
        rw [half_le_cons hg (.inl (Nat.succ_ne_zero k))]
        exact ⟨fun large => absurd large (Nat.not_le.mpr (later_fits fits hg)),
          fun large => absurd large small⟩

/-- Without groups after the point. -/
theorem sumOf_units (n : Nat) :
    sumOf (groupsFrom 0 n) = if n < coefficientLimit then some (n, 0) else none := by
  have whole := sumOf_whole n 0
  rw [Nat.mul_zero, Nat.pow_zero, Nat.mul_one] at whole
  exact whole

theorem isSum_units (n : Nat) : IsSum 0 n (sumOf (groupsFrom 0 n)) := by
  rw [sumOf_units]
  by_cases fits : n < coefficientLimit
  · rw [if_pos fits]
    refine ⟨⟨nofun, fun large => ?_⟩, ?_⟩
    · rw [Nat.mul_zero, Nat.pow_zero] at large
      unfold coefficientLimit at large fits
      omega
    · rintro _ _ ⟨⟩
      exact ⟨fits, Nat.zero_le _⟩
  · rw [if_neg fits]
    refine ⟨⟨fun _ => ?_, fun _ => rfl⟩, nofun⟩
    rw [Nat.mul_zero, Nat.pow_zero]
    unfold coefficientLimit at fits ⊢
    omega

/-- **Groups after the point fail where the decimal is too large.** -/
theorem isSum_places {k : Nat} :
    k ≤ groupsMax → ∀ n, IsSum k n (sumOf (groupsFrom (-(k : Int)) n)) := by
  induction k with
  | zero => exact fun _ n => isSum_units n
  | succ k ih =>
    intro few n
    by_cases zero : n = 0
    · subst zero
      rw [groupsFrom_zero]
      refine ⟨⟨nofun, fun large => ?_⟩, ?_⟩
      · have power : 0 < 10 ^ (groupWidth * (k + 1)) := Nat.pow_pos (by decide)
        unfold coefficientLimit at large
        omega
      · rintro _ _ ⟨⟩
        exact ⟨by decide, Nat.zero_le _⟩
    · have next : -((k + 1 : Nat) : Int) + 1 = -(k : Int) := by omega
      have units : k = 0 → ∀ {a}, sumOf (groupsFrom (-(k : Int)) (n / groupBase)) = some a →
          a = (n / groupBase, 0) := by
        rintro rfl a h
        have start : -((0 : Nat) : Int) = 0 := rfl
        rw [start, sumOf_units] at h
        split at h
        · exact (Option.some.inj h).symm
        · exact nomatch h
      have added := (ih (Nat.le_of_lt few) (n / groupBase)).cons few
        (Nat.mod_lt n (by decide : 0 < groupBase)) units
      rw [Nat.div_add_mod'] at added
      rw [groupsFrom_of_ne_zero zero, sumOf_cons, next]
      exact added

/-- Without zeros at the end a number has more than 28 places if it has a group behind them. -/
theorem sumOf_fine {k n : Nat} (many : groupsMax < k) (h : n ≠ 0) :
    sumOf (groupsFrom (-(k : Int)) n) = none := by
  rw [groupsFrom_of_ne_zero h, sumOf_cons]
  cases sumOf (groupsFrom (-(k : Int) + 1) (n / groupBase)) with
  | none => rfl
  | some a => exact plusGroup?_far (by rwa [Int.natAbs_neg])

/-! ## Reading -/

/-- The groups of a number without its last zeros are those of what is left of it. -/
theorem dropWhile_groupsFrom (n : Nat) : ∀ weight : Int, ∃ t rest,
    n = rest * 10 ^ (groupWidth * t) ∧ (rest ≠ 0 → ¬ groupBase ∣ rest) ∧
      (groupsFrom weight n).dropWhile (·.value = 0) = groupsFrom (weight + t) rest := by
  induction n using Nat.strongRecOn with
  | ind n ih =>
    intro weight
    by_cases zero : n = 0
    · subst zero
      exact ⟨0, 0, by simp, by simp, by simp [groupsFrom_zero]⟩
    · by_cases more : groupBase ∣ n
      · obtain ⟨t, rest, same, last, groups⟩ :=
          ih (n / groupBase) (Nat.div_lt_self (Nat.pos_of_ne_zero zero) (by decide)) (weight + 1)
        refine ⟨t + 1, rest, ?_, last, ?_⟩
        · rw [Nat.mul_succ, Nat.pow_add, ← Nat.mul_assoc, ← same]
          exact (Nat.div_mul_cancel more).symm
        · have start : weight + 1 + t = weight + (t + 1 : Nat) := by omega
          rw [groupsFrom_of_ne_zero zero, List.dropWhile_cons_of_pos, groups, start]
          exact decide_eq_true (Nat.mod_eq_zero_of_dvd more)
      · refine ⟨0, n, by simp, fun _ => more, ?_⟩
        have start : weight + (0 : Nat) = weight := Int.add_zero weight
        rw [start, groupsFrom_of_ne_zero zero, List.dropWhile_cons_of_neg]
        simpa [Nat.dvd_iff_mod_eq_zero] using more

/-- A number whose last group is not zero has no more places than its groups have digits. -/
theorem not_dvd_of_fine {k n : Nat} (many : groupsMax < k) (last : ¬ groupBase ∣ n) :
    ¬ 10 ^ (groupWidth * k) ∣ n * 10 ^ scaleMax := by
  intro whole
  have parts : 10 ^ (groupWidth * k) = 10 ^ (groupWidth * (k - groupsMax)) * 10 ^ scaleMax := by
    rw [← Nat.pow_add]
    congr 1
    unfold groupWidth groupsMax scaleMax at *
    omega
  rw [parts, Nat.mul_dvd_mul_iff_right (Nat.pow_pos (by decide))] at whole
  have one : groupBase ∣ 10 ^ (groupWidth * (k - groupsMax)) :=
    Nat.pow_dvd_pow 10 (Nat.le_mul_of_pos_right groupWidth (Nat.sub_pos_of_lt many))
  exact last (Nat.dvd_trans one whole)

/-- Where groups that start after the point fail. -/
theorem sumOf_places_eq_none_iff {k n : Nat} (last : n ≠ 0 → ¬ groupBase ∣ n) :
    sumOf (groupsFrom (-(k : Int)) n) = none ↔
      (2 * coefficientLimit - 1) * 10 ^ (groupWidth * k) ≤ 2 * n ∨
        ¬ 10 ^ (groupWidth * k) ∣ n * 10 ^ scaleMax := by
  by_cases few : k ≤ groupsMax
  · have whole : 10 ^ (groupWidth * k) ∣ n * 10 ^ scaleMax :=
      Nat.dvd_mul_left_of_dvd (Nat.pow_dvd_pow 10 (Nat.mul_le_mul_left groupWidth few)) n
    rw [(isSum_places few n).none_iff]
    simp [whole]
  · by_cases zero : n = 0
    · have positive : 0 < (2 * coefficientLimit - 1) * 10 ^ (groupWidth * k) :=
        Nat.mul_pos (by decide) (Nat.pow_pos (by decide))
      rw [zero, groupsFrom_zero, Nat.mul_zero, Nat.zero_mul]
      simp [sumOf, Nat.not_le.mpr positive]
    · have many : groupsMax < k := Nat.lt_of_not_le few
      simp [sumOf_fine many zero, not_dvd_of_fine many (last zero)]

/-- Where the groups of a number without its last zeros fail. -/
theorem sumOf_dropWhile_eq_none_iff (k n : Nat) :
    sumOf ((groupsFrom (-(k : Int)) n).dropWhile (·.value = 0)) = none ↔
      (2 * coefficientLimit - 1) * 10 ^ (groupWidth * k) ≤ 2 * n ∨
        ¬ 10 ^ (groupWidth * k) ∣ n * 10 ^ scaleMax := by
  obtain ⟨t, rest, rfl, last, groups⟩ := dropWhile_groupsFrom n (-(k : Int))
  have power (k : Nat) : 0 < 10 ^ (groupWidth * k) := Nat.pow_pos (by decide)
  rw [groups]
  -- what is left starts after the point or before it
  rcases Nat.le_total t k with inner | outer
  · obtain ⟨k, rfl⟩ := Nat.exists_eq_add_of_le' inner
    have start : -((k + t : Nat) : Int) + t = -(k : Int) := by omega
    rw [start, sumOf_places_eq_none_iff last, Nat.mul_add, Nat.pow_add, ← Nat.mul_assoc,
      ← Nat.mul_assoc, Nat.mul_le_mul_right_iff (power t), Nat.mul_right_comm rest,
      Nat.mul_dvd_mul_iff_right (power t)]
  · obtain ⟨j, rfl⟩ := Nat.exists_eq_add_of_le outer
    have start : -(k : Int) + (k + j : Nat) = (j : Int) := by omega
    have parts : rest * 10 ^ (groupWidth * (k + j)) =
        rest * 10 ^ (groupWidth * j) * 10 ^ (groupWidth * k) := by
      rw [Nat.mul_add, Nat.add_comm, Nat.pow_add, Nat.mul_assoc]
    have whole : 10 ^ (groupWidth * k) ∣
        rest * 10 ^ (groupWidth * j) * 10 ^ (groupWidth * k) * 10 ^ scaleMax :=
      Nat.dvd_mul_right_of_dvd (Nat.dvd_mul_left ..) _
    rw [start, sumOf_whole, parts, ← Nat.mul_assoc 2, Nat.mul_le_mul_right_iff (power k)]
    unfold coefficientLimit
    simp [whole]
    omega

namespace Written

/-- Whether a written decimal, without zeros at its end, has more than 28 places. -/
def IsTooFine (w : Written) : Prop := ¬ 10 ^ w.places.length ∣ w.coefficient * 10 ^ scaleMax

instance (w : Written) : Decidable w.IsTooFine := inferInstanceAs (Decidable (¬ _))

end Written

theorem foldlM_plusGroup? (groups : List Group) :
    groups.foldlM plusGroup? (0, 0) = sumOf groups.reverse :=
  List.foldrM_reverse.symm

/-- Only the sum of the groups can fail. -/
theorem readGroups?_eq_none_iff_sumOf {s : String} {w : Written} (h : Written.ofText? s = some w) :
    readGroups? s = none ↔ sumOf w.groups.reverse = none := by
  unfold readGroups?
  rw [h, ← foldlM_plusGroup?, Option.bind_eq_bind, Option.bind_some]
  cases w.groups with
  | nil => simp
  | cons g groups =>
    dsimp only
    cases (g :: groups).foldlM plusGroup? (0, 0) with
    | none => simp
    | some sum => simp

/-- **A decimal in groups does not read exactly if it is too large or too fine.** -/
theorem readGroups?_eq_none_iff {w : Written} (h : w.IsDecimal) :
    readGroups? (String.ofList w.chars) = none ↔ w.IsTooLarge ∨ w.IsTooFine := by
  have power : 0 < 10 ^ (fill w.places).length := Nat.pow_pos (by decide)
  have width : (w.places ++ fill w.places).length =
      groupWidth * ((w.places ++ fill w.places).length / groupWidth) := by
    unfold fill groupWidth
    rw [List.length_append, List.length_replicate]
    omega
  have filled : Nat.ofDigitChars 10 (w.whole ++ (w.places ++ fill w.places)) 0 =
      w.coefficient * 10 ^ (fill w.places).length := by
    unfold fill Written.coefficient
    rw [← List.append_assoc, Nat.ofDigitChars_append, Nat.ofDigitChars_replicate_zero,
      List.length_replicate, Nat.mul_comm]
  rw [readGroups?_eq_none_iff_sumOf (Written.ofText?_chars h)]
  unfold Written.groups Written.IsTooLarge Written.IsTooFine
  dsimp only
  rw [List.reverse_reverse, sumOf_dropWhile_eq_none_iff, ← width, filled, List.length_append,
    Nat.pow_add, ← Nat.mul_assoc, ← Nat.mul_assoc, Nat.mul_le_mul_right_iff power,
    Nat.mul_right_comm w.coefficient, Nat.mul_dvd_mul_iff_right power]

end SqlBroker.Decimal.Fixed
