import Mathlib

/-! # Rounding to the nearest float

A sum of floats that are not negative is a whole number of units, the least positive float
being one unit. It is rounded to 53 binary digits, to the nearest multiple of a power of two,
and to an even multiple where two are as near. Rounding keeps the order and keeps what has
no more digits than that. -/

namespace Metamorph.Binary64

/-- The nearest multiple of `2 ^ d`, as a number of such powers. -/
def nearest (d u : Nat) : Nat :=
  if 2 * (u % 2 ^ d) < 2 ^ d then u / 2 ^ d
  else if 2 * (u % 2 ^ d) = 2 ^ d then u / 2 ^ d + u / 2 ^ d % 2
  else u / 2 ^ d + 1

/-- How many binary digits of a number are rounded off. -/
def grain (u : Nat) : Nat :=
  u.log2 - 52

/-- A number rounded to 53 binary digits. -/
def rounded (u : Nat) : Nat :=
  nearest (grain u) u * 2 ^ grain u

variable {d u v : Nat}

theorem log2_mul_two_pow (positive : u ≠ 0) (k : Nat) : (u * 2 ^ k).log2 = u.log2 + k := by
  induction k with
  | zero => simp
  | succ k ih =>
      have nonzero : u * 2 ^ k ≠ 0 := by positivity
      rw [Nat.pow_succ', Nat.mul_left_comm, Nat.log2_two_mul nonzero, ih, Nat.add_assoc]

theorem nearest_bounds (d u : Nat) : u / 2 ^ d ≤ nearest d u ∧ nearest d u ≤ u / 2 ^ d + 1 := by
  unfold nearest
  split
  · omega
  · split <;> omega

@[simp] theorem nearest_mul_pow (d k : Nat) : nearest d (k * 2 ^ d) = k := by
  have positive : 0 < 2 ^ d := Nat.two_pow_pos d
  simp [nearest, positive]

theorem nearest_mono (h : u ≤ v) : nearest d u ≤ nearest d v := by
  rcases Nat.lt_or_eq_of_le (Nat.div_le_div_right h : u / 2 ^ d ≤ v / 2 ^ d) with below | same
  · exact (nearest_bounds d u).2.trans (Nat.le_trans below (nearest_bounds d v).1)
  · have remainders : u % 2 ^ d ≤ v % 2 ^ d := by
      have first := Nat.div_add_mod u (2 ^ d)
      have second := Nat.div_add_mod v (2 ^ d)
      rw [same] at first
      omega
    unfold nearest
    rw [same]
    split <;> split <;> (try split) <;> (try split) <;> omega

/-- Common factors of two do not matter for the rounding. -/
theorem nearest_scale (d k u : Nat) : nearest (d + k) (u * 2 ^ k) = nearest d u := by
  have positive : 0 < 2 ^ k := Nat.two_pow_pos k
  have less : 2 * (u % 2 ^ d * 2 ^ k) < 2 ^ d * 2 ^ k ↔ 2 * (u % 2 ^ d) < 2 ^ d := by
    rw [← Nat.mul_assoc]
    exact Nat.mul_lt_mul_right positive
  have equal : 2 * (u % 2 ^ d * 2 ^ k) = 2 ^ d * 2 ^ k ↔ 2 * (u % 2 ^ d) = 2 ^ d := by
    rw [← Nat.mul_assoc]
    exact Nat.mul_left_inj positive.ne'
  simp only [nearest, Nat.pow_add, Nat.mul_mod_mul_right, Nat.mul_div_mul_right _ _ positive,
    less, equal]

theorem lt_two_pow_grain (u : Nat) : u < 2 ^ (53 + grain u) := by
  refine Nat.lt_of_lt_of_le Nat.lt_log2_self (Nat.pow_le_pow_right (by decide) ?_)
  unfold grain
  omega

theorem grain_mono (h : u ≤ v) : grain u ≤ grain v := by
  have logs : u.log2 ≤ v.log2 := by
    rw [Nat.log2_eq_log_two, Nat.log2_eq_log_two]
    exact Nat.log_mono_right h
  unfold grain
  omega

theorem two_pow_le_of_grain_pos (h : 0 < grain u) : 2 ^ (52 + grain u) ≤ u := by
  unfold grain at h ⊢
  have nonzero : u ≠ 0 := by
    rintro rfl
    simp at h
  have same : 52 + (u.log2 - 52) = u.log2 := by omega
  rw [same]
  exact Nat.log2_self_le nonzero

/-- Rounding leaves no more than 53 digits, or carries into the next one. -/
theorem nearest_grain_le (u : Nat) : nearest (grain u) u ≤ 2 ^ 53 := by
  have below := nearest_mono (d := grain u) (lt_two_pow_grain u).le
  rwa [Nat.pow_add, nearest_mul_pow] at below

/-- What is rounded at all keeps 53 digits. -/
theorem le_nearest_grain (h : 0 < grain u) : 2 ^ 52 ≤ nearest (grain u) u := by
  have above := nearest_mono (d := grain u) (two_pow_le_of_grain_pos h)
  rwa [Nat.pow_add, nearest_mul_pow] at above

theorem nearest_zero (u : Nat) : nearest 0 u = u := by
  simpa using nearest_mul_pow 0 u

theorem rounded_mono (h : u ≤ v) : rounded u ≤ rounded v := by
  rcases Nat.lt_or_eq_of_le (grain_mono h) with coarser | same
  · -- A power of two that both keep lies between the two numbers.
    calc rounded u ≤ 2 ^ 53 * 2 ^ grain u := Nat.mul_le_mul_right _ (nearest_grain_le u)
      _ = 2 ^ (53 + grain u) := (Nat.pow_add 2 53 (grain u)).symm
      _ ≤ 2 ^ (52 + grain v) := Nat.pow_le_pow_right (by decide) (by omega)
      _ = 2 ^ 52 * 2 ^ grain v := Nat.pow_add 2 52 (grain v)
      _ ≤ rounded v := Nat.mul_le_mul_right _ (le_nearest_grain (by omega))
  · unfold rounded
    rw [same]
    exact Nat.mul_le_mul_right _ (nearest_mono h)

/-- A number of at most 53 digits, followed by zeros, needs no rounding. -/
theorem rounded_mul_pow {m : Nat} (short : m < 2 ^ 53) (k : Nat) :
    rounded (m * 2 ^ k) = m * 2 ^ k := by
  have fits : grain (m * 2 ^ k) ≤ k := by
    rcases Nat.eq_zero_or_pos m with rfl | positive
    · simp [grain]
    · have log := log2_mul_two_pow positive.ne' k
      have digits : m.log2 < 53 := (Nat.log2_lt positive.ne').mpr short
      unfold grain
      omega
  obtain ⟨spare, split⟩ := Nat.exists_eq_add_of_le' fits
  unfold rounded
  generalize grain (m * 2 ^ k) = d at split ⊢
  rw [split, Nat.pow_add, ← Nat.mul_assoc, nearest_mul_pow]

end Metamorph.Binary64

/-! ## What the rounding of floats computes

The float arithmetic of the logical model shifts mantissas and keeps two bits of what is
shifted out. Counted in units, the result of rounding is the number rounded to 53 digits, in
the one form that a float of that size has. -/

open Float.Model Float.Model.UnpackedFloat

namespace Metamorph.Binary64

/-- A mantissa whose residual bits are clear. -/
def exactly (m : Nat) : ExtendedMantissa :=
  ⟨m, false, false⟩

/-- What is left of a number that is shifted to the right, and what the two kept bits say of
the part that is shifted out. -/
theorem shiftRight_parts (m d : Nat) :
    (exactly m >>> d).mantissa = m / 2 ^ d ∧
      ((exactly m >>> d).roundBit = true ↔ 2 ^ d ≤ 2 * (m % 2 ^ d)) ∧
      ((exactly m >>> d).stickyBit = true ↔ m % 2 ^ d ≠ 0 ∧ 2 * (m % 2 ^ d) ≠ 2 ^ d) := by
  induction d with
  | zero => simp [exactly, HShiftRight.hShiftRight, Nat.repeat, Nat.mod_one]
  | succ d ih =>
      obtain ⟨mantissa, roundBit, stickyBit⟩ := ih
      have step : exactly m >>> (d + 1) = (exactly m >>> d).shiftRightOne := rfl
      have remainder : m % 2 ^ (d + 1) = m % 2 ^ d + 2 ^ d * (m / 2 ^ d % 2) := Nat.mod_pow_succ
      have below : m % 2 ^ d < 2 ^ d := Nat.mod_lt _ (Nat.two_pow_pos d)
      have bit : m / 2 ^ d % 2 = 0 ∨ m / 2 ^ d % 2 = 1 := Nat.mod_two_eq_zero_or_one _
      rw [step, ExtendedMantissa.shiftRightOne, remainder, Nat.pow_succ]
      dsimp only
      rw [mantissa, Nat.div_div_eq_div_mul, Bool.or_eq_true, roundBit, stickyBit, bne_iff_ne]
      rcases bit with even | odd
      · rw [even]
        omega
      · rw [odd]
        omega

/-- The kept bits are enough to round to the nearest multiple. -/
theorem shiftRight_roundedMantissa (m d : Nat) :
    (exactly m >>> d).roundedMantissa = nearest d m := by
  obtain ⟨mantissa, roundBit, stickyBit⟩ := shiftRight_parts m d
  have positive : 0 < 2 ^ d := Nat.two_pow_pos d
  unfold nearest
  cases shifted : exactly m >>> d with
  | mk q half sticky =>
      rw [shifted] at mantissa roundBit stickyBit
      cases half <;> cases sticky <;>
        simp only [ExtendedMantissa.roundedMantissa, ExtendedMantissa.accuracy,
          Accuracy.roundToNearestEven, reduceCtorEq, false_iff, true_iff] at * <;>
        split <;> (try split) <;> omega

/-- The number of units of a mantissa with an exponent. -/
def unitsOf (m : Nat) (e : Int) : Nat :=
  m * 2 ^ (e + 1074).toNat

/-- The form of a positive float of any size: all 53 digits are used, unless the exponent is
the least one. -/
structure Canonical (m : Nat) (e : Int) : Prop where
  positive : 0 < m
  short : m < 2 ^ 53
  least : -1074 ≤ e
  full : -1074 < e → 2 ^ 52 ≤ m

variable {m : Nat} {e : Int}

/-- Halving a mantissa as often as the exponent is raised does not change the units. -/
theorem unitsOf_shift (a : Nat) (least : -1074 ≤ e - a) :
    unitsOf (m * 2 ^ a) (e - a) = unitsOf m e := by
  have exponent : (e + 1074).toNat = a + (e - a + 1074).toNat := by omega
  rw [unitsOf, unitsOf, exponent, Nat.pow_add, Nat.mul_assoc]

/-- The exponent that the format asks for leaves as many digits as rounding does. -/
theorem targetExponent_eq (positive : 0 < m) (least : -1074 ≤ e) :
    Format.binary64.targetExponent (totalExponent m e) = grain (unitsOf m e) - 1074 := by
  have log := log2_mul_two_pow positive.ne' (e + 1074).toNat
  simp only [Format.targetExponent, totalExponent, Format.mantissaBits, Format.minExponent,
    grain, unitsOf, log]
  omega

/-- Shifting to the target exponent takes off the digits that rounding does. -/
theorem shiftToTargetExponent_eq (positive : 0 < m) (least : -1074 ≤ e)
    (low : e ≤ grain (unitsOf m e) - 1074) :
    ∃ d : Nat, shiftToTargetExponent .binary64 m e .exact =
        (exactly m >>> d, (grain (unitsOf m e) : Int) - 1074) ∧
      (exactly m >>> d : ExtendedMantissa).roundedMantissa = nearest (grain (unitsOf m e)) (unitsOf m e) := by
  have total : grain (unitsOf m e) =
      ((grain (unitsOf m e) : Int) - 1074 - e).toNat + (e + 1074).toNat := by omega
  refine ⟨((grain (unitsOf m e) : Int) - 1074 - e).toNat, ?_, ?_⟩
  · rw [shiftToTargetExponent, targetExponent_eq positive least, shiftToExponent]
    refine Prod.ext rfl ?_
    dsimp only
    omega
  · rw [shiftRight_roundedMantissa, ← nearest_scale _ (e + 1074).toNat, ← total, ← unitsOf]

/-- A canonical mantissa is left as it is. -/
theorem shiftToTargetExponent_short (positive : 0 < m) (short : m < 2 ^ 53) (least : -1074 ≤ e) :
    shiftToTargetExponent .binary64 m e .exact = (exactly m, e) := by
  have log : m.log2 < 53 := (Nat.log2_lt positive.ne').mpr short
  have none : (Format.binary64.targetExponent (totalExponent m e) - e).toNat = 0 := by
    simp only [Format.targetExponent, totalExponent, Format.mantissaBits, Format.minExponent]
    omega
  rw [shiftToTargetExponent, shiftToExponent, none]
  simp [HShiftRight.hShiftRight, Nat.repeat, ExtendedMantissa.ofMantissaAndAccuracy, exactly]

/-- A mantissa with one digit too many, as a carry leaves it, is halved. -/
theorem shiftToTargetExponent_carry (least : -1074 ≤ e) :
    shiftToTargetExponent .binary64 (2 ^ 53) e .exact = (exactly (2 ^ 52), e + 1) := by
  have target : Format.binary64.targetExponent (totalExponent (2 ^ 53) e) = e + 1 := by
    simp only [Format.targetExponent, totalExponent, Nat.log2_two_pow, Format.mantissaBits,
      Format.minExponent]
    omega
  have once : (e + 1 - e).toNat = 1 := by omega
  rw [shiftToTargetExponent, target, shiftToExponent, once]
  rfl

theorem nearest_grain_pos {u : Nat} (positive : 0 < u) : 0 < nearest (grain u) u := by
  rcases Nat.eq_zero_or_pos (grain u) with exact | rounds
  · rw [exact, nearest_zero]
    exact positive
  · exact Nat.lt_of_lt_of_le (by decide) (le_nearest_grain rounds)

/-- Rounding shifts a mantissa, rounds it and shifts it once more. -/
theorem roundWithAccuracy_eq {s : Sign} {em : ExtendedMantissa} {e₁ e' : Int} {m' : Nat}
    (positive : 0 < m') (first : shiftToTargetExponent .binary64 m e .exact = (em, e₁))
    (second : shiftToTargetExponent .binary64 em.roundedMantissa e₁ .exact = (exactly m', e')) :
    roundWithAccuracy .binary64 s m e .exact = .finite s m' e' positive := by
  simp only [roundWithAccuracy, first, second, exactly]
  rw [dif_neg positive.ne']

/-- Rounding a mantissa that is long enough gives a canonical float, which has the units of the
rounded number. -/
theorem roundWithAccuracy_units (s : Sign) (positive : 0 < m) (least : -1074 ≤ e)
    (low : e ≤ grain (unitsOf m e) - 1074) :
    ∃ m' e', ∃ canonical : Canonical m' e',
      roundWithAccuracy .binary64 s m e .exact = .finite s m' e' canonical.positive ∧
        unitsOf m' e' = rounded (unitsOf m e) := by
  obtain ⟨d, first, nearestMantissa⟩ := shiftToTargetExponent_eq positive least low
  have unitsPositive : 0 < unitsOf m e := by
    unfold unitsOf
    positivity
  have some := nearest_grain_pos unitsPositive
  have lowest : -1074 ≤ (grain (unitsOf m e) : Int) - 1074 := by omega
  -- Rounding up may carry into a digit too many, which the second shift takes away again.
  rcases Nat.lt_or_eq_of_le (nearest_grain_le (unitsOf m e)) with short | carry
  · have second := shiftToTargetExponent_short some short lowest
    rw [← nearestMantissa] at second
    have canonical : Canonical (nearest (grain (unitsOf m e)) (unitsOf m e))
        (grain (unitsOf m e) - 1074) :=
      ⟨some, short, lowest, fun above => le_nearest_grain (by omega)⟩
    refine ⟨_, _, canonical, ?_, ?_⟩
    · rw [roundWithAccuracy_eq (nearestMantissa ▸ some) first second]
      simp only [nearestMantissa]
    · rw [unitsOf, rounded, Int.sub_add_cancel, Int.toNat_natCast]
  · have second := shiftToTargetExponent_carry lowest
    rw [← carry, ← nearestMantissa] at second
    have canonical : Canonical (2 ^ 52) ((grain (unitsOf m e) : Int) - 1074 + 1) :=
      ⟨by decide, by decide, by omega, fun _ => le_refl _⟩
    refine ⟨_, _, canonical, roundWithAccuracy_eq (by decide) first second, ?_⟩
    have exponent : ((grain (unitsOf m e) : Int) - 1074 + 1 + 1074).toNat =
        grain (unitsOf m e) + 1 := by omega
    rw [unitsOf, rounded, carry, exponent]
    omega

/-- Rounding pads a mantissa that is too short. -/
theorem round_units (s : Sign) (positive : 0 < m) (least : -1074 ≤ e) :
    ∃ m' e', ∃ canonical : Canonical m' e',
      UnpackedFloat.round .binary64 s m e = .finite s m' e' canonical.positive ∧
        unitsOf m' e' = rounded (unitsOf m e) := by
  let spare := (e - ((grain (unitsOf m e) : Int) - 1074)).toNat
  have padded : UnpackedFloat.round .binary64 s m e =
      roundWithAccuracy .binary64 s (m * 2 ^ spare) (e - spare) .exact := by
    rw [UnpackedFloat.round, targetExponent_eq positive least, decreaseExponent,
      Nat.shiftLeft_eq]
  have same : unitsOf (m * 2 ^ spare) (e - spare) = unitsOf m e :=
    unitsOf_shift spare (by omega)
  have low : e - spare ≤ grain (unitsOf (m * 2 ^ spare) (e - spare)) - 1074 := by
    rw [same]
    omega
  rw [padded, ← same]
  exact roundWithAccuracy_units s (by positivity) (by omega) low

/-- A mantissa that uses all digits is long enough. -/
theorem le_grain_of_full (full : 2 ^ 52 ≤ m) (least : -1074 ≤ e) :
    e ≤ grain (unitsOf m e) - 1074 := by
  have positive : m ≠ 0 := by omega
  have digits : 52 ≤ m.log2 := (Nat.le_log2 positive).mpr full
  rw [grain, unitsOf, log2_mul_two_pow positive]
  omega

end Metamorph.Binary64
