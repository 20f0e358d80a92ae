import Metamorph.Proofs.Binary64.Units

/-! # Floats that are not negative

What weights and their sums are in units: the comparisons of floats, their sums, and the
floats of natural numbers. -/

open Float.Model Float.Model.UnpackedFloat

namespace Metamorph.Binary64

/-- A float is not negative and has a number of units. -/
def HasUnits (x : Float) (u : ℕ∞) : Prop :=
  Magnitude x.toModel.unpack u

variable {x y : Float} {u v : ℕ∞}

theorem le_iff_unpack : x ≤ y ↔ x.toModel.unpack.le y.toModel.unpack = true :=
  decide_eq_true_iff

theorem lt_iff_unpack : x < y ↔ x.toModel.unpack.lt y.toModel.unpack = true :=
  decide_eq_true_iff

theorem zero_eq : (0.0 : Float) = .ofModel (Float.Model.pack (.zero .positive)) := by
  decide

theorem hasUnits_zero : HasUnits 0.0 0 := by
  rw [zero_eq]
  exact Magnitude.zero.pack

/-- The floats that are not below zero are those with a number of units. -/
theorem zero_le_iff : (0.0 : Float) ≤ x ↔ ∃ u, HasUnits x u := by
  rw [zero_eq, le_iff_unpack, unpack_pack_zero]
  exact exists_magnitude

namespace HasUnits

theorem le_iff (h : HasUnits x u) (k : HasUnits y v) : x ≤ y ↔ u ≤ v :=
  le_iff_unpack.trans (Magnitude.le_iff h k)

theorem lt_iff (h : HasUnits x u) (k : HasUnits y v) : x < y ↔ u < v :=
  lt_iff_unpack.trans (Magnitude.lt_iff h k)

theorem beq_zero_iff (h : HasUnits x u) : (x == 0.0) = true ↔ u = 0 :=
  Magnitude.beq_iff h hasUnits_zero

theorem isFinite_iff (h : HasUnits x u) : x.isFinite = true ↔ u ≠ ⊤ :=
  Magnitude.isFinite_iff h

theorem roundUnits_eq (h : HasUnits x u) : roundUnits u = u :=
  Magnitude.roundUnits_eq h

theorem add (h : HasUnits x u) (k : HasUnits y v) : HasUnits (x + y) (roundUnits (u + v)) :=
  Magnitude.add h k

theorem unique (h : HasUnits x u) (k : HasUnits x v) : u = v := by
  have reflexive := (h.le_iff h).mpr le_rfl
  exact le_antisymm ((h.le_iff k).mp reflexive) ((k.le_iff h).mp reflexive)

end HasUnits

/-- The float 1, with all its digits. -/
theorem canonical_one : Canonical (2 ^ 52) (-52) :=
  ⟨by decide, by decide, by decide, fun _ => le_refl _⟩

theorem one_eq :
    (1.0 : Float) = .ofModel (Float.Model.pack (.finite .positive (2 ^ 52) (-52) (by decide))) := by
  decide

theorem hasUnits_one : HasUnits 1.0 (unitsOf (2 ^ 52) (-52)) := by
  rw [one_eq]
  exact (Magnitude.finite canonical_one (by decide)).pack

/-- A product of mantissas that is long enough is rounded once. -/
theorem magnitude_mul {m n : Nat} {e f : Int} (positive : 0 < m) (other : 0 < n)
    (full : 2 ^ 52 ≤ m * n) (least : -1074 ≤ e + f) :
    Magnitude (Float.Model.pack (UnpackedFloat.mul .binary64
      (.finite .positive m e positive) (.finite .positive n f other))).unpack
      (roundUnits (unitsOf (m * n) (e + f))) := by
  obtain ⟨m', e', canonical, result, units⟩ :=
    roundWithAccuracy_units .positive (Nat.mul_pos positive other) least
      (le_grain_of_full full least)
  have product : UnpackedFloat.mul .binary64 (.finite .positive m e positive)
      (.finite .positive n f other) = .finite .positive m' e' canonical.positive := result
  rw [product]
  exact magnitude_pack canonical units

variable {n : Nat}

/-- A natural number of at most 53 digits is a float, whose exponent is far from the least. -/
theorem unpack_ofNat_short (positive : 0 < n) (short : n < 2 ^ 53) :
    ∃ m e, ∃ canonical : Canonical m e,
      (Float.Model.ofNat n).unpack = .finite .positive m e canonical.positive ∧
        unitsOf m e = unitsOf n 0 ∧ -1022 ≤ e := by
  obtain ⟨m, e, canonical, result, units⟩ := round_units .positive positive (by decide : -1074 ≤ 0)
  have exact : rounded (unitsOf n 0) = unitsOf n 0 := rounded_mul_pow short _
  rw [exact] at units
  have fits : e ≤ 971 := by
    rw [← canonical.unitsOf_lt_limit_iff, units]
    exact unitsOf_lt_limit short (by decide)
  refine ⟨m, e, canonical, ?_, units, ?_⟩
  · have whole : UnpackedFloat.ofNat .binary64 n = .finite .positive m e canonical.positive :=
      (normalize_natCast positive).trans result
    rw [Float.Model.ofNat, whole, unpack_pack_canonical canonical, if_pos fits]
  · have digits : m.log2 < 53 := (Nat.log2_lt canonical.positive.ne').mpr canonical.short
    have logs := congrArg Nat.log2 units
    rw [unitsOf, unitsOf, log2_mul_two_pow canonical.positive.ne',
      log2_mul_two_pow positive.ne'] at logs
    omega

theorem toFloat_short (short : n < 2 ^ 53) :
    n.toFloat = .ofModel (Float.Model.ofNat n) * 1.0 := by
  have power : (1.0 : Float) = Float.exactlyRepresentablePowersOfTen[0] := by decide
  have word : n.toUInt64.toNat = n := Nat.mod_eq_of_lt (by omega)
  have model : n.toUInt64.toFloat = .ofModel (Float.Model.ofNat n) := by
    rw [← congrArg Float.Model.ofNat word]
    rfl
  rw [power, ← model]
  exact dif_pos ⟨short, by decide⟩

theorem toFloat_long (long : 2 ^ 53 ≤ n) :
    n.toFloat = .ofModel (Float.Model.pack (UnpackedFloat.mul .binary64
      (.finite .positive (n * 2 ^ 53) (-53) (by positivity))
      (.finite .positive 1 0 (by decide)))) := by
  have slow : n.toFloat = .ofModel (Float.Model.ofScientific n 0) :=
    dif_neg fun fast => absurd fast.1 (Nat.not_lt.mpr long)
  have nonzero : n ≠ 0 := by omega
  have low : ¬ (0 : Int) > 2 ^ 11 := by decide
  have high : ¬ (0 : Int) < -(2 ^ 11 + n.log2) := by omega
  rw [slow, Float.Model.ofScientific, UnpackedFloat.ofScientific, dif_neg nonzero, if_neg low,
    if_neg high, if_pos (le_refl 0)]
  simp only [Nat.shiftLeft_eq]
  rfl

/-- A natural number becomes the float nearest to it. -/
theorem hasUnits_toFloat (n : Nat) : HasUnits n.toFloat (roundUnits (unitsOf n 0)) := by
  rcases Nat.eq_zero_or_pos n with rfl | positive
  · have zero : (0 : Nat).toFloat = 0.0 := by decide
    rw [zero, unitsOf, Nat.zero_mul, Nat.cast_zero, hasUnits_zero.roundUnits_eq]
    exact hasUnits_zero
  -- A short number is multiplied by 1, and a long one is scaled down from a mantissa that is
  -- too long; both are products that are rounded once.
  · rcases Nat.lt_or_ge n (2 ^ 53) with short | long
    · obtain ⟨m, e, canonical, read, units, high⟩ := unpack_ofNat_short positive short
      have product := magnitude_mul canonical.positive canonical_one.positive
        (Nat.le_mul_of_pos_left _ canonical.positive) (by omega : -1074 ≤ e + -52)
      have same : unitsOf (m * 2 ^ 52) (e + -52) = unitsOf n 0 :=
        (unitsOf_shift 52 (by omega)).trans units
      have one : (Float.toModel 1.0).unpack = .finite .positive (2 ^ 52) (-52) (by decide) := by
        rw [one_eq, unpack_pack_canonical canonical_one, if_pos (by decide)]
      rw [same, ← read, ← one] at product
      rw [toFloat_short short]
      exact product
    · have product := @magnitude_mul (n * 2 ^ 53) 1 (-53) 0 (by positivity) (by decide)
        (by omega) (by decide)
      have same : unitsOf (n * 2 ^ 53 * 1) (-53 + 0) = unitsOf n 0 := by
        have exponent : (-53 + 0 : Int) = 0 - (53 : Nat) := by decide
        rw [Nat.mul_one, exponent]
        exact unitsOf_shift 53 (by decide)
      rw [same] at product
      rw [toFloat_long long]
      exact product

theorem toFloat_nonneg (n : Nat) : (0.0 : Float) ≤ n.toFloat :=
  zero_le_iff.mpr ⟨_, hasUnits_toFloat n⟩

end Metamorph.Binary64

/-! ## Sums of floats that are not negative

Rounding keeps the order, so sums grow with their terms, no term exceeds the sum, and a sum
of fewer terms does not exceed one of more. No sum rises above a float that absorbs every
term. -/

namespace Metamorph.Binary64

/-- A float is not negative and at most another. -/
def Below (x y : Float) : Prop :=
  ∃ u v, HasUnits x u ∧ HasUnits y v ∧ u ≤ v

variable {x y z w : Float}

theorem zero_le_of_zero_lt (positive : (0.0 : Float) < x) : (0.0 : Float) ≤ x := by
  rw [lt_iff_unpack, Float.Model.UnpackedFloat.lt, beq_iff_eq] at positive
  rw [le_iff_unpack, Float.Model.UnpackedFloat.le, positive]
  rfl

theorem below_refl (nonneg : (0.0 : Float) ≤ x) : Below x x := by
  obtain ⟨u, h⟩ := zero_le_iff.mp nonneg
  exact ⟨u, u, h, h, le_rfl⟩

theorem zero_below (nonneg : (0.0 : Float) ≤ x) : Below 0.0 x := by
  obtain ⟨u, h⟩ := zero_le_iff.mp nonneg
  exact ⟨0, u, hasUnits_zero, h, zero_le⟩

theorem toFloat_below {m n : Nat} (h : m ≤ n) : Below m.toFloat n.toFloat :=
  ⟨_, _, hasUnits_toFloat m, hasUnits_toFloat n,
    roundUnits_mono (Nat.cast_le.mpr (Nat.mul_le_mul_right _ h))⟩

namespace Below

theorem right_nonneg (h : Below x y) : (0.0 : Float) ≤ y := by
  obtain ⟨_, v, _, hv, _⟩ := h
  exact zero_le_iff.mpr ⟨v, hv⟩

theorem trans (h : Below x y) (k : Below y z) : Below x z := by
  obtain ⟨u, v, hu, hv, first⟩ := h
  obtain ⟨v', w, hv', hw, second⟩ := k
  exact ⟨u, w, hu, hw, (first.trans_eq (hv.unique hv')).trans second⟩

theorem add (h : Below x y) (k : Below z w) : Below (x + z) (y + w) := by
  obtain ⟨_, _, hx, hy, first⟩ := h
  obtain ⟨_, _, hz, hw, second⟩ := k
  exact ⟨_, _, hx.add hz, hy.add hw, roundUnits_mono (add_le_add first second)⟩

theorem isFinite (h : Below x y) (finite : y.isFinite = true) : x.isFinite = true := by
  obtain ⟨u, v, hu, hv, ordered⟩ := h
  rw [hu.isFinite_iff]
  exact ne_top_of_le_ne_top (hv.isFinite_iff.mp finite) ordered

theorem zero_lt (h : Below x y) (positive : (0.0 : Float) < x) : (0.0 : Float) < y := by
  obtain ⟨u, v, hu, hv, ordered⟩ := h
  exact (hasUnits_zero.lt_iff hv).mpr (((hasUnits_zero.lt_iff hu).mp positive).trans_le ordered)

end Below

/-- A sum is no less than what a term is added to. -/
theorem below_add_right (h : (0.0 : Float) ≤ x) (k : (0.0 : Float) ≤ y) : Below x (x + y) := by
  obtain ⟨u, hu⟩ := zero_le_iff.mp h
  obtain ⟨v, hv⟩ := zero_le_iff.mp k
  refine ⟨u, _, hu, hu.add hv, ?_⟩
  calc u = roundUnits u := hu.roundUnits_eq.symm
    _ ≤ roundUnits (u + v) := roundUnits_mono le_self_add

/-- A sum is no less than its last term. -/
theorem below_add_left (h : (0.0 : Float) ≤ x) (k : (0.0 : Float) ≤ y) : Below y (x + y) := by
  obtain ⟨u, hu⟩ := zero_le_iff.mp h
  obtain ⟨v, hv⟩ := zero_le_iff.mp k
  refine ⟨v, _, hv, hu.add hv, ?_⟩
  calc v = roundUnits v := hv.roundUnits_eq.symm
    _ ≤ roundUnits (u + v) := roundUnits_mono le_add_self

/-- Dropping terms and starting from less does not make a sum larger. -/
theorem sublist_sum_below {fewer terms : List Float} (within : fewer.Sublist terms)
    (nonneg : ∀ w ∈ terms, (0.0 : Float) ≤ w) (start : Below x y) :
    Below (fewer.foldl (· + ·) x) (terms.foldl (· + ·) y) := by
  induction within generalizing x y with
  | slnil => exact start
  | cons term _ ih =>
      refine ih (fun w member => nonneg w (List.mem_cons_of_mem _ member)) ?_
      exact start.trans (below_add_right start.right_nonneg (nonneg term (by simp)))
  | cons_cons term _ ih =>
      refine ih (fun w member => nonneg w (List.mem_cons_of_mem _ member)) ?_
      exact start.add (below_refl (nonneg term (by simp)))

/-- A sum stays below a float to which no term makes a difference. -/
theorem sum_below_of_absorbs {bound term : Float} (absorbs : bound + term = bound)
    {terms : List Float} (small : ∀ w ∈ terms, Below w term) (start : Below x bound) :
    Below (terms.foldl (· + ·) x) bound := by
  induction terms generalizing x with
  | nil => exact start
  | cons w rest ih =>
      refine ih (fun v member => small v (List.mem_cons_of_mem _ member)) ?_
      have next := start.add (small w (by simp))
      rwa [absorbs] at next

end Metamorph.Binary64
