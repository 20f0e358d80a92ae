import Metamorph.Proofs.Binary64.Packing

/-! # Floats as numbers of units

A float that is not negative is a number of units, or infinitely many of them. The order of
floats is the order of these numbers, and a sum of floats is the rounded sum of the numbers. -/

open Float.Model Float.Model.UnpackedFloat

namespace Metamorph.Binary64

/-- The number of exponents that finite floats above zero have. -/
def exponents : Nat := 2046

/-- The number of units from which on a float is infinite. -/
def limit : Nat :=
  2 ^ 52 * 2 ^ exponents

/-- Round a number of units to a float, which is infinite from the limit on. -/
def roundUnits : ℕ∞ → ℕ∞
  | (u : Nat) => if rounded u < limit then rounded u else ⊤
  | ⊤ => ⊤

/-- A float that is not negative, with its number of units. The sign of zero does not count. -/
inductive Magnitude : UnpackedFloat → ℕ∞ → Prop where
  | zero {sign} : Magnitude (.zero sign) 0
  | finite {m e} (canonical : Canonical m e) (fits : e ≤ 971) :
      Magnitude (.finite .positive m e canonical.positive) (unitsOf m e)
  | infinity : Magnitude (.infinity .positive) ⊤

variable {m n : Nat} {e f : Int}

theorem Canonical.unitsOf_pos (h : Canonical m e) : 0 < unitsOf m e := by
  have positive := h.positive
  unfold unitsOf
  positivity

/-- A mantissa of 53 digits stays below all such mantissas with the next exponent. -/
theorem unitsOf_lt_next (short : m < 2 ^ 53) :
    unitsOf m e < 2 ^ 52 * 2 ^ ((e + 1074).toNat + 1) := by
  have below : unitsOf m e < 2 ^ 53 * 2 ^ (e + 1074).toNat :=
    Nat.mul_lt_mul_of_pos_right short (Nat.two_pow_pos _)
  rw [Nat.pow_succ]
  omega

/-- A larger exponent makes a larger float, whatever the mantissas are. -/
theorem Canonical.unitsOf_lt (h : Canonical m e) (k : Canonical n f) (less : e < f) :
    unitsOf m e < unitsOf n f := by
  have least := h.least
  calc unitsOf m e < 2 ^ 52 * 2 ^ ((e + 1074).toNat + 1) := unitsOf_lt_next h.short
    _ ≤ 2 ^ 52 * 2 ^ (f + 1074).toNat :=
      Nat.mul_le_mul_left _ (Nat.pow_le_pow_right (by decide) (by omega))
    _ ≤ unitsOf n f := Nat.mul_le_mul_right _ (k.full (by omega))

/-- Comparing exponents first and mantissas then is comparing units. -/
theorem Canonical.compares (h : Canonical m e) (k : Canonical n f) :
    ((compare e f).then (compare m n)).Compares (unitsOf m e) (unitsOf n f) := by
  rcases lt_trichotomy e f with less | rfl | more
  · rw [compare_lt_iff_lt.mpr less]
    exact h.unitsOf_lt k less
  · rw [compare_eq_iff_eq.mpr rfl]
    have positive : 0 < 2 ^ (e + 1074).toNat := Nat.two_pow_pos _
    rcases lt_trichotomy m n with less | rfl | more
    · rw [compare_lt_iff_lt.mpr less]
      exact Nat.mul_lt_mul_of_pos_right less positive
    · rw [compare_eq_iff_eq.mpr rfl]
      rfl
    · rw [compare_gt_iff_gt.mpr more]
      exact Nat.mul_lt_mul_of_pos_right more positive
  · rw [compare_gt_iff_gt.mpr more]
    exact k.unitsOf_lt h more

theorem unitsOf_lt_limit (short : m < 2 ^ 53) (low : e ≤ 971) : unitsOf m e < limit := by
  have inside : (e + 1074).toNat + 1 ≤ exponents := by
    unfold exponents
    omega
  calc unitsOf m e < 2 ^ 52 * 2 ^ ((e + 1074).toNat + 1) := unitsOf_lt_next short
    _ ≤ limit := Nat.mul_le_mul_left _ (Nat.pow_le_pow_right (by decide) inside)

/-- A canonical float is finite when its units are below the limit. -/
theorem Canonical.unitsOf_lt_limit_iff (h : Canonical m e) : unitsOf m e < limit ↔ e ≤ 971 := by
  refine ⟨fun below => ?_, unitsOf_lt_limit h.short⟩
  by_contra high
  have outside : exponents ≤ (e + 1074).toNat := by
    unfold exponents
    omega
  have above : limit ≤ unitsOf m e := by
    unfold limit unitsOf
    exact Nat.mul_le_mul (h.full (by omega)) (Nat.pow_le_pow_right (by decide) outside)
  exact absurd below above.not_gt

variable {x y : UnpackedFloat} {u v : ℕ∞}

theorem compares_cast {o : Ordering} {a b : Nat} (h : o.Compares a b) :
    o.Compares (a : ℕ∞) (b : ℕ∞) := by
  cases o with
  | lt => exact Nat.cast_lt.mpr h
  | eq => exact congrArg _ h
  | gt => exact Nat.cast_lt.mpr h

/-- The order of floats is that of their units. -/
theorem Magnitude.compares (h : Magnitude x u) (k : Magnitude y v) :
    ∃ o, x.compare y = some o ∧ o.Compares u v := by
  cases h with
  | zero =>
      cases k with
      | zero => exact ⟨.eq, rfl, rfl⟩
      | finite canonical _ => exact ⟨.lt, rfl, Nat.cast_pos.mpr canonical.unitsOf_pos⟩
      | infinity => exact ⟨.lt, rfl, ENat.top_pos⟩
  | finite canonical _ =>
      cases k with
      | zero => exact ⟨.gt, rfl, Nat.cast_pos.mpr canonical.unitsOf_pos⟩
      | finite other _ =>
          exact ⟨_, rfl, compares_cast (canonical.compares other)⟩
      | infinity => exact ⟨.lt, rfl, ENat.natCast_lt_top _⟩
  | infinity =>
      cases k with
      | zero => exact ⟨.gt, rfl, ENat.top_pos⟩
      | finite => exact ⟨.gt, rfl, ENat.natCast_lt_top _⟩
      | infinity => exact ⟨.eq, rfl, rfl⟩

theorem Magnitude.le_iff (h : Magnitude x u) (k : Magnitude y v) : x.le y = true ↔ u ≤ v := by
  obtain ⟨o, compared, order⟩ := h.compares k
  rw [UnpackedFloat.le, compared]
  exact Ordering.isLE_iff_ne_gt.trans order.ne_gt

theorem Magnitude.lt_iff (h : Magnitude x u) (k : Magnitude y v) : x.lt y = true ↔ u < v := by
  obtain ⟨o, compared, order⟩ := h.compares k
  rw [UnpackedFloat.lt, compared, beq_iff_eq, Option.some.injEq]
  exact order.eq_lt

theorem Magnitude.beq_iff (h : Magnitude x u) (k : Magnitude y v) : x.beq y = true ↔ u = v := by
  obtain ⟨o, compared, order⟩ := h.compares k
  rw [UnpackedFloat.beq, compared, beq_iff_eq, Option.some.injEq]
  exact order.eq_eq

theorem Magnitude.isFinite_iff (h : Magnitude x u) : x.isFinite = true ↔ u ≠ ⊤ := by
  cases h with
  | zero => simp [UnpackedFloat.isFinite]
  | finite => simp [UnpackedFloat.isFinite]
  | infinity => simp [UnpackedFloat.isFinite]

/-- A float that is not below zero is a number of units, and only such a float is. -/
theorem exists_magnitude {f : Float.Model} :
    (UnpackedFloat.zero .positive).le f.unpack = true ↔ ∃ u, Magnitude f.unpack u := by
  constructor
  · intro above
    cases read : f.unpack with
    | zero => exact ⟨0, .zero⟩
    | infinity sign =>
        cases sign with
        | positive => exact ⟨⊤, .infinity⟩
        | negative => simp [read, UnpackedFloat.le, UnpackedFloat.compare] at above
    | notANumber => simp [read, UnpackedFloat.le, UnpackedFloat.compare] at above
    | finite sign m e positive =>
        cases sign with
        | positive =>
            obtain ⟨canonical, fits⟩ := canonical_of_unpack read
            exact ⟨_, .finite canonical fits⟩
        | negative => simp [read, UnpackedFloat.le, UnpackedFloat.compare] at above
  · rintro ⟨u, h⟩
    exact (Magnitude.zero.le_iff h).mpr zero_le

theorem roundUnits_cast_of_lt {a : Nat} (below : rounded a < limit) :
    roundUnits a = (rounded a : ℕ∞) := by
  change (if rounded a < limit then (rounded a : ℕ∞) else ⊤) = _
  rw [if_pos below]

theorem roundUnits_cast_of_le {a : Nat} (above : limit ≤ rounded a) : roundUnits a = ⊤ := by
  change (if rounded a < limit then (rounded a : ℕ∞) else ⊤) = _
  rw [if_neg above.not_gt]

theorem roundUnits_mono : Monotone roundUnits := by
  intro u v h
  induction v using ENat.recTopCoe with
  | top => exact le_top
  | coe b =>
      induction u using ENat.recTopCoe with
      | top => exact absurd h (ENat.natCast_lt_top b).not_ge
      | coe a =>
          have ordered := rounded_mono (Nat.cast_le.mp h)
          rcases Nat.lt_or_ge (rounded b) limit with below | above
          · rw [roundUnits_cast_of_lt below, roundUnits_cast_of_lt (ordered.trans_lt below)]
            exact Nat.cast_le.mpr ordered
          · rw [roundUnits_cast_of_le above]
            exact le_top

/-- Floats need no rounding. -/
theorem Magnitude.roundUnits_eq (h : Magnitude x u) : roundUnits u = u := by
  cases h with
  | zero =>
      have nothing : rounded 0 = 0 := by decide
      have below : rounded 0 < limit := by
        rw [nothing]
        exact Nat.mul_pos (by decide) (Nat.two_pow_pos _)
      exact (roundUnits_cast_of_lt below).trans (by rw [nothing, Nat.cast_zero])
  | @finite m e canonical fits =>
      have same : rounded (unitsOf m e) = unitsOf m e := rounded_mul_pow canonical.short _
      have below := unitsOf_lt_limit canonical.short fits
      rw [roundUnits_cast_of_lt (same.symm ▸ below), same]
  | infinity => rfl

/-- A canonical float that is packed has the units that it had, unless it is too large. -/
theorem magnitude_pack {a : Nat} (canonical : Canonical m e) (units : unitsOf m e = rounded a) :
    Magnitude (Float.Model.pack (.finite .positive m e canonical.positive)).unpack
      (roundUnits a) := by
  rw [unpack_pack_canonical canonical]
  have finite := canonical.unitsOf_lt_limit_iff
  split
  · rename_i fits
    rw [roundUnits_cast_of_lt (units ▸ finite.mpr fits), ← units]
    exact .finite canonical fits
  · rename_i large
    rw [roundUnits_cast_of_le (units ▸ not_lt.mp (mt finite.mp large))]
    exact .infinity

/-- What is read from bits is packed into the same bits. -/
theorem Magnitude.pack (h : Magnitude x u) : Magnitude (Float.Model.pack x).unpack u := by
  cases h with
  | zero =>
      rw [unpack_pack_zero]
      exact .zero
  | finite canonical fits =>
      rw [unpack_pack_canonical canonical, if_pos fits]
      exact .finite canonical fits
  | infinity =>
      rw [unpack_pack_infinity]
      exact .infinity

/-- Mantissas that are brought to one exponent are added as units are. -/
theorem unitsOf_add (least : -1074 ≤ e) (other : -1074 ≤ f) :
    unitsOf (m <<< (e - min e f).toNat + n <<< (f - min e f).toNat) (min e f) =
      unitsOf m e + unitsOf n f := by
  have first : (e + 1074).toNat = (e - min e f).toNat + (min e f + 1074).toNat := by omega
  have second : (f + 1074).toNat = (f - min e f).toNat + (min e f + 1074).toNat := by omega
  rw [unitsOf, unitsOf, unitsOf, first, second, Nat.pow_add, Nat.pow_add, Nat.shiftLeft_eq,
    Nat.shiftLeft_eq, Nat.add_mul, Nat.mul_assoc, Nat.mul_assoc]

theorem normalize_natCast {a : Nat} {sign : Sign} (positive : 0 < a) :
    UnpackedFloat.normalize .binary64 a e sign = UnpackedFloat.round .binary64 .positive a e := by
  have above : compare (a : Int) 0 = .gt := compare_gt_iff_gt.mpr (by omega)
  simp only [UnpackedFloat.normalize, above, Int.toNat_natCast]

/-- The sum of finite floats above zero is rounded once. -/
theorem magnitude_add_finite (h : Canonical m e) (k : Canonical n f) :
    Magnitude (Float.Model.pack (UnpackedFloat.add .binary64
      (.finite .positive m e h.positive) (.finite .positive n f k.positive))).unpack
      (roundUnits (unitsOf m e + unitsOf n f : Nat)) := by
  have positive : 0 < m <<< (e - min e f).toNat + n <<< (f - min e f).toNat := by
    have first := h.positive
    rw [Nat.shiftLeft_eq, Nat.shiftLeft_eq]
    positivity
  have least : -1074 ≤ min e f := le_min h.least k.least
  obtain ⟨m', e', canonical, result, units⟩ := round_units .positive positive least
  have sum : UnpackedFloat.add .binary64 (.finite .positive m e h.positive)
      (.finite .positive n f k.positive) = .finite .positive m' e' canonical.positive :=
    (normalize_natCast positive).trans result
  rw [unitsOf_add h.least k.least] at units
  rw [sum]
  exact magnitude_pack canonical units

/-- The sum of floats is the rounded sum of their units. -/
theorem Magnitude.add (h : Magnitude x u) (k : Magnitude y v) :
    Magnitude (Float.Model.pack (UnpackedFloat.add .binary64 x y)).unpack
      (roundUnits (u + v)) := by
  cases h with
  | @zero sign =>
      have same := k.roundUnits_eq
      rw [zero_add, same]
      cases k with
      | @zero other =>
          rw [show UnpackedFloat.add .binary64 (.zero sign) (.zero other) =
            .zero (if sign == other then sign else .positive) by cases sign <;> cases other <;> rfl]
          exact Magnitude.zero.pack
      | finite canonical fits => exact (Magnitude.finite canonical fits).pack
      | infinity => exact Magnitude.infinity.pack
  | @finite m e canonical fits =>
      cases k with
      | zero =>
          have self := Magnitude.finite canonical fits
          rw [add_zero, self.roundUnits_eq]
          exact self.pack
      | finite other _ =>
          rw [← Nat.cast_add]
          exact magnitude_add_finite canonical other
      | infinity => exact Magnitude.infinity.pack
  | infinity =>
      cases k with
      | zero => exact Magnitude.infinity.pack
      | finite => exact Magnitude.infinity.pack
      | infinity => exact Magnitude.infinity.pack

end Metamorph.Binary64
