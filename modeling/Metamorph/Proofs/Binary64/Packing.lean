import Metamorph.Proofs.Binary64.Rounding

/-! # Floats in their 64 bits

A canonical float is read back from its bits as it was, unless its exponent is too large for
the format: then infinity is. Whatever is read from bits is canonical. -/

open Float.Model Float.Model.UnpackedFloat

namespace Metamorph.Binary64

variable {m : Nat} {e : Int} {sign : Sign}

/-- Reading the bits of a float is reading what was packed. -/
theorem model_unpack_pack (f : UnpackedFloat) :
    (Float.Model.pack f).unpack = UnpackedFloat.unpack .binary64 (f.pack .binary64) :=
  rfl

/-- The leading digit, which is not stored, is put before the others. -/
theorem toNat_one_append (mantissa : BitVec 52) :
    (1#1 ++ mantissa).toNat = 2 ^ 52 + mantissa.toNat := by
  have disjoint := Nat.two_pow_add_eq_or_of_lt mantissa.isLt 1
  have head : (1#1).toNat = 1 := rfl
  rw [BitVec.toNat_append, Nat.shiftLeft_eq, head, Nat.mul_comm, ← disjoint, Nat.mul_one]

theorem unpack_pack_normal (canonical : Canonical m e) (full : 2 ^ 52 ≤ m) (high : e ≤ 971) :
    (Float.Model.pack (.finite sign m e canonical.positive)).unpack =
      .finite sign m e canonical.positive := by
  have log : m.log2 + 1 = 53 := by
    have exact := (Nat.log2_eq_iff canonical.positive.ne').mpr ⟨full, canonical.short⟩
    omega
  obtain ⟨biased, rfl⟩ : ∃ biased : Nat, e = biased - 1075 :=
    ⟨(e + 1075).toNat, by have := canonical.least; omega⟩
  have least := canonical.least
  have short := canonical.short
  have number : ((biased : Int) - 1075 + 1023 + 52).toNat = biased := by omega
  have packed : UnpackedFloat.pack .binary64
      (.finite sign m (biased - 1075) canonical.positive) =
        packComponents .binary64 sign (BitVec.ofNat 11 biased) (BitVec.ofNat 52 m) := by
    have fits : ¬ 2047 ≤ biased := by omega
    simp [UnpackedFloat.pack, Format.exponentBias, Format.mantissaBits, log, number, fits]
  have exponent : (BitVec.ofNat 11 biased).toNat = biased := by
    rw [BitVec.toNat_ofNat]
    omega
  have finite : BitVec.ofNat 11 biased ≠ 2047#11 := by
    rw [← BitVec.toNat_inj.ne, exponent]
    simp only [BitVec.toNat_ofNat]
    omega
  have normal : BitVec.ofNat 11 biased ≠ 0#11 := by
    rw [← BitVec.toNat_inj.ne, exponent]
    simp only [BitVec.toNat_ofNat]
    omega
  have mantissa : (1#1 ++ BitVec.ofNat 52 m).toNat = m := by
    rw [toNat_one_append, BitVec.toNat_ofNat]
    omega
  rw [model_unpack_pack, packed]
  simp [UnpackedFloat.unpack, finite, normal, exponent, mantissa, Format.exponentBias]

theorem unpack_pack_subnormal (positive : 0 < m) (short : m < 2 ^ 52) :
    (Float.Model.pack (.finite sign m (-1074) positive)).unpack =
      .finite sign m (-1074) positive := by
  have log : m.log2 + 1 ≠ 53 := by
    have digits := (Nat.log2_lt positive.ne').mpr short
    omega
  have mantissa : (BitVec.ofNat 52 m).toNat = m := by
    rw [BitVec.toNat_ofNat, Nat.mod_eq_of_lt short]
  have some : BitVec.ofNat 52 m ≠ 0#52 := by
    rw [← BitVec.toNat_inj.ne, mantissa]
    exact positive.ne'
  have packed : UnpackedFloat.pack .binary64 (.finite sign m (-1074) positive) =
      packComponents .binary64 sign 0#11 (BitVec.ofNat 52 m) := by
    simp [UnpackedFloat.pack, Format.exponentBias, Format.mantissaBits, log]
  rw [model_unpack_pack, packed]
  simpa [UnpackedFloat.unpack, some, Format.exponentBias] using short

/-- An exponent that is too large makes infinity. -/
theorem unpack_pack_overflow (positive : 0 < m) (high : 971 < e) :
    (Float.Model.pack (.finite sign m e positive)).unpack = .infinity sign := by
  have tooLarge : 2047 ≤ (e + 1023 + 52).toNat := by omega
  have packed : UnpackedFloat.pack .binary64 (.finite sign m e positive) =
      UnpackedFloat.pack .binary64 (.infinity sign) := by
    simp [UnpackedFloat.pack, Format.exponentBias, tooLarge]
  rw [model_unpack_pack, packed]
  cases sign <;> rfl

/-- A canonical float is read back, or infinity in its place. -/
theorem unpack_pack_canonical (canonical : Canonical m e) :
    (Float.Model.pack (.finite sign m e canonical.positive)).unpack =
      if e ≤ 971 then .finite sign m e canonical.positive else .infinity sign := by
  split
  · rename_i low
    by_cases full : 2 ^ 52 ≤ m
    · exact unpack_pack_normal canonical full low
    · obtain rfl : e = -1074 := by
        have least := canonical.least
        have above := canonical.full
        omega
      exact unpack_pack_subnormal canonical.positive (by omega)
  · exact unpack_pack_overflow canonical.positive (by omega)

theorem unpack_pack_zero : (Float.Model.pack (.zero sign)).unpack = .zero sign := by
  cases sign <;> rfl

theorem unpack_pack_infinity : (Float.Model.pack (.infinity sign)).unpack = .infinity sign := by
  cases sign <;> rfl

/-- A finite float that is read from bits is canonical, and its exponent fits the format. -/
theorem canonical_of_unpack {f : Float.Model} {positive : 0 < m}
    (read : f.unpack = .finite sign m e positive) : Canonical m e ∧ e ≤ 971 := by
  have bias : Format.binary64.exponentBias = 1023 := rfl
  have exponentBound : (@unpackExponent .binary64 f.toBits.toBitVec).toNat < 2 ^ 11 :=
    BitVec.isLt _
  have mantissaBound : (@unpackMantissa .binary64 f.toBits.toBitVec).toNat < 2 ^ 52 :=
    BitVec.isLt _
  unfold Float.Model.unpack UnpackedFloat.unpack at read
  dsimp only at read
  split at read
  -- The top exponent is for infinity and what is no number.
  · split at read <;> simp at read
  · rename_i finite
    rw [← BitVec.toNat_inj] at finite
    split at read
    · rename_i least
      split at read
      · simp at read
      · rw [least, bias] at read
        obtain ⟨-, rfl, rfl⟩ := UnpackedFloat.finite.inj read
        exact ⟨⟨positive, by omega, by simp, by simp⟩, by simp⟩
    · rename_i normal
      rw [← BitVec.toNat_inj] at normal
      rw [bias] at read
      obtain ⟨-, mantissa, rfl⟩ := UnpackedFloat.finite.inj read
      have leading : m = 2 ^ 52 + (@unpackMantissa .binary64 f.toBits.toBitVec).toNat :=
        mantissa.symm.trans (toNat_one_append _)
      have notTop : (-1#11).toNat = 2047 := rfl
      have notZero : (0#11).toNat = 0 := rfl
      refine ⟨⟨positive, by omega, by omega, fun _ => by omega⟩, by omega⟩

end Metamorph.Binary64
