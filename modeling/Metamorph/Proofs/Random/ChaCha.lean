import Metamorph.Proofs.Random.Contract
import Metamorph.Random.ChaCha

/-! # The word stream keeps to its ranges

A number below a range is the high part of a product of the range with a word, so it lies
below the range whatever the word is; what is drawn for a float is checked before it is
given. -/

namespace Metamorph.ChaCha

variable {bits range span : Nat} {word : StateM ChaCha Nat}

theorem number32_lt : Always number32 (· < Nat.pow 2 32) :=
  Always.bind (Always.drawn _) fun a _ => Always.pure a.toNat_lt

theorem number64_lt : Always number64 (· < Nat.pow 2 64) :=
  Always.bind (Always.drawn _) fun a _ => Always.pure a.toNat_lt

theorem drawBelow_lt (words : Always word (· < Nat.pow 2 bits)) (positive : 0 < range)
    (tries : Nat) : Always (drawBelow bits word range tries) (· < range) := by
  induction tries with
  | zero => exact Always.pure positive
  | succ tries ih =>
      refine Always.bind words fun a short => ?_
      dsimp only
      split
      · refine Always.pure (Nat.div_lt_of_lt_mul ?_)
        exact Nat.mul_lt_mul_of_pos_right short positive
      · exact ih

theorem drawUpTo_le (words : Always word (· < Nat.pow 2 bits)) :
    Always (drawUpTo bits word span) (· ≤ span) := by
  unfold drawUpTo
  split
  · exact (drawBelow_lt words (Nat.succ_pos span) patience).mono fun _ => Nat.le_of_lt_succ
  · exact Always.bind words fun a _ => Always.pure (Nat.min_le_right a span)

theorem wordBetween_mem {low high : UInt32} (ordered : low ≤ high) :
    Always (RandomSource.wordBetween low high : StateM ChaCha UInt32) fun a =>
      low ≤ a ∧ a ≤ high := by
  refine Always.bind (drawUpTo_le number32_lt) fun offset short => Always.pure ?_
  have below := UInt32.le_iff_toNat_le.mp ordered
  have bound := high.toNat_lt
  have sum : (low + offset.toUInt32).toNat = low.toNat + offset := by
    rw [UInt32.toNat_add, UInt32.toNat_ofNat', Nat.mod_eq_of_lt (a := offset) (by omega)]
    exact Nat.mod_eq_of_lt (by omega)
  simp only [UInt32.le_iff_toNat_le, sum]
  omega

theorem countBetween_mem {low high : Nat} (ordered : low ≤ high) :
    Always (RandomSource.countBetween low high : StateM ChaCha Nat) fun a =>
      low ≤ a ∧ a ≤ high := by
  refine Always.bind (drawUpTo_le number64_lt) fun offset short => Always.pure ?_
  exact ⟨Nat.le_add_right low offset, by omega⟩

theorem drawBelowTotal_mem {total : Float} (positive : 0 < total) :
    Always (drawBelowTotal total) fun a => 0 ≤ a ∧ a < total := by
  have zero : (0.0 : Float) = 0 := by decide +kernel
  refine Always.bind (Always.drawn _) fun a _ => Always.pure ?_
  split
  · rename_i within
    rw [Bool.and_eq_true, decide_eq_true_eq, decide_eq_true_eq, zero] at within
    exact within
  · exact ⟨by decide +kernel, positive⟩

instance : LawfulRandomSource ChaCha where
  wordBetween_mem s ordered := wordBetween_mem ordered s
  countBetween_mem s ordered := countBetween_mem ordered s
  below_mem s positive _ := drawBelowTotal_mem positive s

end Metamorph.ChaCha
