import Metamorph.Proofs.Expr.HasKind
import Metamorph.Rewrite.Catalogue

/-! # Laws of the operators

The equations between operators that rewrite rules rest on. Those of arithmetic hold of all
words, since sums and products wrap and division is defined for a divisor of zero. Those of
logic hold of 0 and 1 only. -/

namespace Metamorph

theorem not_apply_ofBool (b : Bool) : UnaryOp.not.apply (ofBool b) = ofBool !b := by
  cases b <;> rfl

theorem ofBool_ne_zero (b : Bool) : (ofBool b != 0) = b := by
  cases b <;> rfl

namespace BinaryOp

variable {op other : BinaryOp} {a b c : UInt32}

theorem apply_comm (h : op.isCommutative = true) : op.apply a b = op.apply b a := by
  cases op <;> simp only [isCommutative, Bool.false_eq_true] at h <;> simp only [apply]
  case add => exact UInt32.add_comm a b
  case mul => exact UInt32.mul_comm a b
  case bitAnd => exact UInt32.and_comm a b
  case bitOr => exact UInt32.or_comm a b
  case bitXor => exact UInt32.xor_comm a b
  case and => rw [Bool.and_comm]
  case or => rw [Bool.or_comm]
  case xor => rw [bne_comm]
  case eq => rw [BEq.comm]
  case ne => rw [bne_comm]

/-- A comparison and its mirror image agree on operands that change places. -/
theorem flipped_spec (h : op.flipped = some other) :
    op.operandKind = .field ∧ other.operandKind = .field ∧ op.resultKind = .bool ∧
      other.resultKind = .bool ∧ ∀ a b, other.apply b a = op.apply a b := by
  cases op <;> simp only [flipped, Option.some.injEq, reduceCtorEq] at h <;> subst h <;>
    refine ⟨rfl, rfl, rfl, rfl, fun a b => ?_⟩
  case eq => exact apply_comm rfl
  case ne => exact apply_comm rfl
  all_goals rfl

theorem exists_flipped (h : op.isComparison = true) : ∃ other, op.flipped = some other := by
  cases op <;> simp_all [isComparison, flipped]

/-- A comparison is what its negation denies. -/
theorem negated_spec (h : op.negated = some other) :
    op.operandKind = .field ∧ other.operandKind = .field ∧ op.resultKind = .bool ∧
      other.resultKind = .bool ∧ ∀ a b, UnaryOp.not.apply (other.apply a b) = op.apply a b := by
  cases op <;> simp only [negated, Option.some.injEq, reduceCtorEq] at h <;> subst h <;>
    refine ⟨rfl, rfl, rfl, rfl, fun a b => ?_⟩ <;> simp only [apply, not_apply_ofBool]
  case eq => simp [bne]
  case ne => rfl
  case lt => simp [← decide_not]
  case le => simp [← decide_not]
  case gt => simp [← decide_not]
  case ge => simp [← decide_not]

theorem exists_negated (h : op.isComparison = true) : ∃ other, op.negated = some other := by
  cases op <;> simp_all [isComparison, negated]

/-- De Morgan's laws. They hold of all words, since a logical operator asks of its operands
only whether they are zero. -/
theorem dual_spec (h : Catalogue.dual op = some other) :
    op.operandKind = .bool ∧ other.operandKind = .bool ∧ op.resultKind = .bool ∧
      other.resultKind = .bool ∧ ∀ a b, UnaryOp.not.apply
        (other.apply (UnaryOp.not.apply a) (UnaryOp.not.apply b)) = op.apply a b := by
  cases op <;> simp only [Catalogue.dual, Option.some.injEq, reduceCtorEq] at h <;> subst h <;>
    refine ⟨rfl, rfl, rfl, rfl, fun a b => ?_⟩ <;>
    simp only [apply, UnaryOp.apply, ofBool_ne_zero] <;>
    cases ha : a == 0 <;> cases hb : b == 0 <;> simp_all [ofBool]

theorem add_sub_apply : sub.apply (add.apply a b) b = a := by
  simp only [apply]
  grind

theorem xor_xor_apply : bitXor.apply (bitXor.apply a b) b = a := by
  simp only [apply, UInt32.xor_assoc, UInt32.xor_self, UInt32.xor_zero]

theorem add_neg_apply : add.apply a (UnaryOp.neg.apply b) = sub.apply a b := by
  simp only [apply, UnaryOp.apply]
  grind

theorem neg_neg_apply : UnaryOp.neg.apply (UnaryOp.neg.apply a) = a := by
  simp only [UnaryOp.apply, UInt32.neg_neg]

theorem not_not_apply (h : Kind.bool.Admits a) :
    UnaryOp.not.apply (UnaryOp.not.apply a) = a := by
  rcases h with rfl | rfl <;> rfl

theorem mul_one_apply : mul.apply a 1 = a := by
  simp only [apply, UInt32.mul_one]

theorem mul_add_apply : add.apply (mul.apply a b) (mul.apply a c) = mul.apply a (add.apply b c) := by
  simp only [apply]
  grind

/-- Quotient and remainder put a word together again, also those by zero. -/
theorem div_rem_apply : add.apply (mul.apply (div.apply a b) b) (rem.apply a b) = a := by
  simp only [apply]
  split
  · rename_i zero
    rw [zero, UInt32.mul_zero, UInt32.zero_add]
  · rw [← UInt32.toNat_inj]
    simp [Nat.div_add_mod']

/-- A truth value is whether its word is that of truth. -/
theorem eq_truth_apply (h : Kind.bool.Admits a) :
    eq.apply (ofBool (a != 0)) (ofBool (ofBool true != 0)) = a := by
  rcases h with rfl | rfl <;> rfl

/-- Two truth values differ when their words do. -/
theorem ne_words_apply (ha : Kind.bool.Admits a) (hb : Kind.bool.Admits b) :
    ne.apply (ofBool (a != 0)) (ofBool (b != 0)) = xor.apply a b := by
  rcases ha with rfl | rfl <;> rcases hb with rfl | rfl <;> rfl

/-- A shift sees the low five bits of its amount only. -/
theorem shift_mask_apply (h : op = shl ∨ op = shr) :
    op.apply a (bitAnd.apply b 31) = op.apply a b := by
  have low : (b &&& 31) % 32 = b % 32 := by
    rw [← UInt32.toNat_inj]
    have mask := Nat.and_two_pow_sub_one_eq_mod b.toNat 5
    simp_all
  rcases h with rfl | rfl <;> simp only [apply, low]

end BinaryOp

end Metamorph
