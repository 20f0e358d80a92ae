import Metamorph.Proofs.Expr.HasKind
import Metamorph.Proofs.Guest.Grammar
import Metamorph.Proofs.Guest.Helpers

/-! # The meaning of a guest expression

What the language computes for a term: words of 32 bits and truth values, which it never
mixes. Arithmetic wraps, a shift uses the low five bits of its amount, and a call is one of a
helper that the module defines. The term of a well kinded tree computes the value of the tree,
because the bitwise signs do on 0 and 1 what the logical operators do. -/

namespace Metamorph.Guest

/-- What an expression computes. -/
inductive Datum where
  | word (value : UInt32)
  | truth (value : Bool)
  deriving DecidableEq

/-- The word that something is, unless it is a truth value. -/
def Datum.word? : Datum → Option UInt32
  | .word value => some value
  | .truth _ => none

/-- A word as it is, and a truth value as 0 or 1. -/
def Datum.toWord : Datum → UInt32
  | .word value => value
  | .truth true => 1
  | .truth false => 0

/-- A method that wraps. -/
def Wrapping.apply : Wrapping → UInt32 → UInt32 → UInt32
  | .add, a, b => a + b
  | .sub, a, b => a - b
  | .mul, a, b => a * b
  | .shl, a, b => a <<< (b &&& 31)
  | .shr, a, b => a >>> (b &&& 31)

/-- A sign between two words. -/
def Sign.onWords : Sign → UInt32 → UInt32 → Datum
  | .bitAnd, a, b => .word (a &&& b)
  | .bitXor, a, b => .word (a ^^^ b)
  | .bitOr, a, b => .word (a ||| b)
  | .eq, a, b => .truth (a == b)
  | .ne, a, b => .truth (a != b)
  | .lt, a, b => .truth (a < b)
  | .le, a, b => .truth (a ≤ b)
  | .gt, a, b => .truth (b < a)
  | .ge, a, b => .truth (b ≤ a)

/-- A sign between two truth values, of which the false one is less. -/
def Sign.onTruths : Sign → Bool → Bool → Datum
  | .bitAnd, a, b => .truth (a && b)
  | .bitXor, a, b => .truth (a ^^ b)
  | .bitOr, a, b => .truth (a || b)
  | .eq, a, b => .truth (a == b)
  | .ne, a, b => .truth (a != b)
  | .lt, a, b => .truth (!a && b)
  | .le, a, b => .truth (!a || b)
  | .gt, a, b => .truth (a && !b)
  | .ge, a, b => .truth (a || !b)

/-- A sign between operands of the same type. -/
def Sign.apply (op : Sign) : Datum → Datum → Option Datum
  | .word a, .word b => some (op.onWords a b)
  | .truth a, .truth b => some (op.onTruths a b)
  | _, _ => none

/-- What a term computes with some helpers from the fields of the record of inputs, if its types
agree. -/
def Term.value (functions : List Helper) (inputs : String → Option UInt32) : Term → Option Datum
  | .literal value => some (.word value)
  | .input name => (inputs name).map .word
  | .neg operand => do
    let a ← (← operand.value functions inputs).word?
    return .word (-a)
  | .wrapping method receiver argument => do
    let a ← (← receiver.value functions inputs).word?
    let b ← (← argument.value functions inputs).word?
    return .word (method.apply a b)
  | .call function first second => do
    let helper ← functions.find? (·.name == function)
    let a ← (← first.value functions inputs).word?
    let b ← (← second.value functions inputs).word?
    return .word (← helper.apply a b)
  | .sign op left right => do
    op.apply (← left.value functions inputs) (← right.value functions inputs)
  | .toWord operand => do return .word (← operand.value functions inputs).toWord

/-- The low five bits of an amount are its remainder by 32. -/
theorem low_bits (b : UInt32) : b &&& 31 = b % 32 := by
  rw [← UInt32.toNat_inj, UInt32.toNat_and, UInt32.toNat_mod]
  exact Nat.and_two_pow_sub_one_eq_mod b.toNat 5

variable {functions : List Helper} {inputs : String → Option UInt32} {a b : Term} {x y : UInt32}

attribute [local simp] Term.value

theorem value_neg (ha : a.value functions inputs = some (.word x)) :
    (Term.neg a).value functions inputs = some (.word (-x)) := by
  simp [ha, Datum.word?]

theorem value_wrapping (method : Wrapping) (ha : a.value functions inputs = some (.word x))
    (hb : b.value functions inputs = some (.word y)) :
    (Term.wrapping method a b).value functions inputs = some (.word (method.apply x y)) := by
  simp [ha, hb, Datum.word?]

theorem value_call {function : String} {helper : Helper} {z : UInt32}
    (defined : functions.find? (·.name == function) = some helper)
    (computed : helper.apply x y = some z) (ha : a.value functions inputs = some (.word x))
    (hb : b.value functions inputs = some (.word y)) :
    (Term.call function a b).value functions inputs = some (.word z) := by
  simp [defined, computed, ha, hb, Datum.word?]

theorem value_sign (op : Sign) (ha : a.value functions inputs = some (.word x))
    (hb : b.value functions inputs = some (.word y)) :
    (Term.sign op a b).value functions inputs = some (op.onWords x y) := by
  simp [ha, hb, Sign.apply]

theorem value_toWord {datum : Datum} (ha : a.value functions inputs = some datum) :
    (Term.toWord a).value functions inputs = some (.word datum.toWord) := by
  simp [ha]

/-- A comparison, made a word. -/
def Term.comparison (op : Sign) (a b : Term) : Term :=
  .toWord (.sign op a b)

/-- A comparison is the word of the truth value that its sign gives. -/
theorem value_comparison (op : Sign) {truth : Bool} (compared : op.onWords x y = .truth truth)
    (ha : a.value functions inputs = some (.word x))
    (hb : b.value functions inputs = some (.word y)) :
    (Term.comparison op a b).value functions inputs = some (.word (ofBool truth)) := by
  have result := value_toWord (value_sign op ha hb)
  rw [compared] at result
  cases truth <;> exact result

end Metamorph.Guest

namespace Metamorph

open Guest

/-- What a unary operator is in a guest. -/
def UnaryOp.toTerm : UnaryOp → Term → Term
  | .neg, a => .neg a
  | .not, a => .sign .bitXor a (.literal 1)

/-- What a binary operator is in a guest. -/
def BinaryOp.toTerm : BinaryOp → Term → Term → Term
  | .add => .wrapping .add
  | .sub => .wrapping .sub
  | .mul => .wrapping .mul
  | .div => .call "rv_div"
  | .rem => .call "rv_rem"
  | .shl => .wrapping .shl
  | .shr => .wrapping .shr
  | .bitAnd | .and => .sign .bitAnd
  | .bitOr | .or => .sign .bitOr
  | .bitXor | .xor => .sign .bitXor
  | .eq => .comparison .eq
  | .ne => .comparison .ne
  | .lt => .comparison .lt
  | .le => .comparison .le
  | .gt => .comparison .gt
  | .ge => .comparison .ge

/-- What a tree is in a guest: node for node the same, but that a cast is its operand. -/
def Expr.toTerm : Expr → Term
  | .const _ value => .literal value
  | .var _ name => .input name
  | .unary _ op operand => op.toTerm operand.toTerm
  | .binary _ op lhs rhs => op.toTerm lhs.toTerm rhs.toTerm
  | .cast _ operand => operand.toTerm

variable {env : Env} {a b : Term} {x y : UInt32}

theorem quotient_apply (x y : UInt32) : quotient.apply x y = some (BinaryOp.div.apply x y) := by
  by_cases zero : y = 0 <;>
    simp [quotient, Helper.apply, Helper.parameters, Branch.value, BinaryOp.apply, zero]

theorem remainder_apply (x y : UInt32) :
    remainder.apply x y = some (BinaryOp.rem.apply x y) := by
  by_cases zero : y = 0 <;>
    simp [remainder, Helper.apply, Helper.parameters, Branch.value, BinaryOp.apply, zero]

theorem UnaryOp.value_toTerm (op : UnaryOp) (admitted : op.operandKind.Admits x)
    (ha : a.value division env = some (.word x)) :
    (op.toTerm a).value division env = some (.word (op.apply x)) := by
  cases op with
  | neg => exact value_neg ha
  | not =>
      have flipped : x ^^^ 1 = ofBool (x == 0) := by
        rcases admitted with rfl | rfl <;> rfl
      exact (value_sign .bitXor ha rfl).trans (by rw [Sign.onWords, flipped, UnaryOp.apply])

/-- On truth values the bitwise signs are the logical operators. -/
theorem bitwise_logical (hx : Kind.bool.Admits x) (hy : Kind.bool.Admits y) :
    x &&& y = BinaryOp.and.apply x y ∧ x ||| y = BinaryOp.or.apply x y ∧
      x ^^^ y = BinaryOp.xor.apply x y := by
  rcases hx with rfl | rfl <;> rcases hy with rfl | rfl <;> decide

theorem BinaryOp.value_toTerm (op : BinaryOp) (left : op.operandKind.Admits x)
    (right : op.operandKind.Admits y) (ha : a.value division env = some (.word x))
    (hb : b.value division env = some (.word y)) :
    (op.toTerm a b).value division env = some (.word (op.apply x y)) := by
  -- Only the logical operators need to know what their operands are.
  cases op with
  | add => exact value_wrapping .add ha hb
  | sub => exact value_wrapping .sub ha hb
  | mul => exact value_wrapping .mul ha hb
  | shl =>
      rw [apply, ← low_bits]
      exact value_wrapping .shl ha hb
  | shr =>
      rw [apply, ← low_bits]
      exact value_wrapping .shr ha hb
  | div => exact value_call rfl (quotient_apply x y) ha hb
  | rem => exact value_call rfl (remainder_apply x y) ha hb
  | bitAnd => exact value_sign .bitAnd ha hb
  | bitOr => exact value_sign .bitOr ha hb
  | bitXor => exact value_sign .bitXor ha hb
  | and =>
      rw [← (bitwise_logical left right).1]
      exact value_sign .bitAnd ha hb
  | or =>
      rw [← (bitwise_logical left right).2.1]
      exact value_sign .bitOr ha hb
  | xor =>
      rw [← (bitwise_logical left right).2.2]
      exact value_sign .bitXor ha hb
  | eq => exact value_comparison .eq rfl ha hb
  | ne => exact value_comparison .ne rfl ha hb
  | lt => exact value_comparison .lt rfl ha hb
  | le => exact value_comparison .le rfl ha hb
  | gt => exact value_comparison .gt rfl ha hb
  | ge => exact value_comparison .ge rfl ha hb

/-- The term of a well kinded tree computes what the tree evaluates to. -/
theorem Expr.HasKind.value_toTerm {e : Expr} {kind : Kind} {value : UInt32} (h : HasKind e kind)
    (suits : Suits env e) (evaluated : e.evaluate env = .ok value) :
    e.toTerm.value division env = some (.word value) := by
  induction h generalizing value with
  | const => simpa [Expr.evaluate, toTerm, Term.value] using evaluated
  | @var kind name =>
      obtain ⟨bound, found, -⟩ := suits kind name (by simp [occurrences])
      simpa [Expr.evaluate, toTerm, Term.value, found] using evaluated
  | @unary op operand below ih =>
      obtain ⟨a, ha, admitted⟩ := below.evaluate suits.unary
      obtain rfl : op.apply a = value := by
        simpa [Expr.evaluate, ha, bind, Except.bind, pure, Except.pure] using evaluated
      exact op.value_toTerm admitted (ih suits.unary ha)
  | @binary op lhs rhs below below' ihl ihr =>
      obtain ⟨a, ha, left⟩ := below.evaluate suits.left
      obtain ⟨b, hb, right⟩ := below'.evaluate suits.right
      obtain rfl : op.apply a b = value := by
        simpa [Expr.evaluate, ha, hb, bind, Except.bind, pure, Except.pure] using evaluated
      exact op.value_toTerm left right (ihl suits.left ha) (ihr suits.right hb)
  | cast below ih =>
      obtain ⟨a, ha, truth⟩ := below.evaluate suits.cast
      obtain rfl : a = value := by
        simpa [Expr.evaluate, ha, bind, Except.bind, pure, Except.pure, ofBool_truth truth]
          using evaluated
      exact ih suits.cast ha

end Metamorph
