import Metamorph.Rewrite.Rule

/-! # The catalogue of rules

Fifteen rules that keep the value of a tree, and three that change it. New constants come
from the range of the caller, and a truth value is built from such a constant, so that a
rewrite brings no literal from outside the range. -/

namespace Metamorph.Catalogue

/-! ## What rules match -/

/-- Nodes that declare a word. -/
def isField (e : Expr) : Bool := e.kind = .field

/-- Nodes that declare a truth value. -/
def isBool (e : Expr) : Bool := e.kind = .bool

/-- Binary nodes whose operator passes a test. -/
def isBinary (test : BinaryOp → Bool) (e : Expr) : Bool :=
  e.binaryOp.any test

/-- Products with a sum as one of the factors. -/
def isProductOfSum (e : Expr) : Bool :=
  match e.asBinary with
  | some (.mul, lhs, rhs) => lhs.binaryOp = some .add || rhs.binaryOp = some .add
  | _ => false

/-! ## What takes their place -/

/-- `a ∘ b` becomes `b ∘ a`. -/
def swapOperands (e : Expr) : Option Expr :=
  e.asBinary.map fun (op, lhs, rhs) => op.on rhs lhs

/-- `a < b` becomes `b > a`. -/
def flipComparison (e : Expr) : Option Expr := do
  let (op, lhs, rhs) ← e.asBinary
  return (← op.flipped).on rhs lhs

/-- `a < b` becomes `!(a >= b)`. -/
def negateComparison (e : Expr) : Option Expr := do
  let (op, lhs, rhs) ← e.asBinary
  return UnaryOp.not.on ((← op.negated).on lhs rhs)

/-- `e` becomes `(e + c) - c`. -/
def addThenSubtract (word : UInt32) (e : Expr) : Expr :=
  BinaryOp.sub.on (BinaryOp.add.on e (.field word)) (.field word)

/-- `e` becomes `(e ^ c) ^ c`. -/
def xorTwice (word : UInt32) (e : Expr) : Expr :=
  BinaryOp.bitXor.on (BinaryOp.bitXor.on e (.field word)) (.field word)

/-- `a - b` becomes `a + -b`. -/
def subtractionAsSum (e : Expr) : Option Expr :=
  e.asBinary.map fun (_, lhs, rhs) => BinaryOp.add.on lhs (UnaryOp.neg.on rhs)

/-- A unary operator put before a tree twice. -/
def twice (op : UnaryOp) (e : Expr) : Option Expr :=
  some (op.on (op.on e))

/-- `e` becomes `e * 1`. -/
def timesOne (one e : Expr) : Option Expr :=
  some (BinaryOp.mul.on e one)

/-- `a * (b + c)` and `(b + c) * a` become `a * b + a * c`. -/
def distribute (e : Expr) : Option Expr := do
  let (_, lhs, rhs) ← e.asBinary
  let (factor, sum) := if rhs.binaryOp = some .add then (lhs, rhs) else (rhs, lhs)
  let (_, b, c) ← sum.asBinary
  return BinaryOp.add.on (BinaryOp.mul.on factor b) (BinaryOp.mul.on factor c)

/-- `e` becomes `(e / c) * c + e % c`, which is `e` for a zero divisor too. -/
def divideAndRestore (word : UInt32) (e : Expr) : Expr :=
  BinaryOp.add.on
    (BinaryOp.mul.on (BinaryOp.div.on e (.field word)) (.field word))
    (BinaryOp.rem.on e (.field word))

/-- The logical operator that De Morgan's laws exchange with this one. -/
def dual : BinaryOp → Option BinaryOp
  | .and => some .or
  | .or => some .and
  | _ => none

/-- `a && b` becomes `!(!a || !b)`, and the other way round. -/
def deMorgan (e : Expr) : Option Expr := do
  let (op, lhs, rhs) ← e.asBinary
  return UnaryOp.not.on ((← dual op).on (UnaryOp.not.on lhs) (UnaryOp.not.on rhs))

/-- `e` becomes `field(e) == field(true)`. -/
def throughField (word : UInt32) (e : Expr) : Expr :=
  BinaryOp.eq.on e.toField (Expr.truth true word).toField

/-- `a xor b` becomes `field(a) != field(b)`. -/
def xorAsInequality (e : Expr) : Option Expr :=
  e.asBinary.map fun (_, lhs, rhs) => BinaryOp.ne.on lhs.toField rhs.toField

/-- `a << b` becomes `a << (b & mask)`. -/
def maskAmount (mask e : Expr) : Option Expr :=
  e.asBinary.map fun (op, lhs, rhs) => op.on lhs (BinaryOp.bitAnd.on rhs mask)

/-- `e` becomes `e + field(true)`. -/
def addOne (word : UInt32) (e : Expr) : Expr :=
  BinaryOp.add.on e (Expr.truth true word).toField

/-- `e` becomes `!e`. -/
def negate (e : Expr) : Option Expr :=
  some (UnaryOp.not.on e)

/-! ## The rules -/

variable {ρ : Type} [RandomSource ρ]

open Rule (fixed withLiteral withWord)

/-- The rules that keep the value of a tree. -/
def preserving : List (Rule ρ) :=
  [fixed "commute" 1.0 .preserving (isBinary (·.isCommutative)) swapOperands,
    fixed "flip_comparison" 1.0 .preserving (isBinary (·.isComparison)) flipComparison,
    fixed "negate_comparison" 0.8 .preserving (isBinary (·.isComparison)) negateComparison,
    withWord "add_sub_constant" 1.0 .preserving isField addThenSubtract,
    withWord "xor_twice" 0.8 .preserving isField xorTwice,
    fixed "sub_to_add_neg" 1.0 .preserving (isBinary (· == .sub)) subtractionAsSum,
    fixed "double_negation" 0.6 .preserving isField (twice .neg),
    fixed "double_not" 0.6 .preserving isBool (twice .not),
    withLiteral "mul_identity" 0.5 .preserving isField 1 timesOne,
    fixed "mul_distribute" 0.8 .preserving isProductOfSum distribute,
    withWord "div_rem_decompose" 0.5 .preserving isField divideAndRestore,
    fixed "de_morgan" 0.8 .preserving (isBinary fun op => op == .and || op == .or) deMorgan,
    withWord "bool_roundtrip" 0.5 .preserving isBool throughField,
    fixed "xor_as_ne" 0.5 .preserving (isBinary (· == .xor)) xorAsInequality,
    withLiteral "shift_amount_mask" 0.4 .preserving
      (isBinary fun op => op == .shl || op == .shr) 31 maskAmount]

/-- The rules that change the value of a tree. -/
def perturbing : List (Rule ρ) :=
  [withWord "off_by_one" 0.3 .perturbing isField addOne,
    fixed "swap_subtraction" 0.3 .perturbing (isBinary (· == .sub)) swapOperands,
    fixed "negate_bool" 0.3 .perturbing isBool negate]

/-- The weights of the rules that keep the value are of use. -/
theorem preserving_usable :
    ((preserving (ρ := ρ)).all fun rule => usableWeight rule.weight) = true :=
  Eq.trans
    (rfl : _ = [1.0, 1.0, 0.8, 1.0, 0.8, 1.0, 0.6, 0.6, 0.5, 0.8, 0.5, 0.8, 0.5, 0.5, 0.4].all
      usableWeight)
    (by decide +kernel)

/-- The weights of the rules that change the value are of use. -/
theorem perturbing_usable :
    ((perturbing (ρ := ρ)).all fun rule => usableWeight rule.weight) = true :=
  Eq.trans (rfl : _ = [0.3, 0.3, 0.3].all usableWeight) (by decide +kernel)

end Metamorph.Catalogue

namespace Metamorph.RuleSet

variable {ρ : Type} [RandomSource ρ]

/-- The rules that keep the value of a tree. -/
def standard : RuleSet ρ :=
  ⟨Catalogue.preserving, Catalogue.preserving_usable⟩

/-- All rules of the catalogue. -/
def withPerturbing : RuleSet ρ :=
  ⟨Catalogue.preserving ++ Catalogue.perturbing, by
    rw [List.all_append, Catalogue.preserving_usable, Catalogue.perturbing_usable]; rfl⟩

end Metamorph.RuleSet
