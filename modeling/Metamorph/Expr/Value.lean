import Metamorph.Error
import Metamorph.Expr.Basic

/-! # The value of an expression

Words of 32 bits with the arithmetic of the machine that runs the guests: it wraps, a
quotient by zero is all ones, a remainder by zero is the dividend, and a shift uses the low
five bits of its amount. A truth value is 0 or 1, and any other word counts as 1. -/

namespace Metamorph

/-- The values of the variables. -/
abbrev Env := String → Option UInt32

/-- The word of a truth value. -/
def ofBool (b : Bool) : UInt32 :=
  if b then 1 else 0

/-- The result of a unary operator. -/
def UnaryOp.apply : UnaryOp → UInt32 → UInt32
  | .neg, a => -a
  | .not, a => ofBool (a == 0)

/-- The result of a binary operator. -/
def BinaryOp.apply : BinaryOp → UInt32 → UInt32 → UInt32
  | .add, a, b => a + b
  | .sub, a, b => a - b
  | .mul, a, b => a * b
  | .div, a, b => if b = 0 then 0xFFFFFFFF else a / b
  | .rem, a, b => if b = 0 then a else a % b
  | .bitAnd, a, b => a &&& b
  | .bitOr, a, b => a ||| b
  | .bitXor, a, b => a ^^^ b
  | .shl, a, b => a <<< (b % 32)
  | .shr, a, b => a >>> (b % 32)
  | .and, a, b => ofBool (a != 0 && b != 0)
  | .or, a, b => ofBool (a != 0 || b != 0)
  | .xor, a, b => ofBool ((a != 0) != (b != 0))
  | .eq, a, b => ofBool (a == b)
  | .ne, a, b => ofBool (a != b)
  | .lt, a, b => ofBool (a < b)
  | .le, a, b => ofBool (a ≤ b)
  | .gt, a, b => ofBool (b < a)
  | .ge, a, b => ofBool (b ≤ a)

/-- The value of an expression; the left operand comes first. -/
def Expr.evaluate (env : Env) : Expr → Except Error UInt32
  | .const _ value => .ok value
  | .var _ name =>
    match env name with
    | some value => .ok value
    | none => .error (.unboundVariable name)
  | .unary _ op operand => do
    let a ← operand.evaluate env
    return op.apply a
  | .binary _ op lhs rhs => do
    let a ← lhs.evaluate env
    let b ← rhs.evaluate env
    return op.apply a b
  | .cast _ operand => do
    let a ← operand.evaluate env
    return ofBool (a != 0)

end Metamorph
