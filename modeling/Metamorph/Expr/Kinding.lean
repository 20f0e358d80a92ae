import Metamorph.Error
import Metamorph.Expr.Basic

/-! # Checking kinds

A tree is well kinded when every operator stands over operands of the kind that its
signature asks for, and every node declares the kind that the signature gives. -/

namespace Metamorph.Expr

/-- Demand the kind of an operand. -/
def expectOperand (op : Operator) (place : Place) (wanted found : Kind) : Except Error Unit :=
  if found = wanted then .ok () else .error (.illKinded (.operand op place found wanted))

/-- Demand the kind that a node declares. -/
def expectNode (op : Operator) (declared wanted : Kind) : Except Error Kind :=
  if declared = wanted then .ok declared else .error (.illKinded (.node op declared wanted))

/-- The kind of a tree, if it is well kinded. -/
def checkKinds : Expr → Except Error Kind
  | .const kind value =>
    if kind = .bool && 1 < value then .error (.illKinded (.constant value)) else .ok kind
  | .var kind _ => .ok kind
  | .unary kind op operand => do
    let found ← operand.checkKinds
    expectOperand (.unary op) .operand op.operandKind found
    expectNode (.unary op) kind op.resultKind
  | .binary kind op lhs rhs => do
    let left ← lhs.checkKinds
    expectOperand (.binary op) .lhs op.operandKind left
    let right ← rhs.checkKinds
    expectOperand (.binary op) .rhs op.operandKind right
    expectNode (.binary op) kind op.resultKind
  | .cast kind operand => do
    let found ← operand.checkKinds
    expectOperand .cast .operand .bool found
    expectNode .cast kind .field

end Metamorph.Expr
